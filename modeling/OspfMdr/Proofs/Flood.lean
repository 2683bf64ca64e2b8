import OspfMdr.Lib.Recency
import OspfMdr.Lib.Run
import OspfMdr.Model.Flood

namespace OspfMdr.Ospf6
open Lib List Option

/-- The order of instances by their numbers and checksums. -/
def lsaRank (lsa : Lsa) : Int ×ₗ Nat := toLex (lsa.header.seqnum, lsa.header.checksum.toNat)

/-- Neither the header's age nor the time since has reached MaxAge. -/
structure Young (now : Int) (lsa : Lsa) : Prop where
  age : lsa.header.age < maxAge
  born : lsa.birth ≤ now
  young : now - lsa.birth < maxAge

variable {own : UInt32} {minLsaArrival now stop : Int} {a b : Lsa} {dbs dbs' : FloodDbs} {r : LsaReception}
  {rs : List LsaReception} {d : LsdbId} {k : Nat}

lemma Young.age_eq (h : Young now a) : ospf6LsaAgeCurrent now a = (now - a.birth).toNat := by
  have hborn := h.born
  have hyoung := h.young
  have hmod : (now - a.birth) % 2 ^ 32 = now - a.birth := by
    refine Int.emod_eq_of_lt (by omega) ?_
    rw [maxAge] at hyoung
    omega
  have hle : ¬(now - a.birth).toNat > maxAge := by omega
  rw [ospf6LsaAgeCurrent, if_neg (not_le.mpr h.age)]
  simp only [hmod, if_neg hle]

/-- What decides between instances with the same sequence number and checksum. -/
def ageCompare (agea ageb : Nat) : Int :=
  if agea = maxAge ∧ ageb ≠ maxAge then -1
  else if agea ≠ maxAge ∧ ageb = maxAge then 1
  else if agea > ageb ∧ agea - ageb ≥ maxAgeDiff then 1
  else if agea < ageb ∧ ageb - agea ≥ maxAgeDiff then -1
  else 0

lemma compare_eq (now : Int) (a b : Lsa) : ospf6LsaCompare now a b =
    if lsaRank b < lsaRank a then -1 else if lsaRank a < lsaRank b then 1
    else ageCompare (ospf6LsaAgeCurrent now a) (ospf6LsaAgeCurrent now b) := by
  unfold ospf6LsaCompare ageCompare
  simp only [lsaRank, Prod.Lex.toLex_lt_toLex, UInt16.lt_iff_toNat_lt, gt_iff_lt]
  split_ifs <;> first | rfl | omega

lemma compare_neg_iff (ha : Young now a) (hb : Young now b) :
    ospf6LsaCompare now a b < 0 ↔ MoreRecent lsaRank Lsa.birth maxAgeDiff a b := by
  have haborn := ha.born
  have hayoung := ha.young
  have hbyoung := hb.young
  rw [compare_eq, ha.age_eq, hb.age_eq, MoreRecent]
  rcases lt_trichotomy (lsaRank b) (lsaRank a) with hlt | heq | hlt
  · simp [hlt]
  · simp only [heq, lt_irrefl, if_false, ageCompare, false_or, true_and]
    rw [maxAgeDiff]
    split_ifs <;> omega
  · simp [hlt, hlt.not_gt, hlt.ne]

section order
variable {S : Set Lsa}

/-- Neither instance is so much older that its age decides. -/
lemma compare_le_iff (ha : ¬isMaxage now a) (hb : ¬isMaxage now b)
    (hclose : ospf6LsaAgeCurrent now a ≤ ospf6LsaAgeCurrent now b + maxAgeDiff) :
    ospf6LsaCompare now a b ≤ 0 ↔ lsaRank b < lsaRank a ∨ lsaRank b = lsaRank a ∧
      ospf6LsaAgeCurrent now a ≠ ospf6LsaAgeCurrent now b + maxAgeDiff := by
  have ha' : ospf6LsaAgeCurrent now a ≠ maxAge := ha
  have hb' : ospf6LsaAgeCurrent now b ≠ maxAge := hb
  have hpos : 0 < maxAgeDiff := by decide
  rw [compare_eq, ageCompare]
  rcases lt_trichotomy (lsaRank b) (lsaRank a) with hlt | heq | hlt
  · simp [hlt]
  · simp only [heq, lt_irrefl, if_false, true_and, false_or]
    split_ifs <;> omega
  · simp [hlt, hlt.not_gt, hlt.ne']

/-- The comparison is total on the instances, and transitive. -/
structure ComparePreorder (now : Int) (S : Set Lsa) : Prop where
  total : ∀ a ∈ S, ∀ b ∈ S, ospf6LsaCompare now a b ≤ 0 ∨ ospf6LsaCompare now b a ≤ 0
  trans : ∀ a ∈ S, ∀ b ∈ S, ∀ c ∈ S, ospf6LsaCompare now a b ≤ 0 → ospf6LsaCompare now b c ≤ 0 →
    ospf6LsaCompare now a c ≤ 0

/-- No instance is between two of its sequence number and checksum whose ages are `MAX_AGE_DIFF` apart. -/
def NoneBetween (now : Int) (S : Set Lsa) : Prop :=
  ∀ a ∈ S, ∀ b ∈ S, ∀ c ∈ S, lsaRank a = lsaRank b → lsaRank b = lsaRank c →
    ospf6LsaAgeCurrent now a = ospf6LsaAgeCurrent now c + maxAgeDiff →
    ospf6LsaAgeCurrent now b = ospf6LsaAgeCurrent now a ∨ ospf6LsaAgeCurrent now b = ospf6LsaAgeCurrent now c

lemma compare_neg (now : Int) (a b : Lsa) : ospf6LsaCompare now b a = -ospf6LsaCompare now a b := by
  rw [compare_eq, compare_eq]
  rcases lt_trichotomy (lsaRank b) (lsaRank a) with hlt | heq | hlt
  · simp [hlt, hlt.not_gt]
  · simp only [heq, lt_irrefl, if_false, ageCompare]
    split_ifs <;> omega
  · simp [hlt, hlt.not_gt]

/-- Swapping the arguments negates the result. Among instances whose ages are within `MAX_AGE_DIFF` of each other
the comparison is a total preorder exactly if none is between two that are that far apart. -/
theorem ospf6LsaCompare_order (now : Int) :
    (∀ a b, ospf6LsaCompare now b a = -ospf6LsaCompare now a b) ∧
    ∀ S : Set Lsa, (∀ a ∈ S, ¬isMaxage now a) → (∀ a ∈ S, ∀ b ∈ S,
      ospf6LsaAgeCurrent now a ≤ ospf6LsaAgeCurrent now b + maxAgeDiff) →
    (ComparePreorder now S ↔ NoneBetween now S) := by
  refine ⟨compare_neg now, fun S hS hclose => ?_⟩
  have hle : ∀ a ∈ S, ∀ b ∈ S, _ := fun a ha b hb => compare_le_iff (hS a ha) (hS b hb) (hclose a ha b hb)
  have hpos : 0 < maxAgeDiff := by decide
  constructor
  · intro h a ha b hb c hc hab hbc hage
    by_contra hbetween
    have hclose' := hclose a ha b hb
    have hac := h.trans a ha b hb c hc ((hle a ha b hb).mpr (.inr ⟨hab.symm, by omega⟩))
      ((hle b hb c hc).mpr (.inr ⟨hbc.symm, by omega⟩))
    rcases (hle a ha c hc).mp hac with hlt | ⟨-, hne⟩
    · exact hlt.ne (hab.trans hbc).symm
    · exact hne hage
  · intro h
    constructor
    · intro a ha b hb
      have hneg := compare_neg now a b
      omega
    · intro a ha b hb c hc hab hbc
      rw [hle a ha b hb] at hab
      rw [hle b hb c hc] at hbc
      rw [hle a ha c hc]
      rcases hab with hab | ⟨hab, hne⟩
      · rcases hbc with hbc | ⟨hbc, -⟩
        · exact .inl (hbc.trans hab)
        · exact .inl (hbc ▸ hab)
      · rcases hbc with hbc | ⟨hbc, hne'⟩
        · exact .inl (hab ▸ hbc)
        · refine .inr ⟨hbc.trans hab, fun hage => ?_⟩
          have hmid := h a ha b hb c hc hab.symm hbc.symm hage
          omega

def bornAt (birth : Int) : Lsa := ⟨⟨0, 0x2001, 0, 1, 1, 0, 20⟩, birth, 0⟩

theorem ospf6LsaCompare_order_pair : ComparePreorder 900 {bornAt 0, bornAt 900} := by
  refine ((ospf6LsaCompare_order 900).2 {bornAt 0, bornAt 900} ?_ ?_).mpr ?_
  · rintro a (rfl | rfl) <;> decide
  · rintro a (rfl | rfl) b (rfl | rfl) <;> decide
  · rintro a (rfl | rfl) b (rfl | rfl) c (rfl | rfl) <;> decide

/-- Three ages within `MAX_AGE_DIFF`. -/
theorem ospf6LsaCompare_not_trans :
    (∀ a ∈ [bornAt 0, bornAt 450, bornAt 900], ¬isMaxage 900 a ∧
      ∀ b ∈ [bornAt 0, bornAt 450, bornAt 900], ospf6LsaAgeCurrent 900 a ≤ ospf6LsaAgeCurrent 900 b + maxAgeDiff) ∧
    ¬ComparePreorder 900 {a | a ∈ [bornAt 0, bornAt 450, bornAt 900]} := by
  refine ⟨by decide, fun h => ?_⟩
  have hle := h.trans (bornAt 0) (by decide) (bornAt 450) (by decide) (bornAt 900) (by decide)
  exact absurd (hle (by decide) (by decide)) (by decide)

end order

/-- A received instance that is valid, foreign and does not become MaxAge before the end. -/
@[mk_iff]
structure ReceptionOk (own : UInt32) (stop : Int) (r : LsaReception) : Prop where
  checksum : r.cksum1 = r.header.checksum
  scope : r.lsdb.isSome
  stub : ¬(r.sender.areaStub ∧ ospf6LsaScope r.header.type = .as)
  foreign : r.header.advRouter ≠ own
  age : r.header.age < maxAge
  young : tvSec stop - r.lsa.birth < maxAge
  changed : r.sender.lastChanged ≤ r.now
  before : r.now ≤ stop

/-- The copy does not reach MaxAge before `stop`. -/
structure CopyOk (stop now : Int) (x : InstalledLsa) : Prop where
  age : x.lsa.header.age < maxAge
  born : x.lsa.birth ≤ tvSec now
  young : tvSec stop - x.lsa.birth < maxAge
  installed : x.installed ≤ now

variable {t : Int} {x : InstalledLsa}

lemma tvSec_mono {s : Int} (h : s ≤ t) : tvSec s ≤ tvSec t := Int.ediv_le_ediv (by decide) h

lemma birth_le (ht : r.now ≤ t) : r.lsa.birth ≤ tvSec t := by
  have hmono := tvSec_mono ht
  change tvSec r.now - (r.header.age : Int) ≤ tvSec t
  omega

lemma ReceptionOk.youngAt (h : ReceptionOk own stop r) (ht : r.now ≤ t) (hstop : t ≤ stop) :
    Young (tvSec t) r.lsa := by
  have hmono := tvSec_mono hstop
  have hyoung := h.young
  exact ⟨h.age, birth_le ht, by omega⟩

lemma ReceptionOk.copyOk (h : ReceptionOk own stop r) : CopyOk stop r.now ⟨r.lsa, r.now⟩ :=
  ⟨h.age, birth_le le_rfl, h.young, le_rfl⟩

lemma CopyOk.later (h : CopyOk stop now x) (ht : now ≤ t) : CopyOk stop t x :=
  ⟨h.age, h.born.trans (tvSec_mono ht), h.young, h.installed.trans ht⟩

lemma CopyOk.youngAt (h : CopyOk stop now x) (hstop : now ≤ stop) : Young (tvSec now) x.lsa := by
  have hmono := tvSec_mono hstop
  have hyoung := h.young
  exact ⟨h.age, h.born, by omega⟩

section step

variable (hr : ReceptionOk own stop r) (hdbs : ∀ d, ∀ x ∈ dbs d, CopyOk stop r.now x)
include hr hdbs

lemma minLsArrivalOk_of_le {minLsaArrival : Int} (hx : x ∈ dbs d)
    (harrival : minLsaArrival ≤ tvSec (r.now - x.installed)) : minLsArrivalOk minLsaArrival r x = some true := by
  have hchanged : 0 ≤ tvSec (r.now - r.sender.lastChanged) :=
    Int.ediv_nonneg (by have := hr.changed; omega) (by decide)
  have hinstalled : 0 ≤ tvSec (r.now - x.installed) :=
    Int.ediv_nonneg (by have := (hdbs d x hx).installed; omega) (by decide)
  unfold minLsArrivalOk
  dsimp only
  split_ifs with h1 h2 h3 h4
  · rfl
  · omega
  · rfl
  · omega
  · simp [not_lt.mpr harrival]

end step

open InstalledLsa

/-- The database copy of an LSA. -/
def copyOf (dbs : FloodDbs) (d : LsdbId) (k : Nat) : Option InstalledLsa := keyLookup key k (dbs d)

/-- A more recent instance takes the place of the copy. -/
def copyAfter (old : Option InstalledLsa) (r : LsaReception) : InstalledLsa :=
  match old with
  | none => ⟨r.lsa, r.now⟩
  | some x => if ospf6LsaCompare (tvSec r.now) r.lsa x.lsa < 0 then ⟨r.lsa, r.now⟩ else x

/-- The copies after an instance arrived, if every more recent one is accepted. -/
def accept (copies : LsdbId → Nat → Option InstalledLsa) (r : LsaReception) : LsdbId → Nat → Option InstalledLsa :=
  fun d k => if r.lsdb = some d ∧ k = r.lsa.key then some (copyAfter (copies d k) r) else copies d k

/-- An instance to be accepted comes MinLSArrival or more after the one that was accepted before it. -/
def InTime (minLsaArrival : Int) (copies : LsdbId → Nat → Option InstalledLsa) (r : LsaReception) : Prop :=
  ∀ d ∈ r.lsdb, ∀ x ∈ copies d r.lsa.key, ospf6LsaCompare (tvSec r.now) r.lsa x.lsa < 0 →
    minLsaArrival ≤ tvSec (r.now - x.installed)
  deriving Decidable

lemma copyOf_install (d' : LsdbId) :
    copyOf (ospf6InstallLsa dbs d r) d' k =
      if d' = d ∧ k = r.lsa.key then some ⟨r.lsa, r.now⟩ else copyOf dbs d' k := by
  unfold copyOf ospf6InstallLsa
  by_cases hd : d' = d
  · by_cases hk : k = r.lsa.key
    · rw [if_pos hd, if_pos ⟨hd, hk⟩, hk]
      exact @keyLookup_insert_self _ _ _ key ⟨r.lsa, r.now⟩ _
    · rw [if_pos hd, if_neg (fun h => hk h.2)]
      exact @keyLookup_insert_of_ne _ _ _ key ⟨r.lsa, r.now⟩ _ _ hk
  · rw [if_neg hd, if_neg (fun h => hd h.1)]

/-- The reception changes one copy only. -/
structure Received (dbs dbs' : FloodDbs) (d : LsdbId) (r : LsaReception) : Prop where
  copy : copyOf dbs' d r.lsa.key = some (copyAfter (copyOf dbs d r.lsa.key) r)
  other : ∀ d' k, ¬(d' = d ∧ k = r.lsa.key) → copyOf dbs' d' k = copyOf dbs d' k
  mem : ∀ d', ∀ x ∈ dbs' d', x = ⟨r.lsa, r.now⟩ ∨ x ∈ dbs d'

lemma received_install (h : copyAfter (copyOf dbs d r.lsa.key) r = ⟨r.lsa, r.now⟩) :
    Received dbs (ospf6InstallLsa dbs d r) d r := by
  refine ⟨?_, fun d' k hne => ?_, fun d' x hx => ?_⟩
  · rw [copyOf_install, if_pos ⟨rfl, rfl⟩, h]
  · rw [copyOf_install, if_neg hne]
  · unfold ospf6InstallLsa at hx
    split_ifs at hx
    · exact mem_of_mem_keyInsert hx
    · exact .inr hx

lemma received_same (h : copyOf dbs d r.lsa.key = some (copyAfter (copyOf dbs d r.lsa.key) r)) :
    Received dbs dbs d r := ⟨h, fun _ _ _ => rfl, fun _ _ hx => .inr hx⟩

lemma ospf6ReceiveLsa_spec (hr : ReceptionOk own stop r) (hdbs : ∀ d, ∀ x ∈ dbs d, CopyOk stop r.now x)
    (hd : r.lsdb = some d) (htime : InTime minLsaArrival (copyOf dbs) r) :
    ∃ dbs' outcome, ospf6ReceiveLsa own minLsaArrival dbs r = some (dbs', outcome) ∧ Received dbs dbs' d r := by
  have hyoung := hr.youngAt le_rfl hr.before
  have hmaxage : ospf6IsMaxageLsaDrop r (keyLookup key r.lsa.key (dbs d)) = false := by
    have hage : ¬isMaxage (tvSec r.now) r.lsa := by
      have hborn := hyoung.born
      have hlt := hyoung.young
      rw [isMaxage, hyoung.age_eq]
      omega
    simp [ospf6IsMaxageLsaDrop, hage]
  have hinto : ospf6ReceiveLsa own minLsaArrival dbs r = receiveInto own minLsaArrival dbs d r := by
    rw [ospf6ReceiveLsa, if_neg (not_not.mpr hr.checksum), if_neg hr.stub, hd]
    simp [hmaxage]
  rw [hinto, receiveInto]
  cases hold : keyLookup key r.lsa.key (dbs d) with
  | none => exact ⟨_, _, rfl, received_install (by rw [copyOf, hold]; rfl)⟩
  | some x =>
    have hafter : copyAfter (copyOf dbs d r.lsa.key) r =
        if ospf6LsaCompare (tvSec r.now) r.lsa x.lsa < 0 then ⟨r.lsa, r.now⟩ else x := by
      rw [copyOf, hold]
      rfl
    dsimp only
    by_cases hrecent : ospf6LsaCompare (tvSec r.now) r.lsa x.lsa < 0
    · rw [if_pos hrecent] at hafter ⊢
      rw [minLsArrivalOk_of_le hr hdbs (keyLookup_some hold).1 (htime d hd x hold hrecent)]
      exact ⟨_, _, rfl, received_install hafter⟩
    rw [if_neg hrecent] at hafter ⊢
    have hsame : Received dbs dbs d r := received_same (by rw [hafter, copyOf, hold])
    split_ifs
    all_goals exact ⟨_, _, rfl, hsame⟩

lemma Received.accept_eq (h : Received dbs dbs' d r) (hd : r.lsdb = some d) :
    copyOf dbs' = accept (copyOf dbs) r := by
  funext d' k
  unfold accept
  split_ifs with hdk
  · obtain rfl : d = d' := some.inj (hd.symm.trans hdk.1)
    rw [hdk.2]
    exact h.copy
  · exact h.other d' k fun hdk' => hdk ⟨hdk'.1 ▸ hd, hdk'.2⟩

/-- The copy is the latest of the instances. -/
def CopyLatest (dbs : FloodDbs) (d : LsdbId) (k : Nat) (instances : List Lsa) : Prop :=
  match copyOf dbs d k with
  | none => instances = []
  | some x => Latest lsaRank Lsa.birth maxAgeDiff instances x.lsa

/-- The instances of an LSA that were received for a database. -/
def instancesOf (d : LsdbId) (k : Nat) (rs : List LsaReception) : List Lsa :=
  (rs.filter fun r => r.lsdb = some d ∧ r.lsa.key = k).map LsaReception.lsa

lemma copyLatest_step (hr : ReceptionOk own stop r) (hdbs : ∀ d, ∀ x ∈ dbs d, CopyOk stop r.now x)
    (hd : r.lsdb = some d) (hrec : Received dbs dbs' d r) (d' : LsdbId) (k : Nat) {instances : List Lsa}
    (h : CopyLatest dbs d' k instances) : CopyLatest dbs' d' k (instances ++ instancesOf d' k [r]) := by
  by_cases hdk : d' = d ∧ k = r.lsa.key
  · obtain ⟨rfl, rfl⟩ := hdk
    have hinst : instancesOf d' r.lsa.key [r] = [r.lsa] := by simp [instancesOf, hd]
    rw [hinst]
    unfold CopyLatest at h ⊢
    rw [hrec.copy]
    cases hold : copyOf dbs d' r.lsa.key with
    | none =>
      rw [hold] at h
      obtain rfl : instances = [] := h
      exact latest_singleton (by decide)
    | some x =>
      rw [hold] at h
      have hx := (hdbs d' x (keyLookup_some hold).1).youngAt hr.before
      have hiff := compare_neg_iff (hr.youngAt le_rfl hr.before) hx
      change Latest _ _ _ _ (if _ then _ else _ : InstalledLsa).lsa
      split_ifs with hrecent
      · exact Latest.take (by decide) h (hiff.mp hrecent)
      · exact Latest.refuse h fun hmore => hrecent (hiff.mpr hmore)
  · have hinst : instancesOf d' k [r] = [] := by
      rw [instancesOf, map_eq_nil_iff, filter_singleton]
      have hnot : ¬(r.lsdb = some d' ∧ r.lsa.key = k) := fun hcond =>
        hdk ⟨some.inj (hcond.1.symm.trans hd), hcond.2.symm⟩
      rw [decide_eq_false hnot]
      rfl
    rw [hinst, append_nil]
    unfold CopyLatest at h ⊢
    rw [hrec.other d' k hdk]
    exact h

lemma receiveRun_latest (hrs : ∀ r ∈ rs, ReceptionOk own stop r)
    (htimes : rs.Pairwise fun r r' => r.now ≤ r'.now)
    (hdbs : ∀ r ∈ rs, ∀ d, ∀ x ∈ dbs d, CopyOk stop r.now x)
    (harrivals : StepsOk accept (InTime minLsaArrival) (copyOf dbs) rs) (instances : LsdbId → Nat → List Lsa)
    (h : ∀ d k, CopyLatest dbs d k (instances d k)) : ∃ dbs', receiveRun own minLsaArrival dbs rs =
    some dbs' ∧ ∀ d k, CopyLatest dbs' d k (instances d k ++ instancesOf d k rs) := by
  induction rs generalizing dbs instances with
  | nil =>
    refine ⟨dbs, rfl, fun d k => ?_⟩
    rw [show instancesOf d k [] = [] from rfl, append_nil]
    exact h d k
  | cons r rs ih =>
    have hr := hrs r mem_cons_self
    obtain ⟨d, hd⟩ := isSome_iff_exists.mp hr.scope
    obtain ⟨dbs1, outcome, hrecv, hrec⟩ := ospf6ReceiveLsa_spec hr (hdbs r mem_cons_self) hd harrivals.1
    have hrest : StepsOk accept (InTime minLsaArrival) (copyOf dbs1) rs := hrec.accept_eq hd ▸ harrivals.2
    have hcopies : ∀ r' ∈ rs, ∀ d, ∀ x ∈ dbs1 d, CopyOk stop r'.now x := by
      intro r' hr' d x hx
      rcases hrec.mem d x hx with rfl | hx
      · exact hr.copyOk.later ((pairwise_cons.mp htimes).1 r' hr')
      · exact hdbs r' (mem_cons_of_mem _ hr') d x hx
    obtain ⟨dbs', hrun, hlatest⟩ := ih (fun r' hr' => hrs r' (mem_cons_of_mem _ hr'))
      (pairwise_cons.mp htimes).2 hcopies hrest (fun d k => instances d k ++ instancesOf d k [r])
      fun d' k => copyLatest_step hr (hdbs r mem_cons_self) hd hrec d' k (h d' k)
    refine ⟨dbs', ?_, fun d k => ?_⟩
    · rw [receiveRun, foldlM_cons, hrecv]
      exact hrun
    · have hsplit : instancesOf d k (r :: rs) = instancesOf d k [r] ++ instancesOf d k rs := by
        rw [instancesOf, instancesOf, instancesOf, ← map_append, ← filter_append]
        rfl
      rw [hsplit, ← append_assoc]
      exact hlatest d k

/-- Instances of LSAs that are received one after the other, and end up in `dbs` or not. -/
structure ReceiptsOk (own : UInt32) (minLsaArrival : Int) (dbs : FloodDbs) (rs : List LsaReception)
    (stop : Int) : Prop where
  valid : ∀ r ∈ rs, ReceptionOk own stop r
  times : rs.Pairwise fun r r' => r.now ≤ r'.now
  copies : ∀ r ∈ rs, ∀ d, ∀ x ∈ dbs d, CopyOk stop r.now x
  arrivals : StepsOk accept (InTime minLsaArrival) (copyOf dbs) rs

def LsaReception.version (r : LsaReception) : Option LsdbId × Nat × Int × UInt16 :=
  (r.lsdb, r.lsa.key, r.header.seqnum, r.header.checksum)

def InstalledLsa.version (x : InstalledLsa) : Int × UInt16 := (x.lsa.header.seqnum, x.lsa.header.checksum)

/-- The copy at the start and the instances received since. -/
def allInstances (dbs : FloodDbs) (rs : List LsaReception) (d : LsdbId) (k : Nat) : List Lsa :=
  (copyOf dbs d k).toList.map lsa ++ instancesOf d k rs

lemma copyLatest_start (dbs : FloodDbs) (d : LsdbId) (k : Nat) :
    CopyLatest dbs d k ((copyOf dbs d k).toList.map lsa) := by
  unfold CopyLatest
  cases copyOf dbs d k with
  | none => rfl
  | some x => exact latest_singleton (by decide)

lemma ReceiptsOk.run (h : ReceiptsOk own minLsaArrival dbs rs stop) :
    ∃ dbs', receiveRun own minLsaArrival dbs rs = some dbs' ∧
      ∀ d k, CopyLatest dbs' d k (allInstances dbs rs d k) :=
  receiveRun_latest h.valid h.times h.copies h.arrivals _ (copyLatest_start dbs)

lemma mem_instancesOf {lsa : Lsa} :
    lsa ∈ instancesOf d k rs ↔ ∃ r ∈ rs, r.lsdb = some d ∧ r.lsa.key = k ∧ r.lsa = lsa := by
  simp [instancesOf, and_assoc]

lemma ReceiptsOk.youngAt (h : ReceiptsOk own minLsaArrival dbs rs stop) (hr : r ∈ rs) {lsa : Lsa}
    (hlsa : lsa ∈ allInstances dbs rs d k) : Young (tvSec stop) lsa := by
  rcases mem_append.mp hlsa with hlsa | hlsa
  · obtain ⟨x, hx, rfl⟩ := mem_map.mp hlsa
    have hmem := (keyLookup_some (mem_toList.mp hx)).1
    exact ((h.copies r hr d x hmem).later (h.valid r hr).before).youngAt le_rfl
  · obtain ⟨r', hr', -, -, rfl⟩ := mem_instancesOf.mp hlsa
    exact (h.valid r' hr').youngAt (h.valid r' hr').before le_rfl

lemma rank_mem_of_perm {rs' : List LsaReception}
    (hperm : (rs.map LsaReception.version).Perm (rs'.map LsaReception.version)) {ρ : Int ×ₗ Nat}
    (hmem : ρ ∈ (allInstances dbs rs d k).map lsaRank) :
    ρ ∈ (allInstances dbs rs' d k).map lsaRank := by
  obtain ⟨lsa, hlsa, rfl⟩ := mem_map.mp hmem
  rcases mem_append.mp hlsa with hlsa | hlsa
  · exact mem_map_of_mem (mem_append_left _ hlsa)
  obtain ⟨r, hr, hd, hk, rfl⟩ := mem_instancesOf.mp hlsa
  obtain ⟨r', hr', hversion⟩ := mem_map.mp (hperm.mem_iff.mp (mem_map_of_mem hr))
  simp only [LsaReception.version, Prod.mk.injEq] at hversion
  obtain ⟨hd', hk', hseq, hck⟩ := hversion
  have hrank : lsaRank r'.lsa = lsaRank r.lsa := by
    change toLex (r'.header.seqnum, r'.header.checksum.toNat) = toLex (r.header.seqnum, r.header.checksum.toNat)
    rw [hseq, hck]
  rw [← hrank]
  exact mem_map_of_mem (mem_append_right _
    (mem_instancesOf.mpr ⟨r', hr', hd'.trans hd, hk'.trans hk, rfl⟩))

lemma version_eq_of_rank {y : InstalledLsa} (h : lsaRank x.lsa = lsaRank y.lsa) :
    x.version = y.version := by
  rw [lsaRank, lsaRank, EmbeddingLike.apply_eq_iff_eq, Prod.mk.injEq, UInt16.toNat_inj] at h
  rw [version, version, h.1, h.2]

/-- In the end no received instance of an LSA is more recent than its copy, and every order of receipt gives the
same sequence numbers and checksums. -/
theorem receiveRun_order_independent {rs' : List LsaReception} {stop' : Int}
    (h : ReceiptsOk own minLsaArrival dbs rs stop) (h' : ReceiptsOk own minLsaArrival dbs rs' stop')
    (hperm : (rs.map LsaReception.version).Perm (rs'.map LsaReception.version)) :
    ∃ t t', receiveRun own minLsaArrival dbs rs = some t ∧ receiveRun own minLsaArrival dbs rs' = some t' ∧
      (∀ r ∈ rs, ∃ d x, r.lsdb = some d ∧ copyOf t d r.lsa.key = some x ∧
        ¬ospf6LsaCompare (tvSec stop) r.lsa x.lsa < 0) ∧
      ∀ d k, (copyOf t d k).map version = (copyOf t' d k).map version := by
  obtain ⟨t, hrun, hlatest⟩ := h.run
  obtain ⟨t', hrun', hlatest'⟩ := h'.run
  refine ⟨t, t', hrun, hrun', fun r hr => ?_, fun d k => ?_⟩
  · obtain ⟨d, hd⟩ := isSome_iff_exists.mp (h.valid r hr).scope
    have hmem : r.lsa ∈ allInstances dbs rs d r.lsa.key :=
      mem_append_right _ (mem_instancesOf.mpr ⟨r, hr, hd, rfl, rfl⟩)
    have hcopy := hlatest d r.lsa.key
    unfold CopyLatest at hcopy
    cases hx : copyOf t d r.lsa.key with
    | none =>
      rw [hx] at hcopy
      rw [show allInstances dbs rs d r.lsa.key = [] from hcopy] at hmem
      cases hmem
    | some x =>
      rw [hx] at hcopy
      refine ⟨d, x, hd, hx, fun hneg => ?_⟩
      have hyoung := h.youngAt hr hmem
      have hyoung' := h.youngAt hr hcopy.mem
      exact hcopy.newest r.lsa hmem ((compare_neg_iff hyoung hyoung').mp hneg)
  · have hcopy := hlatest d k
    have hcopy' := hlatest' d k
    have hranks : ∀ ρ, ρ ∈ (allInstances dbs rs d k).map lsaRank ↔ ρ ∈ (allInstances dbs rs' d k).map lsaRank :=
      fun ρ => ⟨rank_mem_of_perm hperm, rank_mem_of_perm hperm.symm⟩
    unfold CopyLatest at hcopy hcopy'
    cases hx : copyOf t d k with
    | none =>
      cases hy : copyOf t' d k with
      | none => rfl
      | some y =>
        rw [hx] at hcopy
        rw [hy] at hcopy'
        have hmem := (hranks _).mpr (mem_map_of_mem hcopy'.mem)
        rw [show allInstances dbs rs d k = [] from hcopy] at hmem
        cases hmem
    | some x =>
      cases hy : copyOf t' d k with
      | none =>
        rw [hx] at hcopy
        rw [hy] at hcopy'
        have hmem := (hranks _).mp (mem_map_of_mem hcopy.mem)
        rw [show allInstances dbs rs' d k = [] from hcopy'] at hmem
        cases hmem
      | some y =>
        rw [hx] at hcopy
        rw [hy] at hcopy'
        exact congrArg some (version_eq_of_rank (hcopy.rank_eq hcopy' hranks))

instance : Decidable (ReceptionOk own stop r) :=
  decidable_of_iff _ (receptionOk_iff own stop r).symm

def routerLsaReception (seqnum : Int) (checksum : UInt16) (age : Nat) (now : Int) : LsaReception :=
  ⟨⟨2, .full, 0, [], 1, 0, false⟩, ⟨age, 0x2001, 0, 2, seqnum, checksum, 24⟩, checksum, false, now * 1000000⟩

/-- Three instances of one LSA in two orders. The copies have different ages, but both have the sequence number 6. -/
theorem receiveRun_order_independent_ages : ∃ t t', receiveRun 1 1 (fun _ => [])
    [routerLsaReception 6 7 1200 100, routerLsaReception 5 7 600 102, routerLsaReception 6 7 800 104] = some t ∧
    receiveRun 1 1 (fun _ => [])
    [routerLsaReception 5 7 600 100, routerLsaReception 6 7 800 102, routerLsaReception 6 7 1200 104] = some t' ∧
    (copyOf t (.area 0) (routerLsaReception 5 7 0 0).lsa.key).map version = some (6, 7) ∧
    (copyOf t' (.area 0) (routerLsaReception 5 7 0 0).lsa.key).map version = some (6, 7) := by
  have h : ReceiptsOk 1 1 (fun _ => [])
      [routerLsaReception 6 7 1200 100, routerLsaReception 5 7 600 102, routerLsaReception 6 7 800 104] 104000000 :=
    ⟨by decide, by decide, fun _ _ _ _ hx => absurd hx not_mem_nil, by decide⟩
  have h' : ReceiptsOk 1 1 (fun _ => [])
      [routerLsaReception 5 7 600 100, routerLsaReception 6 7 800 102, routerLsaReception 6 7 1200 104] 104000000 :=
    ⟨by decide, by decide, fun _ _ _ _ hx => absurd hx not_mem_nil, by decide⟩
  obtain ⟨t, t', hrun, hrun', -, hsame⟩ := receiveRun_order_independent h h' (by decide)
  have hversion := hsame (.area 0) (routerLsaReception 5 7 0 0).lsa.key
  have hend : ∀ t ∈ receiveRun 1 1 (fun _ => [])
      [routerLsaReception 6 7 1200 100, routerLsaReception 5 7 600 102, routerLsaReception 6 7 800 104],
      (copyOf t (.area 0) (routerLsaReception 5 7 0 0).lsa.key).map version = some (6, 7) := by
    decide
  exact ⟨t, t', hrun, hrun', hend t hrun, hversion ▸ hend t hrun⟩

section instances

/-- The instance is more recent than every instance with the sequence number of `old`, and replaces such a
database copy when it is received. -/
structure Supersedes (lsa old : Lsa) : Prop where
  compare : ∀ now prev, prev.header.seqnum = old.header.seqnum → ospf6LsaCompare now lsa prev = -1
  replaces : ∀ own minLsaArrival dbs d r prev, r.header.seqnum = lsa.header.seqnum →
    keyLookup key r.lsa.key (dbs d) = some prev →
    prev.lsa.header.seqnum = old.header.seqnum → minLsArrivalOk minLsaArrival r prev = some true →
    receiveInto own minLsaArrival dbs d r =
      some (ospf6InstallLsa dbs d r, .installed (r.header.advRouter = own))

lemma compare_of_seqnum_lt {now : Int} {a b : Lsa} (h : b.header.seqnum < a.header.seqnum) :
    ospf6LsaCompare now a b = -1 := by
  unfold ospf6LsaCompare
  rw [if_pos h]

lemma Supersedes.of_seqnum_lt {lsa old : Lsa} (h : old.header.seqnum < lsa.header.seqnum) :
    Supersedes lsa old where
  compare now prev hprev := by
    apply compare_of_seqnum_lt
    rwa [hprev]
  replaces own minLsaArrival dbs d r prev hr hlookup hprev harrival := by
    have hcmp : ospf6LsaCompare (tvSec r.now) r.lsa prev.lsa = -1 := by
      apply compare_of_seqnum_lt
      rw [hprev]
      exact hr ▸ h
    unfold receiveInto
    rw [hlookup]
    simp [hcmp, harrival]

/-- A 32-bit sequence number goes up unless it is the largest one. -/
lemma lt_bmod_succ_iff {s : Int} (hmin : -2 ^ 31 ≤ s) (hmax : s < 2 ^ 31) :
    s < (s + 1).bmod (2 ^ 32) ↔ s ≠ 2 ^ 31 - 1 := by
  rw [Int.bmod_def]
  split_ifs <;> omega

variable {key : Nat} {lsdb : List Lsa} {old : Lsa}

lemma supersedes_newInstance_iff (hold : ospf6LsdbLookup key lsdb = some old)
    (hmin : -2 ^ 31 ≤ old.header.seqnum) (hmax : old.header.seqnum < 2 ^ 31) (now : Int)
    (cksum : LsaHeader → UInt16) {header : LsaHeader} (hkey : header.key = key) :
    Supersedes (newInstance now cksum header lsdb) old ↔ old.header.seqnum ≠ 2 ^ 31 - 1 := by
  have hseq : (newInstance now cksum header lsdb).header.seqnum =
      (old.header.seqnum + 1).bmod (2 ^ 32) := by
    simp only [newInstance, ospf6LsaCreate, ospf6NewLsSeqnum, hkey, hold]
  rw [← lt_bmod_succ_iff hmin hmax, ← hseq]
  constructor
  · intro h
    by_contra hlt
    have hcmp := h.compare 0 old rfl
    unfold ospf6LsaCompare at hcmp
    have hne : (newInstance now cksum header lsdb).header.seqnum ≠ old.header.seqnum := by
      rw [hseq, Int.bmod_def]
      split_ifs <;> omega
    omega
  · exact Supersedes.of_seqnum_lt

/-- What is originated or refreshed supersedes the database copy exactly if that does not have the largest
sequence number. -/
theorem newInstance_supersedes_iff (hold : ospf6LsdbLookup key lsdb = some old)
    (hmin : -2 ^ 31 ≤ old.header.seqnum) (hmax : old.header.seqnum < 2 ^ 31) :
    ((∀ now cksum header, header.key = key → Supersedes (newInstance now cksum header lsdb) old) ∧
      ∀ now cksum lsdbSelf lsa, ospf6LsaRefresh now cksum old lsdbSelf lsdb = some lsa → Supersedes lsa old) ↔
      old.header.seqnum ≠ 2 ^ 31 - 1 := by
  have hkey : old.key = key := (keyLookup_some hold).2
  constructor
  · intro h
    exact (supersedes_newInstance_iff hold hmin hmax 0 (fun _ => 0) hkey).mp (h.1 _ _ old.header hkey)
  · intro hne
    refine ⟨fun now cksum header hh => ?_, fun now cksum lsdbSelf lsa h => ?_⟩
    · exact (supersedes_newInstance_iff hold hmin hmax now cksum hh).mpr hne
    · obtain ⟨self, hself, rfl⟩ := Option.map_eq_some_iff.mp h
      apply (supersedes_newInstance_iff hold hmin hmax now cksum _).mpr hne
      exact (keyLookup_some hself).2.trans hkey

def routerLsaCopy (seqnum : Int) : Lsa := ⟨⟨0, 0x2001, 0, 1, seqnum, 0, 24⟩, 0, 0⟩

theorem newInstance_supersedes_refreshed :
    let old := routerLsaCopy (-1)
    ∃ lsa, ospf6LsaRefresh 7 (fun _ => 0) old [old] [old] = some lsa ∧ Supersedes lsa old := by
  have hold : ospf6LsdbLookup (routerLsaCopy (-1)).key [routerLsaCopy (-1)] = some (routerLsaCopy (-1)) := by
    decide
  intro old
  obtain ⟨lsa, h⟩ := Option.isSome_iff_exists.mp
    (by decide : (ospf6LsaRefresh 7 (fun _ => 0) old [old] [old]).isSome)
  exact ⟨lsa, h, ((newInstance_supersedes_iff hold (by decide) (by decide)).mpr (by decide)).2 _ _ _ _ h⟩

/-- The instance after the one with the largest sequence number is older than it. -/
theorem newInstance_after_largest :
    let old := routerLsaCopy (2 ^ 31 - 1)
    let lsa := newInstance 0 (fun _ => 0) old.header [old]
    lsa.header.seqnum = -2 ^ 31 ∧ ospf6LsaCompare 0 lsa old = 1 := by
  decide

end instances

end OspfMdr.Ospf6
