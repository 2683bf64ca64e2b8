import OspfMdr.Proofs.PathOrder

/-!
# The best path and the order of the paths

With deterministic MED the paths are first compared within groups of one leftmost AS, and then the winners
of the groups. The order of the paths has no influence if one path wins against all others, or if the
groups do not overlap and one of their winners wins against the others.
-/

namespace OspfMdr.Bgp
open Lib List Function DmedFlags

variable {bgp : BgpOptions} {f : DmedFlags} {ri1 x y : BgpInfo} {L P Q : List BgpInfo}

/-- The comparison prefers the first path. -/
def beats (bgp : BgpOptions) (x y : BgpInfo) : Bool := (bgpInfoCmp bgp x y).1

open BgpInfo

/-- The paths are distinct, and none is held down. -/
structure Usable (L : List BgpInfo) : Prop where
  nodup : (L.map addr).Nodup
  usable : ∀ x ∈ L, x.holddown = false

lemma Usable.tail (h : Usable (x :: L)) : Usable L :=
  ⟨(nodup_cons.mp h.nodup).2, fun y hy => h.usable y (mem_cons_of_mem _ hy)⟩

lemma Usable.eq_of_addr (h : Usable L) (hx : x ∈ L) (hy : y ∈ L) (he : x.addr = y.addr) : x = y :=
  inj_on_of_nodup_map h.nodup hx hy he

lemma Usable.addr_ne (h : Usable (x :: L)) (hy : y ∈ L) : y.addr ≠ x.addr :=
  fun he => (nodup_cons.mp h.nodup).1 (he ▸ mem_map_of_mem hy)

lemma DmedFlags.setSelected_of_unset (h : f.selected x.addr = false) : f.setSelected x false = f := by
  unfold setSelected
  rw [← h, update_eq_self]

/-- The unmarked paths that the loop compares with `ri1`. -/
def groupOf (f : DmedFlags) (ri1 : BgpInfo) (L : List BgpInfo) : List BgpInfo :=
  L.filter fun x => !f.check x.addr && sameLeft ri1 x

lemma dmedInner_fold (h : Usable L) (hsel : f.selected x.addr = false)
    (hclear : ∀ y ∈ L, f.check y.addr = false → f.selected y.addr = false) :
    L.foldl (dmedInner bgp ri1) (f, x) =
      ({ f with check := fun a => f.check a || ((groupOf f ri1 L).map addr).contains a },
        champion (beats bgp) x (groupOf f ri1 L)) := by
  induction L generalizing f x with
  | nil => simp [groupOf, champion]
  | cons y L ih =>
    have hL := ih h.tail hsel fun z hz => hclear z (mem_cons_of_mem _ hz)
    have hy : y.holddown = false := h.usable y mem_cons_self
    rw [foldl_cons]
    by_cases hcheck : f.check y.addr
    · have hstep : dmedInner bgp ri1 (f, x) y = (f, x) := by simp [dmedInner, hcheck]
      have hgroup : groupOf f ri1 (y :: L) = groupOf f ri1 L := by simp [groupOf, hcheck]
      rw [hstep, hgroup, hL]
    rw [Bool.not_eq_true] at hcheck
    by_cases hsame : sameLeft ri1 y
    · -- `new_select` is not marked as selected yet, so that the mark is not taken from it
      have hunset : f.setSelected x false = f := setSelected_of_unset hsel
      have hstep : dmedInner bgp ri1 (f, x) y =
          (f.setCheck y true, if beats bgp y x then y else x) := by
        by_cases hb : (bgpInfoCmp bgp y x).1
        · simp [dmedInner, hcheck, hy, hsame, hunset, beats, hb]
        · simp [dmedInner, hcheck, hy, hsame, beats, hb]
      have hsame' : ∀ z ∈ L, (f.setCheck y true).check z.addr = f.check z.addr :=
        fun z hz => update_of_ne (h.addr_ne hz) _ _
      have hgroup : groupOf (f.setCheck y true) ri1 L = groupOf f ri1 L :=
        filter_congr fun z hz => by rw [hsame' z hz]
      have hgroup' : groupOf f ri1 (y :: L) = y :: groupOf f ri1 L := by simp [groupOf, hcheck, hsame]
      rw [hstep, ih h.tail ?_ ?_, hgroup, hgroup']
      · refine Prod.ext (congrArg (mk · f.selected) (funext fun a => ?_)) rfl
        by_cases ha : a = y.addr
        all_goals simp [setCheck, ha]
      · split_ifs
        · exact hclear y mem_cons_self hcheck
        · exact hsel
      · intro z hz hz'
        rw [hsame' z hz] at hz'
        exact hclear z (mem_cons_of_mem _ hz) hz'
    · rw [Bool.not_eq_true] at hsame
      have hstep : dmedInner bgp ri1 (f, x) y = (f, x) := by simp [dmedInner, hcheck, hy, hsame]
      have hgroup : groupOf f ri1 (y :: L) = groupOf f ri1 L := by simp [groupOf, hsame]
      rw [hstep, hgroup, hL]

def unmarked (f : DmedFlags) (L : List BgpInfo) : List BgpInfo := L.filter fun x => !f.check x.addr

lemma dmedOuter_selected {n : Nat} (hn : L.length ≤ n) (h : Usable L)
    (hclear : ∀ y ∈ L, f.check y.addr = false → f.selected y.addr = false) (a : Nat) :
    (dmedOuter bgp L f).selected a ↔ f.selected a ∨ a ∈
    (classWinners (beats bgp) sameLeft n (unmarked f L)).map addr := by
  induction L generalizing f n with
  | nil => cases n <;> simp [dmedOuter, unmarked, classWinners]
  | cons x L ih =>
    have hclear' : ∀ y ∈ L, f.check y.addr = false → f.selected y.addr = false :=
      fun y hy => hclear y (mem_cons_of_mem _ hy)
    have hx : x.holddown = false := h.usable x mem_cons_self
    by_cases hcheck : f.check x.addr
    · have hmarked : unmarked f (x :: L) = unmarked f L := by simp [unmarked, hcheck]
      rw [dmedOuter, if_pos hcheck, hmarked]
      exact ih (Nat.le_of_succ_le hn) h.tail hclear'
    rw [Bool.not_eq_true] at hcheck
    obtain ⟨n, rfl⟩ : ∃ k, n = k + 1 := ⟨n - 1, by rw [length_cons] at hn; omega⟩
    have hmarked : unmarked f (x :: L) = x :: unmarked f L := by simp [unmarked, hcheck]
    have hgroup : groupOf f x L = (unmarked f L).filter (sameLeft x) := by
      rw [groupOf, unmarked, filter_filter]
      exact filter_congr fun z _ => Bool.and_comm _ _
    have hfold : L.foldl (dmedInner bgp x) (f, x) = _ :=
      dmedInner_fold h.tail (hclear x mem_cons_self hcheck) hclear'
    have hw : champion (beats bgp) x (groupOf f x L) ∈ x :: groupOf f x L := champion_mem
    rw [dmedOuter, hcheck, hx, hfold, hmarked, classWinners, ← hgroup]
    set w := champion (beats bgp) x (groupOf f x L)
    set f2 := (setCheck { f with check := fun a => f.check a || ((groupOf f x L).map addr).contains a }
      w true).setSelected w true with hf2
    have hmem : ∀ z ∈ L, (z.addr ∈ (groupOf f x L).map addr ↔ f.check z.addr = false ∧ sameLeft x z) := by
      intro z hz
      have hz' : z ∈ groupOf f x L ↔ f.check z.addr = false ∧ sameLeft x z := by simp [groupOf, hz]
      rw [← hz', mem_map]
      refine ⟨?_, fun hg => ⟨z, hg, rfl⟩⟩
      rintro ⟨g, hg, he⟩
      rwa [← h.tail.eq_of_addr (mem_of_mem_filter hg) hz he]
    have hcheck2 : ∀ z ∈ L, f2.check z.addr = (f.check z.addr || sameLeft x z) := by
      intro z hz
      change update (fun a => f.check a || ((groupOf f x L).map addr).contains a) w.addr true z.addr = _
      by_cases hzw : z.addr = w.addr
      · have hzg : z.addr ∈ (groupOf f x L).map addr := by
          rcases mem_cons.mp hw with hwx | hwg
          · exact absurd (hzw.trans (congrArg addr hwx)) (h.addr_ne hz)
          · exact hzw ▸ mem_map_of_mem hwg
        rw [hzw, update_self, ← hzw, ((hmem z hz).mp hzg).2, Bool.or_true]
      rw [update_of_ne hzw]
      have hcontains := (contains_iff_mem).trans (hmem z hz)
      cases hc : f.check z.addr with
      | true => simp
      | false =>
        rw [hc] at hcontains
        rw [Bool.false_or, Bool.false_or, Bool.eq_iff_iff, hcontains]
        simp
    have hrest : unmarked f2 L = (unmarked f L).filter fun z => !sameLeft x z := by
      rw [unmarked, unmarked, filter_filter]
      refine filter_congr fun z hz => ?_
      rw [hcheck2 z hz, Bool.not_or, Bool.and_comm]
    have hstep := ih (f := f2) (n := n) (by simpa using hn) h.tail ?_
    · rw [hrest] at hstep
      simp only [Bool.false_eq_true, if_false]
      rw [hstep, map_cons, mem_cons]
      have hsel2 : f2.selected a ↔ a = w.addr ∨ f.selected a := by
        change update f.selected w.addr true a = true ↔ _
        by_cases ha : a = w.addr
        · simp [ha]
        · simp [ha]
      tauto
    · intro z hz hz'
      have hzw : z.addr ≠ w.addr := by
        intro he
        have htrue : f2.check z.addr := by
          rw [he]
          exact update_self _ _ _
        rw [htrue] at hz'
        cases hz'
      rw [hcheck2 z hz] at hz'
      change update f.selected w.addr true z.addr = false
      rw [update_of_ne hzw]
      exact hclear' z hz (Bool.or_eq_false_iff.mp hz').1

/-- The match of a path with the best one so far. -/
def laterMatch (bgp : BgpOptions) (new : Option BgpInfo) (x : BgpInfo) : Option BgpInfo :=
  if bgpInfoCmp? bgp x new then some x else new

lemma foldl_laterMatch (W : List BgpInfo) : W.foldl (laterMatch bgp) none = bestOf (beats bgp) W := by
  unfold bestOf
  congr 1
  funext new x
  cases new with
  | none => rfl
  | some y =>
    unfold laterMatch bgpInfoCmp? beats
    simp only [Option.elim_some]

def clearFlags (f : DmedFlags) (x : BgpInfo) : DmedFlags := (f.setCheck x false).setSelected x false

lemma selectStep_new (hdmed : bgp.deterministicMed) (s : Selection) (hx : x.holddown = false) :
    (selectStep bgp s x).new = (if s.flags.selected x.addr then [x] else []).foldl (laterMatch bgp) s.new ∧
      (selectStep bgp s x).flags = clearFlags s.flags x := by
  set s1 := if x.selected then { s with old := some x } else s with hs1
  have hnew : s1.new = s.new := by rw [hs1]; split_ifs <;> rfl
  have hflags : s1.flags = s.flags := by rw [hs1]; split_ifs <;> rfl
  have hstep : selectStep bgp s x =
      if s.flags.selected x.addr then
        if bgpInfoCmp? bgp x s.new then { s1 with flags := clearFlags s.flags x, new := some x }
        else { s1 with flags := clearFlags s.flags x }
      else { s1 with flags := s.flags.setCheck x false } := by
    unfold selectStep clearFlags
    rw [← hs1, ← hnew, ← hflags]
    cases hsel : s1.flags.selected x.addr <;> simp [hx, hdmed, hsel]
  rw [hstep]
  cases hsel : s.flags.selected x.addr with
  | false =>
    refine ⟨hnew, ?_⟩
    -- the mark that is not cleared is not set
    exact (setSelected_of_unset (f := s.flags.setCheck x false) hsel).symm
  | true =>
    simp only [if_true, foldl_cons, foldl_nil, laterMatch]
    split_ifs
    · exact ⟨rfl, rfl⟩
    · exact ⟨hnew, rfl⟩

lemma select_fold (hdmed : bgp.deterministicMed) (h : Usable L) (s : Selection) :
    (L.foldl (selectStep bgp) s).new =
      (L.filter fun x => s.flags.selected x.addr).foldl (laterMatch bgp) s.new := by
  induction L generalizing s with
  | nil => rfl
  | cons x L ih =>
    obtain ⟨hnew, hflags⟩ := selectStep_new hdmed s (h.usable x mem_cons_self)
    have hfilter : L.filter (fun y => (selectStep bgp s x).flags.selected y.addr) =
        L.filter fun y => s.flags.selected y.addr :=
      filter_congr fun y hy => by rw [hflags]; exact update_of_ne (h.addr_ne hy) _ _
    rw [foldl_cons, ih h.tail, hfilter, hnew, ← foldl_append]
    cases hsel : s.flags.selected x.addr <;> simp [hsel]

/-- Paths learned from different peers. -/
structure LearnedPaths (P : List BgpInfo) : Prop where
  usable : Usable P
  learned : ∀ x ∈ P, Learned x
  peers : ∀ x ∈ P, ∀ y ∈ P, x ≠ y → x.peer.suRemote ≠ y.peer.suRemote

/-- The groups of paths with the same leftmost AS do not overlap. -/
def Grouped (P : List BgpInfo) : Prop :=
  ∀ x ∈ P, ∀ y ∈ P, ∀ z ∈ P, sameLeft x y → sameLeft y z → sameLeft x z

/-- What decides between paths whose MEDs are compared. -/
def BgpInfo.keyGroup (bgp : BgpOptions) (x : BgpInfo) :
    (ℕ ×ₗ ℕ ×ₗ ℕ ×ₗ ℕ) ×ₗ ℕ ×ₗ (ℕ ×ₗ ℕ ×ₗ ℕ ×ₗ ℕ ×ₗ ℕ ×ₗ ℕ) :=
  toLex (x.keyBefore bgp, toLex (x.keyMed bgp, x.keyAfter))

/-- The path is the best one of those with its leftmost AS. -/
def GroupBest (bgp : BgpOptions) (P : List BgpInfo) (x : BgpInfo) : Prop :=
  ∀ y ∈ P, sameLeft x y → x.keyGroup bgp ≤ y.keyGroup bgp
  deriving Decidable

/-- A path wins against all others, or the groups do not overlap and the best path of one wins against those
of the others. -/
def Settled (bgp : BgpOptions) (P : List BgpInfo) : Prop :=
  P ≠ [] → (∃ b ∈ P, ∀ x ∈ P, x ≠ b → beats bgp b x) ∨
    Grouped P ∧ ∃ b ∈ P, GroupBest bgp P b ∧ ∀ x ∈ P, GroupBest bgp P x → x ≠ b → beats bgp b x

lemma aspathCmpLeft_comm (p q : AsPath) : aspathCmpLeft p q = aspathCmpLeft q p := by
  unfold aspathCmpLeft
  rcases p.dropWhile AsSegment.isConfed with _ | ⟨a, l⟩ <;>
    rcases q.dropWhile AsSegment.isConfed with _ | ⟨b, l'⟩ <;> try rfl
  exact decide_eq_decide.mpr ⟨fun h => ⟨h.2.1, h.1, h.2.2.symm⟩, fun h => ⟨h.2.1, h.1, h.2.2.symm⟩⟩

lemma aspathCmpLeftConfed_comm (p q : AsPath) : aspathCmpLeftConfed p q = aspathCmpLeftConfed q p := by
  rcases p with _ | ⟨a, l⟩ <;> rcases q with _ | ⟨b, l'⟩ <;> try rfl
  exact decide_eq_decide.mpr ⟨fun h => ⟨h.2.1, h.1, h.2.2.symm⟩, fun h => ⟨h.2.1, h.1, h.2.2.symm⟩⟩

lemma sameLeft_comm (x y : BgpInfo) : sameLeft x y = sameLeft y x := by
  unfold sameLeft
  rw [aspathCmpLeft_comm, aspathCmpLeftConfed_comm]

lemma medCompared_of_sameLeft (h : sameLeft x y) : medCompared bgp x y := by
  have h' : aspathCmpLeft x.attr.aspath y.attr.aspath ∨
      aspathCmpLeftConfed x.attr.aspath y.attr.aspath := by simpa [sameLeft] using h
  simp only [medCompared, decide_eq_true_eq]
  tauto

lemma medCompared_comm (x y : BgpInfo) : medCompared bgp x y = medCompared bgp y x := by
  unfold medCompared
  rw [aspathCmpLeft_comm, aspathCmpLeftConfed_comm, decide_eq_decide]
  tauto

lemma keyAfter_inj (h : LearnedPaths P) (hx : x ∈ P) (hy : y ∈ P) (hkey : x.keyAfter = y.keyAfter) :
    x = y := by
  by_contra hne
  refine h.peers x hx y hy hne (SockUnion.key_inj ?_)
  simp only [keyAfter, toLex_inj, Prod.mk.injEq] at hkey
  exact hkey.2.2.2.2

lemma Grouped.classes (h : Grouped P) : Classes sameLeft P :=
  ⟨fun x _ y _ hxy => by rwa [sameLeft_comm], h⟩

section
variable (h : LearnedPaths P) (hid : bgp.compareRouterId)
include h hid

/-- Of two paths one wins. -/
lemma LearnedPaths.total (hx : x ∈ P) (hy : y ∈ P) (hne : x ≠ y) : beats bgp x y ↔ ¬beats bgp y x := by
  have hafter := fun he => hne (keyAfter_inj h hx hy he)
  rw [beats, beats, bgpInfoCmp_iff hid (h.learned x hx) (h.learned y hy) (h.peers x hx y hy hne),
    bgpInfoCmp_iff hid (h.learned y hy) (h.learned x hx) (h.peers y hy x hx hne.symm), medCompared_comm y x]
  rcases lt_trichotomy (x.keyBefore bgp) (y.keyBefore bgp) with hlt | heq | hlt
  · simp [hlt, hlt.ne', hlt.not_gt]
  · simp only [heq, lt_irrefl, false_or, true_and]
    have hcmp : x.keyAfter < y.keyAfter ↔ ¬y.keyAfter < x.keyAfter := by
      rw [not_lt]
      exact ⟨le_of_lt, fun hle => lt_of_le_of_ne hle hafter⟩
    cases medCompared bgp x y with
    | false => simpa using hcmp
    | true =>
      rcases lt_trichotomy (x.keyMed bgp) (y.keyMed bgp) with hmed | hmed | hmed
      · simp [hmed, hmed.not_gt, hmed.ne']
      · simpa [hmed] using hcmp
      · simp [hmed, hmed.not_gt, hmed.ne']
  · simp [hlt, hlt.ne', hlt.not_gt]

lemma LearnedPaths.dominates {b : BgpInfo} (hb : b ∈ P) {W : List BgpInfo} (hW : W ⊆ P) :
    Dominates (beats bgp) b W ↔ ∀ x ∈ W, x ≠ b → beats bgp b x := by
  refine ⟨fun hdom x hx hne => (hdom x hx hne).1, fun hall x hx hne => ⟨hall x hx hne, ?_⟩⟩
  exact (h.total hid hb (hW hx) hne.symm).mp (hall x hx hne)

lemma LearnedPaths.decided_group (hgroups : Grouped P) {a : BgpInfo} (ha : a ∈ P) :
    DecidedBy (beats bgp) (keyGroup bgp) fun x => x ∈ P ∧ (x = a ∨ sameLeft a x) := by
  refine ⟨fun x y hx hy hkey => ?_, fun x y hx hy hne => ?_⟩
  · simp only [keyGroup, toLex_inj, Prod.mk.injEq] at hkey
    exact keyAfter_inj h hx.1 hy.1 hkey.2.2
  · have hsame : sameLeft x y := by
      rcases hx with ⟨hxP, rfl | hax⟩
      · exact hy.2.resolve_left (Ne.symm hne)
      have hxa : sameLeft x a := by rwa [sameLeft_comm]
      rcases hy with ⟨hyP, rfl | hay⟩
      · exact hxa
      · exact hgroups x hxP a ha y hyP hxa hay
    rw [beats, bgpInfoCmp_iff hid (h.learned x hx.1) (h.learned y hy.1) (h.peers x hx.1 y hy.1 hne)]
    simp only [medCompared_of_sameLeft hsame, true_and, true_implies, keyGroup, Prod.Lex.toLex_lt_toLex]

end

/-- The paths that the first loop leaves to the second one. -/
def finalists (bgp : BgpOptions) (P : List BgpInfo) (f : DmedFlags) : List BgpInfo :=
  P.filter fun x => (dmedOuter bgp P f).selected x.addr

section
variable (h : LearnedPaths P) (hf : ∀ x ∈ P, f.check x.addr = false ∧ f.selected x.addr = false)
include h

lemma bestSelection_new (hdmed : bgp.deterministicMed) :
    (bgpBestSelection bgp P f).new = bestOf (beats bgp) (finalists bgp P f) := by
  unfold bgpBestSelection
  rw [hdmed, select_fold hdmed h.usable]
  exact foldl_laterMatch _

include hf

lemma mem_finalists (hx : x ∈ P) :
    x ∈ finalists bgp P f ↔ x ∈ classWinners (beats bgp) sameLeft P.length P := by
  have hunmarked : unmarked f P = P := filter_eq_self.mpr fun y hy => by simp [(hf y hy).1]
  rw [finalists, mem_filter, dmedOuter_selected (le_refl P.length) h.usable fun y hy _ => (hf y hy).2,
    hunmarked, mem_map, (hf x hx).2]
  constructor
  · rintro ⟨-, hsel | ⟨z, hz, he⟩⟩
    · cases hsel
    · rwa [← h.usable.eq_of_addr (classWinners_subset hz) hx he]
  · exact fun hw => ⟨hx, .inr ⟨x, hw, rfl⟩⟩

lemma finalists_of_grouped (hid : bgp.compareRouterId) (hgroups : Grouped P) :
    finalists bgp P f = P.filter (GroupBest bgp P) := by
  refine filter_congr fun x hx => ?_
  have hmem : x ∈ finalists bgp P f ↔ GroupBest bgp P x := by
    rw [mem_finalists h hf hx, mem_classWinners (le_refl P.length) h.usable.nodup.of_map hgroups.classes
      fun a ha => h.decided_group hid hgroups ha]
    exact and_iff_right hx
  rw [finalists, mem_filter, and_iff_right hx] at hmem
  rw [Bool.eq_iff_iff, hmem, decide_eq_true_iff]

end

/-- The same path is selected whatever the order in which the paths are stored. -/
def OrderFree (bgp : BgpOptions) (P : List BgpInfo) (f : DmedFlags) : Prop :=
  ∀ Q, P.Perm Q → (bgpBestSelection bgp Q f).new = (bgpBestSelection bgp P f).new

lemma LearnedPaths.perm (h : LearnedPaths P) (hperm : P.Perm Q) : LearnedPaths Q := by
  have hmem : ∀ x ∈ Q, x ∈ P := fun x hx => hperm.mem_iff.mpr hx
  exact ⟨⟨(hperm.map _).nodup_iff.mp h.usable.nodup, fun x hx => h.usable.usable x (hmem x hx)⟩,
    fun x hx => h.learned x (hmem x hx), fun x hx y hy => h.peers x (hmem x hx) y (hmem y hy)⟩

lemma groupBest_perm (hperm : P.Perm Q) (x : BgpInfo) : GroupBest bgp Q x ↔ GroupBest bgp P x := by
  simp only [GroupBest, hperm.mem_iff]

section
variable (hdmed : bgp.deterministicMed) (hid : bgp.compareRouterId) (hP : LearnedPaths P)
  (hf : ∀ x ∈ P, f.check x.addr = false ∧ f.selected x.addr = false)
include hdmed hid hP

/-- A finalist that wins against the others is selected. -/
lemma bestSelection_eq {b : BgpInfo} (hb : b ∈ finalists bgp P f)
    (hall : ∀ x ∈ finalists bgp P f, x ≠ b → beats bgp b x) :
    (bgpBestSelection bgp P f).new = some b := by
  have hsub : finalists bgp P f ⊆ P := filter_sublist.subset
  rw [bestSelection_new hP hdmed]
  exact ((hP.dominates hid (hsub hb) hsub).mpr hall).bestOf_eq hb

include hf

lemma Settled.selects (h : Settled bgp P) (hne : P ≠ []) :
    ∃ b, ∀ Q, P.Perm Q → (bgpBestSelection bgp Q f).new = some b := by
  rcases h hne with ⟨b, hb, hall⟩ | ⟨hgroups, b, hb, hbest, hall⟩
  · refine ⟨b, fun Q hperm => ?_⟩
    have hQ := hP.perm hperm
    have hfQ := fun x hx => hf x (hperm.mem_iff.mpr hx)
    have hbQ : b ∈ Q := hperm.mem_iff.mp hb
    have hallQ : ∀ x ∈ Q, x ≠ b → beats bgp b x := fun x hx => hall x (hperm.mem_iff.mpr hx)
    refine bestSelection_eq hdmed hid hQ ?_ fun x hx => hallQ x (mem_of_mem_filter hx)
    rw [mem_finalists hQ hfQ hbQ]
    exact mem_classWinners_of_dominates (le_refl _) hbQ ((hQ.dominates hid hbQ (Subset.refl Q)).mpr hallQ)
  · refine ⟨b, fun Q hperm => ?_⟩
    have hQ := hP.perm hperm
    have hfQ := fun x hx => hf x (hperm.mem_iff.mpr hx)
    have hgroupsQ : Grouped Q := by simpa only [Grouped, hperm.mem_iff] using hgroups
    have hfinal := finalists_of_grouped hQ hfQ hid hgroupsQ
    simp only [groupBest_perm hperm] at hfinal
    refine bestSelection_eq hdmed hid hQ ?_ ?_
    · rw [hfinal]
      exact mem_filter.mpr ⟨hperm.mem_iff.mp hb, decide_eq_true hbest⟩
    · rw [hfinal]
      intro x hx
      obtain ⟨hxQ, hxbest⟩ := mem_filter.mp hx
      exact hall x (hperm.mem_iff.mpr hxQ) (of_decide_eq_true hxbest)

/-- Every order of the best paths of the groups is one that an order of the paths gives. -/
lemma OrderFree.settled (h : OrderFree bgp P f) (hgroups : Grouped P) : Settled bgp P := by
  intro hne
  have hfinal := finalists_of_grouped hP hf hid hgroups
  obtain ⟨a, l, hal⟩ := exists_cons_of_ne_nil hne
  obtain ⟨b, hb⟩ : ∃ b, (bgpBestSelection bgp P f).new = some b := by
    have hfirst : finalists bgp P f ≠ [] := by
      have hw : champion (beats bgp) a (l.filter (sameLeft a)) ∈ classWinners (beats bgp) sameLeft P.length P := by
        rw [hal, length_cons, classWinners]
        exact mem_cons_self
      exact ne_nil_of_mem ((mem_finalists hP hf (classWinners_subset hw)).mpr hw)
    obtain ⟨y, W, hW⟩ := exists_cons_of_ne_nil hfirst
    exact ⟨_, by rw [bestSelection_new hP hdmed, hW, bestOf_cons]⟩
  have hperm : ∀ W, (finalists bgp P f).Perm W → bestOf (beats bgp) W = some b := by
    intro W hW
    have hQ : P.Perm (W ++ P.filter fun x => !decide (GroupBest bgp P x)) :=
      (filter_append_perm _ P).symm.trans ((hfinal ▸ hW).append_right _)
    have hQfinal := finalists_of_grouped (hP.perm hQ) (fun x hx => hf x (hQ.mem_iff.mpr hx)) hid
      (by simpa only [Grouped, hQ.mem_iff] using hgroups)
    have hbestW : ∀ x ∈ W, GroupBest bgp P x := fun x hx => by
      have hx := hfinal ▸ hW.mem_iff.mpr hx
      exact of_decide_eq_true (mem_filter.mp hx).2
    simp only [groupBest_perm hQ] at hQfinal
    rw [filter_append, filter_eq_self.mpr fun x hx => decide_eq_true (hbestW x hx), filter_filter] at hQfinal
    have hrest : (P.filter fun x => decide (GroupBest bgp P x) && !decide (GroupBest bgp P x)) = [] := by simp
    rw [hrest, append_nil] at hQfinal
    rw [← hb, ← h _ hQ, bestSelection_new (hP.perm hQ) hdmed, hQfinal]
  have hsub : finalists bgp P f ⊆ P := filter_sublist.subset
  obtain ⟨hbf, hdom⟩ := dominates_of_bestOf_perm (hP.usable.nodup.of_map.filter _)
    (fun x hx y hy => hP.total hid (hsub hx) (hsub hy)) hperm
  have hbest : ∀ x, x ∈ finalists bgp P f ↔ x ∈ P ∧ GroupBest bgp P x := fun x => by
    rw [hfinal, mem_filter, decide_eq_true_iff]
  refine .inr ⟨hgroups, b, hsub hbf, ((hbest b).mp hbf).2, fun x hx hxbest hxb => ?_⟩
  exact (hdom x ((hbest x).mpr ⟨hx, hxbest⟩) hxb).1

end

/-- Settled paths are selected from in the same way whatever their order, and if the leftmost ASes make
groups, only those. -/
theorem bgpBestSelection_perm (bgp : BgpOptions) (hdmed : bgp.deterministicMed)
    (hid : bgp.compareRouterId) (P : List BgpInfo) (hP : LearnedPaths P) (f : DmedFlags)
    (hf : ∀ x ∈ P, f.check x.addr = false ∧ f.selected x.addr = false) :
    (Settled bgp P → OrderFree bgp P f) ∧ (Grouped P → (OrderFree bgp P f ↔ Settled bgp P)) := by
  have hfree : Settled bgp P → OrderFree bgp P f := by
    intro hsettled Q hperm
    by_cases hne : P = []
    · rw [hne, nil_perm] at hperm
      rw [hne, hperm]
    obtain ⟨b, hb⟩ := hsettled.selects hdmed hid hP hf hne
    rw [hb Q hperm, hb P (.refl P)]
  exact ⟨hfree, fun hgroups => ⟨fun h => h.settled hdmed hid hP hf hgroups, hfree⟩⟩

def optionsWith (aspathIgnore : Bool) : BgpOptions :=
  { defaultLocalPref := 100, alwaysCompareMed := false, deterministicMed := true, medMissingAsWorst := false,
    medConfed := false, compareRouterId := true, aspathIgnore := aspathIgnore, aspathConfed := false }

def internalPath (addr : Nat) (aspath : AsPath) (med routerId : UInt32) : BgpInfo where
  addr := addr
  peer := ⟨.ibgp, 65000, routerId, .inet (UInt32.ofNat addr)⟩
  attr := ⟨aspath, 0, some med, none, none, none, none⟩
  igpmetric := none
  subType := .normal
  valid := true
  damped := false
  history := false
  removed := false
  selected := false

def noFlags : DmedFlags := ⟨fun _ => false, fun _ => false⟩

def sequenceOf (as : UInt32) : AsSegment := ⟨.sequence, as, []⟩

def groupedPaths : List BgpInfo :=
  [internalPath 1 [sequenceOf 100] 20 2, internalPath 2 [sequenceOf 100] 10 3, internalPath 3 [sequenceOf 200] 30 1]

theorem bgpBestSelection_perm_grouped :
    (bgpBestSelection (optionsWith false) groupedPaths.reverse noFlags).new =
    (bgpBestSelection (optionsWith false) groupedPaths noFlags).new := by
  refine (bgpBestSelection_perm (optionsWith false) rfl rfl groupedPaths
    ⟨⟨by decide, by decide⟩, fun x hx => ⟨?_, ?_⟩, by decide⟩ noFlags fun _ _ => ⟨rfl, rfl⟩).1
    (fun _ => .inr ⟨?_, ?_⟩) _ (reverse_perm _).symm
  · revert x
    decide
  · revert x
    decide
  · unfold Grouped
    decide
  · decide

def confederated : AsSegment := ⟨.confedSequence, 65001, []⟩

def overlappingPaths : List BgpInfo :=
  [internalPath 1 [confederated, sequenceOf 100] 20 2, internalPath 2 [confederated, sequenceOf 200] 10 3,
    internalPath 3 [sequenceOf 100] 30 1]

def mixedPaths : List BgpInfo :=
  [internalPath 1 [] 10 3, internalPath 2 [] 20 1, internalPath 3 [sequenceOf 100] 0 2]

/-- The result depends on the order where groups overlap, and where paths beat each other in a circle. -/
theorem bgpBestSelection_order :
    (LearnedPaths overlappingPaths ∧
      (bgpBestSelection (optionsWith false) overlappingPaths noFlags).new ≠
        (bgpBestSelection (optionsWith false) overlappingPaths.reverse noFlags).new) ∧
    (LearnedPaths mixedPaths ∧
      (bgpBestSelection (optionsWith true) mixedPaths noFlags).new ≠
        (bgpBestSelection (optionsWith true) mixedPaths.reverse noFlags).new) := by
  refine ⟨⟨⟨⟨by decide, by decide⟩, fun x hx => ⟨?_, ?_⟩, by decide⟩, by decide⟩,
    ⟨⟨⟨by decide, by decide⟩, fun x hx => ⟨?_, ?_⟩, by decide⟩, by decide⟩⟩ <;> revert x <;> decide

end OspfMdr.Bgp
