import OspfMdr.Lib.Run
import OspfMdr.Model.IsisLsdb

/-!
# The fragment lists of zero LSPs

A fragment that a sequence-number PDU or a purge puts into the database does not get into the list of its
zero LSP, and an aged-out fragment stays in it. Apart from such steps the lists are exact.
-/

namespace OspfMdr.Isis

open Lib List Option Lspdb

lemma lspId_eq {i j : Nat} (hnode : node i = node j) (hfragment : fragment i = fragment j) : i = j := by
  unfold node at hnode
  unfold fragment at hfragment
  omega

lemma fragment_fragId (i : LspId) (k : Nat) : fragment (fragId i k) = k % 256 := by
  unfold fragment fragId
  omega

lemma node_fragId (i : LspId) (k : Nat) : node (fragId i k) = node i := by
  unfold fragId
  unfold node
  omega

/-- The first LSP is a fragment of the node of the second, which is its LSP with number 0. -/
def FragmentOf (f z : Lsp) : Prop :=
  fragment z.lspId = 0 ∧ fragment f.lspId ≠ 0 ∧ node f.lspId = node z.lspId
  deriving Decidable

lemma fragmentOf_congr {f f' z z' : Lsp} (hf : f'.lspId = f.lspId) (hz : z'.lspId = z.lspId) :
    FragmentOf f' z' ↔ FragmentOf f z := by
  unfold FragmentOf
  rw [hf, hz]

variable {f : Lsp → Lsp} {n seqNum remLifetime q : Nat} {z : Lsp}

namespace Lspdb

/-- The list of each zero LSP has exactly its fragments, each once. -/
def Exact (db : Lspdb) : Prop :=
  ∀ z ∈ db.lsps, fragment z.lspId = 0 →
    (z.frags.getD []).Nodup ∧ (∀ p ∈ z.frags.getD [], ∃ f ∈ db.lsps, f.ptr = p ∧ FragmentOf f z) ∧
      ∀ f ∈ db.lsps, FragmentOf f z → f.ptr ∈ z.frags.getD []
  deriving Decidable

/-- What the allocator and the dictionary guarantee; `own` is the own system identifier. -/
structure Ok (own : Nat) (db : Lspdb) : Prop where
  sorted : KeySorted Lsp.lspId db.lsps
  inj : ∀ x ∈ db.lsps, ∀ y ∈ db.lsps, x.ptr = y.ptr → x = y
  ptr_lt : ∀ x ∈ db.lsps, x.ptr < db.next
  frag_lt : ∀ x ∈ db.lsps, ∀ p ∈ x.frags.getD [], p < db.next
  /-- Only a purge of an own LSP makes a zero LSP without a list. -/
  listed : ∀ x ∈ db.lsps, fragment x.lspId = 0 → sysId x.lspId ≠ own → x.frags.isSome

section
variable {db db' : Lspdb} {own : Nat} {id : LspId} {x y : Lsp} {p : Nat}

lemma lspSearch_some (h : db.lspSearch id = some x) : x ∈ db.lsps ∧ x.lspId = id := keyLookup_some h

lemma lspSearch_none (h : db.lspSearch id = none) : ∀ x ∈ db.lsps, x.lspId ≠ id := by
  intro x hx hid
  have := List.find?_eq_none.mp h x hx
  simp [hid] at this

lemma deref_some (h : db.deref p = some x) : x ∈ db.lsps ∧ x.ptr = p := keyLookup_some h

lemma deref_isSome (hx : x ∈ db.lsps) (hp : x.ptr = p) : (db.deref p).isSome := by
  rw [deref, List.find?_isSome]
  exact ⟨x, hx, by simpa using hp⟩

section
variable (h : db.Ok own) (hx : x ∈ db.lsps)
include h hx

lemma Ok.lspSearch_mem : db.lspSearch x.lspId = some x := h.sorted.lookup hx

lemma Ok.eq_of_lspId (hy : y ∈ db.lsps) (hid : x.lspId = y.lspId) : x = y := by
  have hsearch := h.lspSearch_mem hx
  rw [hid, h.lspSearch_mem hy] at hsearch
  exact (some.inj hsearch).symm

lemma Ok.deref_mem : db.deref x.ptr = some x := by
  obtain ⟨y, hy⟩ := isSome_iff_exists.mp (deref_isSome hx rfl)
  obtain ⟨hmem, hptr⟩ := deref_some hy
  rw [hy, h.inj y hmem x hx hptr]

end

/-! ## Changes in place -/

/-- The function changes neither the address nor the ID nor the fragments of an LSP. -/
structure Quiet (f : Lsp → Lsp) : Prop where
  ptr : ∀ x, (f x).ptr = x.ptr
  lspId : ∀ x, (f x).lspId = x.lspId
  frags : ∀ x, (f x).frags = x.frags

lemma Quiet.at (hf : Quiet f) (p : Nat) : Quiet fun x => if x.ptr = p then f x else x := by
  constructor <;> intro x <;> split_ifs
  · exact hf.ptr x
  · rfl
  · exact hf.lspId x
  · rfl
  · exact hf.frags x
  · rfl

lemma quiet_lspUpdateData (hdr : Header) : Quiet (lspUpdateData hdr) := ⟨fun _ => rfl, fun _ => rfl, fun _ => rfl⟩

lemma quiet_lspIncSeqnum (seqNum : Nat) : Quiet (lspIncSeqnum seqNum) := ⟨fun _ => rfl, fun _ => rfl, fun _ => rfl⟩

lemma quiet_lspSetTime : Quiet lspSetTime := by
  constructor <;> intro x <;> unfold lspSetTime <;> split_ifs <;> rfl

lemma Ok.map (hf : Quiet f) (h : db.Ok own) : (db.map f).Ok own where
  sorted := pairwise_map.mpr (h.sorted.imp fun hlt => by rwa [hf.lspId, hf.lspId])
  inj := by
    intro x' hx' y' hy' hptr
    obtain ⟨x, hx, rfl⟩ := mem_map.mp hx'
    obtain ⟨y, hy, rfl⟩ := mem_map.mp hy'
    rw [hf.ptr, hf.ptr] at hptr
    rw [h.inj x hx y hy hptr]
  ptr_lt := forall_mem_map.mpr fun x hx => by
    rw [hf.ptr]
    exact h.ptr_lt x hx
  frag_lt := forall_mem_map.mpr fun x hx => by
    rw [hf.frags]
    exact h.frag_lt x hx
  listed := forall_mem_map.mpr fun x hx => by
    rw [hf.lspId, hf.frags]
    exact h.listed x hx

lemma exact_map (hf : Quiet f) : (db.map f).Exact ↔ db.Exact := by
  have hof (x y : Lsp) := fragmentOf_congr (hf.lspId x) (hf.lspId y)
  unfold Exact map
  simp only [List.forall_mem_map]
  simp only [List.mem_map, exists_exists_and_eq_and, hf.ptr, hf.lspId, hf.frags, hof]

/-- The databases differ only in what no fragment list depends on. -/
def Reshaped (db db' : Lspdb) : Prop := ∃ f, Quiet f ∧ db' = db.map f

lemma Reshaped.refl (db : Lspdb) : Reshaped db db :=
  ⟨id, ⟨fun _ => rfl, fun _ => rfl, fun _ => rfl⟩, by simp [map]⟩

lemma Reshaped.trans {db'' : Lspdb} (h : Reshaped db db') (h' : Reshaped db' db'') :
    Reshaped db db'' := by
  obtain ⟨f, hf, rfl⟩ := h
  obtain ⟨g, hg, rfl⟩ := h'
  refine ⟨g ∘ f, ⟨fun x => ?_, fun x => ?_, fun x => ?_⟩, by simp [map]⟩
  · exact (hg.ptr _).trans (hf.ptr x)
  · exact (hg.lspId _).trans (hf.lspId x)
  · exact (hg.frags _).trans (hf.frags x)

lemma Reshaped.modify (hf : Quiet f) (db : Lspdb) (p : Nat) : Reshaped db (db.modify p f) :=
  ⟨_, hf.at p, rfl⟩

lemma Reshaped.ok (h : Reshaped db db') (hok : db.Ok own) : db'.Ok own := by
  obtain ⟨f, hf, rfl⟩ := h
  exact hok.map hf

lemma Reshaped.exact_iff (h : Reshaped db db') : db'.Exact ↔ db.Exact := by
  obtain ⟨f, hf, rfl⟩ := h
  exact exact_map hf

lemma Reshaped.deref (h : Reshaped db db') (hx : db.deref p = some x) :
    ∃ x', db'.deref p = some x' ∧ x'.lspId = x.lspId ∧ x'.frags = x.frags := by
  obtain ⟨f, hf, rfl⟩ := h
  refine ⟨f x, ?_, hf.lspId x, hf.frags x⟩
  unfold deref map
  rw [List.find?_map, show (fun lsp => decide (lsp.ptr = p)) ∘ f = fun lsp => decide (lsp.ptr = p) by
    funext y
    simp [hf.ptr]]
  exact congrArg (Option.map f) hx

/-! ## Insertion -/

def Apart (id : LspId) (db : Lspdb) : Prop :=
  ∀ y ∈ db.lsps, node y.lspId = node id → fragment id ≠ 0 ∧ fragment y.lspId ≠ 0

/-- A new LSP that is not in the database and has no fragments yet. -/
structure Fresh (own : Nat) (db : Lspdb) (x : Lsp) : Prop where
  absent : db.lspSearch x.lspId = none
  ptr : x.ptr = db.next
  frags : x.frags.getD [] = []
  listed : fragment x.lspId = 0 → sysId x.lspId ≠ own → x.frags.isSome

lemma fresh_new (habsent : db.lspSearch x.lspId = none) (hptr : x.ptr = db.next)
    (hnew : x.frags = if fragment x.lspId = 0 then some [] else none) : Fresh own db x := by
  refine ⟨habsent, hptr, ?_, fun hzero _ => ?_⟩
  · rw [hnew]
    split_ifs <;> rfl
  · rw [hnew, if_pos hzero]
    rfl

lemma Fresh.mem (hx : Fresh own db x) : y ∈ (db.lspInsert x).lsps ↔ y = x ∨ y ∈ db.lsps :=
  mem_keyInsert_iff (lspSearch_none hx.absent)

lemma Ok.extend {g : Lsp → Lsp} (h : db.Ok own) (hnext : db'.next = db.next + 1)
    (hsorted : KeySorted Lsp.lspId db'.lsps)
    (hmem : ∀ y ∈ db'.lsps, y = x ∨ ∃ y' ∈ db.lsps, y = g y') (hg : ∀ y, (g y).ptr = y.ptr)
    (hx : Fresh own db x) (hlt : ∀ y ∈ db.lsps, ∀ p ∈ (g y).frags.getD [], p < db.next + 1)
    (hlisted : ∀ y ∈ db.lsps, fragment (g y).lspId = 0 → sysId (g y).lspId ≠ own → (g y).frags.isSome) :
    db'.Ok own where
  sorted := hsorted
  inj := by
    intro y hy z hz heq
    obtain rfl | ⟨y', hy', rfl⟩ := hmem y hy
    · obtain rfl | ⟨z', hz', rfl⟩ := hmem z hz
      · rfl
      · have := h.ptr_lt z' hz'
        rw [hg, hx.ptr] at heq
        omega
    obtain rfl | ⟨z', hz', rfl⟩ := hmem z hz
    · have := h.ptr_lt y' hy'
      rw [hg, hx.ptr] at heq
      omega
    · rw [hg, hg] at heq
      rw [h.inj y' hy' z' hz' heq]
  ptr_lt := by
    intro y hy
    rw [hnext]
    obtain rfl | ⟨y', hy', rfl⟩ := hmem y hy
    · rw [hx.ptr]
      exact Nat.lt_succ_self _
    · have := h.ptr_lt y' hy'
      rw [hg]
      omega
  frag_lt := by
    intro y hy p hp
    rw [hnext]
    obtain rfl | ⟨y', hy', rfl⟩ := hmem y hy
    · rw [hx.frags] at hp
      exact absurd hp not_mem_nil
    · exact hlt y' hy' p hp
  listed := by
    intro y hy
    obtain rfl | ⟨y', hy', rfl⟩ := hmem y hy
    · exact hx.listed
    · exact hlisted y' hy'

section
variable (h : db.Ok own) (hx : Fresh own db x)
include h hx

lemma Ok.lspInsert : (db.lspInsert x).Ok own := by
  refine h.extend (g := id) rfl (h.sorted.insert x) (fun y hy => ?_) (fun _ => rfl) hx
    (fun y hy p hp => Nat.lt_succ_of_lt (h.frag_lt y hy p hp)) h.listed
  exact (hx.mem.mp hy).imp_right fun hy => ⟨y, hy, rfl⟩

lemma exact_lspInsert : (db.lspInsert x).Exact ↔ db.Exact ∧ Apart x.lspId db := by
  have hptr := hx.ptr
  constructor
  · intro hexact
    constructor
    · intro z hz hzero
      obtain ⟨hnodup, hlist, hall⟩ := hexact z (hx.mem.mpr (.inr hz)) hzero
      refine ⟨hnodup, fun p hp => ?_, fun f hf => hall f (hx.mem.mpr (.inr hf))⟩
      obtain ⟨f, hf, hfp, hof⟩ := hlist p hp
      obtain rfl | hf := hx.mem.mp hf
      · have := h.frag_lt z hz p hp
        omega
      · exact ⟨f, hf, hfp, hof⟩
    · intro y hy hnode
      by_cases hzero : fragment x.lspId = 0
      · have hy0 : fragment y.lspId ≠ 0 := fun hy0 =>
          lspSearch_none hx.absent y hy (lspId_eq hnode (hy0.trans hzero.symm))
        have hlist := (hexact x (hx.mem.mpr (.inl rfl)) hzero).2.2 y
          (hx.mem.mpr (.inr hy)) ⟨hzero, hy0, hnode⟩
        rw [hx.frags] at hlist
        exact absurd hlist not_mem_nil
      refine ⟨hzero, fun hy0 => ?_⟩
      have hlist := (hexact y (hx.mem.mpr (.inr hy)) hy0).2.2 x
        (hx.mem.mpr (.inl rfl)) ⟨hy0, hzero, hnode.symm⟩
      have := h.frag_lt y hy _ hlist
      omega
  · rintro ⟨hexact, hapart⟩ z hz hzero
    obtain rfl | hz' := hx.mem.mp hz
    · rw [hx.frags]
      refine ⟨nodup_nil, fun p hp => absurd hp not_mem_nil, fun f hf hof => ?_⟩
      obtain rfl | hf := hx.mem.mp hf
      · exact absurd hzero hof.2.1
      · exact absurd hzero (hapart f hf hof.2.2).1
    obtain ⟨hnodup, hlist, hall⟩ := hexact z hz' hzero
    refine ⟨hnodup, fun p hp => ?_, fun f hf hof => ?_⟩
    · obtain ⟨f, hf, hfp, hof⟩ := hlist p hp
      exact ⟨f, hx.mem.mpr (.inr hf), hfp, hof⟩
    · obtain rfl | hf := hx.mem.mp hf
      · exact absurd hzero (hapart z hz' hof.2.2.symm).2
      · exact hall f hf hof

end

/-- The LSP with number 0 gets a new list of fragments. -/
def listing (lsp0 : Lsp) (l : List Nat) (y : Lsp) : Lsp := if y.ptr = lsp0.ptr then { y with frags := some l } else y

lemma listing_ptr (lsp0 : Lsp) (l : List Nat) (y : Lsp) : (listing lsp0 l y).ptr = y.ptr := by
  unfold listing
  split_ifs <;> rfl

lemma listing_lspId (lsp0 : Lsp) (l : List Nat) (y : Lsp) : (listing lsp0 l y).lspId = y.lspId := by
  unfold listing
  split_ifs <;> rfl

/-- The fragment `x` of `lsp0` has been added, which now lists `l` and `x`. -/
structure Adds (db : Lspdb) (lsp0 x : Lsp) (l : List Nat) (db' : Lspdb) : Prop where
  next : db'.next = db.next + 1
  sorted : KeySorted Lsp.lspId db'.lsps
  mem : ∀ y, y ∈ db'.lsps ↔ y = { x with zeroLsp := some lsp0.ptr } ∨
    ∃ y' ∈ db.lsps, y = listing lsp0 (l ++ [x.ptr]) y'

variable {l : List Nat} {k : Nat} {harmless : Prop} {lsp0 : Lsp}

lemma addFrag_adds (h : db.Ok own) (hfrags : lsp0.frags = some l)
    (hnone : db.lspSearch x.lspId = none) :
    ∃ db', db.addFrag lsp0 x = some db' ∧ Adds db lsp0 x l db' := by
  have hmap : KeySorted Lsp.lspId (db.lsps.map (listing lsp0 (l ++ [x.ptr]))) :=
    pairwise_map.mpr (h.sorted.imp fun hlt => by rwa [listing_lspId, listing_lspId])
  unfold addFrag
  rw [hfrags]
  refine ⟨_, rfl, rfl, hmap.insert _, fun y => ?_⟩
  refine (mem_keyInsert_iff ?_).trans ?_
  · refine forall_mem_map.mpr fun y' hy' => ?_
    change (listing lsp0 (l ++ [x.ptr]) y').lspId ≠ x.lspId
    rw [listing_lspId]
    exact lspSearch_none hnone y' hy'
  · refine or_congr Iff.rfl (mem_map.trans ?_)
    exact ⟨fun ⟨y', hy', he⟩ => ⟨y', hy', he.symm⟩, fun ⟨y', hy', he⟩ => ⟨y', hy', he.symm⟩⟩

lemma mem_listing (h : db.Ok own) (hmem : lsp0 ∈ db.lsps) (hfrags : lsp0.frags = some l)
    (hy : y ∈ db.lsps) : p ∈ (listing lsp0 (l ++ [q]) y).frags.getD [] ↔
      p ∈ y.frags.getD [] ∨ y = lsp0 ∧ p = q := by
  unfold listing
  by_cases hself : y = lsp0
  · subst hself
    rw [if_pos rfl, hfrags]
    simp
  · rw [if_neg fun hptr => hself (h.inj y hy lsp0 hmem hptr)]
    simp [hself]

namespace Adds
variable {lsp0 : Lsp} {l : List Nat}

section
variable (hadds : Adds db lsp0 x l db')
include hadds

lemma ok (h : db.Ok own) (hmem : lsp0 ∈ db.lsps)
    (hfrags : lsp0.frags = some l) (hx : Fresh own db x) : db'.Ok own := by
  have hptr := hx.ptr
  have hlist (y : Lsp) (hy : y ∈ db.lsps) (p : Nat) (hp : p ∈ (listing lsp0 (l ++ [x.ptr]) y).frags.getD []) :
      p < db.next + 1 := by
    obtain hp | ⟨-, rfl⟩ := (mem_listing h hmem hfrags hy).mp hp
    · exact Nat.lt_succ_of_lt (h.frag_lt y hy p hp)
    · omega
  refine h.extend hadds.next hadds.sorted (fun y => (hadds.mem y).mp) (listing_ptr lsp0 _)
    ⟨hx.absent, hptr, hx.frags, hx.listed⟩ hlist fun y hy => ?_
  rw [listing_lspId]
  unfold listing
  split_ifs
  · exact fun _ _ => rfl
  · exact h.listed y hy

lemma exact (h : db.Ok own) (hexact : db.Exact) (hmem : lsp0 ∈ db.lsps)
    (hfrags : lsp0.frags = some l) (hptr : x.ptr = db.next) (hof : FragmentOf x lsp0) : db'.Exact := by
  have hnew : { x with zeroLsp := some lsp0.ptr } ∈ db'.lsps := (hadds.mem _).mpr (.inl rfl)
  have hold (y : Lsp) (hy : y ∈ db.lsps) : listing lsp0 (l ++ [x.ptr]) y ∈ db'.lsps :=
    (hadds.mem _).mpr (.inr ⟨y, hy, rfl⟩)
  intro z hz hzero
  obtain rfl | ⟨z', hz', rfl⟩ := (hadds.mem z).mp hz
  · exact absurd hzero hof.2.1
  rw [listing_lspId] at hzero
  obtain ⟨hnodup, hlist, hall⟩ := hexact z' hz' hzero
  have hid := listing_lspId lsp0 (l ++ [x.ptr])
  refine ⟨?_, fun p hp => ?_, fun f hf hfz => (mem_listing h hmem hfrags hz').mpr ?_⟩
  · unfold listing
    split_ifs with hself
    · obtain rfl := h.inj z' hz' lsp0 hmem hself
      rw [hfrags] at hnodup
      refine nodup_append.mpr ⟨hnodup, nodup_singleton _, fun p hp q hq => ?_⟩
      have := h.frag_lt z' hmem p (by rw [hfrags]; exact hp)
      have := mem_singleton.mp hq
      omega
    · exact hnodup
  · obtain hp | ⟨rfl, rfl⟩ := (mem_listing h hmem hfrags hz').mp hp
    · obtain ⟨f, hf, hfp, hfz⟩ := hlist p hp
      exact ⟨_, hold f hf, (listing_ptr _ _ f).trans hfp, (fragmentOf_congr (hid f) (hid z')).mpr hfz⟩
    · exact ⟨_, hnew, rfl, (fragmentOf_congr rfl (hid z')).mpr hof⟩
  · obtain rfl | ⟨f', hf', rfl⟩ := (hadds.mem f).mp hf
    · have hsame : lsp0.lspId = z'.lspId :=
        lspId_eq (hof.2.2.symm.trans (hid z' ▸ hfz.2.2)) (hof.1.trans hzero.symm)
      exact .inr ⟨h.eq_of_lspId hz' hmem hsame.symm, rfl⟩
    · rw [listing_ptr]
      exact .inl (hall f' hf' ((fragmentOf_congr (hid f') (hid z')).mp hfz))

lemma deref (hok : db'.Ok own) (hmem : lsp0 ∈ db.lsps) :
    db'.deref lsp0.ptr = some { lsp0 with frags := some (l ++ [x.ptr]) } := by
  have hmem' : listing lsp0 (l ++ [x.ptr]) lsp0 ∈ db'.lsps := (hadds.mem _).mpr (.inr ⟨lsp0, hmem, rfl⟩)
  have hderef := hok.deref_mem hmem'
  rw [listing_ptr] at hderef
  rw [hderef]
  unfold listing
  rw [if_pos rfl]

end

end Adds

/-! ## Removal -/

def restrict (db : Lspdb) (keep : Lsp → Bool) : Lspdb := { db with lsps := db.lsps.filter keep }

lemma Ok.restrict (h : db.Ok own) (keep : Lsp → Bool) : (db.restrict keep).Ok own where
  sorted := h.sorted.filter _
  inj := fun x hx y hy => h.inj x (mem_filter.mp hx).1 y (mem_filter.mp hy).1
  ptr_lt := fun x hx => h.ptr_lt x (mem_filter.mp hx).1
  frag_lt := fun x hx => h.frag_lt x (mem_filter.mp hx).1
  listed := fun x hx => h.listed x (mem_filter.mp hx).1

lemma exact_restrict (h : db.Ok own) (hexact : db.Exact) (keep : Lsp → Bool) :
    (db.restrict keep).Exact ↔ ∀ z ∈ db.lsps, ∀ f ∈ db.lsps, FragmentOf f z → keep z → keep f := by
  constructor
  · intro hrest z hz f hf hof hkeep
    obtain ⟨-, hlist, -⟩ := hrest z (mem_filter.mpr ⟨hz, hkeep⟩) hof.1
    obtain ⟨g, hg, hptr, -⟩ := hlist f.ptr ((hexact z hz hof.1).2.2 f hf hof)
    obtain ⟨hg, hgkeep⟩ := mem_filter.mp hg
    rwa [h.inj g hg f hf hptr] at hgkeep
  · intro hkeep z hz hzero
    obtain ⟨hz, hzkeep⟩ := mem_filter.mp hz
    obtain ⟨hnodup, hlist, hall⟩ := hexact z hz hzero
    refine ⟨hnodup, fun p hp => ?_, fun f hf => hall f (mem_filter.mp hf).1⟩
    obtain ⟨f, hf, hfp, hof⟩ := hlist p hp
    exact ⟨f, mem_filter.mpr ⟨hf, hkeep z hz f hf hof hzkeep⟩, hfp, hof⟩

lemma mem_remove : y ∈ (db.remove id).lsps ↔ y ∈ db.lsps ∧ y.lspId ≠ id := by
  unfold remove keyRemove
  rw [mem_filter, decide_eq_true_eq]

lemma Ok.remove (h : db.Ok own) (id : LspId) : (db.remove id).Ok own := h.restrict _

lemma destroyAt_eq (h : db.Ok own) (hx : x ∈ db.lsps) :
    db.destroyAt x.ptr = some (db.restrict fun y => y.ptr ≠ x.ptr) := by
  have hfilter : keyRemove Lsp.lspId x.lspId db.lsps = db.lsps.filter fun y => decide (y.ptr ≠ x.ptr) := by
    refine filter_congr fun y hy => ?_
    refine decide_eq_decide.mpr (not_congr ⟨fun hid => ?_, fun hptr => ?_⟩)
    · rw [h.eq_of_lspId hy hx hid]
    · rw [h.inj y hy x hx hptr]
  unfold destroyAt
  rw [h.deref_mem hx]
  exact congrArg (fun l => some (⟨l, db.next⟩ : Lspdb)) hfilter

lemma lspRemoveFrags_eq (hnodup : l.Nodup) :
    ∀ {db : Lspdb}, db.Ok own → (∀ p ∈ l, ∃ f ∈ db.lsps, f.ptr = p) →
      db.lspRemoveFrags l = some (db.restrict fun y => y.ptr ∉ l) := by
  induction l with
  | nil =>
    intro db _ _
    unfold lspRemoveFrags restrict
    simp
  | cons p l ih =>
    intro db hok hall
    obtain ⟨hp, hrest⟩ := nodup_cons.mp hnodup
    obtain ⟨f, hf, rfl⟩ := hall p mem_cons_self
    unfold lspRemoveFrags
    rw [foldlM_cons, destroyAt_eq hok hf]
    change (db.restrict fun y => decide (y.ptr ≠ f.ptr)).lspRemoveFrags l = _
    rw [ih hrest (hok.restrict _)]
    · unfold restrict
      rw [List.filter_filter]
      congr 2
      refine filter_congr fun y _ => ?_
      simp [Bool.and_comm]
    · intro q hq
      obtain ⟨g, hg, rfl⟩ := hall q (mem_cons_of_mem _ hq)
      have hne : g.ptr ≠ f.ptr := fun he => hp (he ▸ hq)
      exact ⟨g, mem_filter.mpr ⟨hg, decide_eq_true hne⟩, rfl⟩

lemma lspSearchAndDestroy_eq (h : db.Ok own) (hexact : db.Exact) (hx : x ∈ db.lsps)
    (hzero : fragment x.lspId = 0) : ∃ db', db.lspSearchAndDestroy x.lspId = some db' ∧ db'.Ok own ∧
    db'.Exact ∧ ∀ y ∈ db'.lsps, node y.lspId ≠ node x.lspId := by
  obtain ⟨hnodup, hlist, hall⟩ := hexact x hx hzero
  have hremoved : (db.remove x.lspId).lspRemoveFrags (x.frags.getD []) =
      some ((db.remove x.lspId).restrict fun y => y.ptr ∉ x.frags.getD []) := by
    refine lspRemoveFrags_eq hnodup (h.remove _) fun p hp => ?_
    obtain ⟨f, hf, hfp, hof⟩ := hlist p hp
    have hne : f.lspId ≠ x.lspId := fun he => hof.2.1 (he ▸ hzero)
    exact ⟨f, mem_remove.mpr ⟨hf, hne⟩, hfp⟩
  have hboth : (db.remove x.lspId).restrict (fun y => y.ptr ∉ x.frags.getD []) =
      db.restrict fun y => decide (y.ptr ∉ x.frags.getD []) && decide (y.lspId ≠ x.lspId) := by
    unfold restrict remove keyRemove
    rw [List.filter_filter]
  have hsplit (y : Lsp) : (decide (y.ptr ∉ x.frags.getD []) && decide (y.lspId ≠ x.lspId)) ↔
      y.ptr ∉ x.frags.getD [] ∧ y.lspId ≠ x.lspId := by
    rw [Bool.and_eq_true, decide_eq_true_eq, decide_eq_true_eq]
  refine ⟨(db.remove x.lspId).restrict fun y => y.ptr ∉ x.frags.getD [], ?_, (h.remove _).restrict _, ?_, ?_⟩
  · unfold lspSearchAndDestroy
    rw [h.lspSearch_mem hx]
    dsimp only
    rw [if_pos hzero, hremoved]
  · rw [hboth, exact_restrict h hexact]
    intro z hz f hf hof hkeep
    obtain ⟨-, hzid⟩ := (hsplit z).mp hkeep
    refine (hsplit f).mpr ⟨fun hp => ?_, fun hid => hof.2.1 (hid ▸ hzero)⟩
    obtain ⟨g, hg, hgp, hgx⟩ := hlist f.ptr hp
    rw [h.inj g hg f hf hgp] at hgx
    exact hzid (lspId_eq (hof.2.2.symm.trans hgx.2.2) (hof.1.trans hzero.symm))
  · intro y hy hnode
    rw [hboth] at hy
    obtain ⟨hy, hkeep⟩ := mem_filter.mp hy
    obtain ⟨hptr, hid⟩ := (hsplit y).mp hkeep
    by_cases hy0 : fragment y.lspId = 0
    · exact hid (lspId_eq hnode (hy0.trans hzero.symm))
    · exact hptr (hall y hy ⟨hzero, hy0, hnode⟩)

/-! ## Generation -/

/-- At the address there is an LSP with number 0 that has a list. -/
def ZeroAt (db : Lspdb) (p : Nat) : Prop :=
  ∃ z, db.deref p = some z ∧ fragment z.lspId = 0 ∧ z.frags.isSome

def nextFrag (db : Lspdb) (lsp0 : Lsp) (k : Nat) : Lsp :=
  { lspNew db.next (fragId lsp0.lspId k) lsp0.remLifetime 0 0 with ownLsp := true }

lemma lspNextFrag_cases (h : lspNextFrag p db k = some db') (hok : db.Ok own) : db' = db ∨ ∃ lsp0 ∈
    db.lsps, ∃ l, lsp0.frags = some l ∧ Fresh own db (db.nextFrag lsp0 k) ∧
    Adds db lsp0 (db.nextFrag lsp0 k) l db' := by
  obtain ⟨lsp0, hderef, h⟩ := bind_eq_some_iff.mp h
  cases hsearch : db.lspSearch (fragId lsp0.lspId k) with
  | some y =>
    rw [hsearch] at h
    exact .inl (some.inj h).symm
  | none =>
    rw [hsearch] at h
    obtain ⟨l, hfrags, -⟩ := map_eq_some_iff.mp h
    obtain ⟨db1, hdb1, hadds⟩ := addFrag_adds hok hfrags (x := db.nextFrag lsp0 k) hsearch
    obtain rfl := some.inj (h.symm.trans hdb1)
    exact .inr ⟨lsp0, (deref_some hderef).1, l, hfrags, fresh_new hsearch rfl rfl, hadds⟩

lemma lspNextFrag_ok (h : lspNextFrag p db k = some db') (hok : db.Ok own) : db'.Ok own := by
  obtain rfl | ⟨lsp0, hmem, l, hfrags, hfresh, hadds⟩ := lspNextFrag_cases h hok
  · exact hok
  · exact hadds.ok hok hmem hfrags hfresh

lemma lspNextFrag_exact (hok : db.Ok own) (hexact : db.Exact) (hz : db.ZeroAt p) (k : Nat) :
    ∃ db', lspNextFrag p db k = some db' ∧ db'.Ok own ∧ db'.Exact ∧ db'.ZeroAt p := by
  obtain ⟨lsp0, hderef, hzero, hlist⟩ := hz
  obtain ⟨hmem, hptr⟩ := deref_some hderef
  obtain ⟨l, hfrags⟩ := isSome_iff_exists.mp hlist
  cases hsearch : db.lspSearch (fragId lsp0.lspId k) with
  | some y =>
    refine ⟨db, ?_, hok, hexact, lsp0, hderef, hzero, hlist⟩
    unfold lspNextFrag
    rw [hderef, bind_some, hsearch]
  | none =>
    obtain ⟨db', hdb', hadds⟩ := addFrag_adds hok hfrags (x := db.nextFrag lsp0 k) hsearch
    have hnext : lspNextFrag p db k = some db' := by
      unfold lspNextFrag
      rw [hderef, bind_some, hsearch]
      exact hdb'
    have hok' := lspNextFrag_ok hnext hok
    have hnew : fragment (fragId lsp0.lspId k) ≠ 0 := by
      intro hk
      exact lspSearch_none hsearch lsp0 hmem (lspId_eq (node_fragId _ _).symm (hzero.trans hk.symm))
    refine ⟨db', hnext, hok', hadds.exact hok hexact hmem hfrags rfl ⟨hzero, hnew, node_fragId _ _⟩, ?_⟩
    have hderef' := hadds.deref hok' hmem
    rw [hptr] at hderef'
    exact ⟨_, hderef', hzero, rfl⟩

lemma lspBuild_ok (h : db.lspBuild p n = some db') (hok : db.Ok own) : db'.Ok own :=
  foldlM_keeps (fun _ _ _ _ => lspNextFrag_ok) h hok

lemma lspBuild_exact (hok : db.Ok own) (hexact : db.Exact) (hz : db.ZeroAt p) (n : Nat) :
    ∃ db', db.lspBuild p n = some db' ∧ db'.Ok own ∧ db'.Exact ∧ db'.ZeroAt p :=
  foldlM_total (fun k _ _ h => lspNextFrag_exact h.1 h.2.1 h.2.2 k) ⟨hok, hexact, hz⟩

open Reshaped

lemma forFrags_reshaped (hf : Quiet f) (h : db.forFrags f l = some db') : Reshaped db db' := by
  refine foldlM_keeps (I := Reshaped db) (fun q _ s s' hs hI => ?_) h (refl db)
  obtain ⟨_, -, rfl⟩ := map_eq_some_iff.mp hs
  exact hI.trans (Reshaped.modify hf s q)

lemma forFrags_total (hf : Quiet f) (hl : ∀ q ∈ l, (db.deref q).isSome) :
    ∃ db', db.forFrags f l = some db' := by
  have htotal : ∃ db', db.forFrags f l = some db' ∧ Reshaped db db' := by
    refine foldlM_total (fun q hq s hs => ?_) (refl db)
    obtain ⟨y, hy⟩ := isSome_iff_exists.mp (hl q hq)
    obtain ⟨y', hy', -⟩ := hs.deref hy
    exact ⟨s.modify q f, by rw [hy']; rfl, hs.trans (Reshaped.modify hf s q)⟩
  exact htotal.imp fun _ h => h.1

lemma Exact.deref_frags (hexact : db.Exact) (hz : z ∈ db.lsps) (hzero : fragment z.lspId = 0) :
    ∀ q ∈ z.frags.getD [], (db.deref q).isSome := by
  intro q hq
  obtain ⟨f, hf, hfq, -⟩ := (hexact z hz hzero).2.1 q hq
  exact deref_isSome hf hfq

lemma lspSeqnumUpdate_reshaped (h : db.lspSeqnumUpdate p = some db') : Reshaped db db' := by
  obtain ⟨lsp0, -, h⟩ := bind_eq_some_iff.mp h
  exact (Reshaped.modify (quiet_lspIncSeqnum 0) db p).trans (forFrags_reshaped (quiet_lspIncSeqnum 0) h)

lemma lspSeqnumUpdate_total (hexact : db.Exact) (hz : db.deref p = some z)
    (hzero : fragment z.lspId = 0) : ∃ db', db.lspSeqnumUpdate p = some db' := by
  unfold lspSeqnumUpdate
  rw [hz]
  refine forFrags_total (quiet_lspIncSeqnum 0) fun q hq => ?_
  obtain ⟨y, hy⟩ := isSome_iff_exists.mp (hexact.deref_frags (deref_some hz).1 hzero q hq)
  obtain ⟨y', hy', -⟩ := (Reshaped.modify (quiet_lspIncSeqnum 0) db p).deref hy
  rw [hy']
  rfl

lemma fragment_ownId (own : Nat) : fragment (ownId own) = 0 := by
  unfold fragment ownId
  omega

def ownZero (own : Nat) (db : Lspdb) (remLifetime seqNum : Nat) : Lsp :=
  { lspNew db.next (ownId own) remLifetime seqNum 0 with ownLsp := true }

lemma fresh_ownZero (hnone : db.lspSearch (ownId own) = none) :
    Fresh own db (ownZero own db remLifetime seqNum) := fresh_new hnone rfl rfl

lemma lspOriginate_ok (h : db.lspOriginate own seqNum remLifetime n = some db') (hok : db.Ok own)
    (hnone : db.lspSearch (ownId own) = none) : db'.Ok own := by
  obtain ⟨db1, hbuild, hseqnum⟩ := bind_eq_some_iff.mp h
  exact (lspSeqnumUpdate_reshaped hseqnum).ok (lspBuild_ok hbuild (hok.lspInsert (fresh_ownZero hnone)))

lemma lspOriginate_exact (hok : db.Ok own) (hexact : db.Exact) (hnone : db.lspSearch (ownId own) = none)
    (hapart : Apart (ownId own) db) (seqNum remLifetime n : Nat) :
    ∃ db', db.lspOriginate own seqNum remLifetime n = some db' ∧ db'.Exact := by
  have hfresh : Fresh own db (ownZero own db remLifetime seqNum) := fresh_ownZero hnone
  have hok1 := hok.lspInsert hfresh
  have hexact1 := (exact_lspInsert hok hfresh).mpr ⟨hexact, hapart⟩
  have hzero : (db.lspInsert (ownZero own db remLifetime seqNum)).ZeroAt db.next :=
    ⟨_, hok1.deref_mem (hfresh.mem.mpr (.inl rfl)), fragment_ownId own,
      congrArg Option.isSome (if_pos (fragment_ownId own))⟩
  obtain ⟨db2, hbuild, -, hexact2, z, hz, hz0, -⟩ := lspBuild_exact hok1 hexact1 hzero n
  obtain ⟨db3, hseqnum⟩ := lspSeqnumUpdate_total hexact2 hz hz0
  refine ⟨db3, ?_, (lspSeqnumUpdate_reshaped hseqnum).exact_iff.mpr hexact2⟩
  exact bind_eq_some_iff.mpr ⟨db2, hbuild, hseqnum⟩

/-- The LSP at `q` is a fragment that the zero LSP at `p` does not list. -/
def Stray (db : Lspdb) (p q : Nat) : Prop :=
  ∃ y ∈ db.lsps, ∃ z ∈ db.lsps, y.ptr = q ∧ z.ptr = p ∧ FragmentOf y z ∧ q ∉ z.frags.getD []

lemma Stray.not_exact (h : db.Stray p q) : ¬db.Exact := by
  obtain ⟨y, hy, z, hz, rfl, -, hof, hq⟩ := h
  exact fun hexact => hq ((hexact z hz hof.1).2.2 y hy hof)

lemma Reshaped.stray (h : Reshaped db db') (hs : db.Stray p q) : db'.Stray p q := by
  obtain ⟨f, hf, rfl⟩ := h
  obtain ⟨y, hy, z, hz, hyq, hzp, hof, hq⟩ := hs
  exact ⟨f y, mem_map_of_mem hy, f z, mem_map_of_mem hz, (hf.ptr y).trans hyq, (hf.ptr z).trans hzp,
    (fragmentOf_congr (hf.lspId y) (hf.lspId z)).mpr hof, by rwa [hf.frags]⟩

lemma lspNextFrag_stray (h : lspNextFrag p db k = some db') (hok : db.Ok own) (hs : db.Stray p q) :
    db'.Stray p q := by
  obtain rfl | ⟨lsp0, hmem0, l, hfrags, -, hadds⟩ := lspNextFrag_cases h hok
  · exact hs
  obtain ⟨y, hy, z, hz, hyq, hzp, hof, hq⟩ := hs
  refine ⟨_, (hadds.mem _).mpr (.inr ⟨y, hy, rfl⟩), _, (hadds.mem _).mpr (.inr ⟨z, hz, rfl⟩),
    (listing_ptr _ _ y).trans hyq, (listing_ptr _ _ z).trans hzp,
    (fragmentOf_congr (listing_lspId ..) (listing_lspId ..)).mpr hof, fun hmem => ?_⟩
  obtain hmem | ⟨-, hnew⟩ := (mem_listing hok hmem0 hfrags hz).mp hmem
  · exact hq hmem
  · exact absurd (hyq.trans hnew) (ne_of_lt (hok.ptr_lt y hy))

lemma lspOriginate_apart (h : db.lspOriginate own seqNum remLifetime n = some db') (hok : db.Ok own)
    (hnone : db.lspSearch (ownId own) = none) (hexact : db'.Exact) : Apart (ownId own) db := by
  intro y hy hnode
  obtain ⟨db1, hbuild, hseqnum⟩ := bind_eq_some_iff.mp h
  have hfresh : Fresh own db (ownZero own db remLifetime seqNum) := fresh_ownZero hnone
  have hy0 : fragment y.lspId ≠ 0 := fun hy0 =>
    lspSearch_none hnone y hy (lspId_eq hnode (hy0.trans (fragment_ownId own).symm))
  have hstray : (db.lspInsert (ownZero own db remLifetime seqNum)).Stray db.next y.ptr :=
    ⟨y, hfresh.mem.mpr (.inr hy), _, hfresh.mem.mpr (.inl rfl), rfl, rfl,
      ⟨fragment_ownId own, hy0, hnode⟩, by rw [hfresh.frags]; exact not_mem_nil⟩
  have hend := foldlM_keeps (I := fun s => s.Ok own ∧ s.Stray db.next y.ptr)
    (fun k _ s s' hs hI => ⟨lspNextFrag_ok hs hI.1, lspNextFrag_stray hs hI.1 hI.2⟩) hbuild
    ⟨hok.lspInsert hfresh, hstray⟩
  exact absurd hexact ((lspSeqnumUpdate_reshaped hseqnum).stray hend.2).not_exact

/-! ## One event -/

/-- The result is well formed, and from exact lists it is there and exact if `harmless`. -/
def Steps (own : Nat) (db : Lspdb) (r : Option Lspdb) (harmless : Prop) : Prop :=
  (∀ db', r = some db' → db'.Ok own) ∧ (db.Exact → ((∃ db', r = some db' ∧ db'.Exact) ↔ harmless))

lemma steps_some (hok' : db'.Ok own) (hiff : db.Exact → (db'.Exact ↔ harmless)) :
    Steps own db (some db') harmless :=
  ⟨fun _ h => some.inj h ▸ hok', fun hexact =>
    ⟨fun ⟨_, h, hexact'⟩ => (hiff hexact).mp (some.inj h ▸ hexact'),
      fun h => ⟨db', rfl, (hiff hexact).mpr h⟩⟩⟩

lemma Steps.congr {p q : Prop} {r : Option Lspdb} (h : Steps own db r p) (hpq : p ↔ q) :
    Steps own db r q :=
  ⟨h.1, fun hexact => (h.2 hexact).trans hpq⟩

lemma Reshaped.steps (h : Reshaped db db') (hok : db.Ok own) (hharmless : harmless) :
    Steps own db (some db') harmless :=
  steps_some (h.ok hok) fun hexact => iff_of_true (h.exact_iff.mpr hexact) hharmless

lemma steps_lspInsert (hok : db.Ok own) (hx : Fresh own db x) :
    Steps own db (some (db.lspInsert x)) (Apart x.lspId db) :=
  steps_some (hok.lspInsert hx) fun hexact => (exact_lspInsert hok hx).trans (and_iff_right hexact)

lemma lspGenerate_steps (hok : db.Ok own) (remLifetime n : Nat) :
    Steps own db (db.lspGenerate own remLifetime n)
      (db.lspSearch (ownId own) = none → Apart (ownId own) db) := by
  unfold lspGenerate
  cases hsearch : db.lspSearch (ownId own) with
  | none =>
    refine ⟨fun db' h => lspOriginate_ok h hok hsearch, fun hexact => ⟨fun ⟨db', h, hexact'⟩ _ => ?_, fun h => ?_⟩⟩
    · exact lspOriginate_apart h hok hsearch hexact'
    · exact lspOriginate_exact hok hexact hsearch (h rfl) 0 remLifetime n
  | some old =>
    obtain ⟨hmem, hid⟩ := lspSearch_some hsearch
    have hgone (db1 : Lspdb) (h : db.lspSearchAndDestroy (ownId own) = some db1) :
        db1.Ok own ∧ db1.lspSearch (ownId own) = none := by
      unfold lspSearchAndDestroy at h
      rw [hsearch] at h
      dsimp only at h
      rw [hid, if_pos (fragment_ownId own)] at h
      have hsub : db1.Ok own ∧ ∀ y ∈ db1.lsps, y.lspId ≠ ownId own := by
        refine foldlM_keeps (I := fun s => s.Ok own ∧ ∀ y ∈ s.lsps, y.lspId ≠ ownId own) ?_ h
          ⟨hok.remove _, fun y hy => (mem_remove.mp hy).2⟩
        intro q _ s s' hs hI
        obtain ⟨x, -, rfl⟩ := map_eq_some_iff.mp hs
        exact ⟨hI.1.remove _, fun y hy => hI.2 y (mem_remove.mp hy).1⟩
      refine ⟨hsub.1, List.find?_eq_none.mpr fun y hy => ?_⟩
      simpa using hsub.2 y hy
    refine ⟨fun db' h => ?_, fun hexact => ⟨fun _ h => absurd h (by simp), fun _ => ?_⟩⟩
    · obtain ⟨db1, hdestroy, h⟩ := bind_eq_some_iff.mp h
      exact lspOriginate_ok h (hgone db1 hdestroy).1 (hgone db1 hdestroy).2
    · obtain ⟨db1, hdestroy, hok1, hexact1, hnode⟩ := lspSearchAndDestroy_eq hok hexact hmem (hid ▸ fragment_ownId own)
      rw [hid] at hdestroy hnode
      obtain ⟨db', h, hexact'⟩ := lspOriginate_exact hok1 hexact1 (hgone db1 hdestroy).2
        (fun y hy he => absurd he (hnode y hy)) old.seqNum remLifetime n
      exact ⟨db', bind_eq_some_iff.mpr ⟨db1, hdestroy, h⟩, hexact'⟩

def Listed (own : Nat) (db : Lspdb) (n : Nat) : Prop :=
  ∀ z, db.lspSearch (ownId own) = some z → z.frags.isSome ∨ n = 0

lemma quiet_remLifetime (remLifetime : Nat) : Quiet fun x => { x with remLifetime := remLifetime } :=
  ⟨fun _ => rfl, fun _ => rfl, fun _ => rfl⟩

lemma lspBuild_unlisted (hok : db.Ok own) (hexact : db.Exact) (hz : z ∈ db.lsps)
    (hzero : fragment z.lspId = 0) (hnone : z.frags = none) (n : Nat) :
    db.lspBuild z.ptr (n + 1) = none := by
  have hsearch : db.lspSearch (fragId z.lspId 1) = none := by
    cases hfrag : db.lspSearch (fragId z.lspId 1) with
    | none => rfl
    | some y =>
      obtain ⟨hy, hid⟩ := lspSearch_some hfrag
      have hof : FragmentOf y z := by
        refine ⟨hzero, ?_, ?_⟩
        · rw [hid, fragment_fragId]
          decide
        · rw [hid, node_fragId]
      have hlist := (hexact z hz hzero).2.2 y hy hof
      rw [hnone] at hlist
      exact absurd hlist not_mem_nil
  unfold lspBuild
  rw [range_succ_eq_map, map_cons, foldlM_cons]
  have hfail : lspNextFrag z.ptr db (0 + 1) = none := by
    unfold lspNextFrag
    rw [hok.deref_mem hz, bind_some, hsearch]
    unfold addFrag
    rw [hnone]
    rfl
  rw [hfail]
  rfl

lemma lspRegenerate_steps (hok : db.Ok own) (remLifetime n : Nat) :
    Steps own db (db.lspRegenerate own remLifetime n) (Listed own db n) := by
  unfold lspRegenerate Listed
  cases hsearch : db.lspSearch (ownId own) with
  | none =>
    exact (refl db).steps hok nofun
  | some lsp =>
    obtain ⟨hmem, hid⟩ := lspSearch_some hsearch
    have hzero : fragment lsp.lspId = 0 := hid ▸ fragment_ownId own
    constructor
    · intro db' h
      obtain ⟨db1, hbuild, h⟩ := bind_eq_some_iff.mp h
      obtain ⟨db2, hseqnum, h⟩ := bind_eq_some_iff.mp h
      obtain ⟨lsp0, -, h⟩ := bind_eq_some_iff.mp h
      have h1 := Reshaped.modify (quiet_remLifetime remLifetime) db1 lsp.ptr
      have h2 := h1.trans (lspSeqnumUpdate_reshaped hseqnum)
      exact (h2.trans (forFrags_reshaped (quiet_remLifetime remLifetime) h)).ok (lspBuild_ok hbuild hok)
    · intro hexact
      constructor
      · rintro ⟨db', h, -⟩ z hz
        cases hz
        cases n with
        | zero => exact .inr rfl
        | succ n =>
          left
          obtain ⟨db1, hbuild, -⟩ := bind_eq_some_iff.mp h
          cases hfrags : lsp.frags with
          | some l => rfl
          | none =>
            rw [lspBuild_unlisted hok hexact hmem hzero hfrags] at hbuild
            exact absurd hbuild (by simp)
      · intro hlisted
        -- the zero LSP keeps its list, if any, through the fragments that are added
        have hbuilt : ∃ db1, db.lspBuild lsp.ptr n = some db1 ∧ db1.Exact ∧
            ∃ z, db1.deref lsp.ptr = some z ∧ fragment z.lspId = 0 := by
          obtain hlist | rfl := hlisted lsp rfl
          · obtain ⟨db1, hbuild, -, hexact1, z, hz, hz0, -⟩ :=
              lspBuild_exact hok hexact ⟨lsp, hok.deref_mem hmem, hzero, hlist⟩ n
            exact ⟨db1, hbuild, hexact1, z, hz, hz0⟩
          · exact ⟨db, rfl, hexact, lsp, hok.deref_mem hmem, hzero⟩
        obtain ⟨db1, hbuild, hexact1, z, hz, hz0⟩ := hbuilt
        have h1 := Reshaped.modify (quiet_remLifetime remLifetime) db1 lsp.ptr
        obtain ⟨z1, hz1, hid1, -⟩ := h1.deref hz
        obtain ⟨db2, hseqnum⟩ := lspSeqnumUpdate_total (h1.exact_iff.mpr hexact1) hz1 (hid1 ▸ hz0)
        have h2 := h1.trans (lspSeqnumUpdate_reshaped hseqnum)
        obtain ⟨z2, hz2, hid2, -⟩ := h2.deref hz
        have hexact2 := h2.exact_iff.mpr hexact1
        obtain ⟨db3, hfor⟩ := forFrags_total (quiet_remLifetime remLifetime)
          (hexact2.deref_frags (deref_some hz2).1 (hid2 ▸ hz0))
        refine ⟨db3, ?_, (h2.trans (forFrags_reshaped (quiet_remLifetime remLifetime) hfor)).exact_iff.mpr hexact1⟩
        exact bind_eq_some_iff.mpr ⟨db1, hbuild, bind_eq_some_iff.mpr ⟨db2, hseqnum,
          bind_eq_some_iff.mpr ⟨z2, hz2, hfor⟩⟩⟩

/-- The entry of a sequence numbers PDU makes the router insert an LSP. -/
def Makes (own : Nat) (db : Lspdb) (entry : Header) : Prop :=
  db.lspSearch entry.lspId = none ∧ entry.remLifetime ≠ 0 ∧ entry.checksum ≠ 0 ∧ entry.seqNum ≠ 0 ∧
    sysId entry.lspId ≠ own

lemma snpEntry_spec (hok : db.Ok own) (entry : Header) : (db.snpEntry own entry).Ok own ∧
    ((db.snpEntry own entry).Exact ↔ db.Exact ∧ (Makes own db entry → Apart entry.lspId db)) := by
  unfold snpEntry Makes
  cases hsearch : db.lspSearch entry.lspId with
  | some lsp =>
    have hreshaped : Reshaped db
        (if lspCompare lsp entry = .newer ∧ sysId entry.lspId = own then
          db.modify lsp.ptr (lspIncSeqnum entry.seqNum) else db) := by
      split_ifs
      · exact Reshaped.modify (quiet_lspIncSeqnum _) _ _
      · exact refl db
    refine ⟨hreshaped.ok hok, hreshaped.exact_iff.trans (iff_self_and.mpr fun _ h => absurd h.1 (by simp))⟩
  | none =>
    by_cases hmakes : entry.remLifetime ≠ 0 ∧ entry.checksum ≠ 0 ∧ entry.seqNum ≠ 0 ∧ sysId entry.lspId ≠ own
    · rw [if_pos hmakes]
      have hfresh : Fresh own db (lspNew db.next entry.lspId entry.remLifetime 0 entry.checksum) :=
        fresh_new hsearch rfl rfl
      refine ⟨hok.lspInsert hfresh, (exact_lspInsert hok hfresh).trans ?_⟩
      exact and_congr_right fun _ => ⟨fun h _ => h, fun h => h ⟨rfl, hmakes⟩⟩
    · rw [if_neg hmakes]
      exact ⟨hok, iff_self_and.mpr fun _ h => absurd h.2 hmakes⟩

lemma receivePurge_reshaped (own : Nat) (db : Lspdb) (hdr : Header) :
    Reshaped db (db.receivePurge own hdr) := by
  unfold receivePurge
  split
  · exact refl db
  split_ifs
  · exact Reshaped.modify (quiet_lspUpdateData hdr) _ _
  · exact refl db
  · exact Reshaped.modify (quiet_lspIncSeqnum _) _ _
  · exact refl db

lemma receiveOther_steps (hok : db.Ok own) (hdr : Header) (hother : sysId hdr.lspId ≠ own) :
    Steps own db (db.receiveOther hdr)
      (db.lspSearch hdr.lspId = none → fragment hdr.lspId = 0 → Apart hdr.lspId db) := by
  unfold receiveOther
  cases hsearch : db.lspSearch hdr.lspId with
  | some lsp =>
    have hupdate := Reshaped.modify (quiet_lspUpdateData hdr) db lsp.ptr
    dsimp only
    split
    · split_ifs
      · exact (Reshaped.refl db).steps hok nofun
      · exact hupdate.steps hok nofun
    · exact hupdate.steps hok nofun
    · exact (Reshaped.refl db).steps hok nofun
  | none =>
    have hfresh : Fresh own db (lspUpdateData hdr (lspNew db.next hdr.lspId 0 0 0)) := fresh_new hsearch rfl rfl
    by_cases hzero : fragment hdr.lspId = 0
    · rw [if_pos hzero]
      exact (steps_lspInsert hok hfresh).congr ⟨fun h _ _ => h, fun h => h rfl hzero⟩
    rw [if_neg hzero]
    cases hsearch0 : db.lspSearch (fragId hdr.lspId 0) with
    | none => exact (Reshaped.refl db).steps hok fun _ h => absurd h hzero
    | some lsp0 =>
      obtain ⟨hmem, hid⟩ := lspSearch_some hsearch0
      have hzero0 : fragment lsp0.lspId = 0 := by rw [hid, fragment_fragId]
      have hnode0 : node lsp0.lspId = node hdr.lspId := by rw [hid, node_fragId]
      have hsys0 : sysId lsp0.lspId ≠ own := by
        intro he
        refine hother (he ▸ ?_)
        unfold node at hnode0
        unfold sysId
        omega
      obtain ⟨l, hl⟩ := isSome_iff_exists.mp (hok.listed lsp0 hmem hzero0 hsys0)
      obtain ⟨db', hdb', hadds⟩ := addFrag_adds hok hl
        (x := lspUpdateData hdr (lspNew db.next hdr.lspId 0 0 0)) hsearch
      dsimp only
      rw [hdb']
      refine steps_some (hadds.ok hok hmem hl hfresh) fun hexact => ?_
      exact iff_of_true (hadds.exact hok hexact hmem hl rfl ⟨hzero0, hzero, hnode0.symm⟩)
        fun _ h => absurd h hzero

lemma lspPurgeNonExist_steps (hok : db.Ok own) (hdr : Header) (hself : sysId hdr.lspId = own) :
    Steps own db (db.lspPurgeNonExist hdr) (db.lspSearch hdr.lspId = none ∧ Apart hdr.lspId db) := by
  unfold lspPurgeNonExist
  split_ifs with hnone
  · exact (steps_lspInsert hok ⟨hnone, rfl, rfl, fun _ h => absurd hself h⟩).congr (and_iff_right hnone).symm
  · exact ⟨nofun, fun _ => ⟨nofun, fun h => absurd h.1 hnone⟩⟩

lemma lspGeneratePseudo_steps (hok : db.Ok own) (circuitId remLifetime : Nat) :
    Steps own db (some (db.lspGeneratePseudo own circuitId remLifetime))
      (db.lspSearch (pseudoId own circuitId) = none → Apart (pseudoId own circuitId) db) := by
  unfold lspGeneratePseudo
  cases hsearch : db.lspSearch (pseudoId own circuitId) with
  | some lsp => exact (refl db).steps hok nofun
  | none =>
    exact (steps_lspInsert (x := { lspNew db.next (pseudoId own circuitId) remLifetime 1 0 with ownLsp := true })
      hok (fresh_new hsearch rfl rfl)).congr ⟨fun h _ => h, fun h => h rfl⟩

lemma lspRegeneratePseudo_reshaped (own : Nat) (db : Lspdb) (circuitId remLifetime : Nat) :
    Reshaped db (db.lspRegeneratePseudo own circuitId remLifetime) := by
  have hquiet : Quiet fun x => lspIncSeqnum 0 { x with remLifetime := remLifetime } :=
    ⟨fun _ => rfl, fun _ => rfl, fun _ => rfl⟩
  unfold lspRegeneratePseudo
  split
  · exact refl db
  · exact Reshaped.modify hquiet _ _

lemma lspPurgePseudo_reshaped (db : Lspdb) (id : LspId) (bigEndian : Bool) (checksum maxLifetime : Nat) :
    Reshaped db (db.lspPurgePseudo id bigEndian checksum maxLifetime) := by
  have hquiet : Quiet (purged bigEndian checksum maxLifetime) := ⟨fun _ => rfl, fun _ => rfl, fun _ => rfl⟩
  unfold lspPurgePseudo
  split
  · exact refl db
  · exact Reshaped.modify hquiet _ _

/-- The LSP is removed at the next tick. -/
def AgesOut (x : Lsp) : Prop := (lspSetTime x).ageOut = 0
  deriving Decidable

lemma lspTick_spec (hok : db.Ok own) : db.lspTick.Ok own ∧ (db.Exact → (db.lspTick.Exact ↔ ∀ z ∈
    db.lsps, ∀ f ∈ db.lsps, FragmentOf f z → AgesOut f → AgesOut z)) := by
  have hok' := hok.map quiet_lspSetTime
  refine ⟨hok'.restrict _, fun hexact => ?_⟩
  refine (exact_restrict hok' ((exact_map quiet_lspSetTime).mpr hexact) _).trans ?_
  have hof (f z : Lsp) := fragmentOf_congr (quiet_lspSetTime.lspId f) (quiet_lspSetTime.lspId z)
  unfold map
  simp only [List.forall_mem_map, hof, AgesOut, ne_eq, decide_eq_true_eq]
  exact forall₄_congr fun z _ f _ => imp_congr_right fun _ => not_imp_not

end

end Lspdb

end OspfMdr.Isis
