import OspfMdr.Model.Pqueue

namespace OspfMdr.Ospf6
open Function Multiset Equiv

variable {i j n hole : Nat}

section
variable {α κ : Type} [LinearOrder κ] {cmp : α → α → Int} {key : α → κ}

/-- The sign of the comparison is the order of the keys. -/
structure CmpKey (cmp : α → α → Int) (key : α → κ) : Prop where
  neg_iff : ∀ a b, cmp a b < 0 ↔ key a < key b
  pos_iff : ∀ a b, cmp a b > 0 ↔ key b < key a

/-- No key is smaller than that of the parent. -/
def IsHeap (key : α → κ) (n : Nat) (a : Nat → α) : Prop :=
  ∀ i, 0 < i → i < n → key (a (pqueueParent i)) ≤ key (a i)

/-- The elements of an array, in whatever order. -/
def arrayContents (n : Nat) (a : Nat → α) : Multiset α := (range n).map a

lemma pqueueParent_lt (h : 0 < i) : pqueueParent i < i := by
  unfold pqueueParent
  omega

lemma pqueueParent_eq_iff (hi : 0 < i) : pqueueParent i = j ↔ i = pqueueLeft j ∨ i = pqueueRight j := by
  unfold pqueueParent pqueueLeft pqueueRight
  omega

lemma arrayContents_swap (hi : i < n) (hj : j < n) (a : Nat → α) :
    arrayContents n (a ∘ swap i j) = arrayContents n a := by
  have hmap : (range n).map (swap i j) = range n := by
    refine congrArg Finset.val (Finset.map_perm (s := Finset.range n) (σ := swap i j) fun k hk => ?_)
    by_contra hkn
    simp only [Finset.coe_range, Set.mem_Iio] at hkn
    exact hk (swap_apply_of_ne_of_ne (by omega) (by omega))
  unfold arrayContents
  rw [← map_map, hmap]

lemma arrayContents_move (hi : i < n) (hj : j < n) (hij : i ≠ j) (tmp : α) (a : Nat → α) :
    arrayContents n (update (update a i (a j)) j tmp) = arrayContents n (update a i tmp) := by
  rw [← arrayContents_swap hi hj (update a i tmp)]
  congr 1
  funext k
  by_cases hk : k = j
  · subst hk
    simp
  by_cases hk' : k = i
  · subst hk'
    simp [hij, Ne.symm hij]
  · simp [hk, hk', swap_apply_of_ne_of_ne hk' hk]

/-- The heap order apart from the element in the hole, above and below which it holds. -/
structure HoleInv (key : α → κ) (n hole : Nat) (a : Nat → α) : Prop where
  except : ∀ i, 0 < i → i < n → i ≠ hole → pqueueParent i ≠ hole → key (a (pqueueParent i)) ≤ key (a i)
  grand : 0 < hole → ∀ i, 0 < i → i < n → pqueueParent i = hole →
    key (a (pqueueParent hole)) ≤ key (a i)

variable {a : Nat → α} {q : Pqueue α} {tmp : α}

lemma HoleInv.fill (h : HoleInv key n hole a) (hup : 0 < hole → key (a (pqueueParent hole)) ≤ key tmp)
    (hdown : ∀ i, 0 < i → i < n → pqueueParent i = hole → key tmp ≤ key (a i)) :
    IsHeap key n (update a hole tmp) := by
  intro i hi hin
  have hp := pqueueParent_lt hi
  by_cases hih : i = hole
  · subst hih
    simpa [hp.ne] using hup hi
  by_cases hph : pqueueParent i = hole
  · simpa [hih, hph] using hdown i hi hin hph
  · simpa [hih, hph] using h.except i hi hin hih hph

lemma HoleInv.up (h : HoleInv key n hole a) (hpos : 0 < hole) (hlt : hole < n) :
    HoleInv key n (pqueueParent hole) (update a hole (a (pqueueParent hole))) := by
  have hp := pqueueParent_lt hpos
  constructor
  · intro i hi hin hip hpp
    have hih : i ≠ hole := fun he => hpp (he ▸ rfl)
    by_cases hph : pqueueParent i = hole
    · simpa [hih, hph] using h.grand hpos i hi hin hph
    · simpa [hih, hph] using h.except i hi hin hih hph
  · intro hp0 i hi hin hpi
    have hpp := pqueueParent_lt hp0
    have htop := h.except (pqueueParent hole) hp0 (hp.trans hlt) hp.ne (by omega)
    by_cases hih : i = hole
    · simpa [hih, (hpp.trans hp).ne] using htop
    · have hsib := h.except i hi hin hih (hpi ▸ hp.ne)
      rw [hpi] at hsib
      simpa [hih, (hpp.trans hp).ne] using htop.trans hsib

lemma HoleInv.down {c : Nat} (h : HoleInv key n hole a) (hc : 0 < c) (hcn : c < n)
    (hpc : pqueueParent c = hole)
    (hmin : ∀ i, 0 < i → i < n → pqueueParent i = hole → key (a c) ≤ key (a i)) :
    HoleInv key n c (update a hole (a c)) := by
  have hlt : hole < c := hpc ▸ pqueueParent_lt hc
  constructor
  · intro i hi hin hic hpic
    by_cases hih : i = hole
    · subst hih
      simpa [(pqueueParent_lt hi).ne] using h.grand hi c hc hcn hpc
    by_cases hph : pqueueParent i = hole
    · simpa [hih, hph] using hmin i hi hin hph
    · simpa [hih, hph] using h.except i hi hin hih hph
  · intro _ i hi hin hpi
    have hci := pqueueParent_lt hi
    have hih : i ≠ hole := by omega
    simpa [hpc, hih, hpi] using h.except i hi hin hih (by omega)

lemma trickleUpLoop_spec (hcmp : CmpKey cmp key) (fuel : Nat) : ∀ (index : Nat) (a : Nat → α),
    index ≤ fuel → index < n → HoleInv key n index a →
    (∀ i, 0 < i → i < n → pqueueParent i = index → key tmp ≤ key (a i)) →
    IsHeap key n (trickleUpLoop cmp tmp fuel index a) ∧
    arrayContents n (trickleUpLoop cmp tmp fuel index a) = arrayContents n (update a index tmp) := by
  induction fuel with
  | zero => exact fun index a hfuel hlt h hdown => ⟨h.fill (by omega) hdown, rfl⟩
  | succ fuel ih =>
    intro index a hfuel hlt h hdown
    unfold trickleUpLoop
    split_ifs with hc
    · obtain ⟨hpos, hneg⟩ := hc
      have hp := pqueueParent_lt hpos
      have hkey : key tmp < key (a (pqueueParent index)) := (hcmp.neg_iff _ _).mp hneg
      have hbelow : ∀ i, 0 < i → i < n → pqueueParent i = pqueueParent index →
          key tmp ≤ key (update a index (a (pqueueParent index)) i) := by
        intro i hi hin hpi
        by_cases hii : i = index
        · simpa [hii] using hkey.le
        have hsib := h.except i hi hin hii (hpi ▸ hp.ne)
        rw [hpi] at hsib
        simpa [hii] using hkey.le.trans hsib
      obtain ⟨hheap, hcontents⟩ := ih _ _ (by omega) (hp.trans hlt) (h.up hpos hlt) hbelow
      exact ⟨hheap, hcontents.trans (arrayContents_move hlt (hp.trans hlt) hp.ne' tmp a)⟩
    · exact ⟨h.fill (fun hpos => not_lt.mp fun hkey => hc ⟨hpos, (hcmp.neg_iff _ _).mpr hkey⟩) hdown, rfl⟩

lemma which_spec (hcmp : CmpKey cmp key) (a : Nat → α) (h : hole < n / 2) :
    0 < which cmp n a hole ∧ which cmp n a hole < n ∧ pqueueParent (which cmp n a hole) = hole ∧
      ∀ i, 0 < i → i < n → pqueueParent i = hole → key (a (which cmp n a hole)) ≤ key (a i) := by
  have hleft : pqueueParent (pqueueLeft hole) = hole :=
    (pqueueParent_eq_iff (by unfold pqueueLeft; omega)).mpr (.inl rfl)
  have hright : pqueueParent (pqueueRight hole) = hole :=
    (pqueueParent_eq_iff (by unfold pqueueRight; omega)).mpr (.inr rfl)
  unfold which
  split_ifs with hc
  · refine ⟨by unfold pqueueRight; omega, hc.1, hright, fun i hi hin hpi => ?_⟩
    rcases (pqueueParent_eq_iff hi).mp hpi with rfl | rfl
    · exact le_of_lt ((hcmp.pos_iff _ _).mp hc.2)
    · exact le_refl _
  refine ⟨by unfold pqueueLeft; omega, by unfold pqueueLeft; omega, hleft, fun i hi hin hpi => ?_⟩
  rcases (pqueueParent_eq_iff hi).mp hpi with rfl | rfl
  · exact le_refl _
  · exact not_lt.mp fun hlt => hc ⟨hin, (hcmp.pos_iff _ _).mpr hlt⟩

lemma trickleDownLoop_spec (hcmp : CmpKey cmp key) (fuel : Nat) : ∀ (index : Nat) (a : Nat → α),
    n ≤ index + fuel → HoleInv key n index a → (0 < index → key (a (pqueueParent index)) ≤ key tmp) →
    IsHeap key n (trickleDownLoop cmp tmp n fuel index a) ∧
    arrayContents n (trickleDownLoop cmp tmp n fuel index a) = arrayContents n (update a index tmp) := by
  have hleaf : ∀ index, ¬index < n / 2 → ∀ i, 0 < i → i < n → pqueueParent i ≠ index := by
    intro index hidx i hi hin hpi
    unfold pqueueParent at hpi
    omega
  induction fuel with
  | zero =>
    intro index a hfuel h hup
    exact ⟨h.fill hup fun i hi hin hpi => absurd hpi (hleaf index (by omega) i hi hin), rfl⟩
  | succ fuel ih =>
    intro index a hfuel h hup
    unfold trickleDownLoop
    split_ifs with hidx
    · obtain ⟨hpos, hcn, hpc, hmin⟩ := which_spec hcmp a hidx
      have hci := pqueueParent_lt hpos
      rw [hpc] at hci
      dsimp only
      split_ifs with hcase
      · refine ⟨h.fill hup fun i hi hin hpi => ?_, rfl⟩
        exact ((hcmp.pos_iff _ _).mp hcase).le.trans (hmin i hi hin hpi)
      have hle : key (a (which cmp n a index)) ≤ key tmp :=
        not_lt.mp fun hlt => hcase ((hcmp.pos_iff _ _).mpr hlt)
      obtain ⟨hheap, hcontents⟩ := ih _ _ (by omega) (h.down hpos hcn hpc hmin) fun _ => by simpa [hpc] using hle
      exact ⟨hheap, hcontents.trans (arrayContents_move (hci.trans hcn) hcn hci.ne tmp a)⟩
    · exact ⟨h.fill hup fun i hi hin hpi => absurd hpi (hleaf index hidx i hi hin), rfl⟩

/-- The elements of the queue. -/
def Pqueue.contents (q : Pqueue α) : Multiset α := arrayContents q.size q.array

/-- The array of the queue is a heap. -/
def Pqueue.Ordered (key : α → κ) (q : Pqueue α) : Prop := IsHeap key q.size q.array

lemma Pqueue.card_contents (q : Pqueue α) : q.contents.card = q.size := by
  simp [Pqueue.contents, arrayContents]

lemma Pqueue.Ordered.congr {key' : α → κ} (h : q.Ordered key)
    (hkey : ∀ x ∈ q.contents, key x = key' x) : q.Ordered key' := by
  have hmem : ∀ i, i < q.size → q.array i ∈ q.contents := fun i hi =>
    mem_map_of_mem q.array (mem_range.mpr hi)
  intro i hpos hi
  rw [← hkey _ (hmem i hi), ← hkey _ (hmem _ (lt_trans (pqueueParent_lt hpos) hi))]
  exact h i hpos hi

lemma arrayContents_congr {b : Nat → α} (h : ∀ i, i < n → a i = b i) :
    arrayContents n a = arrayContents n b :=
  map_congr rfl fun i hi => h i (mem_range.mp hi)

lemma arrayContents_succ (n : Nat) (a : Nat → α) :
    arrayContents (n + 1) a = a n ::ₘ arrayContents n a := by
  simp [arrayContents, range_succ]

theorem pqueueEnqueue_spec (hcmp : CmpKey cmp key) (h : q.Ordered key) (data : α) :
    (pqueueEnqueue cmp data q).Ordered key ∧ (pqueueEnqueue cmp data q).contents = data ::ₘ q.contents := by
  have hchild : ∀ i, 0 < i → i < q.size + 1 → pqueueParent i ≠ q.size := by
    intro i hi hin
    have := pqueueParent_lt hi
    omega
  have hinv : HoleInv key (q.size + 1) q.size (update q.array q.size data) := by
    refine ⟨fun i hi hin hne hpne => ?_, fun _ i hi hin hpi => absurd hpi (hchild i hi hin)⟩
    simpa [hne, hpne] using h i hi (by omega)
  obtain ⟨hheap, hcontents⟩ := trickleUpLoop_spec hcmp q.size q.size (update q.array q.size data) le_rfl
    (Nat.lt_succ_self _) hinv fun i hi hin hpi => absurd hpi (hchild i hi hin)
  refine ⟨hheap, hcontents.trans ?_⟩
  rw [update_eq_self, arrayContents_succ, update_self]
  congr 1
  exact arrayContents_congr fun i hi => update_of_ne (ne_of_lt hi) _ _

lemma IsHeap.root_le (h : IsHeap key n a) : ∀ i, i < n → key (a 0) ≤ key (a i) := by
  intro i
  induction i using Nat.strongRecOn with
  | ind i ih =>
    intro hi
    by_cases h0 : i = 0
    · rw [h0]
    · have hp := pqueueParent_lt (pos_of_ne_zero h0)
      exact le_trans (ih _ hp (lt_trans hp hi)) (h i (pos_of_ne_zero h0) hi)

theorem pqueueDequeue_spec (hcmp : CmpKey cmp key) (h : q.Ordered key) (hsize : 0 < q.size) :
    (pqueueDequeue cmp q).2.Ordered key ∧
    q.contents = (pqueueDequeue cmp q).1 ::ₘ (pqueueDequeue cmp q).2.contents ∧
    ∀ x ∈ q.contents, key (pqueueDequeue cmp q).1 ≤ key x := by
  obtain ⟨n, hn⟩ : ∃ n, q.size = n + 1 := ⟨q.size - 1, by omega⟩
  have hinv : HoleInv key n 0 (update q.array 0 (q.array n)) := by
    refine ⟨fun i hi hin hne hpi => ?_, fun h0 => absurd h0 (lt_irrefl 0)⟩
    simpa [hpi, hne] using h i hi (by omega)
  obtain ⟨hheap, hcontents⟩ := trickleDownLoop_spec hcmp n 0 (update q.array 0 (q.array n)) (by omega) hinv
    fun h0 => absurd h0 (lt_irrefl 0)
  have heq : pqueueDequeue cmp q =
      (q.array 0, ⟨trickleDown cmp 0 n (update q.array 0 (q.array n)), n⟩) := by
    unfold pqueueDequeue
    simp [hn]
  rw [heq]
  refine ⟨hheap, ?_, fun x hx => ?_⟩
  · have hswap : arrayContents q.size q.array = arrayContents (n + 1) (q.array ∘ swap 0 n) := by
      rw [hn, arrayContents_swap (by omega) (by omega)]
    unfold Pqueue.contents
    rw [hswap, arrayContents_succ]
    congr 1
    · simp
    · refine Eq.trans ?_ hcontents.symm
      rw [update_eq_self]
      refine arrayContents_congr fun i hi => ?_
      by_cases h0 : i = 0
      · simp [h0]
      · simp [h0, swap_apply_of_ne_of_ne h0 (ne_of_lt hi)]
  · unfold Pqueue.contents arrayContents at hx
    obtain ⟨i, hi, rfl⟩ := mem_map.mp hx
    exact h.root_le i (mem_range.mp hi)

end

/-- The comparison is a total preorder. -/
structure TotalCmp {α : Type} (cmp : α → α → Int) : Prop where
  antisymm : ∀ a b, cmp a b < 0 ↔ cmp b a > 0
  trans : ∀ a b c, cmp a b ≤ 0 → cmp b c ≤ 0 → cmp a c ≤ 0

/-- No dequeue from an empty queue. -/
def Servable {α : Type} : Nat → List (PqueueCall α) → Prop
  | _, [] => True
  | n, .enqueue _ :: calls => Servable (n + 1) calls
  | n, .dequeue :: calls => 0 < n ∧ Servable (n - 1) calls

/-- No enqueue to a queue of 2^30 - 2 elements or more. -/
def FitsInt {α : Type} : Nat → List (PqueueCall α) → Prop
  | _, [] => True
  | n, .enqueue _ :: calls => n + 2 < 2 ^ 30 ∧ FitsInt (n + 1) calls
  | n, .dequeue :: calls => FitsInt (n - 1) calls

/-- The priority queue as a multiset: `Served cmp m calls outs m'` takes `m` to `m'`. -/
inductive Served {α : Type} (cmp : α → α → Int) : Multiset α → List (PqueueCall α) → List α → Multiset α → Prop
  | nil m : Served cmp m [] [] m
  | enqueue {m m' calls outs data} (h : Served cmp (data ::ₘ m) calls outs m') :
      Served cmp m (.enqueue data :: calls) outs m'
  | dequeue {m m' calls outs data} (hleast : ∀ x ∈ data ::ₘ m, cmp data x ≤ 0) (h : Served cmp m calls outs m') :
      Served cmp (data ::ₘ m) (.dequeue :: calls) (data :: outs) m'

section
variable {α κ : Type} [LinearOrder κ] {cmp : α → α → Int} {key : α → κ}

lemma TotalCmp.exists_key (h : TotalCmp cmp) :
    ∃ (κ : Type) (_ : LinearOrder κ) (key : α → κ), CmpKey cmp key := by
  classical
  have htotal : ∀ a b, cmp a b ≤ 0 ∨ cmp b a ≤ 0 := fun a b => by
    have := h.antisymm b a
    omega
  let _ : Preorder α :=
    { le := fun a b => cmp a b ≤ 0
      le_refl := fun a => (htotal a a).elim id id
      le_trans := h.trans }
  have : Std.Total fun a b : α => a ≤ b := ⟨htotal⟩
  have hlt : ∀ a b : α, a < b ↔ cmp a b < 0 := fun a b => by
    have := h.antisymm a b
    rw [lt_iff_le_not_ge]
    change cmp a b ≤ 0 ∧ ¬cmp b a ≤ 0 ↔ _
    omega
  exact ⟨Antisymmetrization α (· ≤ ·), inferInstance, toAntisymmetrization (· ≤ ·),
    fun a b => (hlt a b).symm, fun a b => (h.antisymm b a).symm.trans (hlt b a).symm⟩

lemma CmpKey.le_iff (hcmp : CmpKey cmp key) (a b : α) : cmp a b ≤ 0 ↔ key a ≤ key b := by
  rw [← not_lt, ← not_lt]
  exact (hcmp.pos_iff a b).not

variable [Inhabited α] {q : PqueueMem α}

/-- The elements are a heap in an array of a power of two cells. -/
structure PqueueInv (key : α → κ) (q : PqueueMem α) : Prop where
  ordered : q.Ordered key
  room : q.size + 1 < q.arraySize
  power : ∃ k ≤ 30, q.arraySize = 2 ^ k

lemma PqueueInv.expand {q' : PqueueMem α} (h : PqueueInv key q) (hq : pqueueExpand q = some q') :
    q'.Ordered key ∧ q'.contents = q.contents ∧ q'.size = q.size ∧ q'.arraySize = q.arraySize * 2 := by
  unfold pqueueExpand at hq
  split_ifs at hq with hint
  cases hq
  have hroom := h.room
  have hcell : ∀ i, i < q.size → (if i < q.arraySize then q.array i else default) = q.array i := fun i hi =>
    if_pos (by omega)
  refine ⟨fun i hpos hi => ?_, arrayContents_congr hcell, rfl, rfl⟩
  dsimp only at hi ⊢
  rw [hcell i hi, hcell _ (lt_trans (pqueueParent_lt hpos) hi)]
  exact h.ordered i hpos hi

lemma PqueueInv.power_expand {q' : PqueueMem α} (h : PqueueInv key q) (hq : pqueueExpand q = some q') :
    ∃ k ≤ 30, q'.arraySize = 2 ^ k := by
  obtain ⟨k, -, hk⟩ := h.power
  have harray := (h.expand hq).2.2.2
  unfold pqueueExpand at hq
  split_ifs at hq with hint
  rw [hk, ← pow_succ] at harray hint
  exact ⟨k + 1, Nat.lt_succ_iff.mp ((Nat.pow_lt_pow_iff_right (by decide)).mp hint), harray⟩

omit [Inhabited α] in
lemma PqueueInv.arraySize_le (h : PqueueInv key q) : q.arraySize ≤ 2 ^ 30 := by
  obtain ⟨k, hk, harray⟩ := h.power
  rw [harray]
  exact Nat.pow_le_pow_right (by decide) hk

lemma PqueueInv.enqueue (hcmp : CmpKey cmp key) (h : PqueueInv key q) (data : α) (hlt : q.size + 2 < 2 ^ 30) :
    ∃ q', pqueueCall cmp q (.enqueue data) = some ([], q') ∧ PqueueInv key q' ∧
      q'.contents = data ::ₘ q.contents := by
  have hroom := h.room
  simp only [pqueueCall]
  split_ifs with hfull
  · obtain ⟨q', hq'⟩ : ∃ q', pqueueExpand q = some q' := ⟨_, if_pos (by omega)⟩
    obtain ⟨hexp, hcont, hsize, harray⟩ := h.expand hq'
    obtain ⟨hord, hadd⟩ := pqueueEnqueue_spec hcmp hexp data
    have hpower := h.power_expand hq'
    rw [hq']
    refine ⟨_, rfl, ⟨hord, ?_, hpower⟩, hcont ▸ hadd⟩
    simp only [pqueueEnqueue]
    omega
  · obtain ⟨hord, hadd⟩ := pqueueEnqueue_spec hcmp h.ordered data
    refine ⟨_, rfl, ⟨hord, ?_, h.power⟩, hadd⟩
    simp only [pqueueEnqueue]
    omega

lemma PqueueInv.enqueue_overflow (h : PqueueInv key q) (data : α) (hge : 2 ^ 30 ≤ q.size + 2) :
    pqueueCall cmp q (.enqueue data) = none := by
  have hroom := h.room
  have hfull : q.size + 2 ≥ q.arraySize := h.arraySize_le.trans hge
  have hnone : pqueueExpand q = none := if_neg (by omega)
  simp only [pqueueCall, if_pos hfull, hnone]
  rfl

omit [Inhabited α] in
lemma PqueueInv.dequeue (hcmp : CmpKey cmp key) (h : PqueueInv key q) (hpos : 0 < q.size) :
    PqueueInv key ⟨(pqueueDequeue cmp q.toPqueue).2, q.arraySize⟩ := by
  refine ⟨(pqueueDequeue_spec hcmp h.ordered hpos).1, ?_, h.power⟩
  have hroom := h.room
  simp only [pqueueDequeue]
  omega

lemma PqueueInv.run (hcmp : CmpKey cmp key) (calls : List (PqueueCall α)) :
    ∀ q : PqueueMem α, PqueueInv key q → Servable q.size calls → FitsInt q.size calls →
      ∃ outs q', pqueueRun cmp q calls = some (outs, q') ∧ Served cmp q.contents calls outs q'.contents := by
  induction calls with
  | nil => exact fun q h _ _ => ⟨[], q, rfl, .nil _⟩
  | cons call calls ih =>
    intro q h hs hfits
    cases call with
    | enqueue data =>
      obtain ⟨q1, hcall, hinv, hadd⟩ := h.enqueue hcmp data hfits.1
      have hsize : q1.size = q.size + 1 := by
        rw [← Pqueue.card_contents, hadd, card_cons, Pqueue.card_contents]
      obtain ⟨outs, q', hrun, hserved⟩ := ih q1 hinv (hsize ▸ hs) (hsize ▸ hfits.2)
      rw [hadd] at hserved
      refine ⟨outs, q', ?_, .enqueue hserved⟩
      simp [pqueueRun, hcall, hrun]
    | dequeue =>
      obtain ⟨outs, q', hrun, hserved⟩ := ih _ (h.dequeue hcmp hs.1) hs.2 hfits
      obtain ⟨-, hrest, hleast⟩ := pqueueDequeue_spec hcmp h.ordered hs.1
      simp only [← hcmp.le_iff] at hleast
      rw [hrest] at hleast ⊢
      refine ⟨_ :: outs, q', ?_, .dequeue hleast hserved⟩
      simp [pqueueRun, pqueueCall, hrun]

lemma PqueueInv.run_overflow (hcmp : CmpKey cmp key) (calls : List (PqueueCall α)) :
    ∀ q : PqueueMem α, PqueueInv key q → Servable q.size calls → ¬FitsInt q.size calls →
      pqueueRun cmp q calls = none := by
  induction calls with
  | nil => exact fun q _ _ hfits => absurd trivial hfits
  | cons call calls ih =>
    intro q h hs hfits
    cases call with
    | enqueue data =>
      by_cases hlt : q.size + 2 < 2 ^ 30
      · obtain ⟨q1, hcall, hinv, hadd⟩ := h.enqueue hcmp data hlt
        have hsize : q1.size = q.size + 1 := by
          rw [← Pqueue.card_contents, hadd, card_cons, Pqueue.card_contents]
        have hrun := ih q1 hinv (hsize ▸ hs) fun hrest => hfits ⟨hlt, hsize ▸ hrest⟩
        simp [pqueueRun, hcall, hrun]
      · simp [pqueueRun, h.enqueue_overflow data (not_lt.mp hlt)]
    | dequeue =>
      have hrun := ih _ (h.dequeue hcmp hs.1) hs.2 hfits
      simp [pqueueRun, pqueueCall, hrun]

lemma pqueueCreate_inv : PqueueInv key (pqueueCreate : PqueueMem α) :=
  ⟨fun i _ hi => absurd hi (Nat.not_lt_zero i), by simp [pqueueCreate], 5, by decide, rfl⟩

/-- Every dequeue returns a least element of those in the queue, exactly if the array never has to grow past 2^30
cells. -/
theorem pqueueRun_served_iff (hcmp : TotalCmp cmp) (calls : List (PqueueCall α)) (h : Servable 0 calls) :
    (∃ outs q, pqueueRun cmp pqueueCreate calls = some (outs, q) ∧ Served cmp 0 calls outs q.contents) ↔
      FitsInt 0 calls := by
  obtain ⟨κ, hκ, key, hkey⟩ := hcmp.exists_key
  constructor
  · rintro ⟨outs, q, hrun, -⟩
    by_contra hfits
    rw [PqueueInv.run_overflow hkey calls _ pqueueCreate_inv h hfits] at hrun
    cases hrun
  · exact PqueueInv.run hkey calls _ pqueueCreate_inv h

theorem pqueueRun_served_int : ∃ outs q,
    pqueueRun (fun a b : Int => a - b) pqueueCreate [.enqueue 2, .enqueue 1, .dequeue] = some (outs, q) ∧
      Served (fun a b : Int => a - b) 0 [.enqueue 2, .enqueue 1, .dequeue] outs q.contents := by
  have hcmp : TotalCmp fun a b : Int => a - b := ⟨by omega, by omega⟩
  exact (pqueueRun_served_iff hcmp [.enqueue 2, .enqueue 1, .dequeue] (by simp [Servable])).mpr
    (by simp [FitsInt])

omit [Inhabited α] in
lemma servable_enqueues (data : α) (n : Nat) : ∀ m, Servable m (List.replicate n (PqueueCall.enqueue data)) := by
  induction n with
  | zero => exact fun _ => trivial
  | succ n ih => exact fun m => ih (m + 1)

omit [Inhabited α] in
lemma fitsInt_enqueues (data : α) (n : Nat) :
    ∀ m, FitsInt m (List.replicate (n + 1) (PqueueCall.enqueue data)) → m + n + 2 < 2 ^ 30 := by
  induction n with
  | zero => exact fun m h => h.1
  | succ n ih =>
    intro m h
    have hrest := ih (m + 1) h.2
    omega

lemma enqueues_overflow (hcmp : TotalCmp cmp) (data : α) {n : Nat} (hn : 2 ^ 30 ≤ n + 1) :
    pqueueRun cmp pqueueCreate (List.replicate n (.enqueue data)) = none := by
  obtain ⟨κ, hκ, key, hkey⟩ := hcmp.exists_key
  obtain ⟨k, rfl⟩ : ∃ k, n = k + 1 := ⟨n - 1, by omega⟩
  refine PqueueInv.run_overflow hkey _ _ pqueueCreate_inv (servable_enqueues _ _ _) fun hfits => ?_
  have hlt := fitsInt_enqueues data k 0 hfits
  omega

/-- After 2^30 - 2 elements the next one makes `array_size` overflow. -/
theorem pqueueRun_overflow :
    pqueueRun (fun a b : Int => a - b) pqueueCreate (List.replicate (2 ^ 30 - 1) (.enqueue 0)) = none :=
  enqueues_overflow ⟨by omega, by omega⟩ 0 (by norm_num)

end

end OspfMdr.Ospf6
