import Mathlib.Data.List.ReduceOption
import MacroStream.Proofs.Script.HeapGrowth

/-!
# Tables that only have names

A table that was empty and got one new name after the other lists every name exactly once:
`Table.Listed` is kept by each of these writes (`Table.Listed.set`). It says that the map of the
table is lawful, and that its order has the keys of the map in its slots, each in one of them.

A new key gets a slot by `KeyOrder.place`, and for that nothing has to be known of the chains that
the slots are linked in: they decide which free slot is taken and which key moves there, but a key
that makes way is put into another slot in any case. What has to be known is that there is a free
slot unless all slots have keys. Free slots are handed out from the end, so all of them lie below
`lastFree`; this is `Lists.full`.
-/

namespace MacroStream.Script

namespace KeyOrder

/-! ### The keys in slots -/

/-- The keys in slots, from the first slot to the last. -/
def keysIn (slots : Array Slot) : List (Option Key) := slots.toList.map Slot.key

variable {slots : Array Slot} {o : KeyOrder} {live : Key → Bool} {k : Key} {ks : List Key}
  {i n : Nat}

theorem length_keysIn (slots : Array Slot) : (keysIn slots).length = slots.size := by
  rw [keysIn, List.length_map, Array.length_toList]

theorem getElem?_keysIn (slots : Array Slot) (i : Nat) :
    (keysIn slots)[i]? = slots[i]?.map Slot.key := by
  rw [keysIn, List.getElem?_map, Array.getElem?_toList]

theorem key_getD (hi : i < slots.size) :
    (keysIn slots)[i]? = some (slots.getD i {}).key := by
  rw [getElem?_keysIn, Array.getD_eq_getD_getElem?, Array.getElem?_eq_getElem hi]
  rfl

theorem keysIn_setNext (slots : Array Slot) (i : Nat) (next : Int) :
    keysIn (setNext slots i next) = keysIn slots := by
  refine List.ext_getElem? fun j ↦ ?_
  rw [getElem?_keysIn, getElem?_keysIn, setNext, Array.getElem?_modify]
  split
  · rw [Option.map_map]
    rfl
  · rfl

theorem keysIn_setIfInBounds (slots : Array Slot) (i : Nat) (s : Slot) :
    keysIn (slots.setIfInBounds i s) = (keysIn slots).set i s.key := by
  rw [keysIn, Array.toList_setIfInBounds, List.map_set]
  rfl

theorem keysIn_modify (slots : Array Slot) (i : Nat) (k : Option Key) :
    keysIn (slots.modify i fun s ↦ { s with key := k }) = (keysIn slots).set i k := by
  refine List.ext_getElem? fun j ↦ ?_
  rw [getElem?_keysIn, Array.getElem?_modify, List.getElem?_set, getElem?_keysIn, length_keysIn]
  by_cases hij : i = j
  · subst hij
    rw [if_pos rfl, if_pos rfl, Option.map_map]
    by_cases hi : i < slots.size
    · rw [if_pos hi, Array.getElem?_eq_getElem hi]
      rfl
    · rw [if_neg hi, Array.getElem?_eq_none (Nat.not_lt.1 hi)]
      rfl
  · rw [if_neg hij, if_neg hij]

/-- What a place gives up and what it gets are the difference. -/
theorem reduceOption_set_perm {α : Type} {l : List (Option α)} {x : Option α}
    (hx : l[i]? = some x) (y : Option α) :
    (x.toList ++ (l.set i y).reduceOption).Perm (y.toList ++ l.reduceOption) := by
  obtain ⟨hi, rfl⟩ := List.getElem?_eq_some_iff.1 hx
  have hsplit : l = l.take i ++ l[i] :: l.drop (i + 1) := by
    rw [← List.drop_eq_getElem_cons, List.take_append_drop]
  have hcons (z : Option α) (rest : List (Option α)) :
      (z :: rest).reduceOption = z.toList ++ rest.reduceOption := by
    cases z <;> rfl
  have hold : l.reduceOption =
      (l.take i).reduceOption ++ (l[i].toList ++ (l.drop (i + 1)).reduceOption) := by
    rw [← hcons, ← List.reduceOption_append, ← hsplit]
  rw [List.set_eq_take_append_cons_drop, if_pos hi, List.reduceOption_append, hcons, hold]
  refine (List.perm_append_comm_assoc ..).trans ?_
  refine (List.Perm.append_left _ (List.perm_append_comm_assoc ..)).trans ?_
  exact List.perm_append_comm_assoc ..

/-! ### Orders that list keys -/

/-- An order has names in its slots, each in one of them, and all free slots lie below
`lastFree`. -/
structure Lists (o : KeyOrder) (ks : List Key) : Prop where
  arraySize_eq : o.arraySize = 0
  perm : (keysIn o.slots).reduceOption.Perm ks
  lastFree_le : o.lastFree ≤ o.slots.size
  full : ∀ i, o.lastFree ≤ i → (keysIn o.slots)[i]? ≠ some none

/-- Every key is a name. -/
def Names (ks : List Key) : Prop := ∀ k ∈ ks, ∃ s, k = .str s

theorem Lists.mem_of_slot (ho : o.Lists ks) (hk : (o.slots.getD i {}).key = some k) : k ∈ ks := by
  by_cases hi : i < o.slots.size
  · have hslot := key_getD hi
    rw [hk] at hslot
    exact ho.perm.mem_iff.1 (List.reduceOption_mem_iff.2 (List.mem_of_getElem? hslot))
  · rw [Array.getD_eq_getD_getElem?, Array.getElem?_eq_none (Nat.not_lt.1 hi)] at hk
    exact nomatch hk

theorem Lists.of_perm {ks' : List Key} (ho : o.Lists ks) (hperm : ks.Perm ks') : o.Lists ks' :=
  ⟨ho.arraySize_eq, ho.perm.trans hperm, ho.lastFree_le, ho.full⟩

theorem Lists.length_le (ho : o.Lists ks) : ks.length ≤ o.slots.size := by
  rw [← ho.perm.length_eq, ← length_keysIn]
  exact List.reduceOption_length_le _

theorem freeBelow_eq_some (h : o.freeBelow n = some i) (hn : n ≤ o.slots.size) :
    i < n ∧ (keysIn o.slots)[i]? = some none ∧
      ∀ j, i < j → j < n → (keysIn o.slots)[j]? ≠ some none := by
  induction n with
  | zero => exact nomatch h
  | succ n ih =>
    rw [freeBelow] at h
    have hn' := key_getD (Nat.lt_of_lt_of_le (Nat.lt_succ_self n) hn)
    split at h
    case isTrue hnone =>
      obtain rfl := Option.some.inj h
      rw [Option.isNone_iff_eq_none] at hnone
      refine ⟨Nat.lt_succ_self _, by rw [hn', hnone], fun j hlow hhigh ↦ ?_⟩
      omega
    case isFalse hsome =>
      obtain ⟨hlt, hfree, hothers⟩ := ih h (Nat.le_of_succ_le hn)
      refine ⟨Nat.lt_succ_of_lt hlt, hfree, fun j hlow hhigh ↦ ?_⟩
      rcases Nat.lt_succ_iff_lt_or_eq.1 hhigh with hhigh | rfl
      · exact hothers j hlow hhigh
      · rw [hn']
        intro hnone
        exact hsome (Option.isNone_iff_eq_none.2 (Option.some.inj hnone))

theorem freeBelow_eq_none (h : o.freeBelow n = none) (hn : n ≤ o.slots.size) {j : Nat}
    (hj : j < n) : (keysIn o.slots)[j]? ≠ some none := by
  induction n with
  | zero => exact absurd hj (Nat.not_lt_zero j)
  | succ n ih =>
    rw [freeBelow] at h
    split at h
    case isTrue => exact nomatch h
    case isFalse hsome =>
      rcases Nat.lt_succ_iff_lt_or_eq.1 hj with hj | rfl
      · exact ih h (Nat.le_of_succ_le hn) hj
      · rw [key_getD (Nat.lt_of_lt_of_le (Nat.lt_succ_self j) hn)]
        intro hnone
        exact hsome (Option.isNone_iff_eq_none.2 (Option.some.inj hnone))

theorem Lists.full_of_freeBelow (ho : o.Lists ks) (h : o.freeBelow o.lastFree = some i) :
    i ≤ o.slots.size ∧ (keysIn o.slots)[i]? = some none ∧
      ∀ j, i ≤ j → j ≠ i → (keysIn o.slots)[j]? ≠ some none := by
  obtain ⟨hlt, hnone, hbetween⟩ := freeBelow_eq_some h ho.lastFree_le
  have hle := ho.lastFree_le
  refine ⟨by omega, hnone, fun j hj hne ↦ ?_⟩
  rcases Nat.lt_or_ge j o.lastFree with hlt | hge
  · exact hbetween j (by omega) hlt
  · exact ho.full j hge

/-- If no slot is free, all slots are in use. -/
theorem Lists.length_eq_of_freeBelow (ho : o.Lists ks) (h : o.freeBelow o.lastFree = none) :
    ks.length = o.slots.size := by
  have hall : ∀ x ∈ keysIn o.slots, x.isSome = true := by
    intro x hx
    obtain ⟨j, hj⟩ := List.mem_iff_getElem?.1 hx
    cases x with
    | some key => rfl
    | none =>
      rcases Nat.lt_or_ge j o.lastFree with hlt | hge
      · exact absurd hj (freeBelow_eq_none h ho.lastFree_le hlt)
      · exact absurd hj (ho.full j hge)
  rw [← ho.perm.length_eq, List.reduceOption_length_eq_iff.2 hall, length_keysIn]

/-! ### New keys -/

theorem mainPosition_lt (hk : ∃ s, k = .str s) {size : Nat} (hsize : 0 < size) :
    mainPosition size k < size := by
  obtain ⟨s, rfl⟩ := hk
  exact Nat.mod_lt _ hsize

/-- All places from `n` on stay in use when one more is. -/
theorem full_set {l : List (Option Key)} (hfull : ∀ j, n ≤ j → j ≠ i → l[j]? ≠ some none) (k : Key)
    (j : Nat) (hj : n ≤ j) : (l.set i (some k))[j]? ≠ some none := by
  rw [List.getElem?_set]
  by_cases hij : i = j
  · rw [if_pos hij]
    split <;> simp
  · rw [if_neg hij]
    exact hfull j hj (Ne.symm hij)

/-- A free slot takes the new key. -/
theorem Lists.put (ho : o.Lists ks) (o' : KeyOrder) (harray : o'.arraySize = o.arraySize)
    (hfree : (keysIn o.slots)[i]? = some none)
    (hkeys : keysIn o'.slots = (keysIn o.slots).set i (some k))
    (hlast : o'.lastFree ≤ o.slots.size)
    (hfull : ∀ j, o'.lastFree ≤ j → j ≠ i → (keysIn o.slots)[j]? ≠ some none) :
    o'.slots.size = o.slots.size ∧ o'.Lists (k :: ks) := by
  have hsize : o'.slots.size = o.slots.size := by
    rw [← length_keysIn, hkeys, List.length_set, length_keysIn]
  refine ⟨hsize, harray.trans ho.arraySize_eq, ?_, by rw [hsize]; exact hlast, ?_⟩
  · rw [hkeys]
    exact (reduceOption_set_perm hfree (some k)).trans (ho.perm.cons k)
  · rw [hkeys]
    exact full_set hfull k

/-- A key makes way to a free slot, and the new key takes its place. -/
theorem Lists.swap {other : Key} {main : Nat} (ho : o.Lists ks) (o' : KeyOrder)
    (harray : o'.arraySize = o.arraySize) (hother : (keysIn o.slots)[main]? = some (some other))
    (hfree : (keysIn o.slots)[i]? = some none)
    (hkeys : keysIn o'.slots = ((keysIn o.slots).set i (some other)).set main (some k))
    (hlast : o'.lastFree ≤ o.slots.size)
    (hfull : ∀ j, o'.lastFree ≤ j → j ≠ i → (keysIn o.slots)[j]? ≠ some none) :
    o'.slots.size = o.slots.size ∧ o'.Lists (k :: ks) := by
  have hsize : o'.slots.size = o.slots.size := by
    rw [← length_keysIn, hkeys, List.length_set, List.length_set, length_keysIn]
  have hne : i ≠ main := fun heq ↦ by
    rw [heq, hother] at hfree
    exact nomatch Option.some.inj hfree
  have hstill : ((keysIn o.slots).set i (some other))[main]? = some (some other) := by
    rw [List.getElem?_set_ne hne, hother]
  refine ⟨hsize, harray.trans ho.arraySize_eq, ?_, by rw [hsize]; exact hlast, ?_⟩
  · rw [hkeys]
    -- The other key is in two slots for a moment.
    have htwice : ((keysIn o.slots).set i (some other)).reduceOption.Perm (other :: ks) :=
      (reduceOption_set_perm hfree (some other)).trans (ho.perm.cons other)
    have hswap := (reduceOption_set_perm hstill (some k)).trans (htwice.cons k)
    exact (hswap.trans (List.Perm.swap other k ks)).cons_inv
  · rw [hkeys]
    exact full_set (fun j hj _ ↦ full_set hfull other j hj) k

/-- A new name is placed, or there is no room for it. -/
theorem Lists.place (ho : o.Lists ks) (hlive : ∀ k' ∈ ks, live k' = true)
    (hk : ∃ s, k = .str s) :
    ((place live k o).1.slots.size = o.slots.size ∧ (place live k o).2 = true ∧
        (place live k o).1.Lists (k :: ks)) ∨
      place live k o = (o, false) ∧ ks.length = o.slots.size := by
  generalize hplace : KeyOrder.place live k o = placed
  rw [KeyOrder.place] at hplace
  by_cases hsize : o.slots.size = 0
  · have hnil : ks.length = o.slots.size := Nat.le_antisymm ho.length_le (by omega)
    rw [if_pos hsize] at hplace
    exact .inr ⟨hplace.symm, hnil⟩
  have hmain := mainPosition_lt hk (Nat.pos_of_ne_zero hsize)
  rw [if_neg hsize] at hplace
  dsimp only at hplace
  generalize mainPosition o.slots.size k = main at hmain hplace
  have hthere := key_getD hmain
  have hmem {other : Key} : (o.slots.getD main {}).key = some other → other ∈ ks := ho.mem_of_slot
  generalize o.slots.getD main {} = there at hthere hmem hplace
  obtain ⟨key, next⟩ := there
  cases key with
  | none =>
    obtain ⟨hsize', hlists⟩ := ho.put { o with slots := o.slots.modify main fun s ↦
      { s with key := some k } } rfl hthere (keysIn_modify ..) ho.lastFree_le
      fun j hj _ ↦ ho.full j hj
    subst hplace
    exact .inl ⟨hsize', rfl, hlists⟩
  | some other =>
    have hused : ¬(some other).all (fun other ↦ !live other) = true := by
      simp [hlive other (hmem rfl)]
    dsimp only at hplace
    rw [if_neg hused] at hplace
    cases hfree : o.freeBelow o.lastFree with
    | none =>
      rw [hfree] at hplace
      exact .inr ⟨hplace.symm, ho.length_eq_of_freeBelow hfree⟩
    | some free =>
      obtain ⟨hlt, hnone, hfull⟩ := ho.full_of_freeBelow hfree
      rw [hfree] at hplace
      dsimp only at hplace
      split at hplace
      · obtain ⟨hsize', hlists⟩ := ho.swap placed.1 (by rw [← hplace]) hthere hnone
          (by rw [← hplace, keysIn_setIfInBounds, keysIn_setIfInBounds, keysIn_setNext])
          (by rw [← hplace]; exact hlt) (by rw [← hplace]; exact hfull)
        exact .inl ⟨hsize', by rw [← hplace], hlists⟩
      · obtain ⟨hsize', hlists⟩ := ho.put placed.1 (by rw [← hplace]) hnone
          (by rw [← hplace, keysIn_setIfInBounds, keysIn_setNext])
          (by rw [← hplace]; exact hlt) (by rw [← hplace]; exact hfull)
        exact .inl ⟨hsize', by rw [← hplace], hlists⟩

/-! ### New slots -/

theorem le_two_pow_ceilLog2 (n : Nat) : n ≤ 2 ^ ceilLog2 n := by
  rw [ceilLog2]
  split
  case isTrue h => simpa using h
  case isFalse =>
    have hlog := Nat.lt_log2_self (n := n - 1)
    omega

theorem lists_emptySlots (n : Nat) :
    (emptySlots 0 n).Lists [] ∧ n ≤ (emptySlots 0 n).slots.size := by
  have hkeys (size : Nat) : keysIn (Array.replicate size {}) = List.replicate size none := by
    rw [keysIn, Array.toList_replicate, List.map_replicate]
  refine ⟨⟨rfl, ?_, ?_, fun i hi ↦ ?_⟩, ?_⟩
  · simp only [emptySlots, hkeys, List.reduceOption_replicate_none, List.Perm.refl]
  · simp only [emptySlots, Array.size_replicate, Nat.le_refl]
  · have hout : (keysIn (emptySlots 0 n).slots)[i]? = none := by
      rw [List.getElem?_eq_none_iff, length_keysIn]
      simpa only [emptySlots, Array.size_replicate] using hi
    rw [hout]
    exact nofun
  · simp only [emptySlots, Array.size_replicate]
    split
    case isTrue h => omega
    case isFalse => exact le_two_pow_ceilLog2 n

/-- Where there is room a name gets a slot. -/
theorem Lists.placeKey (ho : o.Lists ks) (hk : ∃ s, k = .str s) (hroom : ks.length < o.slots.size) :
    (placeKey o k).slots.size = o.slots.size ∧ (placeKey o k).Lists (k :: ks) := by
  have hplaceKey : KeyOrder.placeKey o k = (KeyOrder.place (fun _ ↦ true) k o).1 := by
    obtain ⟨s, rfl⟩ := hk
    rfl
  rw [hplaceKey]
  have hlive : ∀ k' ∈ ks, (fun _ ↦ true) k' = true := fun _ _ ↦ rfl
  rcases ho.place hlive hk with ⟨hsize, -, hlists⟩ | ⟨-, hfull⟩
  · exact ⟨hsize, hlists⟩
  · omega

theorem Lists.foldl_placeKey {ks' : List Key} (ho : o.Lists ks) (hnames : Names ks')
    (hroom : ks'.length + ks.length ≤ o.slots.size) :
    (ks'.foldl KeyOrder.placeKey o).slots.size = o.slots.size ∧
      (ks'.foldl KeyOrder.placeKey o).Lists (ks' ++ ks) := by
  induction ks' generalizing o ks with
  | nil => exact ⟨rfl, ho⟩
  | cons k ks' ih =>
    obtain ⟨hk, hnames⟩ := List.forall_mem_cons.1 hnames
    rw [List.length_cons] at hroom
    obtain ⟨hsize, hone⟩ := ho.placeKey hk (by omega)
    obtain ⟨hsize', hall⟩ := ih hone hnames (by rw [hsize, List.length_cons]; omega)
    exact ⟨hsize'.trans hsize, hall.of_perm List.perm_middle⟩

/-- Names do not belong into an array. -/
theorem foldl_countKey (hnames : Names ks) (counts : Array Nat) :
    ks.foldl countKey counts = counts := by
  induction ks generalizing counts with
  | nil => rfl
  | cons k ks ih =>
    obtain ⟨⟨s, rfl⟩, hrest⟩ := List.forall_mem_cons.1 hnames
    exact ih hrest counts

theorem filterMap_key (live : Key → Bool) (slots : Array Slot) :
    slots.toList.filterMap (fun s ↦ s.key.filter live) =
      (keysIn slots).reduceOption.filter live := by
  rw [keysIn, List.reduceOption, List.filterMap_map, ← List.filterMap_eq_filter,
    List.filterMap_filterMap]
  refine List.filterMap_congr fun s _ ↦ ?_
  change s.key.filter live = s.key.bind (Option.guard fun k ↦ live k)
  cases s.key <;> rfl

theorem Lists.liveKeys_eq (ho : o.Lists ks) (hlive : ∀ k' ∈ ks, live k' = true) :
    ∃ ks', liveKeys live o = ([], ks') ∧ ks'.Perm ks := by
  refine ⟨_, ?_, ho.perm⟩
  have hall : (keysIn o.slots).reduceOption.filter live = (keysIn o.slots).reduceOption :=
    List.filter_eq_self.2 fun k' hk' ↦ hlive k' (ho.perm.mem_iff.1 hk')
  rw [liveKeys, ho.arraySize_eq, filterMap_key, hall]
  rfl

/-- New slots have room for one more name. -/
theorem Lists.rehash (ho : o.Lists ks) (hlive : ∀ k' ∈ ks, live k' = true) (hnames : Names ks)
    (hk : ∃ s, k = .str s) :
    (rehash live k o).Lists ks ∧ ks.length < (rehash live k o).slots.size := by
  obtain ⟨ks', hkeys, hperm⟩ := ho.liveKeys_eq hlive
  have hnames' : Names ks' := fun k' hk' ↦ hnames k' (hperm.mem_iff.1 hk')
  have hcounts : (k :: ([] ++ ks')).foldl countKey (Array.replicate 65 0) = Array.replicate 65 0 :=
    foldl_countKey (List.forall_mem_cons.2 ⟨hk, hnames'⟩) _
  have hrehash : KeyOrder.rehash live k o = ks'.foldl KeyOrder.placeKey
      (emptySlots 0 (ks'.length + 1)) := by
    have htotal : (Array.replicate 65 0).foldl (· + ·) 0 = 0 := by decide
    have hbest : bestArray (Array.replicate 65 0) 0 64 0 0 (0, 0) = (0, 0) := by
      rw [bestArray, if_pos (Nat.zero_le _)]
    rw [KeyOrder.rehash, hkeys]
    dsimp only
    rw [hcounts, htotal, hbest, resize, hkeys]
    rfl
  obtain ⟨hempty, hroom⟩ := lists_emptySlots (ks'.length + 1)
  obtain ⟨hsize, hlists⟩ := hempty.foldl_placeKey hnames' (by rw [List.length_nil]; omega)
  rw [hrehash]
  refine ⟨hlists.of_perm (by rw [List.append_nil]; exact hperm), ?_⟩
  rw [hsize, ← hperm.length_eq]
  omega

theorem find?_eq_none (h : ∀ i, (o.slots.getD i {}).key ≠ some k) : o.find? k = none := by
  have hsearch (n i : Nat) : o.searchChain k n i = none := by
    induction n generalizing i with
    | zero => rfl
    | succ n ih =>
      rw [searchChain, if_neg (h i)]
      split
      · rfl
      · exact ih _
  rw [find?, hsearch, ite_self]

/-- A name that was not listed is listed then. -/
theorem Lists.insert (ho : o.Lists ks) (hlive : ∀ k' ∈ ks, live k' = true) (hnames : Names ks)
    (hk : ∃ s, k = .str s) (hnew : k ∉ ks) : (insert live k o).Lists (k :: ks) := by
  have habsent : (o.inArray k || (o.find? k).isSome) = false := by
    have hfind : o.find? k = none :=
      find?_eq_none fun i hslot ↦ hnew (ho.mem_of_slot hslot)
    obtain ⟨s, rfl⟩ := hk
    rw [hfind]
    rfl
  have hinsert : KeyOrder.insert live k o =
      if (KeyOrder.place live k o).2 then (KeyOrder.place live k o).1
      else KeyOrder.placeKey (KeyOrder.rehash live k (KeyOrder.place live k o).1) k := by
    rw [KeyOrder.insert, habsent]
    rfl
  rw [hinsert]
  rcases ho.place hlive hk with ⟨-, hplaced, hlists⟩ | ⟨hplace, -⟩
  · rw [if_pos hplaced]
    exact hlists
  · rw [hplace]
    obtain ⟨hlists, hroom⟩ := ho.rehash hlive hnames hk
    exact (hlists.placeKey hk hroom).2

end KeyOrder

/-! ### Tables -/

namespace Table

variable {t : Table} {k : Key} {v : Value}

/-- A table has names as its keys only, and its order lists each of them once. -/
structure Listed (t : Table) : Prop where
  lawful : t.entries.Lawful
  names : KeyOrder.Names (t.entries.toList.map Prod.fst)
  lists : t.order.Lists (t.entries.toList.map Prod.fst)

theorem listed_empty : Listed {} :=
  ⟨KeyMap.lawful_empty, nofun, rfl, .nil, Nat.le_refl 0, fun _ _ ↦ nofun⟩

theorem order_set (hv : v ≠ .nil) (hk : t.entries.find? k = none) :
    (t.set k v).order = t.order.insert (fun k ↦ (t.entries.find? k).isSome) k := by
  cases v with
  | nil => exact absurd rfl hv
  | _ =>
    rw [Table.set.eq_def]
    dsimp only
    rw [hk]
    rfl

/-- One more name. -/
theorem Listed.set (ht : t.Listed) (hk : ∃ s, k = .str s) (hnew : k ∉ t.entries.toList.map Prod.fst)
    (hv : v ≠ .nil) : (t.set k v).Listed ∧
      (t.set k v).entries.toList.Perm ((k, v) :: t.entries.toList) := by
  have hnone : t.entries.find? k = none := ht.lawful.find?_eq_none_iff.2 hnew
  obtain ⟨hlawful, hperm⟩ := ht.lawful.insert_of_none hnone v
  have hentries := entries_set hv t k
  have horder := order_set hv hnone
  have hlive : ∀ k' ∈ t.entries.toList.map Prod.fst, (t.entries.find? k').isSome = true := by
    intro k' hk'
    obtain ⟨e, he, rfl⟩ := List.mem_map.1 hk'
    rw [ht.lawful.find?_eq_some_iff.2 he]
    rfl
  have hfst := hperm.map Prod.fst
  refine ⟨⟨by rwa [hentries], ?_, ?_⟩, by rwa [hentries]⟩
  · rw [hentries]
    intro k' hk'
    rcases List.mem_cons.1 (hfst.mem_iff.1 hk') with rfl | hk'
    · exact hk
    · exact ht.names k' hk'
  · rw [hentries, horder]
    exact (ht.lists.insert hlive ht.names hk hnew).of_perm hfst.symm

/-- Each entry is listed once. -/
theorem Listed.toList_perm (ht : t.Listed) : t.toList.Perm t.entries.toList := by
  have hkeys : KeyOrder.keysIn t.order.slots =
      (List.range t.order.slots.size).map fun i ↦ (t.order.slots.getD i {}).key := by
    refine List.ext_getElem? fun i ↦ ?_
    rw [List.getElem?_map]
    by_cases hi : i < t.order.slots.size
    · rw [KeyOrder.key_getD hi, List.getElem?_range hi]
      rfl
    · rw [List.getElem?_eq_none (by simpa [KeyOrder.length_keysIn] using hi),
        List.getElem?_eq_none (by simpa using hi)]
      rfl
  have hlisted : t.toList = (KeyOrder.keysIn t.order.slots).reduceOption.filterMap fun k ↦
      if t.live k then some (k, t.get k) else none := by
    rw [toList, KeyOrder.places, ht.lists.arraySize_eq, Nat.zero_add, List.reduceOption,
      List.filterMap_filterMap, hkeys, List.filterMap_map]
    refine List.filterMap_congr fun i _ ↦ ?_
    rw [KeyOrder.keyAt?, ht.lists.arraySize_eq]
    rfl
  have hentries : (t.entries.toList.map Prod.fst).filterMap (fun k ↦
      if t.live k then some (k, t.get k) else none) = t.entries.toList := by
    rw [List.filterMap_map]
    refine (List.filterMap_congr fun e he ↦ ?_).trans List.filterMap_some
    have hfind : t.entries.find? e.1 = some e.2 := ht.lawful.find?_eq_some_iff.2 he
    have hlive : t.live e.1 = true := by rw [live, hfind]; rfl
    have hget : t.get e.1 = e.2 := by rw [get, hfind]; rfl
    change (if t.live e.1 then some (e.1, t.get e.1) else none) = some e
    rw [if_pos hlive, hget]
  rw [hlisted]
  exact (ht.lists.perm.filterMap _).trans (.of_eq hentries)

/-- There are no items. -/
theorem Listed.length_eq (ht : t.Listed) : t.length = 0 := by
  have hnone : t.liveInt (0 + 1) = false := by
    have hnot : t.entries.find? (.int (Int64.ofNat (0 + 1))) = none := by
      rw [ht.lawful.find?_eq_none_iff]
      intro hmem
      obtain ⟨s, hs⟩ := ht.names _ hmem
      exact nomatch hs
    rw [liveInt, live, hnot]
    rfl
  rw [length, border, ht.lists.arraySize_eq, hnone]
  rfl

end Table

end MacroStream.Script
