import MacroStream.Proofs.Script.TableReads

/-!
# What a map finds

A map finds its entries by their hashes, so it depends on every entry lying where its hash says.
Maps that do are *lawful*: each entry lies in its bucket, no key lies there twice, and the entries
have been counted. A new map is lawful and all operations keep it so.

For lawful maps `find?` is all there is to a map: it finds exactly the entries
(`find?_eq_some_iff`), and `find?_insert` and `find?_erase` say what it finds afterwards.
-/

namespace MacroStream.Script

namespace KeyMap

variable {m : KeyMap} {k k' : Key} {v : Value}

/-! ### Buckets -/

theorem findIn_setIn (k k' : Key) (v : Value) (b : List (Key × Value)) :
    findIn k' (setIn k v b) = if k = k' then some v else findIn k' b := by
  induction b with
  | nil => simp [setIn, findIn]
  | cons e b ih =>
    obtain ⟨k₀, v₀⟩ := e
    rw [setIn]
    by_cases hk₀ : k₀ = k
    · rw [if_pos hk₀, findIn, findIn, hk₀]
      split <;> rfl
    · rw [if_neg hk₀, findIn, findIn, ih]
      by_cases hk : k = k'
      · subst hk
        rw [if_neg hk₀, if_pos rfl, if_pos rfl]
      · rw [if_neg hk, if_neg hk]

/-- A key that is found is not added. -/
theorem map_fst_setIn {b : List (Key × Value)} (h : (findIn k b).isSome = true) :
    (setIn k v b).map Prod.fst = b.map Prod.fst := by
  induction b with
  | nil => exact nomatch h
  | cons e b ih =>
    obtain ⟨k₀, v₀⟩ := e
    rw [setIn]
    by_cases hk₀ : k₀ = k
    · rw [if_pos hk₀, List.map_cons, List.map_cons, hk₀]
    · rw [findIn, if_neg hk₀] at h
      rw [if_neg hk₀, List.map_cons, List.map_cons, ih h]

theorem findIn_eq_some_iff {b : List (Key × Value)} (hb : (b.map Prod.fst).Nodup) :
    findIn k b = some v ↔ (k, v) ∈ b := by
  refine ⟨mem_of_findIn, fun h ↦ ?_⟩
  induction b with
  | nil => exact nomatch h
  | cons e b ih =>
    obtain ⟨k₀, v₀⟩ := e
    rw [List.map_cons, List.nodup_cons] at hb
    rw [findIn]
    rcases List.mem_cons.1 h with heq | hmem
    · obtain ⟨rfl, rfl⟩ := Prod.mk.inj heq
      rw [if_pos rfl]
    · have hold : k ∈ b.map Prod.fst := List.mem_map_of_mem hmem
      have hk : k₀ ≠ k := fun hk ↦ hb.1 (by rwa [hk])
      rw [if_neg hk, ih hb.2 hmem]

theorem findIn_eq_none_of_not_mem {b : List (Key × Value)} (h : k ∉ b.map Prod.fst) :
    findIn k b = none := by
  cases hfind : findIn k b with
  | none => rfl
  | some v => exact absurd (List.mem_map_of_mem (mem_of_findIn hfind)) h

theorem findIn_eraseIn {b : List (Key × Value)} (hb : (b.map Prod.fst).Nodup) (k k' : Key) :
    findIn k' (eraseIn k b) = if k = k' then none else findIn k' b := by
  induction b with
  | nil => simp [eraseIn, findIn]
  | cons e b ih =>
    obtain ⟨k₀, v₀⟩ := e
    rw [List.map_cons, List.nodup_cons] at hb
    rw [eraseIn]
    by_cases hk₀ : k₀ = k
    · rw [if_pos hk₀, findIn]
      by_cases hk : k = k'
      · -- The key was there once, so it is gone.
        rw [if_pos hk]
        exact findIn_eq_none_of_not_mem (by rw [← hk, ← hk₀]; exact hb.1)
      · rw [if_neg hk, if_neg (hk₀ ▸ hk)]
    · rw [if_neg hk₀, findIn, findIn, ih hb.2]
      by_cases hk : k = k'
      · subst hk
        rw [if_neg hk₀, if_pos rfl, if_pos rfl]
      · rw [if_neg hk, if_neg hk]

theorem sublist_eraseIn (k : Key) (b : List (Key × Value)) : (eraseIn k b).Sublist b := by
  induction b with
  | nil => exact .slnil
  | cons e b ih =>
    obtain ⟨k₀, v₀⟩ := e
    rw [eraseIn]
    split
    · exact List.sublist_cons_self _ _
    · exact ih.cons_cons _

theorem length_eraseIn {b : List (Key × Value)} (h : (findIn k b).isSome = true) :
    (eraseIn k b).length + 1 = b.length := by
  induction b with
  | nil => exact nomatch h
  | cons e b ih =>
    obtain ⟨k₀, v₀⟩ := e
    rw [eraseIn]
    by_cases hk₀ : k₀ = k
    · rw [if_pos hk₀, List.length_cons]
    · rw [findIn, if_neg hk₀] at h
      rw [if_neg hk₀, List.length_cons, ih h, List.length_cons]

/-! ### Lawful maps -/

/-- Every entry lies in the bucket that its hash gives. -/
def Placed (bs : Array (List (Key × Value))) : Prop :=
  ∀ (i : Nat) (hi : i < bs.size), ∀ e ∈ bs[i], e.1.hash.toNat % bs.size = i

/-- The entries lie where they are looked for, each key once, and were counted. -/
structure Lawful (m : KeyMap) : Prop where
  placed : Placed m.buckets
  distinct : (m.toList.map Prod.fst).Nodup
  size_eq : m.size = m.toList.length

/-- The entries in front of a bucket and behind it stay where they are when it changes. -/
theorem exists_flatten_modify {α : Type} (bs : Array (List α)) {i : Nat} (hi : i < bs.size) :
    ∃ before behind, bs.toList.flatten = before ++ bs[i] ++ behind ∧
      ∀ f, (bs.modify i f).toList.flatten = before ++ f bs[i] ++ behind := by
  refine ⟨(bs.toList.take i).flatten, (bs.toList.drop (i + 1)).flatten, ?_, fun f ↦ ?_⟩
  · have hlist : bs.toList = bs.toList.take i ++ bs[i] :: bs.toList.drop (i + 1) := by
      rw [← Array.getElem_toList hi, ← List.drop_eq_getElem_cons, List.take_append_drop]
    calc bs.toList.flatten
        = (bs.toList.take i ++ bs[i] :: bs.toList.drop (i + 1)).flatten := by rw [← hlist]
      _ = _ := by simp
  · rw [Array.toList_modify, List.modify_eq_take_cons_drop (by simpa using hi)]
    simp

theorem Placed.modify {bs : Array (List (Key × Value))} (h : Placed bs) {i : Nat}
    {f : List (Key × Value) → List (Key × Value)}
    (hf : ∀ hi : i < bs.size, ∀ e ∈ f bs[i], e.1.hash.toNat % bs.size = i) :
    Placed (bs.modify i f) := by
  intro j hj e he
  rw [Array.size_modify] at hj ⊢
  rw [Array.getElem_modify] at he
  split at he
  case isTrue hij =>
    subst hij
    exact hf hj e he
  case isFalse => exact h j hj e he

theorem find?_eq (m : KeyMap) (k : Key) :
    m.find? k = if hi : m.slot k < m.buckets.size then findIn k m.buckets[m.slot k] else none := by
  rw [find?, Array.getD]
  split <;> rfl

/-- Where something is found there are buckets. -/
theorem slot_lt_of_isSome (h : (m.find? k).isSome = true) : m.slot k < m.buckets.size := by
  rw [find?_eq] at h
  split at h
  case isTrue hi => exact hi
  case isFalse => exact nomatch h

theorem Lawful.bucket_distinct (h : m.Lawful) {i : Nat} (hi : i < m.buckets.size) :
    (m.buckets[i].map Prod.fst).Nodup := by
  obtain ⟨before, behind, hlist, -⟩ := exists_flatten_modify m.buckets hi
  have hdistinct := h.distinct
  rw [toList, hlist, List.map_append, List.map_append] at hdistinct
  exact (List.nodup_append.1 (List.nodup_append.1 hdistinct).1).2.1

/-- What a lawful map finds are its entries. -/
theorem Lawful.find?_eq_some_iff (h : m.Lawful) : m.find? k = some v ↔ (k, v) ∈ m.toList := by
  refine ⟨mem_toList_of_find?, fun hmem ↦ ?_⟩
  obtain ⟨bucket, hbucket, hentry⟩ := List.mem_flatten.1 hmem
  obtain ⟨i, hi, rfl⟩ := List.mem_iff_getElem.1 hbucket
  rw [Array.length_toList] at hi
  rw [Array.getElem_toList] at hentry
  obtain rfl : m.slot k = i := h.placed i hi _ hentry
  rw [find?_eq, dif_pos hi, findIn_eq_some_iff (h.bucket_distinct hi)]
  exact hentry

theorem Lawful.find?_eq_none_iff (h : m.Lawful) : m.find? k = none ↔ k ∉ m.toList.map Prod.fst := by
  rw [Option.eq_none_iff_forall_ne_some, List.mem_map]
  refine ⟨fun hnone ⟨e, he, hk⟩ ↦ hnone e.2 (h.find?_eq_some_iff.2 (hk ▸ he)), fun hnot v hv ↦ ?_⟩
  exact hnot ⟨(k, v), h.find?_eq_some_iff.1 hv, rfl⟩

/-- The same as a computation. -/
def isLawful (m : KeyMap) : Bool :=
  (m.buckets.toList.zipIdx.all fun (b, i) ↦ b.all fun e ↦ e.1.hash.toNat % m.buckets.size = i) &&
    decide (m.toList.map Prod.fst).Nodup && m.size = m.toList.length

theorem lawful_of_isLawful (h : m.isLawful = true) : m.Lawful := by
  simp only [isLawful, Bool.and_eq_true, decide_eq_true_eq, List.all_eq_true] at h
  obtain ⟨⟨hplaced, hdistinct⟩, hsize⟩ := h
  refine ⟨fun i hi e he ↦ ?_, hdistinct, hsize⟩
  have hbucket : (m.buckets[i], i) ∈ m.buckets.toList.zipIdx := by
    rw [List.mem_zipIdx_iff_getElem?, Array.getElem?_toList, Array.getElem?_eq_getElem hi]
  exact hplaced _ hbucket e he

theorem lawful_empty : Lawful {} := ⟨nofun, .nil, rfl⟩

/-! ### Changes -/

/-- A change of the bucket of a key that concerns nothing but the key there concerns nothing else in
the map either. -/
theorem find?_modify (hi : m.slot k < m.buckets.size) {f : List (Key × Value) → List (Key × Value)}
    {o : Option Value} (hf : ∀ k', findIn k' (f m.buckets[m.slot k]) =
      if k = k' then o else findIn k' m.buckets[m.slot k]) (n : Nat) (k' : Key) :
    find? ⟨m.buckets.modify (m.slot k) f, n⟩ k' = if k = k' then o else m.find? k' := by
  have hslot : slot ⟨m.buckets.modify (m.slot k) f, n⟩ k' = m.slot k' := by
    simp only [slot, Array.size_modify]
  rw [find?_eq, find?_eq, hslot]
  simp only [Array.size_modify, Array.getElem_modify]
  split
  case isTrue hi' =>
    by_cases hsame : m.slot k = m.slot k'
    · rw [if_pos hsame]
      simpa only [hsame] using hf k'
    · have hk' : k ≠ k' := fun hk' ↦ hsame (hk' ▸ rfl)
      rw [if_neg hsame, if_neg hk']
  case isFalse hi' =>
    have hk' : k ≠ k' := fun hk' ↦ hi' (hk' ▸ hi)
    rw [if_neg hk']

theorem size_place (bs : Array (List (Key × Value))) (k : Key) (v : Value) :
    (place bs k v).size = bs.size := Array.size_modify

theorem Placed.place {bs : Array (List (Key × Value))} (h : Placed bs) (k : Key) (v : Value) :
    Placed (place bs k v) := by
  refine h.modify fun hi e he ↦ ?_
  rcases List.mem_cons.1 he with rfl | he
  · rfl
  · exact h _ hi e he

theorem flatten_place_perm {bs : Array (List (Key × Value))} (hbs : 0 < bs.size) (k : Key)
    (v : Value) : (place bs k v).toList.flatten.Perm ((k, v) :: bs.toList.flatten) := by
  obtain ⟨before, behind, hlist, hmodify⟩ :=
    exists_flatten_modify bs (Nat.mod_lt k.hash.toNat hbs)
  rw [KeyMap.place, hmodify, hlist]
  simp

/-- Entries put into buckets one after the other. -/
theorem placeAll_spec {bs : Array (List (Key × Value))} (hbs : 0 < bs.size) (h : Placed bs)
    (es : List (Key × Value)) :
    Placed (es.foldl (fun bs e ↦ place bs e.1 e.2) bs) ∧
      (es.foldl (fun bs e ↦ place bs e.1 e.2) bs).size = bs.size ∧
      (es.foldl (fun bs e ↦ place bs e.1 e.2) bs).toList.flatten.Perm
        (es ++ bs.toList.flatten) := by
  induction es generalizing bs with
  | nil => exact ⟨h, rfl, .refl _⟩
  | cons e es ih =>
    obtain ⟨hplaced, hsize, hperm⟩ := ih (by rwa [size_place]) (h.place e.1 e.2)
    refine ⟨hplaced, by rw [List.foldl_cons, hsize, size_place], hperm.trans ?_⟩
    exact ((flatten_place_perm hbs e.1 e.2).append_left es).trans List.perm_middle

theorem rebucket_spec (m : KeyMap) {n : Nat} (hn : 0 < n) :
    Placed (m.rebucket n).buckets ∧ (m.rebucket n).buckets.size = n ∧
      (m.rebucket n).toList.Perm m.toList := by
  have hbuckets : (m.rebucket n).buckets =
      m.toList.foldl (fun bs e ↦ place bs e.1 e.2) (Array.replicate n []) := by
    rw [rebucket, toList, ← Array.foldl_toList, List.foldl_flatten]
  have hempty : Placed (Array.replicate n []) := fun i hi e he ↦ by
    rw [Array.getElem_replicate] at he
    cases he
  obtain ⟨hplaced, hsize, hperm⟩ := placeAll_spec (by simpa using hn) hempty m.toList
  rw [toList, hbuckets]
  refine ⟨hplaced, by rw [hsize, Array.size_replicate], hperm.trans ?_⟩
  simp [Array.toList_replicate]

theorem Lawful.rebucket (h : m.Lawful) {n : Nat} (hn : 0 < n) :
    (m.rebucket n).Lawful := by
  obtain ⟨hplaced, -, hperm⟩ := rebucket_spec m hn
  refine ⟨hplaced, (hperm.map Prod.fst).nodup_iff.2 h.distinct, ?_⟩
  rw [hperm.length_eq, ← h.size_eq]
  rfl

theorem Lawful.grow (h : m.Lawful) :
    m.grow.Lawful ∧ 0 < m.grow.buckets.size ∧ m.grow.toList.Perm m.toList := by
  rw [KeyMap.grow]
  split
  case isTrue =>
    obtain ⟨-, hsize, hperm⟩ := rebucket_spec m (n := 4) (by omega)
    exact ⟨h.rebucket (by omega), by omega, hperm⟩
  case isFalse hpos =>
    split
    case isTrue =>
      obtain ⟨-, hsize, hperm⟩ := rebucket_spec m (n := 2 * m.buckets.size) (by omega)
      exact ⟨h.rebucket (by omega), by omega, hperm⟩
    case isFalse => exact ⟨h, by omega, .refl _⟩

/-- A key without a value is added to the entries. -/
theorem Lawful.insert_of_none (h : m.Lawful) (hk : m.find? k = none) (v : Value) :
    (m.insert k v).Lawful ∧ (m.insert k v).toList.Perm ((k, v) :: m.toList) := by
  obtain ⟨hgrow, hpos, hperm⟩ := h.grow
  have hinsert : m.insert k v = ⟨place m.grow.buckets k v, m.grow.size + 1⟩ := by
    rw [insert, hk]
    rfl
  have hplace : (m.insert k v).toList.Perm ((k, v) :: m.toList) := by
    rw [hinsert]
    exact (flatten_place_perm hpos k v).trans (hperm.cons _)
  have hnew : k ∉ m.toList.map Prod.fst := h.find?_eq_none_iff.1 hk
  refine ⟨⟨?_, ?_, ?_⟩, hplace⟩
  · rw [hinsert]
    exact hgrow.placed.place k v
  · rw [(hplace.map Prod.fst).nodup_iff, List.map_cons, List.nodup_cons]
    exact ⟨hnew, h.distinct⟩
  · rw [hplace.length_eq, List.length_cons, ← hperm.length_eq, ← hgrow.size_eq, hinsert]

/-- A key with a value gets another one. -/
theorem Lawful.insert_of_some (h : m.Lawful) (hk : (m.find? k).isSome = true) (v : Value) :
    (m.insert k v).Lawful ∧ (m.insert k v).toList.map Prod.fst = m.toList.map Prod.fst ∧
      ∀ k', (m.insert k v).find? k' = if k = k' then some v else m.find? k' := by
  have hi := slot_lt_of_isSome hk
  have hbucket : (findIn k m.buckets[m.slot k]).isSome = true := by
    rwa [find?_eq, dif_pos hi] at hk
  have hinsert : m.insert k v = { m with buckets := m.buckets.modify (m.slot k) (setIn k v) } := by
    rw [insert, if_pos hk]
  obtain ⟨before, behind, hlist, hmodify⟩ := exists_flatten_modify m.buckets hi
  have hkeys : (m.insert k v).toList.map Prod.fst = m.toList.map Prod.fst := by
    rw [hinsert, toList, toList, hmodify, hlist]
    simp only [List.map_append, map_fst_setIn hbucket]
  refine ⟨⟨?_, by rw [hkeys]; exact h.distinct, ?_⟩, hkeys, fun k' ↦ ?_⟩
  · rw [hinsert]
    refine h.placed.modify fun hi e he ↦ ?_
    -- The new entry has a key that was there before.
    have hmem : e.1 ∈ m.buckets[m.slot k].map Prod.fst := by
      rw [← map_fst_setIn (v := v) hbucket]
      exact List.mem_map_of_mem he
    obtain ⟨e', he', hfst⟩ := List.mem_map.1 hmem
    rw [← hfst]
    exact h.placed _ hi e' he'
  · have hlength := congrArg List.length hkeys
    rw [List.length_map, List.length_map] at hlength
    rw [hlength, ← h.size_eq, hinsert]
  · rw [hinsert]
    exact find?_modify hi (fun k' ↦ findIn_setIn k k' v _) m.size k'

theorem Lawful.insert (h : m.Lawful) (k : Key) (v : Value) : (m.insert k v).Lawful := by
  cases hk : m.find? k with
  | none => exact (h.insert_of_none hk v).1
  | some w => exact (h.insert_of_some (by rw [hk]; rfl) v).1

theorem Lawful.find?_insert (h : m.Lawful) (k : Key) (v : Value) (k' : Key) :
    (m.insert k v).find? k' = if k = k' then some v else m.find? k' := by
  cases hk : m.find? k with
  | some w => exact (h.insert_of_some (by rw [hk]; rfl) v).2.2 k'
  | none =>
    obtain ⟨hlawful, hperm⟩ := h.insert_of_none hk v
    refine Option.ext fun w ↦ ?_
    rw [hlawful.find?_eq_some_iff, hperm.mem_iff, List.mem_cons, Prod.mk.injEq]
    by_cases hk' : k = k'
    · subst hk'
      have hnew : (k, w) ∉ m.toList := fun hmem ↦
        h.find?_eq_none_iff.1 hk (List.mem_map_of_mem hmem)
      rw [if_pos rfl, or_iff_left hnew]
      simp [eq_comm]
    · have hne : ¬(k' = k ∧ w = v) := fun hboth ↦ hk' hboth.1.symm
      rw [if_neg hk', or_iff_right hne, h.find?_eq_some_iff]

theorem erase_of_none (hk : m.find? k = none) : m.erase k = m := by
  rw [erase, hk]
  rfl

/-- A key with a value loses it. -/
theorem Lawful.erase_of_some (h : m.Lawful) (hk : (m.find? k).isSome = true) :
    (m.erase k).Lawful ∧ ∀ k', (m.erase k).find? k' = if k = k' then none else m.find? k' := by
  have hi := slot_lt_of_isSome hk
  have hbucket : (findIn k m.buckets[m.slot k]).isSome = true := by
    rwa [find?_eq, dif_pos hi] at hk
  have herase : m.erase k = ⟨m.buckets.modify (m.slot k) (eraseIn k), m.size - 1⟩ := by
    rw [erase, if_pos hk]
  obtain ⟨before, behind, hlist, hmodify⟩ := exists_flatten_modify m.buckets hi
  have hentries : (m.erase k).toList = before ++ eraseIn k m.buckets[m.slot k] ++ behind := by
    rw [herase, toList, hmodify]
  refine ⟨⟨?_, ?_, ?_⟩, fun k' ↦ ?_⟩
  · rw [herase]
    exact h.placed.modify fun hi e he ↦ h.placed _ hi e ((sublist_eraseIn k _).mem he)
  · have hdistinct := h.distinct
    rw [toList, hlist] at hdistinct
    rw [hentries]
    refine hdistinct.sublist (List.Sublist.map _ ?_)
    exact (List.Sublist.append_left (sublist_eraseIn k _) _).append_right _
  · have hsize := h.size_eq
    have hlength := length_eraseIn hbucket
    rw [toList, hlist, List.length_append, List.length_append] at hsize
    rw [hentries, List.length_append, List.length_append, herase]
    simp only
    omega
  · rw [herase]
    exact find?_modify hi (findIn_eraseIn (h.bucket_distinct hi) k) (m.size - 1) k'

theorem Lawful.erase (h : m.Lawful) (k : Key) : (m.erase k).Lawful := by
  cases hk : m.find? k with
  | none => rwa [erase_of_none hk]
  | some v => exact (h.erase_of_some (by rw [hk]; rfl)).1

theorem Lawful.find?_erase (h : m.Lawful) (k k' : Key) :
    (m.erase k).find? k' = if k = k' then none else m.find? k' := by
  cases hk : m.find? k with
  | some v => exact (h.erase_of_some (by rw [hk]; rfl)).2 k'
  | none =>
    rw [erase_of_none hk]
    split
    case isTrue hk' => rw [← hk', hk]
    case isFalse => rfl

end KeyMap

end MacroStream.Script
