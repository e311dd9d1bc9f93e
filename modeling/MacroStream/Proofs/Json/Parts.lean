import MacroStream.Json.Decode

/-!
# Parts of JSON values

What stands in a value, and what follows for what is made of it. A property of values is hereditary
if arrays and objects have it exactly where all that is directly in them has it: so objects keep it
that are put together from fields, and a record that is read from a value with the property is only
ever given values that have it.
-/

namespace MacroStream.Json

/-- A value is the other one, or stands somewhere in it. -/
inductive Contains : Json → Json → Prop
  | self (j : Json) : Contains j j
  | item {js : List Json} {j p : Json} (hj : j ∈ js) (hp : Contains j p) : Contains (.arr js) p
  | field {es : List (String × Json)} {e : String × Json} {p : Json} (he : e ∈ es)
      (hp : Contains e.2 p) : Contains (.fields es) p

variable {js : List Json} {es : List (String × Json)} {j : Json} {e : String × Json}

@[simp]
theorem contains_bool_iff {b : Bool} {p : Json} : (bool b).Contains p ↔ p = bool b :=
  ⟨fun | .self _ => rfl, fun h ↦ h ▸ .self _⟩

@[simp]
theorem contains_int_iff {n : Int} {p : Json} : (int n).Contains p ↔ p = int n :=
  ⟨fun | .self _ => rfl, fun h ↦ h ▸ .self _⟩

@[simp]
theorem contains_float_iff {x : Float} {p : Json} : (float x).Contains p ↔ p = float x :=
  ⟨fun | .self _ => rfl, fun h ↦ h ▸ .self _⟩

@[simp]
theorem contains_str_iff {s : String} {p : Json} : (str s).Contains p ↔ p = str s :=
  ⟨fun | .self _ => rfl, fun h ↦ h ▸ .self _⟩

@[simp]
theorem contains_arr_iff {p : Json} :
    (arr js).Contains p ↔ p = arr js ∨ ∃ j ∈ js, j.Contains p := by
  constructor
  · rintro (_ | ⟨hj, hp⟩)
    · exact .inl rfl
    · exact .inr ⟨_, hj, hp⟩
  · rintro (rfl | ⟨j, hj, hp⟩)
    · exact .self _
    · exact .item hj hp

@[simp]
theorem contains_fields_iff {p : Json} :
    (fields es).Contains p ↔ p = fields es ∨ ∃ e ∈ es, e.2.Contains p := by
  constructor
  · rintro (_ | _ | ⟨he, hp⟩)
    · exact .inl rfl
    · exact .inr ⟨_, he, hp⟩
  · rintro (rfl | ⟨e, he, hp⟩)
    · exact .self _
    · exact .field he hp

/-! ### Hereditary properties -/

/-- Arrays and objects have a property exactly if all that is in them has it. -/
structure Hereditary (P : Json → Prop) : Prop where
  arr_iff : ∀ js, P (arr js) ↔ ∀ j ∈ js, P j
  fields_iff : ∀ es, P (fields es) ↔ ∀ e ∈ es, P e.2

theorem mem_of_mem_insertField {k : String} {v : Json} (h : e ∈ insertField k v es) :
    e = (k, v) ∨ e ∈ es := by
  induction es with
  | nil => exact .inl (List.mem_singleton.1 h)
  | cons e' es ih =>
    rw [insertField] at h
    split at h
    · exact (List.mem_cons.1 h).imp_right (List.mem_cons_of_mem _)
    · split at h
      · exact List.mem_cons.1 h
      · rcases List.mem_cons.1 h with rfl | h
        · exact .inr List.mem_cons_self
        · exact (ih h).imp_right (List.mem_cons_of_mem _)

/-- An object has no other fields than those that it is made of. -/
theorem mem_of_mem_foldl_insertField {acc : List (String × Json)}
    (h : e ∈ es.foldl (fun acc (k, v) ↦ insertField k v acc) acc) : e ∈ es ∨ e ∈ acc := by
  induction es generalizing acc with
  | nil => exact .inr h
  | cons e' es ih =>
    rcases ih h with h | h
    · exact .inl (List.mem_cons_of_mem _ h)
    · rcases mem_of_mem_insertField h with rfl | h
      · exact .inl List.mem_cons_self
      · exact .inr h

theorem Hereditary.obj {P : Json → Prop} (hP : Hereditary P) (h : ∀ e ∈ es, P e.2) :
    P (obj es) := by
  refine (hP.fields_iff _).2 fun e he ↦ ?_
  rcases mem_of_mem_foldl_insertField he with he | he
  · exact h e he
  · exact nomatch he

/-! ### Whole numbers that fit a word -/

/-- Each whole number in a value fits a signed 64-bit word. -/
def FitsWord (j : Json) : Prop := ∀ n, j.Contains (.int n) → fitsInt64 n = true

theorem fitsWord_bool (b : Bool) : (bool b).FitsWord := by
  simp [FitsWord]

theorem fitsWord_float (x : Float) : (float x).FitsWord := by
  simp [FitsWord]

theorem fitsWord_str (s : String) : (str s).FitsWord := by
  simp [FitsWord]

theorem fitsWord_int_iff {n : Int} : (int n).FitsWord ↔ fitsInt64 n = true := by
  simp [FitsWord]

theorem hereditary_fitsWord : Hereditary FitsWord where
  arr_iff js := by
    refine ⟨fun h j hj n hn ↦ h n (.item hj hn), fun h n hn ↦ ?_⟩
    obtain hn | ⟨j, hj, hn⟩ := contains_arr_iff.1 hn
    · exact nomatch hn
    · exact h j hj n hn
  fields_iff es := by
    refine ⟨fun h e he n hn ↦ h n (.field he hn), fun h n hn ↦ ?_⟩
    obtain hn | ⟨e, he, hn⟩ := contains_fields_iff.1 hn
    · exact nomatch hn
    · exact h e he n hn

/-! ### Records -/

theorem bind_eq_ok_iff {α β : Type} {x : Decoded α} {f : α → Decoded β} {b : β} :
    x >>= f = .ok b ↔ ∃ a, x = .ok a ∧ f a = .ok b := by
  rcases x with e | a
  · simp [bind, Except.bind]
  · simp [bind, Except.bind]

/-- Nothing but a whole number within the range is taken for one. -/
theorem eq_int_of_whole {kind : String} {low high n : Int} (h : whole kind low high j = .ok n) :
    j = int n ∧ low ≤ n ∧ n ≤ high := by
  cases j with
  | int k =>
    rw [whole] at h
    split at h
    case isTrue hrange =>
      obtain rfl := Except.ok.inj h
      rw [Bool.and_eq_true, decide_eq_true_eq, decide_eq_true_eq] at hrange
      exact ⟨rfl, hrange⟩
    case isFalse => exact nomatch h
  | _ => exact nomatch h

section Records

variable {ρ α : Type} {P : Json → Prop} {I : ρ → Prop} {spec : List (Field ρ)}
  {surplus : Surplus} {r r' : ρ}

/-- Fields that store values with the property `P` keep the property `I` of records. -/
def Keeps (P : Json → Prop) (I : ρ → Prop) (spec : List (Field ρ)) : Prop :=
  ∀ f ∈ spec, ∀ v r r', P v → I r → f.store v r = .ok r' → I r'

theorem keeps_nil : Keeps P I [] :=
  fun _ hf ↦ nomatch hf

theorem Keeps.cons_optional {name : String} {read : Json → Decoded α} {put : α → ρ → ρ}
    (hput : ∀ v a r, P v → read v = .ok a → I r → I (put a r)) (hkeeps : Keeps P I spec) :
    Keeps P I (.optional name read put :: spec) := by
  refine List.forall_mem_cons.2 ⟨fun v r r' hv hr h ↦ ?_, hkeeps⟩
  obtain ⟨a, ha, hr'⟩ := bind_eq_ok_iff.1 h
  exact Except.ok.inj hr' ▸ hput v a r hv ha hr

theorem Keeps.storeFields (hkeeps : Keeps P I spec) (hes : ∀ e ∈ es, P e.2) (hr : I r)
    (h : storeFields spec es r = .ok r') : I r' := by
  induction es generalizing r with
  | nil => exact Except.ok.inj h ▸ hr
  | cons e es ih =>
    obtain ⟨k, v⟩ := e
    obtain ⟨hv, hes⟩ := List.forall_mem_cons.1 hes
    rw [Json.storeFields] at h
    split at h
    case h_1 f hf =>
      obtain ⟨r₁, hstore, h⟩ := bind_eq_ok_iff.1 h
      exact ih hes (hkeeps f (List.mem_of_find?_eq_some hf) v r r₁ hv hr hstore) h
    case h_2 => exact ih hes hr h

theorem Keeps.storeItems {expected : String} {index : Nat} (hkeeps : Keeps P I spec)
    (hjs : ∀ j ∈ js, P j) (hr : I r)
    (h : storeItems surplus expected index spec js r = .ok r') : I r' := by
  induction spec generalizing index js r with
  | nil =>
    cases js with
    | nil => exact Except.ok.inj h ▸ hr
    | cons j js =>
      cases surplus with
      | refused => exact nomatch h
      | ignored => exact Except.ok.inj h ▸ hr
  | cons f fs ih =>
    obtain ⟨hf, hfs⟩ := List.forall_mem_cons.1 hkeeps
    cases js with
    | nil =>
      rw [Json.storeItems] at h
      split at h
      · exact nomatch h
      · exact ih hfs hjs hr h
    | cons v vs =>
      obtain ⟨hv, hvs⟩ := List.forall_mem_cons.1 hjs
      obtain ⟨r₁, hstore, h⟩ := bind_eq_ok_iff.1 h
      exact ih hfs hvs (hf v r r₁ hv hr hstore) h

/-- A record that is read from a value with a hereditary property has what its fields keep. -/
theorem Keeps.record (hP : Hereditary P) (hkeeps : Keeps P I spec) {name : String} (hr : I r)
    (hj : P j) (h : record surplus name spec r j = .ok r') : I r' := by
  cases j with
  | fields es =>
    obtain ⟨r₁, hstored, h⟩ := bind_eq_ok_iff.1 h
    have hr₁ := hkeeps.storeFields ((hP.fields_iff es).1 hj) hr hstored
    split at h
    · exact nomatch h
    · exact Except.ok.inj h ▸ hr₁
  | arr js => exact hkeeps.storeItems ((hP.arr_iff js).1 hj) hr h
  | _ => exact nomatch h

end Records

end MacroStream.Json
