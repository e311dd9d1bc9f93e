import Mathlib.Data.List.Forall2
import Mathlib.Data.List.Perm.Subperm
import Mathlib.Logic.Relation
import MacroStream.Proofs.Script.RoundTrip

/-!
# What crosses to the host

`Heap.Crosses` says what a value is for the host, and `Heap.Barred` says of which values the host
cannot make anything. Both speak of the tables in a heap as they are, and say nothing about the
order in which somebody looks through them. A value is one or the other and never both, and
`Heap.toJson` finds out which (`toJson_eq_ok_iff`, `exists_toJson_eq_error_iff`).

Two things have to be seen for this. The tables that are being looked through stand inside each
other, so one that is met again holds itself; and they are distinct tables of the heap, so there are
never more of them than fuel (`IsWithin.lt_fuel`). In the other direction, the tables of a value
that crosses are put together from the inside, so none of them holds itself (`Crosses.acc`).
-/

namespace MacroStream.Script

open Relation

/-! ### Lists side by side -/

section Lists

variable {α β : Type} {R : α → β → Prop} {xs : List α} {ys ys' : List β}

theorem exists_of_forall₂ {x : α} (hall : List.Forall₂ R xs ys) (hx : x ∈ xs) : ∃ y, R x y := by
  induction hall with
  | nil => exact nomatch hx
  | cons hxy _ ih =>
    rcases List.mem_cons.1 hx with rfl | hx
    · exact ⟨_, hxy⟩
    · exact ih hx

theorem eq_of_forall₂ (hall : List.Forall₂ (fun x y ↦ ∀ y', R x y' → y' = y) xs ys)
    (hall' : List.Forall₂ R xs ys') : ys' = ys := by
  induction hall generalizing ys' with
  | nil => exact List.forall₂_nil_left_iff.1 hall'
  | cons hy _ ih =>
    cases hall' with
    | cons hy' hall' => rw [hy _ hy', ih hall']

end Lists

namespace Exchange

/-! ### The items of a table -/

/-- The items of a table up to its first nil. -/
def itemsOf (t : Table) : List Value := items t (t.entries.size + 1) 1

end Exchange

namespace Heap

open Exchange

variable {h : Heap} {v w : Value} {j j' : Json} {a : Nat}

/-! ### Two kinds of values -/

/-- What crosses with a table: its items if it is an array, and else what its keys have. -/
def elements (h : Heap) (a : Nat) : List Value :=
  if isArray h a then itemsOf (h.table a) else (h.table a).toList.map Prod.snd

/-- A value crosses as an element of the other one. -/
def IsElement (h : Heap) (w v : Value) : Prop := ∃ a, v = .table a ∧ w ∈ h.elements a

/-- What a value is for the host. -/
inductive Crosses (h : Heap) : Value → Json → Prop
  | nil : Crosses h .nil .null
  | bool (b : Bool) : Crosses h (.bool b) (.bool b)
  | int (n : Int64) : Crosses h (.int n) (.int n.toInt)
  | float (x : Float) : Crosses h (.float x) (.ofFloat x)
  | text (s : String) : Crosses h (.ofString s) (.str s)
  | array {a : Nat} {js : List Json} (ha : isArray h a = true)
      (hitems : List.Forall₂ (Crosses h) (h.elements a) js) : Crosses h (.table a) (.arr js)
  | object {a : Nat} {es : List (String × Json)} (ha : isArray h a = false)
      (hkeys : (h.table a).toList.map Prod.fst = (es.map Prod.fst).map textKey)
      (hvalues : List.Forall₂ (Crosses h) (h.elements a) (es.map Prod.snd)) :
      Crosses h (.table a) (.obj es)

/-- The host can make nothing of a value. -/
inductive Barred (h : Heap) : Value → Prop
  | function (a : Nat) : Barred h (.function a)
  | primitive (f : Primitive) : Barred h (.primitive f)
  | thread (a : Nat) : Barred h (.thread a)
  | userdata (a : Nat) : Barred h (.userdata a)
  /-- A string that is no text. -/
  | bytes {s : ByteArray} (hs : ∀ t : String, s ≠ t.toUTF8) : Barred h (.str s)
  /-- An object with a key that is no text. -/
  | key {a : Nat} {k : Key} (ha : isArray h a = false) (hk : k ∈ (h.table a).toList.map Prod.fst)
      (hname : ∀ name, k ≠ textKey name) : Barred h (.table a)
  /-- A table that holds itself, however far inside. -/
  | recursive {a : Nat} (ha : TransGen h.IsElement (.table a) (.table a)) : Barred h (.table a)
  /-- A table that holds such a value. -/
  | within {v w : Value} (hw : h.IsElement w v) (hbarred : Barred h w) : Barred h v

/-- What holds of tables that cross if it holds of their elements, and of everything else that
crosses, holds of all that crosses. -/
@[elab_as_elim]
theorem Crosses.induction {P : ∀ v j, h.Crosses v j → Prop} (nil : P _ _ .nil)
    (bool : ∀ b, P _ _ (.bool b)) (int : ∀ n, P _ _ (.int n)) (float : ∀ x, P _ _ (.float x))
    (text : ∀ s, P _ _ (.text s))
    (array : ∀ {a js} ha hitems, List.Forall₂ (fun v j ↦ ∃ hv, P v j hv) (h.elements a) js →
      P (.table a) (.arr js) (.array ha hitems))
    (object : ∀ {a} {es : List (String × Json)} ha hkeys hvalues,
      List.Forall₂ (fun v j ↦ ∃ hv, P v j hv) (h.elements a) (es.map Prod.snd) →
      P (.table a) (.obj es) (.object ha hkeys hvalues))
    {v : Value} {j : Json} (hv : h.Crosses v j) : P v j hv :=
  @Crosses.rec h P (fun vs js _ ↦ List.Forall₂ (fun v j ↦ ∃ hv, P v j hv) vs js)
    nil bool int float text array object
    .nil (fun hv _ ih ihs ↦ .cons ⟨hv, ih⟩ ihs) v j hv

/-! ### No value is of both kinds -/

theorem isElement_table_iff : h.IsElement w (.table a) ↔ w ∈ h.elements a :=
  ⟨fun ⟨_, heq, hw⟩ ↦ Value.table.inj heq ▸ hw, fun hw ↦ ⟨a, rfl, hw⟩⟩

/-- The elements of what crosses cross, too. -/
theorem Crosses.element (hv : h.Crosses v j) (hw : h.IsElement w v) : ∃ i, h.Crosses w i := by
  obtain ⟨a, rfl, hmem⟩ := hw
  cases hv with
  | array _ hitems => exact exists_of_forall₂ hitems hmem
  | object _ _ hvalues => exact exists_of_forall₂ hvalues hmem

/-- Every way into what crosses comes to an end. -/
theorem Crosses.acc (hv : h.Crosses v j) : Acc h.IsElement v := by
  induction hv using Crosses.induction with
  | array _ _ ih | object _ _ _ ih =>
    refine ⟨_, fun w hw ↦ ?_⟩
    obtain ⟨_, -, hacc⟩ := exists_of_forall₂ ih (isElement_table_iff.1 hw)
    exact hacc
  | nil | bool | int | float | text => exact ⟨_, fun w ⟨_, heq, _⟩ ↦ nomatch heq⟩

theorem Crosses.not_transGen (hv : h.Crosses v j) : ¬TransGen h.IsElement v v := by
  intro hcycle
  -- Going round and round would be a way in without an end.
  have hacc := hv.acc.transGen
  clear hv
  induction hacc with
  | intro v _ ih => exact ih v hcycle hcycle

theorem Barred.not_crosses (hv : h.Barred v) (j : Json) : ¬h.Crosses v j := by
  induction hv generalizing j with
  | function | primitive | thread | userdata => exact nofun
  | bytes hs =>
    intro hcross
    generalize hv : Value.str _ = v at hcross
    cases hcross with
    | text t => exact hs t (Value.str.inj hv)
    | _ => exact nomatch hv
  | key ha hk hname =>
    intro hcross
    cases hcross with
    | array ha' => exact nomatch ha.symm.trans ha'
    | object _ hkeys =>
      rw [hkeys] at hk
      obtain ⟨name, -, rfl⟩ := List.mem_map.1 hk
      exact hname name rfl
  | recursive ha => exact fun hcross ↦ hcross.not_transGen ha
  | within hw _ ih =>
    intro hcross
    obtain ⟨i, hi⟩ := hcross.element hw
    exact ih i hi

/-- A value is one thing for the host. -/
theorem Crosses.unique (hv : h.Crosses v j) (hv' : h.Crosses v j') : j' = j := by
  induction hv using Crosses.induction generalizing j' with
  | nil | bool | int | float =>
    cases hv'
    rfl
  | text s =>
    generalize hs : Value.ofString s = v at hv'
    cases hv' with
    | text t => rw [String.toByteArray_inj.1 (Value.str.inj hs)]
    | _ => exact nomatch hs
  | array ha _ ih =>
    cases hv' with
    | array _ hitems => rw [eq_of_forall₂ (ih.imp fun _ _ ⟨_, hsame⟩ _ ↦ hsame) hitems]
    | object ha' => exact nomatch ha.symm.trans ha'
  | @object a es ha hkeys _ ih =>
    cases hv' with
    | array ha' => exact nomatch ha.symm.trans ha'
    | @object _ es' _ hkeys' hvalues =>
      have hnames : es'.map Prod.fst = es.map Prod.fst :=
        textKey_injective.list_map (hkeys'.symm.trans hkeys)
      have hparts := eq_of_forall₂ (ih.imp fun _ _ ⟨_, hsame⟩ _ ↦ hsame) hvalues
      rw [← List.zip_unzip es', List.unzip_eq_map, hnames, hparts, ← List.unzip_eq_map,
        List.zip_unzip]

end Heap

/-! ### One table after the other -/

namespace Exchange

variable {h : Heap} {v w : Value} {a fuel : Nat} {path : List Nat}

/-- Whatever comes out has `P`, and if nothing does, then there is the reason `Q`. -/
def Settles {ε α : Type} (x : Except ε α) (P : α → Prop) (Q : Prop) : Prop :=
  match x with
  | .ok a => P a
  | .error _ => Q

theorem Settles.bind {ε α β : Type} {x : Except ε α} {f : α → Except ε β} {P : α → Prop}
    {P' : β → Prop} {Q : Prop} (hx : Settles x P Q) (hf : ∀ a, P a → Settles (f a) P' Q) :
    Settles (x >>= f) P' Q := by
  cases x with
  | ok a => exact hf a hx
  | error _ => exact hx

theorem Settles.imp {ε α : Type} {x : Except ε α} {P : α → Prop} {Q Q' : Prop}
    (hx : Settles x P Q) (hQ : Q → Q') : Settles x P Q' := by
  cases x with
  | ok a => exact hx
  | error _ => exact hQ hx

theorem Settles.eq_ok_iff {ε α : Type} {x : Except ε α} {P : α → Prop} {Q : Prop} {a : α}
    (hx : Settles x P Q) (hnot : P a → ¬Q) (hunique : ∀ a', P a → P a' → a' = a) :
    x = .ok a ↔ P a := by
  cases x with
  | ok a' => exact ⟨fun ha ↦ Except.ok.inj ha ▸ hx, fun ha ↦ congrArg _ (hunique a' ha hx)⟩
  | error _ => exact ⟨nofun, fun ha ↦ absurd hx (hnot ha)⟩

theorem Settles.exists_eq_error_iff {ε α : Type} {x : Except ε α} {P : α → Prop} {Q : Prop}
    (hx : Settles x P Q) (hnot : ∀ a, P a → ¬Q) : (∃ e, x = .error e) ↔ Q := by
  cases x with
  | ok a => exact ⟨nofun, fun hQ ↦ absurd hQ (hnot a hx)⟩
  | error e => exact ⟨fun _ ↦ hx, fun _ ↦ ⟨e, rfl⟩⟩

theorem decode?_eq_some_iff {s : ByteArray} {t : String} :
    Text.decode? s = some t ↔ s = t.toUTF8 := by
  constructor
  · intro hs
    rw [Text.decode?, String.fromUTF8?] at hs
    split at hs
    case isTrue hvalid => exact congrArg String.toUTF8 (Option.some.inj hs)
    case isFalse => cases hs
  · rintro rfl
    exact decode?_toUTF8 t

theorem decode?_eq_none_iff {s : ByteArray} :
    Text.decode? s = none ↔ ∀ t : String, s ≠ t.toUTF8 := by
  simp only [Option.eq_none_iff_forall_ne_some, ne_eq, decode?_eq_some_iff]

theorem settles_keyText (h : Heap) (isFirst : Bool) (k : Key) :
    Settles (keyText h isFirst k.toValue) (k = textKey ·) (∀ name, k ≠ textKey name) := by
  cases k with
  | str s =>
    rw [Key.toValue, keyText]
    cases hs : Text.decode? s with
    | some t => exact congrArg Key.str (decode?_eq_some_iff.1 hs)
    | none =>
      have hname (name : String) : Key.str s ≠ textKey name := fun heq ↦
        decode?_eq_none_iff.1 hs name (Key.str.inj heq)
      cases isFirst <;> exact hname
  | _ =>
    intro name hname
    cases hname

theorem settles_refuseRecursion (path : List Nat) (v : Value) :
    Settles (refuseRecursion path v) (fun _ ↦ ∀ a ∈ path, v ≠ .table a)
      (∃ a ∈ path, v = .table a) := by
  cases v with
  | table a =>
    rw [refuseRecursion]
    by_cases ha : a ∈ path
    · rw [if_pos (List.contains_iff_mem.2 ha)]
      exact ⟨a, ha, rfl⟩
    · rw [if_neg (mt List.contains_iff_mem.1 ha)]
      exact fun b hb heq ↦ ha (Value.table.inj heq ▸ hb)
  | _ =>
    intro a _ ha
    cases ha

/-- A value stands inside all tables of a path, which are different ones, and there is fuel for the
other tables. -/
structure IsWithin (h : Heap) (fuel : Nat) (path : List Nat) (v : Value) : Prop where
  nodup : path.Nodup
  fuel_eq : fuel + path.length = h.tables.size + 1
  transGen : ∀ a ∈ path, TransGen h.IsElement v (.table a)

/-- Where there is no table there are no elements. -/
theorem lt_size_of_mem_elements (hw : w ∈ h.elements a) : a < h.tables.size := by
  by_contra hsize
  rw [Heap.elements, isArray, isMarked, Heap.table_of_size_le (Nat.not_lt.1 hsize),
    Table.listed_empty.length_eq] at hw
  cases hw

theorem IsWithin.lt_fuel (hv : IsWithin h fuel path v) : 0 < fuel := by
  -- A table of the path has an element, so it is one of the heap.
  have hsub : path ⊆ List.range h.tables.size := by
    intro b hb
    obtain ⟨w, -, a, heq, hw⟩ := TransGen.tail'_iff.1 (hv.transGen b hb)
    obtain rfl := Value.table.inj heq
    exact List.mem_range.2 (lt_size_of_mem_elements hw)
  have hle := (List.subperm_of_subset hv.nodup hsub).length_le
  have hfuel := hv.fuel_eq
  rw [List.length_range] at hle
  omega

theorem IsWithin.element (ha : IsWithin h (fuel + 1) path (.table a)) (hnew : a ∉ path)
    (hw : w ∈ h.elements a) : IsWithin h fuel (a :: path) w := by
  have hstep : h.IsElement w (.table a) := Heap.isElement_table_iff.2 hw
  refine ⟨List.nodup_cons.2 ⟨hnew, ha.nodup⟩, ?_, List.forall_mem_cons.2 ⟨.single hstep, fun b hb ↦
    .head hstep (ha.transGen b hb)⟩⟩
  have hfuel := ha.fuel_eq
  rw [List.length_cons]
  omega

/-- A table that is met again holds itself. -/
theorem IsWithin.settles_refuseRecursion (hv : IsWithin h fuel path v) :
    Settles (refuseRecursion path v) (fun _ ↦ ∀ a ∈ path, v ≠ .table a) (h.Barred v) := by
  refine (Exchange.settles_refuseRecursion path v).imp ?_
  rintro ⟨a, ha, rfl⟩
  exact .recursive (hv.transGen a ha)

/-- Values that stand inside a path are looked through rightly. -/
def Sees (h : Heap) (fuel : Nat) (path : List Nat) : Prop :=
  ∀ v, IsWithin h fuel path v → (∀ a ∈ path, v ≠ .table a) →
    Settles (toJson h fuel path v) (h.Crosses v) (h.Barred v)

theorem Sees.toItems (hsees : Sees h fuel path) {vs : List Value}
    (hvs : ∀ v ∈ vs, IsWithin h fuel path v) :
    Settles (toItems h fuel path vs) (List.Forall₂ h.Crosses vs) (∃ v ∈ vs, h.Barred v) := by
  induction vs with
  | nil =>
    rw [Exchange.toItems]
    exact .nil
  | cons v vs ih =>
    obtain ⟨hv, hvs⟩ := List.forall_mem_cons.1 hvs
    have hfirst (hb : h.Barred v) : ∃ w ∈ v :: vs, h.Barred w := List.exists_mem_cons_of vs hb
    rw [Exchange.toItems]
    refine (hv.settles_refuseRecursion.imp hfirst).bind fun _ hnew ↦ ?_
    refine ((hsees v hv hnew).imp hfirst).bind fun j hj ↦ ?_
    exact ((ih hvs).imp List.exists_mem_cons_of_exists).bind fun js hjs ↦ .cons hj hjs

theorem Sees.toFields (hsees : Sees h fuel path) {ps : List (Key × Value)}
    (hps : ∀ v ∈ ps.map Prod.snd, IsWithin h fuel path v) (isFirst : Bool) :
    Settles (toFields h fuel path isFirst (ps.map fun (k, v) ↦ (k.toValue, v)))
      (fun es ↦ ps.map Prod.fst = (es.map Prod.fst).map textKey ∧
        List.Forall₂ h.Crosses (ps.map Prod.snd) (es.map Prod.snd))
      ((∃ k ∈ ps.map Prod.fst, ∀ name, k ≠ textKey name) ∨ ∃ v ∈ ps.map Prod.snd, h.Barred v) := by
  induction ps generalizing isFirst with
  | nil =>
    rw [List.map_nil, Exchange.toFields]
    exact ⟨rfl, .nil⟩
  | cons p ps ih =>
    obtain ⟨k, v⟩ := p
    obtain ⟨hv, hps⟩ := List.forall_mem_cons.1 hps
    have hunnamed (hname : ∀ name, k ≠ textKey name) :
        ∃ k' ∈ k :: ps.map Prod.fst, ∀ name, k' ≠ textKey name :=
      List.exists_mem_cons_of _ hname
    have hbarred (hb : h.Barred v) : ∃ w ∈ v :: ps.map Prod.snd, h.Barred w :=
      List.exists_mem_cons_of _ hb
    -- A key that is refused as a table of the path has no name, either.
    have htable : (∃ a ∈ path, k.toValue = .table a) → ∀ name, k ≠ textKey name := by
      rintro ⟨a, -, ha⟩ name rfl
      cases ha
    rw [List.map_cons, Exchange.toFields]
    refine ((settles_refuseRecursion path k.toValue).imp (.inl ∘ hunnamed ∘ htable)).bind
      fun _ _ ↦ ?_
    refine (hv.settles_refuseRecursion.imp (.inr ∘ hbarred)).bind fun _ hnew ↦ ?_
    refine ((settles_keyText h isFirst k).imp (.inl ∘ hunnamed)).bind fun name hname ↦ ?_
    refine ((hsees v hv hnew).imp (.inr ∘ hbarred)).bind fun j hj ↦ ?_
    refine ((ih hps false).imp ?_).bind fun es hes ↦ ⟨?_, .cons hj hes.2⟩
    · exact Or.imp List.exists_mem_cons_of_exists List.exists_mem_cons_of_exists
    · rw [List.map_cons, List.map_cons, List.map_cons, hname, hes.1]

theorem Sees.table (hsees : Sees h fuel (a :: path))
    (ha : IsWithin h (fuel + 1) path (.table a)) (hnew : a ∉ path) :
    Settles (toJson h (fuel + 1) path (.table a)) (h.Crosses (.table a)) (h.Barred (.table a)) := by
  have hwithin (w : Value) (hw : w ∈ h.elements a) := ha.element hnew hw
  have hbarred : (∃ w ∈ h.elements a, h.Barred w) → h.Barred (.table a) := fun ⟨w, hw, hb⟩ ↦
    .within (Heap.isElement_table_iff.2 hw) hb
  rw [toJson]
  by_cases harray : isArray h a
  · have helements : items (h.table a) ((h.table a).entries.size + 1) 1 = h.elements a := by
      rw [Heap.elements, if_pos harray, itemsOf]
    rw [if_pos harray, helements]
    exact ((hsees.toItems hwithin).imp hbarred).bind fun js hjs ↦ .array harray hjs
  · have helements : h.elements a = (h.table a).toList.map Prod.snd := by
      rw [Heap.elements, if_neg harray]
    have hobject : isArray h a = false := Bool.eq_false_iff.2 harray
    rw [helements] at hwithin hbarred
    rw [if_neg harray]
    refine ((hsees.toFields hwithin true).imp ?_).bind fun es hes ↦ ?_
    · rintro (⟨k, hk, hname⟩ | hb)
      · exact .key hobject hk hname
      · exact hbarred hb
    · exact .object hobject hes.1 (helements ▸ hes.2)

/-- The tables of a path are all different, so there is always fuel for one more. -/
theorem sees (h : Heap) (fuel : Nat) (path : List Nat) : Sees h fuel path := by
  induction fuel generalizing path with
  | zero => exact fun _ hv _ ↦ absurd hv.lt_fuel (Nat.lt_irrefl 0)
  | succ fuel ih =>
    intro v hv hnew
    cases v with
    | table a => exact (ih (a :: path)).table hv fun ha ↦ hnew a ha rfl
    | str s =>
      rw [toJson]
      cases hs : Text.decode? s with
      | some t =>
        rw [decode?_eq_some_iff.1 hs]
        exact .text t
      | none => exact .bytes (decode?_eq_none_iff.1 hs)
    | nil | bool | int | float =>
      rw [toJson]
      constructor
    | function | primitive | thread | userdata =>
      simp only [toJson]
      constructor

end Exchange

/-! ### What becomes of arguments -/

namespace Heap

variable {h : Heap} {v : Value} {vs : List Value} {j : Json} {js : List Json}

theorem settles_toJson (h : Heap) (v : Value) :
    Exchange.Settles (h.toJson v) (h.Crosses v) (h.Barred v) :=
  Exchange.sees h (h.tables.size + 1) [] v ⟨.nil, rfl, nofun⟩ nofun

/-- The JSON of a value is what it is for the host. -/
theorem toJson_eq_ok_iff : h.toJson v = .ok j ↔ h.Crosses v j :=
  (h.settles_toJson v).eq_ok_iff (fun hv hb ↦ hb.not_crosses j hv) fun _ hv ↦ hv.unique

/-- A value is refused if the host can make nothing of it. -/
theorem exists_toJson_eq_error_iff : (∃ f, h.toJson v = .error f) ↔ h.Barred v :=
  (h.settles_toJson v).exists_eq_error_iff fun j hv hb ↦ hb.not_crosses j hv

theorem settles_toJsonList (h : Heap) (vs : List Value) :
    Exchange.Settles (h.toJsonList vs) (List.Forall₂ h.Crosses vs) (∃ v ∈ vs, h.Barred v) := by
  induction vs with
  | nil => exact .nil
  | cons v vs ih =>
    rw [toJsonList]
    refine ((h.settles_toJson v).imp (List.exists_mem_cons_of vs)).bind fun j hj ↦ ?_
    exact (ih.imp List.exists_mem_cons_of_exists).bind fun js hjs ↦ .cons hj hjs

theorem not_exists_barred_of_forall₂ (hvs : List.Forall₂ h.Crosses vs js) :
    ¬∃ v ∈ vs, h.Barred v := by
  rintro ⟨v, hv, hb⟩
  obtain ⟨j, hj⟩ := exists_of_forall₂ hvs hv
  exact hb.not_crosses j hj

theorem toJsonList_eq_ok_iff : h.toJsonList vs = .ok js ↔ List.Forall₂ h.Crosses vs js :=
  (h.settles_toJsonList vs).eq_ok_iff not_exists_barred_of_forall₂ fun _ hvs hvs' ↦
    eq_of_forall₂ (hvs.imp fun _ _ hv _ ↦ hv.unique) hvs'

theorem exists_toJsonList_eq_error_iff :
    (∃ f, h.toJsonList vs = .error f) ↔ ∃ v ∈ vs, h.Barred v :=
  (h.settles_toJsonList vs).exists_eq_error_iff fun _ ↦ not_exists_barred_of_forall₂

/-- Values cross all together, or one of them is barred. -/
theorem exists_forall₂_crosses_iff :
    (∃ js, List.Forall₂ h.Crosses vs js) ↔ ¬∃ v ∈ vs, h.Barred v := by
  refine ⟨fun ⟨_, hvs⟩ ↦ not_exists_barred_of_forall₂ hvs, fun hnot ↦ ?_⟩
  cases hvs : h.toJsonList vs with
  | ok js => exact ⟨js, toJsonList_eq_ok_iff.1 hvs⟩
  | error f => exact absurd (exists_toJsonList_eq_error_iff.1 ⟨f, hvs⟩) hnot

end Heap

end MacroStream.Script
