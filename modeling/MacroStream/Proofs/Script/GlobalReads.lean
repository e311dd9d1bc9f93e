import MacroStream.Proofs.Script.EntrypointRun
import MacroStream.Proofs.Script.RoundTrip
import MacroStream.Proofs.Script.Sandbox

/-!
# Reading behind global variables

A field of a global variable is found by way of what stands under its name. The host may have put a
table of operations there, or what became of JSON, and then everything is known about the field: it
is an operation of that table, or it is no function that the host provides. What became of JSON has
no functions at all (`Heap.Inert`). Only behind a string a script finds the functions of the library
for strings, because of the metatable that all strings have; so what is known of this one has to be
said, too (`Heap.Libraries`).

This settles what the chunk of a macro finds behind the global variable `coroutine`
(`offers_of_bound`).
-/

namespace MacroStream.Script

/-! ### What is known of the libraries -/

namespace Value

/-- The function of the program that a value is, if it is one. -/
def primitive? : Value → Option Primitive
  | primitive p => some p
  | _ => none

/-- Whether a value is a function that a heap knows. -/
def isObject : Value → Bool
  | function _ => true
  | _ => false

theorem eq_of_primitive? {v : Value} {p : Primitive} (h : v.primitive? = some p) :
    v = .primitive p := by
  cases v with
  | primitive q => exact congrArg primitive (Option.some.inj h)
  | _ => exact nomatch h

end Value

namespace Heap

/-- What scripts find in the libraries. Coroutines are at `c`. Strings have the metatable at `m`,
and their fields are those of the library at `s`. -/
structure Libraries (h : Heap) (c m s : Nat) : Prop where
  typeMetas_eq : h.typeMetas = [("string", m)]
  coroutine_metatable : (h.table c).metatable = none
  yield : h.rawGet c (textKey "yield") = .primitive (.coroutine .yield)
  create : h.rawGet c (textKey "create") = .primitive (.coroutine .create)
  index : h.rawGet m (.str MetaName.index) = .table s
  call : h.rawGet m (.str MetaName.call) = .nil
  strings_metatable : (h.table s).metatable = none
  strings : ∀ k, (h.rawGet s k).isObject = false
  strings_create : h.rawGet s (textKey "create") = .nil
  array_index : h.rawGet h.registry.arrayMeta (.str MetaName.index) = .nil
  array_call : h.rawGet h.registry.arrayMeta (.str MetaName.call) = .nil

/-- The libraries in a heap where nothing has been bound yet. -/
structure Furnished (h : Heap) (c m s : Nat) : Prop extends h.Libraries c m s where
  lawful : h.LawfulAt h.registry.globals
  metatable_eq : (h.table h.registry.globals).metatable = none
  coroutine_eq : h.rawGet h.registry.globals (textKey "coroutine") = .table c
  package : h.registry.package < h.tables.size ∧ h.registry.package ≠ h.registry.globals
  /-- The host does not write to the tables of the libraries. -/
  apart : ∀ a ∈ [c, m, s, h.registry.arrayMeta],
    a < h.tables.size ∧ a ≠ h.registry.globals ∧ a ≠ h.registry.package

/-- The check of `Furnished`. -/
def furnishedAt (h : Heap) (c m s : Nat) : Bool :=
  decide (h.typeMetas = [("string", m)]) &&
    decide ((h.table c).metatable = none) &&
    decide ((h.rawGet c (textKey "yield")).primitive? = some (.coroutine .yield)) &&
    decide ((h.rawGet c (textKey "create")).primitive? = some (.coroutine .create)) &&
    (h.rawGet m (.str MetaName.call)).isNil &&
    decide ((h.table s).metatable = none) &&
    (h.table s).entries.toList.all (fun e ↦ !e.2.isObject && decide (e.1 ≠ textKey "create")) &&
    (h.rawGet h.registry.arrayMeta (.str MetaName.index)).isNil &&
    (h.rawGet h.registry.arrayMeta (.str MetaName.call)).isNil &&
    decide (h.registry.globals < h.tables.size) &&
    (h.table h.registry.globals).entries.isLawful &&
    decide ((h.table h.registry.globals).metatable = none) &&
    decide (h.registry.package < h.tables.size ∧ h.registry.package ≠ h.registry.globals) &&
    decide (∀ a ∈ [c, m, s, h.registry.arrayMeta],
      a < h.tables.size ∧ a ≠ h.registry.globals ∧ a ≠ h.registry.package)

/-- Whether there are libraries. -/
def isFurnished (h : Heap) : Bool :=
  match h.rawGet h.registry.globals (textKey "coroutine"), h.typeMetas with
  | .table c, [(_, m)] =>
    match h.rawGet m (.str MetaName.index) with
    | .table s => h.furnishedAt c m s
    | _ => false
  | _, _ => false

variable {h h' h₀ : Heap} {c m s : Nat} {v : Value} {j : Json} {changed : List Nat}

theorem exists_furnished (hcheck : h.isFurnished = true) : ∃ c m s, h.Furnished c m s := by
  rw [isFurnished] at hcheck
  split at hcheck
  case h_2 => exact nomatch hcheck
  case h_1 c _ m hcoroutine _ =>
    split at hcheck
    case h_2 => exact nomatch hcheck
    case h_1 s hindex =>
      simp only [furnishedAt, Bool.and_eq_true, decide_eq_true_eq] at hcheck
      obtain ⟨⟨⟨⟨⟨⟨⟨⟨⟨⟨⟨⟨⟨htypes, hcm⟩, hyield⟩, hcreate⟩, hcall⟩, hsm⟩, hstrings⟩, hai⟩, hac⟩,
        hsize⟩, hlawful⟩, hgm⟩, hpackage⟩, hapart⟩ := hcheck
      have hentry {k : Key} (hk : h.rawGet s k ≠ .nil) :
          (h.rawGet s k).isObject = false ∧ k ≠ textKey "create" := by
        have hall := List.all_eq_true.1 hstrings _ (Table.mem_of_get hk)
        simpa [rawGet] using hall
      refine ⟨c, m, s, ⟨htypes, hcm, Value.eq_of_primitive? hyield, Value.eq_of_primitive? hcreate,
        hindex, Value.eq_nil_of_isNil hcall, hsm, fun k ↦ ?_, ?_, Value.eq_nil_of_isNil hai,
        Value.eq_nil_of_isNil hac⟩, ⟨hsize, KeyMap.lawful_of_isLawful hlawful⟩, hgm, hcoroutine,
        hpackage, hapart⟩
      · by_cases hk : h.rawGet s k = .nil
        · rw [hk]
          rfl
        · exact (hentry hk).1
      · by_contra hk
        exact (hentry hk).2 rfl

theorem SameTables.isFurnished_eq (ht : h.SameTables h') : h.isFurnished = h'.isFurnished := by
  simp only [isFurnished, furnishedAt, table, ht.rawGet, ht.tables, ht.registry, ht.typeMetas]
  rfl

theorem isFurnished_openHeap : openHeap.isFurnished = true := by
  decide +kernel

theorem isFurnished_closedHeap : closedHeap.isFurnished = true := by
  decide +kernel

theorem Libraries.grew (hl : h.Libraries c m s) (hg : Grew changed h h')
    (hapart : ∀ a ∈ [c, m, s, h.registry.arrayMeta], a < h.tables.size ∧ a ∉ changed) :
    h'.Libraries c m s := by
  simp only [List.forall_mem_cons, List.not_mem_nil, false_imp_iff, implies_true, and_true]
    at hapart
  obtain ⟨⟨hc, hc'⟩, ⟨hm, hm'⟩, ⟨hs, hs'⟩, ha, ha'⟩ := hapart
  obtain ⟨htypes, hcm, hyield, hcreate, hindex, hcall, hsm, hstrings, hsc, hai, hac⟩ := hl
  have hread {a : Nat} (ha : a < h.tables.size) (hnot : a ∉ changed) (k : Key) :
      h'.rawGet a k = h.rawGet a k := rawGet_of_grew hg ha hnot
  refine ⟨hg.typeMetas_eq.trans htypes, ?_, ?_, ?_, ?_, ?_, ?_, fun k ↦ ?_, ?_, ?_, ?_⟩
  · rw [hg.table_eq hc hc', hcm]
  · rw [hread hc hc', hyield]
  · rw [hread hc hc', hcreate]
  · rw [hread hm hm', hindex]
  · rw [hread hm hm', hcall]
  · rw [hg.table_eq hs hs', hsm]
  · rw [hread hs hs', hstrings]
  · rw [hread hs hs', hsc]
  · rw [hg.registry_eq, hread ha ha', hai]
  · rw [hg.registry_eq, hread ha ha', hac]

/-! ### What became of JSON -/

/-- What is no function, and could not be called as if it were one. -/
inductive Inert (h : Heap) : Value → Prop
  | nil : Inert h .nil
  | bool (b : Bool) : Inert h (.bool b)
  | int (n : Int64) : Inert h (.int n)
  | float (x : Float) : Inert h (.float x)
  | str (s : ByteArray) : Inert h (.str s)
  | table {a : Nat} (ha : (h.table a).metatable = none ∨
      (h.table a).metatable = some h.registry.arrayMeta) : Inert h (.table a)

theorem inert_of_image (hv : Image h₀ h j v) : h.Inert v := by
  cases j with
  | arr js =>
    obtain ⟨rfl, -, htable, -⟩ := Exchange.image_arr hv
    exact .table (.inr (by rw [htable]))
  | fields es =>
    obtain ⟨rfl, -, htable, -⟩ := Exchange.image_fields hv
    exact .table (.inl (by rw [htable, Table.metatable_fill]))
  | int n =>
    rw [hv.value_eq, Heap.ofJson, Exchange.ofJson, Exchange.ofWhole]
    split
    · exact .int _
    · exact .float _
  | null | bool | float | str =>
    rw [hv.value_eq, Heap.ofJson, Exchange.ofJson]
    constructor

end Heap

theorem Table.get_fill_cases {t : Table} (ht : t.entries.Lawful) (ps : List (Key × Value))
    (k : Key) : (t.fill ps).get k = t.get k ∨ ∃ p ∈ ps, (t.fill ps).get k = p.2 := by
  induction ps generalizing t with
  | nil => exact .inl rfl
  | cons p ps ih =>
    rcases ih (lawful_set ht p.1 p.2) with hkept | ⟨p', hp', hget⟩
    · have hfill : (t.fill (p :: ps)).get k = (t.set p.1 p.2).get k := hkept
      rw [hfill, get_set ht]
      split
      · exact .inr ⟨p, List.mem_cons_self, rfl⟩
      · exact .inl rfl
    · exact .inr ⟨p', List.mem_cons_of_mem p hp', hget⟩

namespace Heap

variable {h h' h₀ : Heap} {c m s a : Nat} {v : Value} {j : Json}

theorem forall_inert {es : List (Key × Json)} {ps : List (Key × Value)} {whole : Json}
    (hparts : List.Forall₂ (fun e p ↦ p.1 = e.1 ∧ Exchange.IsPart h₀ whole h e.2 p.2) es ps) :
    ∀ p ∈ ps, h.Inert p.2 := by
  induction hparts with
  | nil => simp
  | cons hpart _ ih =>
    obtain ⟨-, made, -, -, himage⟩ := hpart
    exact List.forall_mem_cons.2 ⟨inert_of_image himage, ih⟩

theorem inert_get_fill {ps : List (Key × Value)} (hps : ∀ p ∈ ps, h.Inert p.2) (k : Key) :
    h.Inert ((({} : Table).fill ps).get k) := by
  rcases Table.get_fill_cases (t := {}) KeyMap.lawful_empty ps k with hempty | ⟨p, hp, hget⟩
  · rw [hempty]
    exact .nil
  · rw [hget]
    exact hps p hp

/-- There are no functions inside of what became of JSON, either. -/
theorem inert_rawGet_of_image (hv : Image h₀ h j (.table a)) (k : Key) :
    h.Inert (h.rawGet a k) := by
  cases j with
  | arr js =>
    obtain ⟨ha, -, htable, hparts⟩ := Exchange.image_arr hv
    obtain rfl := Value.table.inj ha
    rw [rawGet, htable]
    exact inert_get_fill (forall_inert hparts) k
  | fields es =>
    obtain ⟨ha, -, htable, hparts⟩ := Exchange.image_fields hv
    obtain rfl := Value.table.inj ha
    rw [rawGet, htable]
    exact inert_get_fill (forall_inert hparts) k
  | int n =>
    have hvalue := hv.value_eq
    rw [Heap.ofJson, Exchange.ofJson, Exchange.ofWhole] at hvalue
    split at hvalue <;> cases hvalue
  | null | bool | float | str =>
    have hvalue := hv.value_eq
    rw [Heap.ofJson, Exchange.ofJson] at hvalue
    cases hvalue

namespace Libraries

/-- Of the values that have no metatable of their own, only strings have one at all. -/
theorem metafield_eq_nil (hl : h.Libraries c m s)
    (hv : v.typeName ∉ ["string", "table", "userdata"]) (name : ByteArray) :
    h.metafield v name = .nil := by
  cases v with
  | str | table | userdata => simp [Value.typeName] at hv
  | _ => simp [metafield, metatable?, hl.typeMetas_eq, Value.typeName, List.lookup_cons]

theorem metafield_call (hl : h.Libraries c m s) (hv : h.Inert v) :
    h.metafield v MetaName.call = .nil := by
  cases hv with
  | table ha =>
    rcases ha with ha | ha
    · exact metafield_of_no_metatable ha _
    · rw [metafield, metatable?, ha]
      exact hl.array_call
  | str => simp [metafield, metatable?, hl.typeMetas_eq, Value.typeName, hl.call]
  | _ => exact hl.metafield_eq_nil (by simp [Value.typeName]) _

theorem refuses (hl : h.Libraries c m s) (hv : h.Inert v) : h.Refuses v := by
  refine .inl ⟨?_, hl.metafield_call hv⟩
  cases hv <;> rfl

end Libraries

end Heap

/-! ### Reading a field -/

section Fields

variable {h h₀ : Heap} {c m s a i : Nat} {v : Value} {j : Json} (place : Option Place)
  (name : Option NameInUse) (field : String)

theorem exists_throw_typeFault (what : String) (v : Value) (h : Heap) :
    ∃ t, h.Explains t ∧ ∀ k : Value → Heap → Heap × Signal,
      Action.typeFault place what v name k h = (h, .throw t) := by
  cases place <;> exact ⟨_, .str _, fun k ↦ rfl⟩

/-- What is no table, and has no metatable that says otherwise, has no fields. -/
theorem comes_index_of_not_table (hv : h.metafield v MetaName.index = .nil)
    (hnot : ∀ a, v ≠ .table a) {P : Value → Heap → Prop} :
    (Action.index place name v (textValue field)).Comes h P fun t h' ↦ h'.Explains t := by
  have hlimit : Action.metaLimit = 1999 + 1 := rfl
  obtain ⟨t, hexplains, ht⟩ := exists_throw_typeFault place name "index" v h
  refine .inr ⟨t, h, hexplains, fun k ↦ ?_⟩
  rw [← ht k, Action.index, hlimit, Action.indexLoop]
  · simp [Action.bind_apply, Action.read_apply, hv, Value.isNil]
  · exact hnot

theorem comes_index_of_table (ha : h.metafield (.table a) MetaName.index = .nil)
    {P : Value → Heap → Prop} {F : Thrown → Heap → Prop} (hP : P (h.rawGet a (textKey field)) h) :
    (Action.index place name (.table a) (textValue field)).Comes h P F :=
  Action.comes_of_eq (index_of_metafield ha place name field.toUTF8) hP

/-- Strings have the fields of the library for strings. -/
theorem comes_index_of_str (hl : h.Libraries c m s) (bs : ByteArray) {P : Value → Heap → Prop}
    {F : Thrown → Heap → Prop} (hP : P (h.rawGet s (textKey field)) h) :
    (Action.index place name (.str bs) (textValue field)).Comes h P F := by
  have hindex : h.metafield (.str bs) MetaName.index = .table s := by
    simp [Heap.metafield, Heap.metatable?, hl.typeMetas_eq, Value.typeName, hl.index]
  have hstep (n : Nat) (k : Value → Heap → Heap × Signal) :
      Action.indexLoop place (textValue field) (n + 1) (.str bs) name k h =
        Action.indexLoop place (textValue field) n (.table s) none k h := by
    rw [Action.indexLoop]
    · simp [Action.bind_apply, Action.read_apply, hindex, Value.isNil, Value.isFunction]
    · simp
  have hmetafield := metafield_of_no_metatable hl.strings_metatable MetaName.index
  exact Action.comes_of_eq (fun k ↦ (hstep 1999 k).trans
    (indexLoop_of_metafield hmetafield place field.toUTF8 1998 none k)) hP

/-- Inside of what became of JSON there is no function, and behind a string there are the functions
of its library. -/
theorem comes_index_of_image (hl : h.Libraries c m s) (hv : Heap.Image h₀ h j v) :
    (Action.index place name v (textValue field)).Comes h
      (fun w h' ↦ h' = h ∧ (h.Inert w ∨ w = h.rawGet s (textKey field)))
      fun t h' ↦ h'.Explains t := by
  cases Heap.inert_of_image hv with
  | @table a ha =>
    refine comes_index_of_table place name field ?_
      ⟨rfl, .inl (Heap.inert_rawGet_of_image hv (textKey field))⟩
    rcases ha with ha | ha
    · exact metafield_of_no_metatable ha _
    · rw [Heap.metafield, Heap.metatable?, ha]
      exact hl.array_index
  | str bs => exact comes_index_of_str place name field hl bs ⟨rfl, .inr rfl⟩
  | _ =>
    exact comes_index_of_not_table place name field
      (hl.metafield_eq_nil (by simp [Value.typeName]) _) (by simp)

end Fields

/-! ### The global variable `coroutine` -/

section Offers

open Binding

variable {h h₀ : Heap} {c m s : Nat} {service? : String → Option Json}
  {outline : List (String × List String)}

/-- In a table of operations there is nothing that makes a coroutine. -/
theorem refuses_of_isGroup {a i : Nat} {ops : List String} (ha : h.IsGroup a i ops)
    (hl : h.Libraries c m s) (name : String) : h.Refuses (h.rawGet a (textKey name)) := by
  by_cases hnil : h.rawGet a (textKey name) = .nil
  · rw [hnil]
    exact hl.refuses .nil
  · obtain ⟨op, hop, hkey⟩ := ha.keys _ hnil
    rw [hkey]
    exact .inr ⟨i, op, ha.dispatches op hop⟩

theorem offers_of_refuses {claimed : Prop} (hclaimed : claimed)
    (hcomes : ∀ place name field, (Action.index place name
      (h.rawGet h.registry.globals (textKey "coroutine")) (textValue field)).Comes h
        (fun v h' ↦ h' = h ∧ (field = "create" → h.Refuses v)) fun t h' ↦ h'.Explains t) :
    h.Offers claimed := by
  refine ⟨fun place name ↦ (hcomes place name "yield").mono ?_ fun _ _ ht ↦ ⟨hclaimed, ht⟩,
    fun place name ↦ (hcomes place name "create").mono ?_ fun _ _ ht ↦ ⟨hclaimed, ht⟩⟩
  · rintro v _ ⟨rfl, -⟩
    exact ⟨rfl, fun hnot ↦ absurd hclaimed hnot⟩
  · rintro v _ ⟨rfl, hrefuses⟩
    exact ⟨rfl, fun _ ↦ hrefuses rfl, fun hnot ↦ absurd hclaimed hnot⟩

/-- Coroutines are offered by the library, as long as nobody else has claimed its name. -/
theorem offers_of_bound (hl : h.Libraries c m s)
    (hcoroutine : h₀.rawGet h₀.registry.globals (textKey "coroutine") = .table c)
    (hb : Bound h₀ service? outline h (textKey "coroutine")
      (h.rawGet h.registry.globals (textKey "coroutine"))) :
    h.Offers (¬IsUnclaimed service? outline (textKey "coroutine")) := by
  generalize hkey : textKey "coroutine" = k at hb
  generalize hv : h.rawGet h.registry.globals k = v at hb
  cases hb with
  | @service name j made v hj hmade himage =>
    have hclaimed : ¬IsUnclaimed service? outline (textKey name) := fun hk ↦
      nomatch hj.symm.trans (hk name rfl).1
    refine offers_of_refuses hclaimed fun place n field ↦ ?_
    rw [hkey, hv]
    refine (comes_index_of_image place n field hl himage).mono ?_ fun _ _ ht ↦ ht
    rintro w _ ⟨rfl, hw⟩
    refine ⟨rfl, fun hfield ↦ ?_⟩
    rcases hw with hw | rfl
    · exact hl.refuses hw
    · rw [hfield, hl.strings_create]
      exact hl.refuses .nil
  | @group name ops i a hname hi hlast hnew ha =>
    have hclaimed : ¬IsUnclaimed service? outline (textKey name) := fun hk ↦
      (hk name rfl).2 (List.mem_map.2 ⟨_, List.mem_of_getElem? hi, rfl⟩)
    refine offers_of_refuses hclaimed fun place n field ↦ ?_
    rw [hkey, hv]
    exact comes_index_of_table place n field (metafield_of_no_metatable ha.metatable_eq _)
      ⟨rfl, fun _ ↦ refuses_of_isGroup ha hl field⟩
  | kept hk =>
    have hunclaimed : ¬¬IsUnclaimed service? outline k := not_not.2 hk
    have hmetafield := metafield_of_no_metatable hl.coroutine_metatable MetaName.index
    rw [← hkey, hcoroutine] at hv
    refine ⟨fun place n ↦ ?_, fun place n ↦ ?_⟩
    · rw [hv]
      exact comes_index_of_table place n "yield" hmetafield ⟨rfl, fun _ ↦ hl.yield⟩
    · rw [hv]
      exact comes_index_of_table place n "create" hmetafield
        ⟨rfl, fun hclaimed ↦ absurd hclaimed hunclaimed, fun _ ↦ hl.create⟩
  | operation _ hfree | nothing _ hfree =>
    rw [← hkey, hcoroutine] at hfree
    exact nomatch hfree

end Offers

end MacroStream.Script
