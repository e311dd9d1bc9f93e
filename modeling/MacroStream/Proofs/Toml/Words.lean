import MacroStream.Proofs.Json.Parts
import MacroStream.Toml.Reader

/-!
# Whole numbers of a settings file

A settings file has no whole number that does not fit a signed word of 64 bits: it is refused where
such a number is read. What the reader does with values after that, it does with all of them alike.
Tables are built, opened again and turned into objects, and in all of this a property of the values
is kept, as long as it is hereditary.
-/

namespace MacroStream.Toml

open Json (Hereditary FitsWord fitsInt64)

/-! ### The values in a table -/

/-- All values in an item have a property. -/
inductive Item.All (P : Json → Prop) : Item → Prop
  | value {v : Json} (hv : P v) : All P (.value v)
  | table {origin : Origin} {es : Entries} (hes : ∀ e ∈ es, All P e.2) : All P (.table origin es)
  | tables {ts : List Entries} (hts : ∀ es ∈ ts, ∀ e ∈ es, All P e.2) : All P (.tables ts)

/-- All values in a table have a property. -/
def AllIn (P : Json → Prop) (es : Entries) : Prop := ∀ e ∈ es, e.2.All P

/-- A change of a table keeps a property of the values in it. -/
def Preserves (P : Json → Prop) (f : Entries → Option Entries) : Prop :=
  ∀ es es', AllIn P es → f es = some es' → AllIn P es'

variable {P : Json → Prop} {es es' : Entries} {k : String} {item : Item}

theorem allIn_nil : AllIn P [] :=
  fun _ he ↦ nomatch he

theorem AllIn.get? (hes : AllIn P es) (h : get? k es = some item) : item.All P := by
  induction es with
  | nil => exact nomatch h
  | cons e es ih =>
    obtain ⟨k', v⟩ := e
    obtain ⟨hv, hes⟩ := List.forall_mem_cons.1 hes
    rw [Toml.get?] at h
    split at h
    · exact Option.some.inj h ▸ hv
    · exact ih hes h

theorem AllIn.put (hes : AllIn P es) (hitem : item.All P) : AllIn P (put k item es) := by
  induction es with
  | nil => exact List.forall_mem_cons.2 ⟨hitem, allIn_nil⟩
  | cons e es ih =>
    obtain ⟨k', v⟩ := e
    obtain ⟨hv, hes⟩ := List.forall_mem_cons.1 hes
    rw [Toml.put]
    split
    · exact List.forall_mem_cons.2 ⟨hitem, hes⟩
    · exact List.forall_mem_cons.2 ⟨hv, ih hes⟩

theorem Item.All.of_table {origin : Origin} : (Item.table origin es).All P → AllIn P es
  | .table hes => hes

theorem Item.All.of_tables {ts : List Entries} : (Item.tables ts).All P → ∀ es ∈ ts, AllIn P es
  | .tables hts => hts

theorem AllIn.put_of_eq_some {sub? : Option Entries} (hes : AllIn P es) (make : Entries → Item)
    (hmake : ∀ sub, sub? = some sub → (make sub).All P)
    (h : (do return Toml.put k (make (← sub?)) es) = some es') : AllIn P es' := by
  obtain ⟨sub, hsub, h⟩ := Option.bind_eq_some_iff.1 h
  exact Option.some.inj h ▸ hes.put (hmake sub hsub)

theorem preserves_alter {f : Entries → Option Entries} (hf : Preserves P f) (path : List String) :
    Preserves P (alter path f) := by
  intro es es' hes h
  induction path generalizing es es' with
  | nil => exact hf es es' hes h
  | cons k ks ih =>
    rw [alter] at h
    split at h
    case h_1 =>
      exact hes.put_of_eq_some (.table .path) (fun sub' h ↦ .table (ih [] sub' allIn_nil h)) h
    case h_2 origin sub hget =>
      have hsub := (hes.get? hget).of_table
      exact hes.put_of_eq_some (.table origin) (fun sub' h ↦ .table (ih sub sub' hsub h)) h
    case h_3 sub older hget =>
      obtain ⟨hsub, holder⟩ := List.forall_mem_cons.1 (hes.get? hget).of_tables
      exact hes.put_of_eq_some (fun sub' ↦ .tables (sub' :: older))
        (fun sub' h ↦ .tables (List.forall_mem_cons.2 ⟨ih sub sub' hsub h, holder⟩)) h
    case h_4 => exact nomatch h

theorem preserves_openTable (k : String) : Preserves P (openTable k) := by
  intro es es' hes h
  rw [openTable] at h
  split at h
  case h_1 => exact Option.some.inj h ▸ hes.put (.table allIn_nil)
  case h_2 sub hget => exact Option.some.inj h ▸ hes.put (.table (hes.get? hget).of_table)
  case h_3 => exact nomatch h

theorem preserves_openRepeated (k : String) : Preserves P (openRepeated k) := by
  intro es es' hes h
  rw [openRepeated] at h
  split at h
  case h_1 =>
    exact Option.some.inj h ▸
      hes.put (.tables (List.forall_mem_cons.2 ⟨allIn_nil, fun _ hes ↦ nomatch hes⟩))
  case h_2 older hget =>
    exact Option.some.inj h ▸
      hes.put (.tables (List.forall_mem_cons.2 ⟨allIn_nil, (hes.get? hget).of_tables⟩))
  case h_3 => exact nomatch h

theorem preserves_define (hitem : item.All P) (path : List String) (k : String) :
    Preserves P (define path k item) := by
  intro es es' hes h
  induction path generalizing es es' with
  | nil =>
    rw [define] at h
    split at h
    · exact nomatch h
    · exact Option.some.inj h ▸ hes.put hitem
  | cons p ps ih =>
    rw [define] at h
    split at h
    case h_1 =>
      exact hes.put_of_eq_some (.table .dotted) (fun sub' h ↦ .table (ih [] sub' allIn_nil h)) h
    case h_2 sub hget =>
      have hsub := (hes.get? hget).of_table
      exact hes.put_of_eq_some (.table .dotted) (fun sub' h ↦ .table (ih sub sub' hsub h)) h
    case h_3 sub hget =>
      have hsub := (hes.get? hget).of_table
      split at h
      · exact nomatch h
      · exact hes.put_of_eq_some (.table .path) (fun sub' h ↦ .table (ih sub sub' hsub h)) h
    case h_4 sub older hget =>
      obtain ⟨hsub, holder⟩ := List.forall_mem_cons.1 (hes.get? hget).of_tables
      split at h
      · exact nomatch h
      · exact hes.put_of_eq_some (fun sub' ↦ .tables (sub' :: older))
          (fun sub' h ↦ .tables (List.forall_mem_cons.2 ⟨ih sub sub' hsub h, holder⟩)) h
    case h_5 => exact nomatch h

/-! ### Tables as objects -/

theorem entriesToJson_eq_map (es : Entries) :
    entriesToJson es = es.map fun e ↦ (e.1, e.2.toJson) := by
  induction es with
  | nil => rfl
  | cons e es ih => rw [entriesToJson, ih, List.map_cons]

theorem tablesToJson_eq_map (ts : List Entries) :
    tablesToJson ts = ts.map fun es ↦ .obj (entriesToJson es) := by
  induction ts with
  | nil => rfl
  | cons es ts ih => rw [tablesToJson, ih, List.map_cons]

theorem obj_entriesToJson (hP : Hereditary P) (h : ∀ e ∈ es, P e.2.toJson) :
    P (.obj (entriesToJson es)) := by
  refine hP.obj fun e he ↦ ?_
  rw [entriesToJson_eq_map] at he
  obtain ⟨e', he', rfl⟩ := List.mem_map.1 he
  exact h e' he'

theorem Item.All.toJson (hP : Hereditary P) (h : item.All P) : P item.toJson := by
  induction h with
  | value hv => exact hv
  | table _ ih => exact obj_entriesToJson hP ih
  | tables _ ih =>
    refine (hP.arr_iff _).2 fun j hj ↦ ?_
    rw [List.mem_reverse, tablesToJson_eq_map] at hj
    obtain ⟨es, hes, rfl⟩ := List.mem_map.1 hj
    exact obj_entriesToJson hP (ih es hes)

theorem AllIn.obj (hP : Hereditary P) (hes : AllIn P es) : P (.obj (entriesToJson es)) :=
  obj_entriesToJson hP fun e he ↦ (hes e he).toJson hP

/-! ### Values -/

variable {cs r : List Char} {v : Json}

theorem fitsWord_of_ite {n : Int} {rest : List Char}
    (h : (if fitsInt64 n then some (Json.int n, rest) else none) = some (v, r)) : v.FitsWord := by
  split at h
  case isTrue hfits =>
    obtain ⟨rfl, -⟩ := Prod.mk.inj (Option.some.inj h)
    exact Json.fitsWord_int_iff.2 hfits
  case isFalse => exact nomatch h

theorem fitsWord_of_readBased {base : Nat} {p : Char → Bool}
    (h : readBased base p cs = some (v, r)) : v.FitsWord := by
  obtain ⟨⟨ds, rest⟩, -, h⟩ := Option.bind_eq_some_iff.1 h
  exact fitsWord_of_ite h

theorem fitsWord_of_readNumber (h : readNumber cs = some (v, r)) : v.FitsWord := by
  have hfloat {x : Float} {rest : List Char} (h : some (Json.float x, rest) = some (v, r)) :
      v.FitsWord := by
    obtain ⟨rfl, -⟩ := Prod.mk.inj (Option.some.inj h)
    exact Json.fitsWord_float x
  rw [readNumber] at h
  split at h
  split at h
  · exact hfloat h
  · exact hfloat h
  · obtain ⟨⟨whole, rest⟩, -, h⟩ := Option.bind_eq_some_iff.1 h
    dsimp only at h
    split at h
    · obtain ⟨⟨fraction, rest⟩, -, h⟩ := Option.bind_eq_some_iff.1 h
      obtain ⟨⟨e, rest⟩, -, h⟩ := Option.bind_eq_some_iff.1 h
      exact hfloat h
    · obtain ⟨⟨e, rest⟩, -, h⟩ := Option.bind_eq_some_iff.1 h
      dsimp only at h
      split at h
      · exact hfloat h
      · exact fitsWord_of_ite h

theorem fitsWord_of_readDateTime (h : readDateTime cs = some (v, r)) : v.FitsWord := by
  obtain ⟨rest, -, h⟩ := Option.bind_eq_some_iff.1 h
  obtain ⟨rfl, -⟩ := Prod.mk.inj (Option.some.inj h)
  refine Json.hereditary_fitsWord.obj fun e he ↦ ?_
  obtain rfl := List.mem_singleton.1 he
  exact Json.fitsWord_str _

/-- What is read with a given fuel fits, if what is there already does. -/
structure ReadsWords (n : Nat) : Prop where
  value : ∀ depth cs v r, readValue n depth cs = some (v, r) → v.FitsWord
  array : ∀ depth acc cs v r, (∀ j ∈ acc, j.FitsWord) → readArray n depth acc cs = some (v, r) →
    v.FitsWord
  inline : ∀ depth es cs v r, AllIn FitsWord es → readInline n depth es cs = some (v, r) →
    v.FitsWord

variable {n : Nat}

theorem ReadsWords.value_succ (hn : ReadsWords n) (depth : Nat)
    (h : readValue (n + 1) depth cs = some (v, r)) : v.FitsWord := by
  rw [readValue.eq_def] at h
  dsimp only at h
  split at h
  case h_1 | h_2 =>
    obtain ⟨⟨s, rest⟩, -, h⟩ := Option.map_eq_some_iff.1 h
    obtain ⟨rfl, -⟩ := Prod.mk.inj h
    exact Json.fitsWord_str s
  case h_3 =>
    split at h
    · exact nomatch h
    · exact hn.array _ _ _ _ _ (List.forall_mem_nil _) h
  case h_4 =>
    split at h
    · exact nomatch h
    · split at h
      · obtain ⟨rfl, -⟩ := Prod.mk.inj (Option.some.inj h)
        exact AllIn.obj Json.hereditary_fitsWord allIn_nil
      · exact hn.inline _ _ _ _ _ allIn_nil h
  case h_5 | h_6 =>
    obtain ⟨rfl, -⟩ := Prod.mk.inj (Option.some.inj h)
    exact Json.fitsWord_bool _
  case h_7 | h_8 | h_9 => exact fitsWord_of_readBased h
  case h_10 =>
    split at h
    · exact fitsWord_of_readDateTime h
    · exact fitsWord_of_readNumber h

theorem ReadsWords.array_succ (hn : ReadsWords n) {depth : Nat} {acc : List Json}
    (hacc : ∀ j ∈ acc, j.FitsWord) (h : readArray (n + 1) depth acc cs = some (v, r)) :
    v.FitsWord := by
  have harr {js : List Json} {rest : List Char} (hjs : ∀ j ∈ js, j.FitsWord)
      (h : some (Json.arr js.reverse, rest) = some (v, r)) : v.FitsWord := by
    obtain ⟨rfl, -⟩ := Prod.mk.inj (Option.some.inj h)
    exact (Json.hereditary_fitsWord.arr_iff _).2 fun j hj ↦ hjs j (List.mem_reverse.1 hj)
  rw [readArray] at h
  obtain ⟨start, -, h⟩ := Option.bind_eq_some_iff.1 h
  split at h
  · exact harr hacc h
  · obtain ⟨⟨item, rest⟩, hitem, h⟩ := Option.bind_eq_some_iff.1 h
    have hitems := List.forall_mem_cons.2 ⟨hn.value _ _ _ _ hitem, hacc⟩
    obtain ⟨next, -, h⟩ := Option.bind_eq_some_iff.1 h
    split at h
    · exact hn.array _ _ _ _ _ hitems h
    · exact harr hitems h
    · exact nomatch h

theorem ReadsWords.inline_succ (hn : ReadsWords n) {depth : Nat} (hes : AllIn FitsWord es)
    (h : readInline (n + 1) depth es cs = some (v, r)) : v.FitsWord := by
  rw [readInline] at h
  obtain ⟨⟨⟨path, k⟩, rest⟩, -, h⟩ := Option.bind_eq_some_iff.1 h
  dsimp only at h
  split at h
  · obtain ⟨⟨item, rest⟩, hitem, h⟩ := Option.bind_eq_some_iff.1 h
    obtain ⟨es', hes', h⟩ := Option.bind_eq_some_iff.1 h
    have hall : AllIn FitsWord es' :=
      preserves_define (.value (hn.value _ _ _ _ hitem)) path k es es' hes hes'
    split at h
    · exact hn.inline _ _ _ _ _ hall h
    · obtain ⟨rfl, -⟩ := Prod.mk.inj (Option.some.inj h)
      exact hall.obj Json.hereditary_fitsWord
    · exact nomatch h
  · exact nomatch h

theorem readsWords (n : Nat) : ReadsWords n := by
  induction n with
  | zero =>
    refine ⟨fun _ _ _ _ h ↦ ?_, fun _ _ _ _ _ _ h ↦ ?_, fun _ _ _ _ _ _ h ↦ ?_⟩
    · rw [readValue] at h
      exact nomatch h
    · rw [readArray] at h
      exact nomatch h
    · rw [readInline] at h
      exact nomatch h
  | succ n ih =>
    exact ⟨fun depth _ _ _ h ↦ ih.value_succ depth h,
      fun _ _ _ _ _ hacc h ↦ ih.array_succ hacc h, fun _ _ _ _ _ hes h ↦ ih.inline_succ hes h⟩

/-! ### Files -/

/-- A line of any kind changes one table, and must have an end. -/
theorem allIn_of_alter {f : Entries → Option Entries} {path current : List String}
    {rest? : Option (List Char)} {st st' : State} (hf : Preserves FitsWord f)
    (hst : AllIn FitsWord st.root)
    (h : (do
      let root ← alter path f st.root
      return (⟨root, current⟩, ← rest?)) = some (st', r)) : AllIn FitsWord st'.root := by
  obtain ⟨root, hroot, h⟩ := Option.bind_eq_some_iff.1 h
  obtain ⟨rest, -, h⟩ := Option.bind_eq_some_iff.1 h
  obtain ⟨rfl, -⟩ := Prod.mk.inj (Option.some.inj h)
  exact preserves_alter hf path st.root root hst hroot

theorem allIn_of_readLine {st st' : State} (hst : AllIn FitsWord st.root)
    (h : readLine st cs = some (st', r)) : AllIn FitsWord st'.root := by
  rw [readLine.eq_def] at h
  split at h
  case h_1 =>
    obtain ⟨⟨⟨path, k⟩, rest⟩, -, h⟩ := Option.bind_eq_some_iff.1 h
    dsimp only at h
    split at h
    · exact allIn_of_alter (preserves_openRepeated k) hst h
    · exact nomatch h
  case h_2 =>
    obtain ⟨⟨⟨path, k⟩, rest⟩, -, h⟩ := Option.bind_eq_some_iff.1 h
    dsimp only at h
    split at h
    · exact allIn_of_alter (preserves_openTable k) hst h
    · exact nomatch h
  case h_3 =>
    obtain ⟨⟨⟨path, k⟩, rest⟩, -, h⟩ := Option.bind_eq_some_iff.1 h
    dsimp only at h
    split at h
    · obtain ⟨⟨item, rest⟩, hitem, h⟩ := Option.bind_eq_some_iff.1 h
      have hvalue : Item.All FitsWord (.value item) :=
        .value ((readsWords _).value _ _ _ _ hitem)
      exact allIn_of_alter (preserves_define hvalue path k) hst h
    · exact nomatch h

theorem allIn_of_readLines {st st' : State} (hst : AllIn FitsWord st.root)
    (h : readLines n st cs = some st') : AllIn FitsWord st'.root := by
  induction n generalizing st cs with
  | zero => exact nomatch h
  | succ n ih =>
    rw [readLines] at h
    obtain ⟨start, -, h⟩ := Option.bind_eq_some_iff.1 h
    split at h
    · exact Option.some.inj h ▸ hst
    · obtain ⟨⟨st₁, rest⟩, hline, h⟩ := Option.bind_eq_some_iff.1 h
      exact ih (allIn_of_readLine hst hline) h

/-- Each whole number in a settings file fits a signed word. -/
theorem fitsWord_of_ofText? {s : String} (h : ofText? s = some v) : v.FitsWord := by
  obtain ⟨st, hst, rfl⟩ := Option.map_eq_some_iff.1 h
  exact (allIn_of_readLines allIn_nil hst).obj Json.hereditary_fitsWord

end MacroStream.Toml
