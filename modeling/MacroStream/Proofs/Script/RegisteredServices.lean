import MacroStream.Proofs.Script.RoundTrip

/-!
# Services in the order of their insertion

Services are kept in a list. An insertion replaces the value of a name where it stands, or puts a
new name behind all others. So after any number of insertions (`HostServices.Gathers`)

* no name is there twice,
* the names stand in the order in which each was inserted first, and
* each has the value that was inserted last.

`Gathers.insert` is the step and `gathers_ofList` the induction. That no name is there twice carries
the rest. It makes the entry of a name the only one that an insertion under this name changes
(`insertEntry_eq_set`). And it lets services be registered one after the other, without a look at
what was registered before: a value that comes later belongs to another name.

Registration gives every name its last value and does nothing else (`Binding.Registers`), whatever
the global table has in it. No script of a macro has run by then, so no metatable has a say in what
is set.

Which names there are, and which values are the last ones, can be told from the insertions under
each name alone. So insertions under different names can change places, and all that this changes is
where the tables lie that are made of the values (`Binding.Agree`).
-/

namespace MacroStream

namespace HostServices

variable {l entries entries' : List (String × Json)} {name : String}

/-! ### One insertion -/

/-- Where a name stands its value is replaced, and nothing else changes. -/
theorem insertEntry_eq_set {i : Nat} (hl : (l.map Prod.fst).Nodup)
    (hi : (l.map Prod.fst)[i]? = some name) (j : Json) :
    insertEntry name j l = l.set i (name, j) := by
  induction l generalizing i with
  | nil => exact nomatch hi
  | cons e l ih =>
    obtain ⟨n, j'⟩ := e
    rw [List.map_cons, List.nodup_cons] at hl
    cases i with
    | zero =>
      obtain rfl : n = name := Option.some.inj hi
      rw [insertEntry, if_pos rfl, List.set_cons_zero]
    | succ i =>
      have hi' : (l.map Prod.fst)[i]? = some name := hi
      have hn : n ≠ name := fun hn ↦ hl.1 (hn ▸ List.mem_of_getElem? hi')
      rw [insertEntry, if_neg hn, ih hl.2 hi', List.set_cons_succ]

/-! ### Insertions one after the other -/

/-- What services have come to after insertions. -/
structure Gathers (s : HostServices) (entries : List (String × Json)) : Prop where
  nodup : s.names.Nodup
  mem_names_iff : ∀ name, name ∈ s.names ↔ name ∈ entries.map Prod.fst
  /-- Of two names the one that was inserted first stands in front. -/
  ordered : s.names.Pairwise fun n n' ↦
    (entries.map Prod.fst).idxOf n < (entries.map Prod.fst).idxOf n'
  /-- The value of a name is that of its last insertion. -/
  lookup_eq : ∀ name, s.services.lookup name = entries.reverse.lookup name

namespace Gathers

variable {s : HostServices}

theorem empty : HostServices.empty.Gathers [] :=
  ⟨.nil, fun _ ↦ Iff.rfl, .nil, fun _ ↦ rfl⟩

/-- Names that have been inserted keep their order, whatever is inserted then. -/
theorem ordered_append (hs : s.Gathers entries) (names : List String) :
    s.names.Pairwise fun n n' ↦ (entries.map Prod.fst ++ names).idxOf n <
      (entries.map Prod.fst ++ names).idxOf n' := by
  refine hs.ordered.imp_of_mem fun {n n'} hn hn' hlt ↦ ?_
  rw [List.idxOf_append_of_mem ((hs.mem_names_iff n).1 hn),
    List.idxOf_append_of_mem ((hs.mem_names_iff n').1 hn')]
  exact hlt

/-- One more insertion. -/
theorem insert (hs : s.Gathers entries) (name : String) (j : Json) :
    (s.insert name j).Gathers (entries ++ [(name, j)]) := by
  have hnames := map_fst_insertEntry name j s.services
  have hfirsts : (entries ++ [(name, j)]).map Prod.fst = entries.map Prod.fst ++ [name] :=
    List.map_append
  refine ⟨nodup_insertEntry name j hs.nodup, fun n ↦ ?_, ?_, fun n ↦ ?_⟩
  · rw [names, HostServices.insert, mem_insertEntry_names, hfirsts, List.mem_append,
      List.mem_singleton, ← hs.mem_names_iff]
    exact or_comm
  · rw [names, HostServices.insert, hnames, hfirsts]
    split
    case isTrue => exact hs.ordered_append [name]
    case isFalse hnew =>
      -- A new name stands behind all others, as it was inserted behind them.
      have hnot : name ∉ entries.map Prod.fst := fun hmem ↦ hnew ((hs.mem_names_iff name).2 hmem)
      refine List.pairwise_append.2 ⟨hs.ordered_append [name], List.pairwise_singleton _ _, ?_⟩
      intro n hn n' hn'
      have hmem := (hs.mem_names_iff n).1 hn
      rw [List.mem_singleton.1 hn', List.idxOf_append_of_mem hmem,
        List.idxOf_append_of_notMem hnot]
      exact Nat.lt_add_right _ (List.idxOf_lt_length_of_mem hmem)
  · rw [HostServices.insert, lookup_insertEntry, hs.lookup_eq, lookup_reverse_concat]

end Gathers

/-- All insertions. -/
theorem gathers_ofList (entries : List (String × Json)) : (ofList entries).Gathers entries := by
  induction entries using List.reverseRecOn with
  | nil => exact .empty
  | append_singleton entries e ih =>
    obtain ⟨name, j⟩ := e
    rw [ofList_concat]
    exact ih.insert name j

/-! ### Insertions that change places -/

/-- Under every name the same values are inserted, in the same order. -/
def SameByName (entries entries' : List (String × Json)) : Prop :=
  ∀ name, entries.filter (·.1 = name) = entries'.filter (·.1 = name)

theorem lookup_filter_name (l : List (String × Json)) (name : String) :
    (l.filter (·.1 = name)).lookup name = l.lookup name := by
  induction l with
  | nil => rfl
  | cons e l ih =>
    obtain ⟨n, j⟩ := e
    rw [lookup_cons_eq, List.filter_cons]
    by_cases hn : name = n
    · rw [if_pos hn, if_pos (by simp [hn]), lookup_cons_eq, if_pos hn]
    · rw [if_neg hn, if_neg (by simp [Ne.symm hn]), ih]

theorem SameByName.lookup_reverse_eq (h : SameByName entries entries') (name : String) :
    entries.reverse.lookup name = entries'.reverse.lookup name := by
  rw [← lookup_filter_name, List.filter_reverse, h name, ← List.filter_reverse, lookup_filter_name]

end HostServices

namespace Script.Binding

open Exchange HostServices

variable {h h' h₁ h₂ : Heap} {entries entries' : List (String × Json)} {k : Key} {v : Value}

/-! ### Registration -/

/-- What registering services in `h` makes of it, after insertions. -/
structure Registers (entries : List (String × Json)) (h h' : Heap) : Prop where
  /-- Every name has what became of its last value. -/
  service : ∀ name ∈ entries.map Prod.fst, ∃ j, entries.reverse.lookup name = some j ∧
    MadeBehind h h' j (h'.rawGet h.registry.globals (textKey name))
  /-- Every other global variable is as it was. -/
  others : ∀ k, (∀ name ∈ entries.map Prod.fst, k ≠ textKey name) →
    h'.rawGet h.registry.globals k = h.rawGet h.registry.globals k
  /-- So is every other table that there was, and what the program knows of its own tables. -/
  table_eq : ∀ {a}, a < h.tables.size → a ≠ h.registry.globals → h'.table a = h.table a
  metatable_eq : (h'.table h.registry.globals).metatable = (h.table h.registry.globals).metatable
  registry_eq : h'.registry = h.registry

/-- Without capabilities a name belongs to a service, or it stays as it is. -/
theorem Bound.cases_of_no_capability {service? : String → Option Json}
    (hb : Bound h service? [] h' k v) :
    (∃ name j, k = textKey name ∧ service? name = some j ∧ MadeBehind h h' j v) ∨
      (∀ name, k = textKey name → service? name = none) ∧ v = h.rawGet h.registry.globals k := by
  cases hb with
  | @service name j made _ hj hmade hv => exact .inl ⟨name, j, rfl, hj, made, hmade, hv⟩
  | group _ hi => exact nomatch hi
  | kept hk => exact .inr ⟨fun name hname ↦ (hk name hname).1, rfl⟩
  | operation _ _ hfirst => exact nomatch hfirst
  | nothing hk hfree => exact .inr ⟨fun name hname ↦ (hk name hname).1, hfree.symm⟩

theorem registers_bindServices (entries : List (String × Json))
    (hglobals : h.LawfulAt h.registry.globals) :
    Registers entries h (bindServices (.ofList entries) h) := by
  have hb := bindings_bindServices (.empty hglobals) (.ofList entries)
  simp only [lookup_ofList] at hb
  refine ⟨fun name hname ↦ ?_, fun k hk ↦ ?_, fun ha hne ↦ hb.grew.table_eq ha fun hmem ↦
    hne (List.mem_singleton.1 hmem), hb.metatable_eq, hb.grew.registry_eq⟩
  · rcases (hb.bound (textKey name)).cases_of_no_capability with ⟨n, j, hn, hj, hv⟩ | ⟨hnone, -⟩
    · obtain rfl := textKey_injective hn
      exact ⟨j, hj, hv⟩
    · exact absurd hname (lookup_reverse_eq_none_iff.1 (hnone name rfl))
  · rcases (hb.bound k).cases_of_no_capability with ⟨n, j, rfl, hj, -⟩ | ⟨-, hkept⟩
    · have hnone : entries.reverse.lookup n = none :=
        lookup_reverse_eq_none_iff.2 fun hmem ↦ hk n hmem rfl
      exact nomatch hj.symm.trans hnone
    · exact hkept

/-- Two heaps that came from `h` have the same under a key of the global table: what was there
before, or what became of the same value. -/
inductive Agree (h h₁ h₂ : Heap) (k : Key) : Prop
  | kept (hkept₁ : h₁.rawGet h.registry.globals k = h.rawGet h.registry.globals k)
      (hkept₂ : h₂.rawGet h.registry.globals k = h.rawGet h.registry.globals k)
  | made {j : Json} (hv₁ : MadeBehind h h₁ j (h₁.rawGet h.registry.globals k))
      (hv₂ : MadeBehind h h₂ j (h₂.rawGet h.registry.globals k))

/-- Only the last values matter. -/
theorem Registers.agree (hr : Registers entries h h₁) (hr' : Registers entries' h h₂)
    (hlast : ∀ name, entries.reverse.lookup name = entries'.reverse.lookup name) (k : Key) :
    Agree h h₁ h₂ k := by
  have hnames (name : String) : name ∈ entries.map Prod.fst ↔ name ∈ entries'.map Prod.fst := by
    rw [← not_iff_not, ← lookup_reverse_eq_none_iff, ← lookup_reverse_eq_none_iff, hlast]
  by_cases hk : ∃ name ∈ entries.map Prod.fst, k = textKey name
  · obtain ⟨name, hname, rfl⟩ := hk
    obtain ⟨j, hj, hv₁⟩ := hr.service name hname
    obtain ⟨j', hj', hv₂⟩ := hr'.service name ((hnames name).1 hname)
    obtain rfl : j = j' := Option.some.inj (hj.symm.trans ((hlast name).trans hj'))
    exact .made hv₁ hv₂
  · have hnot : ∀ name ∈ entries.map Prod.fst, k ≠ textKey name :=
      fun name hname heq ↦ hk ⟨name, hname, heq⟩
    have hnot' : ∀ name ∈ entries'.map Prod.fst, k ≠ textKey name :=
      fun name hname ↦ hnot name ((hnames name).2 hname)
    exact .kept (hr.others k hnot) (hr'.others k hnot')

/-- **The last value of every service.** After any insertions the names are distinct and in the
order of their first insertions, and each has its last value; another insertion under one of them
replaces its entry in its place. So registration gives every name its last value and leaves all
other global variables as they were, and insertions under different names can change places. Values
are set in the table itself, as in one without a metatable, which is what the program registers
in. -/
theorem gathers_and_registers (entries : List (String × Json))
    (hglobals : h.LawfulAt h.registry.globals) :
    (ofList entries).Gathers entries ∧
      (∀ i name, (ofList entries).names[i]? = some name → ∀ j,
        ((ofList entries).insert name j).services = (ofList entries).services.set i (name, j)) ∧
      Registers entries h (bindServices (ofList entries) h) ∧
      ∀ entries', SameByName entries entries' → ∀ k,
        Agree h (bindServices (ofList entries) h) (bindServices (ofList entries') h) k := by
  have hgathers := gathers_ofList entries
  have hregisters := registers_bindServices entries hglobals
  refine ⟨hgathers, fun i name hi j ↦ insertEntry_eq_set hgathers.nodup hi j, hregisters,
    fun entries' hsame ↦ ?_⟩
  exact hregisters.agree (registers_bindServices entries' hglobals) hsame.lookup_reverse_eq

/-- Insertions under the name of a function of the libraries and under a new one. -/
def versions : List (String × Json) :=
  [("print", .null), ("Version", .str "1.0"), ("print", .arr [.null]), ("Version", .str "2.0")]

/-- The same with the names the other way round. -/
def versionsReordered : List (String × Json) :=
  [("Version", .str "1.0"), ("print", .null), ("Version", .str "2.0"), ("print", .arr [.null])]

/-- In the libraries for macros. -/
theorem gathers_and_registers_versions :
    openHeap.LawfulAt openHeap.registry.globals ∧ SameByName versions versionsReordered ∧
      (ofList versions).Gathers versions ∧
      (∀ j, ((ofList versions).insert "Version" j).services =
        (ofList versions).services.set 1 ("Version", j)) ∧
      Registers versions openHeap (bindServices (.ofList versions) openHeap) ∧
      ∀ k, Agree openHeap (bindServices (.ofList versions) openHeap)
        (bindServices (.ofList versionsReordered) openHeap) k := by
  have hglobals : openHeap.LawfulAt openHeap.registry.globals := openHeap_lawfulAt
  have hsame : SameByName versions versionsReordered := by
    intro name
    by_cases hprint : "print" = name
    · subst hprint
      simp [versions, versionsReordered]
    · simp [versions, versionsReordered, List.filter_cons, hprint]
  obtain ⟨hgathers, hset, hregisters, hagree⟩ := gathers_and_registers versions hglobals
  exact ⟨hglobals, hsame, hgathers, hset 1 "Version" rfl, hregisters, hagree _ hsame⟩

end Script.Binding

end MacroStream
