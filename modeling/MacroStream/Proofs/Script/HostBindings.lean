import Mathlib.Data.List.Induction
import MacroStream.Proofs.Script.HeapGrowth
import MacroStream.Proofs.Script.Installation
import MacroStream.Script.Session

/-!
# What is bound

Three kinds of names compete for the global variables of a script: operations, which take a name
only if it is free, capabilities, whose tables replace whatever was there, and services, which
replace everything. `Binding.Bound` says who wins a name, in the order of precedence:

1. the last value of a service,
2. the table of the last capability,
3. what was there before,
4. the first operation, in the order of registration,

and nobody else. That binding comes out like this (`Bindings`) is an induction over services,
capabilities and operations, one inside the other, and each has its own step:

* an operation takes its name if it is free, and is put into the table of its capability
  (`AfterOperations`);
* a table that was put under the name of its capability stays as it is until another capability of
  the same name comes (`Bindings.group`). What is behind an operation in the same order is of no
  importance to it: a name that it got is taken from then on, and a name that it did not get is
  lost;
* a service only changes what stands under its own name (`Bindings.service`).
-/

namespace MacroStream

namespace HostServices

/-! ### Values of services -/

variable {l : List (String × Json)}

/-- A name that is there keeps its place, and a new one comes last. -/
theorem map_fst_insertEntry (name : String) (j : Json) (l : List (String × Json)) :
    (insertEntry name j l).map Prod.fst =
      if name ∈ l.map Prod.fst then l.map Prod.fst else l.map Prod.fst ++ [name] := by
  induction l with
  | nil => rfl
  | cons e l ih =>
    obtain ⟨n, j'⟩ := e
    rw [insertEntry]
    by_cases hn : n = name
    · simp [hn]
    · rw [if_neg hn, List.map_cons, ih, List.map_cons]
      by_cases hmem : name ∈ l.map Prod.fst
      · rw [if_pos hmem, if_pos (List.mem_cons_of_mem _ hmem)]
      · have hmem' : name ∉ n :: l.map Prod.fst := by simp [Ne.symm hn, hmem]
        rw [if_neg hmem, if_neg hmem', List.cons_append]

theorem mem_insertEntry_names (name : String) (j : Json) (l : List (String × Json)) (n : String) :
    n ∈ (insertEntry name j l).map Prod.fst ↔ n = name ∨ n ∈ l.map Prod.fst := by
  rw [map_fst_insertEntry]
  split
  case isTrue hmem => exact ⟨.inr, fun h ↦ h.elim (fun hn ↦ hn ▸ hmem) id⟩
  case isFalse =>
    rw [List.mem_append, List.mem_singleton]
    exact or_comm

theorem nodup_insertEntry (name : String) (j : Json) (hl : (l.map Prod.fst).Nodup) :
    ((insertEntry name j l).map Prod.fst).Nodup := by
  rw [map_fst_insertEntry]
  split
  case isTrue => exact hl
  case isFalse hnot =>
    refine List.nodup_append.2 ⟨hl, List.pairwise_singleton _ _, fun n hn n' hn' heq ↦ hnot ?_⟩
    rwa [← List.mem_singleton.1 hn', ← heq]

theorem lookup_cons_eq (name : String) (j : Json) (l : List (String × Json)) (n : String) :
    ((name, j) :: l).lookup n = if n = name then some j else l.lookup n := by
  by_cases hn : n = name
  · rw [if_pos hn, hn, List.lookup_cons_self]
  · rw [if_neg hn, List.lookup_cons, beq_false_of_ne hn]

theorem lookup_insertEntry (name : String) (j : Json) (l : List (String × Json)) (n : String) :
    (insertEntry name j l).lookup n = if n = name then some j else l.lookup n := by
  induction l with
  | nil => rw [insertEntry, lookup_cons_eq]
  | cons e l ih => grind [insertEntry]

/-- From the end of a list the last value of a name is found. -/
theorem lookup_reverse_concat (l : List (String × Json)) (name : String) (j : Json) (n : String) :
    (l ++ [(name, j)]).reverse.lookup n = if n = name then some j else l.reverse.lookup n := by
  rw [List.reverse_concat, lookup_cons_eq]

theorem lookup_eq_none_iff {n : String} : l.lookup n = none ↔ n ∉ l.map Prod.fst := by
  rw [List.lookup_eq_none_iff, List.mem_map]
  simp only [bne_iff_ne, not_exists, not_and]
  exact forall₂_congr fun e _ ↦ ne_comm

/-- Exactly what was never named has no last value. -/
theorem lookup_reverse_eq_none_iff {n : String} :
    l.reverse.lookup n = none ↔ n ∉ l.map Prod.fst := by
  rw [lookup_eq_none_iff, List.map_reverse, List.mem_reverse]

theorem lookup_reverse_of_nodup (hl : (l.map Prod.fst).Nodup) (n : String) :
    l.reverse.lookup n = l.lookup n := by
  induction l with
  | nil => rfl
  | cons e l ih =>
    obtain ⟨name, j⟩ := e
    rw [List.map_cons, List.nodup_cons] at hl
    rw [List.reverse_cons, List.lookup_append, ih hl.2, lookup_cons_eq, lookup_cons_eq]
    by_cases hn : n = name
    · rw [hn, lookup_eq_none_iff.2 hl.1, Option.none_or, if_pos rfl, if_pos rfl]
    · rw [if_neg hn, if_neg hn]
      exact Option.or_none

theorem ofList_concat (entries : List (String × Json)) (name : String) (j : Json) :
    ofList (entries ++ [(name, j)]) = (ofList entries).insert name j := List.foldl_append

/-- What was inserted last under a name is its value. -/
theorem lookup_ofList (entries : List (String × Json)) (n : String) :
    (ofList entries).services.reverse.lookup n = entries.reverse.lookup n := by
  suffices h : ((ofList entries).services.map Prod.fst).Nodup ∧
      (ofList entries).services.lookup n = entries.reverse.lookup n by
    rw [lookup_reverse_of_nodup h.1, h.2]
  induction entries using List.reverseRecOn with
  | nil => exact ⟨.nil, rfl⟩
  | append_singleton entries e ih =>
    obtain ⟨name, j⟩ := e
    rw [ofList_concat]
    refine ⟨nodup_insertEntry name j ih.1, ?_⟩
    rw [insert, lookup_insertEntry, ih.2, lookup_reverse_concat]

end HostServices

namespace Script

/-! ### Functions and groups -/

namespace Heap

variable {h h' : Heap} {changed : List Nat} {a i : Nat} {op : String} {v : Value} {k : Key}

/-- A value is a function that runs an operation of the capability at a position. -/
def Dispatches (h : Heap) (v : Value) (capability : Nat) (operation : String) : Prop :=
  ∃ a, v = .function a ∧ h.function? a = some (.capability capability operation)

theorem Dispatches.ne_nil (hv : h.Dispatches v i op) : v ≠ .nil := by
  obtain ⟨a, rfl, -⟩ := hv
  exact nofun

theorem Dispatches.grew (hv : h.Dispatches v i op) (hg : Grew changed h h') :
    h'.Dispatches v i op := by
  obtain ⟨a, rfl, hf⟩ := hv
  exact ⟨a, rfl, hg.function?_eq hf⟩

/-- Such a function is called like any function of the host. -/
theorem Dispatches.callee_eq (hv : h.Dispatches v i op) (fuel : Nat) (args : List Value) :
    Machine.callee h (fuel + 1) v args = (v, args, .library (Library.invoke i op args)) := by
  obtain ⟨a, rfl, hf⟩ := hv
  simp only [Machine.callee, hf, Library.runObject]

theorem dispatches_newFunction (h : Heap) (i : Nat) (op : String) :
    (h.newFunction (.capability i op)).2.Dispatches (h.newFunction (.capability i op)).1 i op :=
  ⟨h.functions.size, rfl, Array.getElem?_push_size⟩

/-- The table at an address has the operations of a capability, and nothing else. -/
structure IsGroup (h : Heap) (a capability : Nat) (operations : List String) : Prop where
  lt_size : a < h.tables.size
  metatable_eq : (h.table a).metatable = none
  dispatches : ∀ op ∈ operations, h.Dispatches (h.rawGet a (textKey op)) capability op
  keys : ∀ k, h.rawGet a k ≠ .nil → ∃ op ∈ operations, k = textKey op

theorem rawGet_of_grew (hg : Grew changed h h') (ha : a < h.tables.size) (hnot : a ∉ changed) :
    h'.rawGet a k = h.rawGet a k := by
  rw [rawGet, rawGet, hg.table_eq ha hnot]

theorem IsGroup.grew {ops : List String} (ha : h.IsGroup a i ops) (hg : Grew changed h h')
    (hnot : a ∉ changed) : h'.IsGroup a i ops := by
  refine ⟨Nat.lt_of_lt_of_le ha.lt_size hg.size_le, ?_, fun op hop ↦ ?_, fun k hk ↦ ?_⟩
  · rw [hg.table_eq ha.lt_size hnot, ha.metatable_eq]
  · rw [rawGet_of_grew hg ha.lt_size hnot]
    exact (ha.dispatches op hop).grew hg
  · rw [rawGet_of_grew hg ha.lt_size hnot] at hk
    exact ha.keys k hk

theorem rawGet_rawSet (ha : a < h.tables.size) (hlawful : (h.table a).entries.Lawful) (k : Key)
    (v : Value) (a' : Nat) (k' : Key) :
    (h.rawSet a k v).rawGet a' k' = if a = a' ∧ k = k' then v else h.rawGet a' k' := by
  rw [rawGet, rawGet, table_rawSet ha]
  by_cases haa' : a = a'
  · subst haa'
    rw [if_pos rfl, Table.get_set hlawful]
    simp
  · rw [if_neg haa', if_neg fun hboth ↦ haa' hboth.1]

theorem metatable_rawSet (a : Nat) (k : Key) (v : Value) (h : Heap) (a' : Nat) :
    ((h.rawSet a k v).table a').metatable = (h.table a').metatable := by
  by_cases ha : a < h.tables.size
  · rw [table_rawSet ha]
    split
    case isTrue heq => rw [Table.metatable_set, heq]
    case isFalse => rfl
  · rw [table_rawSet_of_size_le (Nat.not_lt.1 ha)]

/-- What the table at an address has is kept as a lawful map, also when it changes. -/
def LawfulAt (h : Heap) (a : Nat) : Prop := a < h.tables.size ∧ (h.table a).entries.Lawful

theorem LawfulAt.grew (ha : h.LawfulAt a) (hg : Grew changed h h') (hnot : a ∉ changed) :
    h'.LawfulAt a := by
  refine ⟨Nat.lt_of_lt_of_le ha.1 hg.size_le, ?_⟩
  rw [hg.table_eq ha.1 hnot]
  exact ha.2

theorem LawfulAt.rawSet (ha : h.LawfulAt a) (a' : Nat) (k : Key) (v : Value) :
    (h.rawSet a' k v).LawfulAt a := by
  by_cases ha' : a' < h.tables.size
  · refine ⟨by rw [size_tables_rawSet]; exact ha.1, ?_⟩
    rw [table_rawSet ha']
    split
    case isTrue heq =>
      subst heq
      exact Table.lawful_set ha.2 k v
    case isFalse => exact ha.2
  · rw [LawfulAt, size_tables_rawSet, table_rawSet_of_size_le (Nat.not_lt.1 ha')]
    exact ha

end Heap

namespace Binding

variable {h h' hs h₀ : Heap} {i c g : Nat} {ops : List String}

/-! ### Who wins a name -/

/-- The operations of capabilities in the order of binding, each with the position of its
capability. -/
def operationsOf (outline : List (String × List String)) : List (Nat × String) :=
  outline.zipIdx.flatMap fun ((_, ops), i) ↦ ops.map fun op ↦ (i, op)

/-- A key is not the name of a service or of a capability. -/
def IsUnclaimed (service? : String → Option Json) (outline : List (String × List String))
    (k : Key) : Prop :=
  ∀ name, k = textKey name → service? name = none ∧ name ∉ outline.map Prod.fst

/-- What stands under a key of the global table of `h'`, where the services `service?` and the
capabilities of an outline have been bound in `h`. -/
inductive Bound (h : Heap) (service? : String → Option Json)
    (outline : List (String × List String)) (h' : Heap) : Key → Value → Prop
  /-- What became of the value of a service. -/
  | service {name : String} {j : Json} {made : Heap} {v : Value} (hj : service? name = some j)
      (hmade : h.tables.size ≤ made.tables.size) (hv : Heap.Image made h' j v) :
      Bound h service? outline h' (textKey name) v
  /-- A new table for the last capability of a name. -/
  | group {name : String} {ops : List String} {i a : Nat} (hname : service? name = none)
      (hi : outline[i]? = some (name, ops))
      (hlast : ∀ n > i, ∀ ops', outline[n]? ≠ some (name, ops')) (hnew : h.tables.size ≤ a)
      (ha : h'.IsGroup a i ops) : Bound h service? outline h' (textKey name) (.table a)
  /-- What was there before. -/
  | kept {k : Key} (hk : IsUnclaimed service? outline k)
      (hv : h.rawGet h.registry.globals k ≠ .nil) :
      Bound h service? outline h' k (h.rawGet h.registry.globals k)
  /-- The first operation of a name. -/
  | operation {op : String} {i : Nat} {v : Value}
      (hop : IsUnclaimed service? outline (textKey op))
      (hfree : h.rawGet h.registry.globals (textKey op) = .nil)
      (hfirst : (operationsOf outline).find? (fun p ↦ p.2 = op) = some (i, op))
      (hv : h'.Dispatches v i op) : Bound h service? outline h' (textKey op) v
  /-- Nothing. -/
  | nothing {k : Key} (hk : IsUnclaimed service? outline k)
      (hfree : h.rawGet h.registry.globals k = .nil)
      (hnone : ∀ p ∈ operationsOf outline, k ≠ textKey p.2) : Bound h service? outline h' k .nil

/-- What is under the name of a service became of its value. -/
theorem Bound.exists_image {service? : String → Option Json}
    {outline : List (String × List String)} {name : String} {j : Json} {v : Value}
    (hb : Bound h service? outline h' (textKey name) v) (hj : service? name = some j) :
    ∃ made, Heap.Image made h' j v := by
  have hclaimed : ¬IsUnclaimed service? outline (textKey name) := fun hk ↦ by
    have hnone := (hk name rfl).1
    rw [hj] at hnone
    exact nomatch hnone
  generalize hkey : textKey name = k at hb
  cases hb with
  | service hj' _ hv =>
    obtain rfl := textKey_injective hkey
    obtain rfl := Option.some.inj (hj.symm.trans hj')
    exact ⟨_, hv⟩
  | group hname =>
    obtain rfl := textKey_injective hkey
    exact nomatch hj.symm.trans hname
  | kept hk | operation hk | nothing hk => exact absurd (hkey ▸ hk) hclaimed

/-! ### Steps in a row -/

/-- Carries out steps with a table for the operations of the first capability. -/
def performFrom (start : Nat × Heap) (steps : List BindingStep) : Nat × Heap :=
  steps.foldl (fun acc s ↦ perform acc.1 acc.2 s) start

theorem performFrom_append (start : Nat × Heap) (steps steps' : List BindingStep) :
    performFrom start (steps ++ steps') = performFrom (performFrom start steps) steps' :=
  List.foldl_append

/-- The steps for one capability, and the names that are taken behind them. -/
def ofCapability (index : Nat) (taken : String → Bool) (name : String) (ops : List String) :
    List BindingStep × (String → Bool) :=
  let (steps, taken) := BindingStep.ofOperations index name taken ops
  (steps ++ [.group index name (!taken name)], BindingStep.take taken name)

theorem ofCapabilities_cons (index : Nat) (taken : String → Bool) (name : String)
    (ops : List String) (rest : List (String × List String)) :
    BindingStep.ofCapabilities index taken ((name, ops) :: rest) =
      (ofCapability index taken name ops).1 ++
        BindingStep.ofCapabilities (index + 1) (ofCapability index taken name ops).2 rest := by
  rw [BindingStep.ofCapabilities, ofCapability, List.append_assoc]
  rfl

/-! ### One operation after the other -/

theorem isTaken_eq (h : Heap) (name : String) :
    isTaken h name = !(h.rawGet h.registry.globals (textKey name)).isNil := rfl

theorem isTaken_eq_true_iff {name : String} :
    isTaken h name = true ↔ h.rawGet h.registry.globals (textKey name) ≠ .nil := by
  rw [isTaken_eq]
  cases h.rawGet h.registry.globals (textKey name) <;> simp [Value.isNil]

/-- What operations of the capability at position `i` change, whose table is at `c`. -/
structure AfterOperations (c i : Nat) (ops : List String) (h h' : Heap) : Prop where
  grew : Heap.Grew [h.registry.globals, c] h h'
  globals_lawful : h'.LawfulAt h.registry.globals
  group_lawful : h'.LawfulAt c
  globals_metatable : (h'.table h.registry.globals).metatable =
    (h.table h.registry.globals).metatable
  group_metatable : (h'.table c).metatable = (h.table c).metatable
  /-- What is taken is kept. -/
  taken : ∀ k, h.rawGet h.registry.globals k ≠ .nil →
    h'.rawGet h.registry.globals k = h.rawGet h.registry.globals k
  /-- What is free is given away. -/
  free : ∀ op ∈ ops, h.rawGet h.registry.globals (textKey op) = .nil →
    h'.Dispatches (h'.rawGet h.registry.globals (textKey op)) i op
  others : ∀ k, (∀ op ∈ ops, k ≠ textKey op) →
    h'.rawGet h.registry.globals k = h.rawGet h.registry.globals k
  group : ∀ op ∈ ops, h'.Dispatches (h'.rawGet c (textKey op)) i op
  group_others : ∀ k, (∀ op ∈ ops, k ≠ textKey op) → h'.rawGet c k = h.rawGet c k

namespace AfterOperations

variable {ops' : List String} {h'' : Heap}

theorem nil (hglobals : h.LawfulAt h.registry.globals) (hc : h.LawfulAt c) :
    AfterOperations c i [] h h :=
  ⟨.refl h, hglobals, hc, rfl, rfl, fun _ _ ↦ rfl, nofun, fun _ _ ↦ rfl, nofun, fun _ _ ↦ rfl⟩

theorem append (hops : AfterOperations c i ops h h') (hops' : AfterOperations c i ops' h' h'') :
    AfterOperations c i (ops ++ ops') h h'' := by
  have hsame : h'.registry.globals = h.registry.globals := by rw [hops.grew.registry_eq]
  obtain ⟨hgrew, hglobals, hc, hgm, hcm, htaken, hfree, hothers, hgroup, hgroupOthers⟩ := hops'
  rw [hsame] at hgrew hglobals hgm htaken hfree hothers
  refine ⟨hops.grew.trans hgrew fun _ hmem _ ↦ hmem, hglobals, hc,
    hgm.trans hops.globals_metatable, hcm.trans hops.group_metatable, fun k hk ↦ ?_,
    fun op hop hnil ↦ ?_, fun k hk ↦ ?_, fun op hop ↦ ?_, fun k hk ↦ ?_⟩
  · have hkept := hops.taken k hk
    rw [htaken k (by rwa [hkept]), hkept]
  · by_cases hmem : op ∈ ops
    · -- The name was given away by then, so it is taken for the operations that follow.
      have hgiven := hops.free op hmem hnil
      rw [htaken _ hgiven.ne_nil]
      exact hgiven.grew hgrew
    · have hstill := hops.others (textKey op) fun op' hop' heq ↦
        hmem (textKey_injective heq ▸ hop')
      exact hfree op ((List.mem_append.1 hop).resolve_left hmem) (hstill.trans hnil)
  · rw [List.forall_mem_append] at hk
    rw [hothers k hk.2, hops.others k hk.1]
  · by_cases hmem : op ∈ ops'
    · exact hgroup op hmem
    · rw [hgroupOthers (textKey op) fun op' hop' heq ↦ hmem (textKey_injective heq ▸ hop')]
      exact (hops.group op ((List.mem_append.1 hop).resolve_right hmem)).grew hgrew
  · rw [List.forall_mem_append] at hk
    rw [hgroupOthers k hk.2, hops.group_others k hk.1]

/-- Behind operations their names are taken. -/
theorem isTaken_iff (hops : AfterOperations c i ops h h') (name : String) :
    isTaken h' name = true ↔ name ∈ ops ∨ isTaken h name = true := by
  rw [isTaken_eq_true_iff, isTaken_eq_true_iff, hops.grew.registry_eq]
  by_cases hnil : h.rawGet h.registry.globals (textKey name) = .nil
  · by_cases hmem : name ∈ ops
    · exact iff_of_true (hops.free name hmem hnil).ne_nil (.inl hmem)
    · have hstill := hops.others (textKey name) fun op hop heq ↦
        hmem (textKey_injective heq ▸ hop)
      rw [hstill]
      simp [hmem, hnil]
  · rw [hops.taken _ hnil]
    simp [hnil]

/-- One operation, given by what is read behind it. -/
theorem of_reads {op : String} {f : Value} (hf : h'.Dispatches f i op)
    (hgrew : Heap.Grew [h.registry.globals, c] h h') (hglobals : h'.LawfulAt h.registry.globals)
    (hc : h'.LawfulAt c) (hmetatable : ∀ a, (h'.table a).metatable = (h.table a).metatable)
    (hglobal : h'.rawGet h.registry.globals (textKey op) =
      if isTaken h op then h.rawGet h.registry.globals (textKey op) else f)
    (hgroup : h'.rawGet c (textKey op) = f)
    (hothers : ∀ a k, k ≠ textKey op → h'.rawGet a k = h.rawGet a k) :
    AfterOperations c i [op] h h' := by
  refine ⟨hgrew, hglobals, hc, hmetatable _, hmetatable _, fun k hk ↦ ?_, fun op' hop' hnil ↦ ?_,
    fun k hk ↦ hothers _ k (hk op List.mem_cons_self), fun op' hop' ↦ ?_,
    fun k hk ↦ hothers _ k (hk op List.mem_cons_self)⟩
  · by_cases hop : k = textKey op
    · subst hop
      rw [hglobal, if_pos (isTaken_eq_true_iff.2 hk)]
    · exact hothers _ k hop
  · obtain rfl := List.mem_singleton.1 hop'
    have hfree : ¬isTaken h op' = true := fun htaken ↦ isTaken_eq_true_iff.1 htaken hnil
    rw [hglobal, if_neg hfree]
    exact hf
  · obtain rfl := List.mem_singleton.1 hop'
    rw [hgroup]
    exact hf

/-- A table that was empty has the operations then. -/
theorem isGroup (hops : AfterOperations c i ops h h') (hempty : h.table c = {}) :
    h'.IsGroup c i ops := by
  refine ⟨hops.group_lawful.1, ?_, hops.group, fun k hk ↦ ?_⟩
  · rw [hops.group_metatable, hempty]
  · by_contra hnot
    have hnone : ∀ op ∈ ops, k ≠ textKey op := fun op hop heq ↦ hnot ⟨op, hop, heq⟩
    rw [hops.group_others k hnone, Heap.rawGet, hempty] at hk
    exact hk rfl

end AfterOperations

/-- One operation. Its name is given away exactly if it is free. -/
theorem afterOperations_perform (hglobals : h.LawfulAt h.registry.globals) (hc : h.LawfulAt c)
    (hne : h.registry.globals ≠ c) (owner op : String) :
    ∃ h', perform c h (.operation i owner op (!isTaken h op)) = (c, h') ∧
      AfterOperations c i [op] h h' := by
  -- The function, and its entry in the group.
  let h₁ := (h.newFunction (.capability i op)).2
  let f := (h.newFunction (.capability i op)).1
  have hmade : Heap.Grew [h.registry.globals, c] h h₁ := .newFunction _ h
  let h₂ := h₁.rawSet c (textKey op) f
  have hput : Heap.Grew [h.registry.globals, c] h₁ h₂ :=
    Heap.Grew.rawSet (h := h₁) hc.1 (List.mem_cons_of_mem _ List.mem_cons_self) _ _
  have hgrew₂ := hmade.trans hput fun _ hmem _ ↦ hmem
  have hglobals₂ : h₂.LawfulAt h.registry.globals := Heap.LawfulAt.rawSet hglobals ..
  have hc₂ : h₂.LawfulAt c := Heap.LawfulAt.rawSet hc ..
  have hf₂ : h₂.Dispatches f i op := (Heap.dispatches_newFunction h i op).grew hput
  have hread₂ (a : Nat) (k : Key) :
      h₂.rawGet a k = if c = a ∧ textKey op = k then f else h.rawGet a k :=
    Heap.rawGet_rawSet hc.1 hc.2 _ _ a k
  have hmetatable₂ (a : Nat) : (h₂.table a).metatable = (h.table a).metatable :=
    Heap.metatable_rawSet ..
  cases htaken : isTaken h op with
  | true =>
    refine ⟨h₂, rfl, .of_reads hf₂ hgrew₂ hglobals₂ hc₂ hmetatable₂ ?_ ?_ fun a k hk ↦ ?_⟩
    · rw [hread₂, if_neg fun hboth ↦ hne hboth.1.symm, htaken, if_pos rfl]
    · rw [hread₂, if_pos ⟨rfl, rfl⟩]
    · rw [hread₂, if_neg fun hboth ↦ hk hboth.2.symm]
  | false =>
    let h₃ := h₂.rawSet h.registry.globals (textKey op) f
    have hset : Heap.Grew [h.registry.globals, c] h₂ h₃ :=
      .rawSet hglobals₂.1 List.mem_cons_self _ _
    have hread₃ (a : Nat) (k : Key) : h₃.rawGet a k =
        if h.registry.globals = a ∧ textKey op = k then f else h₂.rawGet a k :=
      Heap.rawGet_rawSet hglobals₂.1 hglobals₂.2 _ _ a k
    refine ⟨h₃, rfl, .of_reads (hf₂.grew hset) (hgrew₂.trans hset fun _ hmem _ ↦ hmem)
      (hglobals₂.rawSet ..) (hc₂.rawSet ..)
      (fun a ↦ (Heap.metatable_rawSet ..).trans (hmetatable₂ a)) ?_ ?_ fun a k hk ↦ ?_⟩
    · rw [hread₃, if_pos ⟨rfl, rfl⟩, htaken]
      rfl
    · rw [hread₃, if_neg fun hboth ↦ hne hboth.1, hread₂, if_pos ⟨rfl, rfl⟩]
    · rw [hread₃, if_neg fun hboth ↦ hk hboth.2.symm, hread₂, if_neg fun hboth ↦ hk hboth.2.symm]

/-- All operations of a capability. -/
theorem afterOperations_foldl (owner : String) (ops : List String) {taken : String → Bool}
    (hglobals : h.LawfulAt h.registry.globals) (hc : h.LawfulAt c) (hne : h.registry.globals ≠ c)
    (htaken : ∀ name, taken name = isTaken h name) :
    ∃ h', performFrom (c, h) (BindingStep.ofOperations i owner taken ops).1 = (c, h') ∧
      AfterOperations c i ops h h' ∧
      ∀ name, (BindingStep.ofOperations i owner taken ops).2 name = isTaken h' name := by
  induction ops generalizing h taken with
  | nil => exact ⟨h, rfl, .nil hglobals hc, htaken⟩
  | cons op ops ih =>
    obtain ⟨h₁, hperform, hop⟩ := afterOperations_perform (i := i) hglobals hc hne owner op
    have hsame : h₁.registry.globals = h.registry.globals := by rw [hop.grew.registry_eq]
    have htaken₁ (name : String) : BindingStep.take taken op name = isTaken h₁ name := by
      rw [Bool.eq_iff_iff, hop.isTaken_iff, ← htaken, BindingStep.take]
      simp
    obtain ⟨h', hfold, hops, htaken'⟩ := ih (hsame ▸ hop.globals_lawful) hop.group_lawful
      (hsame ▸ hne) htaken₁
    refine ⟨h', ?_, hop.append hops, htaken'⟩
    rw [BindingStep.ofOperations]
    have hfirst : perform c h (.operation i owner op (!taken op)) = (c, h₁) := by
      rw [htaken, hperform]
    exact (congrArg (performFrom · _) hfirst).trans hfold

/-! ### One capability after the other -/

theorem Bound.grew {service? : String → Option Json} {outline : List (String × List String)}
    {k : Key} {v : Value} (hb : Bound h₀ service? outline h k v)
    (hglobals : h₀.registry.globals < h₀.tables.size)
    (hg : Heap.Grew [h₀.registry.globals] h h') : Bound h₀ service? outline h' k v := by
  cases hb with
  | service hj hmade hv =>
    refine .service hj hmade (hv.grew hg fun a ha ↦ ?_)
    rw [List.mem_singleton.1 ha]
    exact Nat.lt_of_lt_of_le hglobals hmade
  | group hname hi hlast hnew ha =>
    refine .group hname hi hlast hnew (ha.grew hg fun hmem ↦ ?_)
    rw [List.mem_singleton.1 hmem] at hnew
    omega
  | kept hk hv => exact .kept hk hv
  | operation hop hfree hfirst hv => exact .operation hop hfree hfirst (hv.grew hg)
  | nothing hk hfree hnone => exact .nothing hk hfree hnone

theorem operationsOf_concat (outline : List (String × List String)) (name : String)
    (ops : List String) : operationsOf (outline ++ [(name, ops)]) =
      operationsOf outline ++ ops.map fun op ↦ (outline.length, op) := by
  rw [operationsOf, operationsOf, List.zipIdx_append, List.flatMap_append]
  simp

section Concat

variable {service? : String → Option Json} {outline : List (String × List String)} {name : String}
  {k : Key} {v : Value}

theorem IsUnclaimed.concat (hk : IsUnclaimed service? outline k) (hname : k ≠ textKey name)
    (ops : List String) : IsUnclaimed service? (outline ++ [(name, ops)]) k := by
  intro n hn
  obtain ⟨hservice, hnot⟩ := hk n hn
  have hne : n ≠ name := fun heq ↦ hname (heq ▸ hn)
  simp only [List.map_append, List.map_cons, List.map_nil, List.mem_append, List.mem_singleton]
  exact ⟨hservice, not_or.2 ⟨hnot, hne⟩⟩

/-- What a name got before it keeps when a capability of another name comes. -/
theorem Bound.concat (hb : Bound h₀ service? outline h k v) (hv : v ≠ .nil)
    (hname : k ≠ textKey name) (ops : List String) :
    Bound h₀ service? (outline ++ [(name, ops)]) h k v := by
  cases hb with
  | service hj hmade hv => exact .service hj hmade hv
  | @group n ops' i a hservice hi hlast hnew ha =>
    have hne : name ≠ n := fun heq ↦ hname (heq ▸ rfl)
    refine .group hservice ?_ (fun n' hn' ops'' ↦ ?_) hnew ha
    · rw [List.getElem?_append_left (List.getElem?_eq_some_iff.1 hi).1, hi]
    · rw [List.getElem?_append]
      split
      case isTrue => exact hlast n' hn' ops''
      case isFalse =>
        intro heq
        have hpair := List.mem_singleton.1 (List.mem_of_getElem? heq)
        exact hne (congrArg Prod.fst hpair).symm
  | kept hk hv => exact .kept (hk.concat hname ops) hv
  | operation hop hfree hfirst hv =>
    refine .operation (hop.concat hname ops) hfree ?_ hv
    rw [operationsOf_concat, List.find?_append, hfirst]
    rfl
  | nothing => exact absurd rfl hv

/-- A free name is given to the first operation of a capability of another name. -/
theorem Bound.concat_of_nil {ops : List String} (hb : Bound h₀ service? outline h k .nil)
    (hservice : ∀ name, service? name = none) (hname : k ≠ textKey name)
    (hfree : ∀ op ∈ ops, k = textKey op → h.Dispatches v outline.length op)
    (hothers : (∀ op ∈ ops, k ≠ textKey op) → v = .nil) :
    Bound h₀ service? (outline ++ [(name, ops)]) h k v := by
  generalize hnil : Value.nil = v₀ at hb
  cases hb with
  | service hj => simp [hservice] at hj
  | group => exact nomatch hnil
  | kept _ hv => exact absurd hnil.symm hv
  | operation _ _ _ hv => exact absurd hnil.symm hv.ne_nil
  | nothing hk hfree₀ hnone =>
    by_cases hop : ∃ op ∈ ops, k = textKey op
    · obtain ⟨op, hmem, rfl⟩ := hop
      refine .operation (hk.concat hname ops) hfree₀ ?_ (hfree op hmem rfl)
      have hbefore : (operationsOf outline).find? (fun p ↦ p.2 = op) = none :=
        List.find?_eq_none.2 fun p hp heq ↦ hnone p hp (by rw [of_decide_eq_true heq])
      obtain ⟨op', hop'⟩ : ∃ op', ops.find? (fun op' ↦ op' = op) = some op' :=
        Option.isSome_iff_exists.1 (List.find?_isSome.2 ⟨op, hmem, decide_eq_true rfl⟩)
      have heq : decide (op' = op) = true := List.find?_some (p := fun op' ↦ op' = op) hop'
      obtain rfl := of_decide_eq_true heq
      have hown : (ops.map fun op ↦ (outline.length, op)).find? (fun p ↦ p.2 = op') =
          some (outline.length, op') := by
        rw [List.find?_map]
        exact congrArg (Option.map _) hop'
      rw [operationsOf_concat, List.find?_append, hbefore, hown]
      rfl
    · have hnot : ∀ op ∈ ops, k ≠ textKey op := fun op hmem heq ↦ hop ⟨op, hmem, heq⟩
      obtain rfl := hothers hnot
      refine .nothing (hk.concat hname ops) hfree₀ fun p hp ↦ ?_
      rw [operationsOf_concat] at hp
      rcases List.mem_append.1 hp with hp | hp
      · exact hnone p hp
      · obtain ⟨op, hmem, rfl⟩ := List.mem_map.1 hp
        exact hnot op hmem

/-- The table of the capability that comes last stands under its name. -/
theorem bound_concat_group {ops : List String} {a : Nat} (hservice : service? name = none)
    (hnew : h₀.tables.size ≤ a) (ha : h.IsGroup a outline.length ops) :
    Bound h₀ service? (outline ++ [(name, ops)]) h (textKey name) (.table a) := by
  have hi : (outline ++ [(name, ops)])[outline.length]? = some (name, ops) := by simp
  refine .group hservice hi (fun n hn ops' ↦ ?_) hnew ha
  have hlength : (outline ++ [(name, ops)]).length ≤ n := by
    rw [List.length_append]
    exact hn
  rw [List.getElem?_eq_none hlength]
  exact nofun

end Concat

/-- Services and capabilities have been bound in `h₀`, and nothing else has happened to it. -/
structure Bindings (service? : String → Option Json) (outline : List (String × List String))
    (h₀ h : Heap) : Prop where
  globals_lt : h₀.registry.globals < h₀.tables.size
  grew : Heap.Grew [h₀.registry.globals] h₀ h
  lawful : h.LawfulAt h₀.registry.globals
  metatable_eq : (h.table h₀.registry.globals).metatable =
    (h₀.table h₀.registry.globals).metatable
  bound : ∀ k, Bound h₀ service? outline h k (h.rawGet h₀.registry.globals k)

namespace Bindings

variable {service? : String → Option Json} {outline : List (String × List String)} {name : String}

theorem empty (hlawful : h.LawfulAt h.registry.globals) : Bindings (fun _ ↦ none) [] h h := by
  refine ⟨hlawful.1, .refl h, hlawful, rfl, fun k ↦ ?_⟩
  have hk : IsUnclaimed (fun _ ↦ none) [] k := fun _ _ ↦ ⟨rfl, nofun⟩
  by_cases hnil : h.rawGet h.registry.globals k = .nil
  · rw [hnil]
    exact .nothing hk hnil nofun
  · exact .kept hk hnil

theorem grow (hb : Bindings service? outline h₀ h) (hg : Heap.Grew [] h h') :
    Bindings service? outline h₀ h' := by
  refine ⟨hb.globals_lt, hb.grew.trans hg nofun, hb.lawful.grew hg List.not_mem_nil, ?_, fun k ↦ ?_⟩
  · rw [hg.table_eq hb.lawful.1 List.not_mem_nil, hb.metatable_eq]
  · rw [Heap.rawGet_of_grew hg hb.lawful.1 List.not_mem_nil]
    exact (hb.bound k).grew hb.globals_lt (hg.mono nofun)

/-- What operations of one more capability leave under the other names. -/
theorem bound_operations (hb : Bindings service? outline h₀ hs)
    (hservice : ∀ name, service? name = none)
    (hops : AfterOperations c outline.length ops (hs.newTable {}).2 h)
    (hgrew : Heap.Grew [h₀.registry.globals] hs h') (hset : Heap.Grew [h₀.registry.globals] h h')
    {k : Key} (hk : k ≠ textKey name) :
    Bound h₀ service? (outline ++ [(name, ops)]) h' k (h.rawGet h₀.registry.globals k) := by
  have hregistry : (hs.newTable {}).2.registry = h₀.registry := hb.grew.registry_eq
  obtain ⟨-, -, -, -, -, htaken, hfree, hothers, -, -⟩ := hops
  rw [hregistry] at htaken hfree hothers
  have hnew : Heap.Grew [] hs (hs.newTable {}).2 := .newTable {} hs
  have hsame : (hs.newTable {}).2.rawGet h₀.registry.globals k =
      hs.rawGet h₀.registry.globals k := Heap.rawGet_of_grew hnew hb.lawful.1 List.not_mem_nil
  have hbound := (hb.bound k).grew hb.globals_lt hgrew
  by_cases hnil : hs.rawGet h₀.registry.globals k = .nil
  · rw [hnil] at hbound hsame
    refine hbound.concat_of_nil hservice hk (fun op hop heq ↦ ?_) fun hnot ↦ ?_
    · subst heq
      exact (hfree op hop hsame).grew hset
    · rw [hothers k hnot, hsame]
  · rw [← hsame] at hbound hnil
    rw [htaken k hnil]
    exact hbound.concat hnil hk ops

/-- One more capability: its operations are bound, and then its table is put under its name. -/
theorem group (hb : Bindings service? outline h₀ hs) (hservice : ∀ name, service? name = none)
    (name : String)
    (hops : AfterOperations hs.tables.size outline.length ops (hs.newTable {}).2 h) :
    Bindings service? (outline ++ [(name, ops)]) h₀
      (h.setField h₀.registry.globals name (.table hs.tables.size)) := by
  have hold : h₀.registry.globals < hs.tables.size := hb.lawful.1
  have hregistry : (hs.newTable {}).2.registry = h₀.registry := hb.grew.registry_eq
  have hgroup : h.IsGroup hs.tables.size outline.length ops :=
    hops.isGroup (by rw [Heap.table_newTable, if_pos rfl])
  have hgrew := hops.grew
  have hlawful := hops.globals_lawful
  have hmetatable := hops.globals_metatable
  rw [hregistry] at hgrew hlawful hmetatable
  rw [Heap.setField_eq]
  have hnew : Heap.Grew [] hs (hs.newTable {}).2 := .newTable {} hs
  have hset : Heap.Grew [h₀.registry.globals] h _ :=
    .rawSet hlawful.1 List.mem_cons_self (textKey name) (.table hs.tables.size)
  have hread := Heap.rawGet_rawSet hlawful.1 hlawful.2 (textKey name) (.table hs.tables.size)
  have hlawful' := hlawful.rawSet h₀.registry.globals (textKey name) (.table hs.tables.size)
  have hmetatable' := Heap.metatable_rawSet h₀.registry.globals (textKey name)
    (.table hs.tables.size) h
  generalize h.rawSet h₀.registry.globals (textKey name) (.table hs.tables.size) = h'
    at hset hread hlawful' hmetatable' ⊢
  -- The table of the capability is none of those that were there before.
  have hgrew' : Heap.Grew [h₀.registry.globals] hs h' := by
    have hboth : Heap.Grew [h₀.registry.globals, hs.tables.size] hs h :=
      (hnew.mono nofun).trans hgrew fun _ hmem _ ↦ hmem
    refine (hboth.mono fun a hmem ha ↦ ?_).trans hset fun _ hmem _ ↦ hmem
    rcases List.mem_cons.1 hmem with rfl | hmem
    · exact List.mem_cons_self
    · rw [List.mem_singleton.1 hmem] at ha
      exact absurd ha (Nat.lt_irrefl _)
  refine ⟨hb.globals_lt, hb.grew.trans hgrew' fun _ hmem _ ↦ hmem, hlawful', ?_, fun k ↦ ?_⟩
  · rw [hmetatable', hmetatable, hnew.table_eq hold List.not_mem_nil, hb.metatable_eq]
  · rw [hread]
    by_cases hk : textKey name = k
    · subst hk
      rw [if_pos ⟨rfl, rfl⟩]
      exact bound_concat_group (hservice name) hb.grew.size_le
        (hgroup.grew hset (by simpa using Nat.ne_of_gt hold))
    · rw [if_neg fun hboth ↦ hk hboth.2]
      exact hb.bound_operations hservice hops hgrew' hset (Ne.symm hk)

end Bindings

/-- All steps for one more capability, with what is known to be taken. -/
theorem exists_bindings_capability {outline : List (String × List String)}
    (hb : Bindings (fun _ ↦ none) outline h₀ hs) {taken : String → Bool}
    (htaken : ∀ n, taken n = isTaken hs n) (name : String) (ops : List String) :
    ∃ hs', performFrom (hs.newTable {}) (ofCapability outline.length taken name ops).1 =
        hs'.newTable {} ∧
      Bindings (fun _ ↦ none) (outline ++ [(name, ops)]) h₀ hs' ∧
      ∀ n, (ofCapability outline.length taken name ops).2 n = isTaken hs' n := by
  have hold : (hs.newTable {}).2.registry.globals = h₀.registry.globals := by
    rw [← hb.grew.registry_eq]
    rfl
  have hnew : Heap.Grew [] hs (hs.newTable {}).2 := .newTable {} hs
  have hlawful : (hs.newTable {}).2.LawfulAt (hs.newTable {}).2.registry.globals := by
    rw [hold]
    exact hb.lawful.grew hnew List.not_mem_nil
  have hempty : (hs.newTable {}).2.LawfulAt hs.tables.size := by
    rw [Heap.LawfulAt, Heap.size_tables_newTable, Heap.table_newTable, if_pos rfl]
    exact ⟨Nat.lt_succ_self _, KeyMap.lawful_empty⟩
  have htaken' (n : String) : taken n = isTaken (hs.newTable {}).2 n := by
    rw [htaken, isTaken_eq, isTaken_eq, hold, hb.grew.registry_eq,
      Heap.rawGet_of_grew hnew hb.lawful.1 List.not_mem_nil]
  obtain ⟨h₁, hfold, hops, htaken₁⟩ := afterOperations_foldl (i := outline.length) name ops hlawful
    hempty (by rw [hold]; exact Nat.ne_of_lt hb.lawful.1) htaken'
  have hregistry : h₁.registry.globals = h₀.registry.globals := by rw [hops.grew.registry_eq, hold]
  have hgroup := hb.group (fun _ ↦ rfl) name hops
  refine ⟨_, ?_, hgroup, fun n ↦ ?_⟩
  · have hstart : hs.newTable {} = (hs.tables.size, (hs.newTable {}).2) := rfl
    rw [ofCapability, performFrom_append, hstart, hfold, ← hregistry]
    rfl
  · have hread := Heap.rawGet_rawSet (hold ▸ hops.globals_lawful).1 (hold ▸ hops.globals_lawful).2
      (textKey name) (.table hs.tables.size) h₀.registry.globals (textKey n)
    have htake : (ofCapability outline.length taken name ops).2 n =
        (n == name || isTaken h₁ n) := congrArg (n == name || ·) (htaken₁ n)
    rw [htake, isTaken_eq, isTaken_eq, hgroup.grew.registry_eq, Heap.setField_eq, hread, hregistry]
    by_cases hn : n = name
    · subst hn
      simp [Value.isNil]
    · have hkey : textKey name ≠ textKey n := fun heq ↦ hn (textKey_injective heq).symm
      simp [hn, hkey]

/-- All capabilities. -/
theorem exists_bindings_foldl {outline : List (String × List String)}
    (hb : Bindings (fun _ ↦ none) outline h₀ hs) {taken : String → Bool}
    (htaken : ∀ n, taken n = isTaken hs n) (rest : List (String × List String)) :
    ∃ hs', performFrom (hs.newTable {}) (BindingStep.ofCapabilities outline.length taken rest) =
        hs'.newTable {} ∧
      Bindings (fun _ ↦ none) (outline ++ rest) h₀ hs' := by
  induction rest generalizing outline hs taken with
  | nil => exact ⟨hs, rfl, by rwa [List.append_nil]⟩
  | cons capability rest ih =>
    obtain ⟨name, ops⟩ := capability
    obtain ⟨hs₁, hstep, hb₁, htaken₁⟩ := exists_bindings_capability hb htaken name ops
    obtain ⟨hs', hfold, hb'⟩ := ih hb₁ htaken₁
    refine ⟨hs', ?_, by simpa using hb'⟩
    rw [List.length_append] at hfold
    rw [ofCapabilities_cons, performFrom_append, hstep]
    exact hfold

theorem bindings_bindCapabilities (hlawful : h.LawfulAt h.registry.globals)
    (outline : List (String × List String)) :
    Bindings (fun _ ↦ none) outline h (bindCapabilities outline h).2 := by
  obtain ⟨hs', hfold, hb⟩ := exists_bindings_foldl (.empty hlawful) (fun _ ↦ rfl) outline
  have hall : (bindCapabilities outline h).2 = (hs'.newTable {}).2 := congrArg Prod.snd hfold
  rw [hall]
  exact hb.grow (.newTable {} hs')

/-! ### One service after the other -/

section Services

variable {service? service?' : String → Option Json} {outline : List (String × List String)}
  {name : String} {j : Json}

/-- A service that is bound later is of no importance to other names. -/
theorem Bound.serve {k : Key} {v : Value} (hb : Bound h₀ service? outline h k v)
    (hservice : ∀ n, n ≠ name → service?' n = service? n) (hname : k ≠ textKey name) :
    Bound h₀ service?' outline h k v := by
  have hunclaimed {k : Key} (hk : IsUnclaimed service? outline k) (hname : k ≠ textKey name) :
      IsUnclaimed service?' outline k := fun n hn ↦ by
    rw [hservice n fun heq ↦ hname (heq ▸ hn)]
    exact hk n hn
  cases hb with
  | @service n j made v hj hmade hv =>
    exact .service ((hservice n fun heq ↦ hname (heq ▸ rfl)).trans hj) hmade hv
  | @group n ops i a hn hi hlast hnew ha =>
    exact .group ((hservice n fun heq ↦ hname (heq ▸ rfl)).trans hn) hi hlast hnew ha
  | kept hk hv => exact .kept (hunclaimed hk hname) hv
  | operation hop hfree hfirst hv => exact .operation (hunclaimed hop hname) hfree hfirst hv
  | nothing hk hfree hnone => exact .nothing (hunclaimed hk hname) hfree hnone

/-- One service. -/
theorem Bindings.service (hb : Bindings service? outline h₀ h) (hj : service?' name = some j)
    (hservice : ∀ n, n ≠ name → service?' n = service? n) :
    Bindings service?' outline h₀
      ((h.ofJson j).2.setField (h.ofJson j).2.registry.globals name (h.ofJson j).1) := by
  have hmade := Heap.grew_ofJson j h
  have hb' := hb.grow hmade
  have hregistry : (h.ofJson j).2.registry = h₀.registry := hb'.grew.registry_eq
  have himage := Heap.image_ofJson j h
  rw [Heap.setField_eq, hregistry]
  generalize (h.ofJson j).2 = h₁ at hb' himage ⊢
  generalize (h.ofJson j).1 = v at himage ⊢
  have hlawful := hb'.lawful
  have hset : Heap.Grew [h₀.registry.globals] h₁ (h₁.rawSet h₀.registry.globals (textKey name) v) :=
    .rawSet hlawful.1 List.mem_cons_self _ _
  refine ⟨hb.globals_lt, hb'.grew.trans hset fun _ hmem _ ↦ hmem, hlawful.rawSet .., ?_,
    fun k ↦ ?_⟩
  · rw [Heap.metatable_rawSet, hb'.metatable_eq]
  · rw [Heap.rawGet_rawSet hlawful.1 hlawful.2]
    by_cases hk : textKey name = k
    · subst hk
      rw [if_pos ⟨rfl, rfl⟩]
      refine .service hj hb.grew.size_le (himage.grew hset fun a ha ↦ ?_)
      rw [List.mem_singleton.1 ha]
      exact hb.lawful.1
    · rw [if_neg fun hboth ↦ hk hboth.2]
      exact ((hb'.bound k).grew hb.globals_lt hset).serve hservice (Ne.symm hk)

/-- All services; of one name the last one counts. -/
theorem bindings_performFrom (c : Nat) {done : List (String × Json)}
    (hb : Bindings (fun n ↦ done.reverse.lookup n) outline h₀ h) (services : List (String × Json)) :
    Bindings (fun n ↦ (done ++ services).reverse.lookup n) outline h₀
      (performFrom (c, h) (services.map fun (name, value) ↦ .service name value)).2 := by
  induction services generalizing done h with
  | nil => simpa [performFrom] using hb
  | cons service services ih =>
    obtain ⟨name, j⟩ := service
    have hlast := HostServices.lookup_reverse_concat done name j
    have hone : Bindings (fun n ↦ (done ++ [(name, j)]).reverse.lookup n) outline h₀
        (perform c h (.service name j)).2 :=
      hb.service (by rw [hlast, if_pos rfl]) fun n hn ↦ by rw [hlast, if_neg hn]
    have hrest := ih hone
    rw [List.append_assoc] at hrest
    exact hrest

theorem bindings_bindServices (hb : Bindings (fun _ ↦ none) outline h₀ h) (s : HostServices) :
    Bindings (fun n ↦ s.services.reverse.lookup n) outline h₀ (bindServices s h) := by
  have hnew : Bindings (fun n ↦ ([] : List (String × Json)).reverse.lookup n) outline h₀
      (h.newTable {}).2 := hb.grow (.newTable {} h)
  exact bindings_performFrom h.tables.size hnew s.services

end Services

/-! ### Capabilities and services -/

theorem openHeap_lawfulAt : openHeap.LawfulAt openHeap.registry.globals := by
  have hcheck : (decide (openHeap.registry.globals < openHeap.tables.size) &&
      (openHeap.table openHeap.registry.globals).entries.isLawful) = true := by decide +kernel
  rw [Bool.and_eq_true] at hcheck
  exact ⟨of_decide_eq_true hcheck.1, KeyMap.lawful_of_isLawful hcheck.2⟩

variable {m : Type → Type} [Monad m]

end Binding

end Script

end MacroStream
