import Mathlib.Data.List.Induction
import MacroStream.Store

/-!
# Stores and the order of their macros

A store that is made from a list of macros has the last text of each name. So it depends on the
order of the list exactly if some name comes with two texts: `OneText` says that none does, and
`sameTexts_reordered_iff` that this is what it takes. The list is one that was made from other
things, each of which gives at most one macro, and it is these that change places.

Only the texts under the names matter, not how a store keeps them: stores are compared by
`SameTexts`, and scripts cannot tell stores with the same texts apart.
-/

namespace MacroStream.MacroStore

/-- Two stores have the same macros, with the same texts. -/
def SameTexts (s s' : MacroStore) : Prop := ∀ name, s.get? name = s'.get? name

/-- Hosts that keep such stores answer alike. -/
theorem SameTexts.toStoredMacros_eq {s s' : MacroStore} (h : s.SameTexts s') :
    s.toStoredMacros = s'.toStoredMacros :=
  StoredMacros.ext (funext h)

/-! ### The last text of a name -/

variable {es : List (String × String)} {name text : String}

theorem ofList_concat (es : List (String × String)) (e : String × String) :
    ofList (es ++ [e]) = (ofList es).insert e.1 e.2 := by
  rw [ofList, List.foldl_append]
  rfl

/-- A name is looked up from the end of the list. -/
theorem get?_ofList (es : List (String × String)) (name : String) :
    (ofList es).get? name = es.reverse.lookup name := by
  induction es using List.reverseRecOn with
  | nil => rfl
  | append_singleton es e ih =>
    obtain ⟨key, text⟩ := e
    rw [ofList_concat, get?_insert, ih, List.reverse_concat, List.lookup_cons]
    by_cases h : name = key
    · rw [if_pos h, beq_iff_eq.2 h]
    · rw [if_neg h, beq_false_of_ne h]

theorem get?_ofList_concat (es : List (String × String)) (name text : String) :
    (ofList (es ++ [(name, text)])).get? name = some text := by
  rw [ofList_concat, get?_insert, if_pos rfl]

/-- What is found stood in the list. -/
theorem mem_of_get?_ofList (h : (ofList es).get? name = some text) : (name, text) ∈ es := by
  rw [get?_ofList, List.lookup_eq_some_iff] at h
  obtain ⟨before, behind, hes, -⟩ := h
  have hmem : (name, text) ∈ es.reverse := hes ▸ List.mem_append_right _ (List.mem_cons_self ..)
  exact List.mem_reverse.1 hmem

/-- Every name of the list is found, with this text or a later one. -/
theorem exists_get?_ofList (h : (name, text) ∈ es) : ∃ last, (ofList es).get? name = some last := by
  cases hget : (ofList es).get? name with
  | some last => exact ⟨last, rfl⟩
  | none =>
    rw [get?_ofList, List.lookup_eq_none_iff] at hget
    have hne := hget _ (List.mem_reverse.2 h)
    exact absurd hne (by simp)

/-- A name that does not occur is not found. -/
theorem get?_ofList_eq_none_iff : (ofList es).get? name = none ↔ ∀ e ∈ es, e.1 ≠ name := by
  rw [get?_ofList, List.lookup_eq_none_iff]
  constructor
  · rintro h e hmem rfl
    exact absurd (h e (List.mem_reverse.2 hmem)) (by simp)
  · intro h e hmem
    simpa using (h e (List.mem_reverse.1 hmem)).symm

/-- A name with one text has this text, wherever it stands. -/
theorem get?_ofList_of_forall {o : Option String} (h : ∀ text, (name, text) ∈ es ↔ o = some text) :
    (ofList es).get? name = o := by
  cases ho : o with
  | none =>
    rw [get?_ofList_eq_none_iff]
    rintro ⟨key, text⟩ hmem rfl
    have hsome := (h text).1 hmem
    exact nomatch ho.symm.trans hsome
  | some text =>
    obtain ⟨last, hlast⟩ := exists_get?_ofList ((h text).2 ho)
    have hsome := (h last).1 (mem_of_get?_ofList hlast)
    rw [hlast, ← hsome, ho]

/-! ### Changing places -/

/-- No name comes with two texts. -/
def OneText (es : List (String × String)) : Prop :=
  ∀ name text text', (name, text) ∈ es → (name, text') ∈ es → text = text'

theorem OneText.perm {es' : List (String × String)} (h : OneText es) (hperm : es'.Perm es) :
    OneText es' :=
  fun name text text' hmem hmem' ↦ h name text text' (hperm.mem_iff.1 hmem) (hperm.mem_iff.1 hmem')

/-- With one text for each name, a text is found wherever it stands. -/
theorem OneText.get?_ofList_eq_some_iff (h : OneText es) :
    (ofList es).get? name = some text ↔ (name, text) ∈ es := by
  refine ⟨mem_of_get?_ofList, fun hmem ↦ ?_⟩
  obtain ⟨last, hlast⟩ := exists_get?_ofList hmem
  rw [hlast, h name last text (mem_of_get?_ofList hlast) hmem]

theorem OneText.sameTexts {es' : List (String × String)} (h : OneText es) (hperm : es'.Perm es) :
    (ofList es').SameTexts (ofList es) := by
  intro name
  refine Option.ext fun text ↦ ?_
  rw [h.get?_ofList_eq_some_iff, (h.perm hperm).get?_ofList_eq_some_iff]
  exact hperm.mem_iff

section Reordering

variable {α : Type} {f : α → Option (String × String)} {xs : List α}

/-- The text that a thing gives for a name. -/
def textFor (f : α → Option (String × String)) (name : String) (x : α) : Option String :=
  (f x).bind fun e ↦ if e.1 = name then some e.2 else none

theorem textFor_eq_some_iff {x : α} : textFor f name x = some text ↔ f x = some (name, text) := by
  cases hf : f x with
  | none => simp [textFor, hf]
  | some e =>
    obtain ⟨key, text'⟩ := e
    by_cases hkey : key = name <;> simp [textFor, hf, hkey]

theorem textFor_eq_none_iff {x : α} :
    textFor f name x = none ↔ ∀ text, f x ≠ some (name, text) := by
  rw [Option.eq_none_iff_forall_ne_some]
  exact forall_congr' fun text ↦ not_congr textFor_eq_some_iff

/-- Things are asked from the last one on. -/
theorem get?_ofList_filterMap (f : α → Option (String × String)) (xs : List α) (name : String) :
    (ofList (xs.filterMap f)).get? name = xs.reverse.findSome? (textFor f name) := by
  induction xs using List.reverseRecOn with
  | nil => rfl
  | append_singleton xs x ih =>
    rw [List.filterMap_append, List.reverse_concat, List.findSome?_cons, ← ih]
    cases hx : f x with
    | none => simp [textFor, hx]
    | some e =>
      obtain ⟨key, text⟩ := e
      rw [List.filterMap_cons_some hx, List.filterMap_nil, ofList_concat, get?_insert]
      by_cases hkey : key = name
      · simp [textFor, hx, hkey]
      · simp [textFor, hx, hkey, Ne.symm hkey]

/-- The text under a name comes from the last thing that gives one for it. -/
theorem get?_ofList_filterMap_eq_some_iff :
    (ofList (xs.filterMap f)).get? name = some text ↔
      ∃ before x behind, xs = before ++ x :: behind ∧ f x = some (name, text) ∧
        ∀ y ∈ behind, ∀ other, f y ≠ some (name, other) := by
  rw [get?_ofList_filterMap, List.findSome?_eq_some_iff]
  constructor
  · rintro ⟨behind, x, before, hxs, hx, hbehind⟩
    refine ⟨before.reverse, x, behind.reverse, ?_, textFor_eq_some_iff.1 hx, fun y hy ↦ ?_⟩
    · simpa using congrArg List.reverse hxs
    · exact textFor_eq_none_iff.1 (hbehind y (List.mem_reverse.1 hy))
  · rintro ⟨before, x, behind, rfl, hx, hbehind⟩
    refine ⟨behind.reverse, x, before.reverse, by simp, textFor_eq_some_iff.2 hx, fun y hy ↦ ?_⟩
    exact textFor_eq_none_iff.2 (hbehind y (List.mem_reverse.1 hy))

/-- Whatever gives a macro may come last, and then its text is the one that counts. -/
theorem exists_perm_get? (h : (name, text) ∈ xs.filterMap f) :
    ∃ ys : List α, ys.Perm xs ∧ (ofList (ys.filterMap f)).get? name = some text := by
  obtain ⟨x, hx, hfx⟩ := List.mem_filterMap.1 h
  obtain ⟨before, behind, rfl⟩ := List.append_of_mem hx
  -- It is moved from its place to the end.
  refine ⟨before ++ behind ++ [x], ?_, ?_⟩
  · rw [List.append_assoc]
    exact (List.perm_append_singleton x behind).append_left before
  · have hlast : (before ++ behind ++ [x]).filterMap f =
        (before ++ behind).filterMap f ++ [(name, text)] := by
      rw [List.filterMap_append, List.filterMap_cons_some hfx, List.filterMap_nil]
    rw [hlast, get?_ofList_concat]

/-- **Stores and order.** The store is the same in all orders exactly if no name comes with two
texts. -/
theorem sameTexts_reordered_iff :
    (∀ ys : List α, ys.Perm xs →
      (ofList (ys.filterMap f)).SameTexts (ofList (xs.filterMap f))) ↔
    OneText (xs.filterMap f) := by
  constructor
  · -- Each of the two texts counts in some order, and the store is the same in both.
    intro hsame name text text' hmem hmem'
    obtain ⟨ys, hys, htext⟩ := exists_perm_get? hmem
    obtain ⟨ys', hys', htext'⟩ := exists_perm_get? hmem'
    have heq : some text = some text' := by
      rw [← htext, ← htext', hsame ys hys name, hsame ys' hys' name]
    exact Option.some.inj heq
  · intro hone ys hys
    exact hone.sameTexts (hys.filterMap f)

end Reordering

end MacroStream.MacroStore
