import MacroStream.Proofs.CommandText
import MacroStream.Proofs.CraftSteps
import MacroStream.Proofs.Text.Replace

/-!
# Filling in a craft loop template

What a template stands for is `filled`: both placeholders replaced at once, where they stand in the
template. The text that a macro is expanded to comes from two passes, and the second one goes over
the body that the first one put in. It is the filled template with the count put in once more, so
the two agree exactly where no placeholder for the count is left in the filled template: neither one
that stood in the body, nor one that the body completes.

Behind the second pass there is none in any case. Digits have nothing in common with a placeholder,
so they neither complete one nor leave one that reaches across them.
-/

namespace MacroStream

namespace CraftLoopConfig

open Text

/-- The count as a template shows it. -/
def shownCount (count : Int32) : Int32 := if count = -1 then unboundedCount else count

/-- The body, at the place for the macro. -/
def bodyRule (contents : String) : Rule Char :=
  ⟨macroPlaceholder.toList, contents.toList, by decide⟩

/-- The digits of the count, at the place for the count. -/
def countRule (count : Int32) : Rule Char :=
  ⟨countPlaceholder.toList, (countText (shownCount count)).toList, by decide⟩

/-- The template with each placeholder that stands in it replaced, all at once. -/
def filled (c : CraftLoopConfig) (contents : String) (count : Int32) : String :=
  String.ofList (substitute [bodyRule contents, countRule count] c.template.toList)

/-! ### Digits and placeholders -/

theorem eq_minus_or_isDigit_of_mem_countText {count : Int32} {d : Char}
    (h : d ∈ (countText count).toList) : d = '-' ∨ d.isDigit = true := by
  have hrepr (n : Nat) (hd : d ∈ (Nat.repr n).toList) : d.isDigit = true := by
    rw [Nat.toList_repr] at hd
    exact Nat.isDigit_of_mem_toDigits (by decide) (by decide) hd
  rw [countText] at h
  cases hcount : count.toInt with
  | ofNat n =>
    rw [hcount] at h
    exact .inr (hrepr n h)
  | negSucc n =>
    have htext : (Int.repr (.negSucc n)).toList = '-' :: (Nat.repr (n + 1)).toList := by
      simp [Int.repr]
    rw [hcount, htext] at h
    exact (List.mem_cons.1 h).imp_right (hrepr (n + 1))

theorem countRule_disjoint (count : Int32) :
    ∀ d ∈ (countRule count).new, d ∉ (countRule count).piece := by
  have hplaceholder : ∀ d ∈ countPlaceholder.toList, ¬(d = '-' ∨ d.isDigit = true) := by
    simp [countPlaceholder]
  exact fun d hd hpiece ↦ hplaceholder d hpiece (eq_minus_or_isDigit_of_mem_countText hd)

theorem countRule_new_ne_nil (count : Int32) : (countRule count).new ≠ [] :=
  countText_ne_nil (shownCount count)

variable {contents : String} {count : Int32} {r : Rule Char}

/-- A placeholder cannot begin inside of another one. -/
theorem isSeam_piece (h : r ∈ [bodyRule contents, countRule count]) :
    IsSeam [bodyRule contents, countRule count] r.piece := by
  have hpiece {r : Rule Char} (h : r ∈ [bodyRule contents, countRule count]) :
      r.piece ∈ [macroPlaceholder.toList, countPlaceholder.toList] := List.mem_map_of_mem h
  have hseam : ∀ p ∈ [macroPlaceholder.toList, countPlaceholder.toList],
      ∀ q ∈ [macroPlaceholder.toList, countPlaceholder.toList],
        ∀ k < q.length, 0 < k → ¬MayBeginAt p q k := by decide
  exact fun q hq ↦ hseam _ (hpiece h) _ (hpiece hq)

theorem not_mayBeginAt_countPlaceholder :
    ∀ k < (countRule count).piece.length,
      ¬MayBeginAt (bodyRule contents).piece (countRule count).piece k := by
  have hnot : ∀ k < countPlaceholder.toList.length,
      ¬MayBeginAt macroPlaceholder.toList countPlaceholder.toList k := by decide
  exact hnot

/-- Each placeholder in a template is filled in for itself, whatever stands around it. -/
theorem substitute_placeholder (h : r ∈ [bodyRule contents, countRule count]) (x y : List Char) :
    substitute [bodyRule contents, countRule count] (x ++ (r.piece ++ y)) =
      substitute [bodyRule contents, countRule count] x ++
        (r.new ++ substitute [bodyRule contents, countRule count] y) := by
  refine substitute_append_piece (isSeam_piece h) (fun z ↦ ?_) x y
  have hafter : afterPrefix? r.piece (r.piece ++ z) = some z := afterPrefix?_eq_some_iff.2 rfl
  rcases List.mem_pair.1 h with rfl | rfl
  · simp [applied?, hafter]
  · have hbody : afterPrefix? (bodyRule contents).piece ((countRule count).piece ++ z) = none := by
      rw [afterPrefix?_eq_none_iff]
      exact fun hprefix ↦
        not_mayBeginAt_countPlaceholder 0 (by simp [countRule]; decide) (.of_front hprefix)
    simp [applied?, hafter, hbody]

/-- The body stands in the filled template. -/
theorem infix_filled {c : CraftLoopConfig} (hplaceholder : c.hasPlaceholder = true)
    (contents : String) (count : Int32) :
    contents.toList <:+: (c.filled contents count).toList := by
  obtain ⟨x, y, htemplate⟩ : macroPlaceholder.toList <:+: c.template.toList := by
    rwa [← occursIn_iff]
  have hbody : bodyRule contents ∈ [bodyRule contents, countRule count] := List.mem_cons_self
  have hfilled := substitute_placeholder hbody x y
  rw [filled, String.toList_ofList, ← htemplate, List.append_assoc]
  exact ⟨_, _, (List.append_assoc ..).trans hfilled.symm⟩

/-! ### The two passes -/

theorem fillTemplate_eq {c : CraftLoopConfig} (hplaceholder : c.hasPlaceholder = true)
    (contents : String) {count : Int32} (hcount : count ≠ 0) :
    c.fillTemplate contents count =
      .ok (replaceAll (c.filled contents count) countPlaceholder
        (countText (shownCount count))) := by
  have hmacro : macroPlaceholder.toList ≠ [] := by decide
  have hcounts : countPlaceholder.toList ≠ [] := by decide
  have hcountRule : countRule count ∈ [bodyRule contents, countRule count] := by simp
  have hseam : IsSeam [countRule count] (countRule count).piece :=
    List.forall_mem_singleton.2 (isSeam_piece hcountRule _ hcountRule)
  have hpasses := substitute_substitute (p := bodyRule contents) (q := countRule count)
    not_mayBeginAt_countPlaceholder hseam (countRule_new_ne_nil count) (countRule_disjoint count)
    c.template.toList
  rw [fillTemplate, if_neg hcount, hplaceholder]
  simp only [Bool.not_true, Bool.false_eq_true, if_false, Except.ok.injEq]
  rw [replaceAll_eq c.template hmacro, replaceAll_eq _ hcounts, replaceAll_eq _ hcounts, filled,
    String.toList_ofList, String.toList_ofList]
  exact congrArg String.ofList hpasses

/-- Putting the count in once more changes nothing exactly if no place for it is left. -/
theorem replaceAll_countPlaceholder_eq_self_iff (s : String) (count : Int32) :
    replaceAll s countPlaceholder (countText (shownCount count)) = s ↔
      contains s countPlaceholder = false := by
  have hcounts : countPlaceholder.toList ≠ [] := by decide
  have hself : substitute [countRule count] s.toList = s.toList ↔
      ∀ r ∈ [countRule count], ¬r.piece <:+: s.toList :=
    substitute_eq_self_iff <|
      List.forall_mem_singleton.2 ⟨countRule_new_ne_nil count, countRule_disjoint count⟩
  rw [List.forall_mem_singleton] at hself
  rw [replaceAll_eq s hcounts, ← String.toList_inj, String.toList_ofList, contains,
    ← Bool.not_eq_true, occursIn_iff]
  exact hself

/-- **A template is filled in, and then the count once more.** For a count other than 0 the text of
a repeated macro is the filled template in which the places for the count that are left in it are
replaced, too. It is the filled template itself exactly if none is left, so never for a body with
such a place in it. -/
theorem transform_template (c : CraftLoopConfig) (henabled : c.templateEnabled = true)
    (hplaceholder : c.hasPlaceholder = true) (contents : String) (count : Int32)
    (hcount : count ≠ 0) :
    c.transform contents true count =
      .ok (replaceAll (c.filled contents count) countPlaceholder (countText (shownCount count))) ∧
    (c.transform contents true count = .ok (c.filled contents count) ↔
      contains (c.filled contents count) countPlaceholder = false) ∧
    (contains contents countPlaceholder = true →
      c.transform contents true count ≠ .ok (c.filled contents count)) := by
  have htext : c.transform contents true count =
      .ok (replaceAll (c.filled contents count) countPlaceholder
        (countText (shownCount count))) := by
    rw [transform, henabled]
    exact fillTemplate_eq hplaceholder contents hcount
  have hself : c.transform contents true count = .ok (c.filled contents count) ↔
      contains (c.filled contents count) countPlaceholder = false := by
    rw [htext, Except.ok.injEq, replaceAll_countPlaceholder_eq_self_iff]
  refine ⟨htext, hself, fun hbody heq ↦ ?_⟩
  have hleft : contains (c.filled contents count) countPlaceholder = true :=
    occursIn_iff.2 ((occursIn_iff.1 hbody).trans (infix_filled hplaceholder contents count))
  exact Bool.false_ne_true ((hself.1 heq).symm.trans hleft)

/-- A body that asks for the count, in a template without a place for it. -/
theorem transform_template_echo :
    ∃ c : CraftLoopConfig, c.templateEnabled = true ∧ c.hasPlaceholder = true ∧
      c.filled ("/echo " ++ countPlaceholder) 3 = "/echo " ++ countPlaceholder ∧
      c.transform ("/echo " ++ countPlaceholder) true 3 = .ok "/echo 3" := by
  have h := transform_template { templateEnabled := true, template := macroPlaceholder } rfl
    (by decide) ("/echo " ++ countPlaceholder) 3 (by decide)
  have hfilled : ({ templateEnabled := true, template := macroPlaceholder } :
      CraftLoopConfig).filled ("/echo " ++ countPlaceholder) 3 = "/echo " ++ countPlaceholder := by
    cbv
  have htext : replaceAll ("/echo " ++ countPlaceholder) countPlaceholder
      (countText (shownCount 3)) = "/echo 3" := by
    cbv
  refine ⟨_, rfl, by decide, hfilled, ?_⟩
  rw [h.1, hfilled, htext]

/-! ### What is left of the placeholders -/

/-- A macro in the command language that is repeated is parsed from the text that is made of it. -/
theorem initialSteps_withCraftLoop {c : CraftLoopConfig} {text : String}
    (h : c.transform contents true count = .ok text) (parser : CommandParser) (name : String) :
    ActiveMacro.initialSteps c parser (({ name, contents } : MacroNode).withCraftLoop count) =
      parser.parse text := by
  change (c.transform contents true count >>= fun text ↦ parser.parse text) = parser.parse text
  rw [h]
  rfl

/-- Where the count is put in, no place for it is left. -/
theorem not_infix_replaceAll_countPlaceholder (s : String) (count : Int32) :
    ¬countPlaceholder.toList <:+:
      (replaceAll s countPlaceholder (countText (shownCount count))).toList := by
  have hcounts : countPlaceholder.toList ≠ [] := by decide
  have hput : ∀ r ∈ [countRule count], ∀ q ∈ [countRule count],
      q.new ≠ [] ∧ ∀ d ∈ q.new, d ∉ r.piece :=
    List.forall_mem_singleton.2 <| List.forall_mem_singleton.2
      ⟨countRule_new_ne_nil count, countRule_disjoint count⟩
  rw [replaceAll_eq s hcounts, String.toList_ofList]
  exact not_infix_substitute hput (countRule count) (List.mem_singleton_self _)

/-- **No place for the count is left.** For a count other than 0 a template that has a place for the
macro is filled in to a text without a place for the count, whatever stands in the template and in
the body, and whatever the two make together. This is the text that the parser of a macro in the
command language gets, so no command of the macro has such a place in it. -/
theorem transform_leaves_no_count (c : CraftLoopConfig) (henabled : c.templateEnabled = true)
    (hplaceholder : macroPlaceholder.toList <:+: c.template.toList) (contents : String)
    (count : Int32) (hcount : count ≠ 0) :
    ∃ text, c.transform contents true count = .ok text ∧
      ¬countPlaceholder.toList <:+: text.toList ∧
      ∀ name, (∀ parser : CommandParser, ActiveMacro.initialSteps c parser
          (({ name, contents } : MacroNode).withCraftLoop count) = parser.parse text) ∧
        ∀ steps, ActiveMacro.initialSteps c lineParser
            (({ name, contents } : MacroNode).withCraftLoop count) = .ok steps →
          ∀ step ∈ steps, ¬countPlaceholder.toList <:+: step.text.toList := by
  have hleft := not_infix_replaceAll_countPlaceholder (c.filled contents count) count
  have htext : c.transform contents true count =
      .ok (replaceAll (c.filled contents count) countPlaceholder
        (countText (shownCount count))) := by
    rw [transform, henabled]
    exact fillTemplate_eq (occursIn_iff.2 hplaceholder) contents hcount
  refine ⟨_, htext, hleft, fun name ↦ ⟨fun parser ↦ initialSteps_withCraftLoop htext parser name,
    ?_⟩⟩
  intro steps hsteps step hstep hcommand
  rw [initialSteps_withCraftLoop htext] at hsteps
  exact hleft (hcommand.trans (LineParser.infix_of_mem_parse hsteps hstep))

/-- The template makes a place for the count of a body that is the rest of it. -/
theorem transform_leaves_no_count_rest :
    ∃ c : CraftLoopConfig, c.templateEnabled = true ∧
      macroPlaceholder.toList <:+: c.template.toList ∧ (3 : Int32) ≠ 0 ∧
      c.filled "count" 3 = countPlaceholder ∧
      ∃ text, c.transform "count" true 3 = .ok text ∧
        ¬countPlaceholder.toList <:+: text.toList := by
  have hplaceholder : macroPlaceholder.toList <:+:
      ("\x7b\x7b" ++ macroPlaceholder ++ "\x7d\x7d").toList := occursIn_iff.1 (by decide)
  have hcount : (3 : Int32) ≠ 0 := by decide
  obtain ⟨text, htext, hleft, -⟩ := transform_leaves_no_count
    { templateEnabled := true, template := "\x7b\x7b" ++ macroPlaceholder ++ "\x7d\x7d" } rfl
    hplaceholder "count" 3 hcount
  refine ⟨_, rfl, hplaceholder, hcount, ?_, text, htext, hleft⟩
  cbv

end CraftLoopConfig

end MacroStream
