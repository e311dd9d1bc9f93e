import Mathlib.Data.List.Infix
import MacroStream.Text.Replace

/-!
# Laws of replacement

Several pieces can be replaced at once: `substitute` goes through a list from left to right and
never looks at what it has put in. Replacing a single piece is the case of one rule.

Where one piece may begin inside of another one, or of something that stands in the list, the order
of the occurrences matters. `MayBeginAt` says so, and all laws of how replacing goes through a
concatenation ask for no more than that nothing may begin at the wrong place: then every occurrence
of a piece is replaced, wherever it stands, and the rest is left as it is.
-/

namespace MacroStream.Text

variable {α : Type} [DecidableEq α]

/-! ### Finding -/

theorem afterPrefix?_eq_some_iff {piece cs rest : List α} :
    afterPrefix? piece cs = some rest ↔ piece ++ rest = cs := by
  induction piece generalizing cs with
  | nil => simp [afterPrefix?, eq_comm]
  | cons p ps ih =>
    cases cs with
    | nil => simp [afterPrefix?]
    | cons c cs =>
      by_cases hpc : p = c
      · simp [afterPrefix?, hpc, ih]
      · simp [afterPrefix?, hpc]

theorem afterPrefix?_eq_none_iff {piece cs : List α} :
    afterPrefix? piece cs = none ↔ ¬piece <+: cs := by
  rw [Option.eq_none_iff_forall_ne_some]
  simp only [ne_eq, afterPrefix?_eq_some_iff]
  exact ⟨fun h ⟨rest, hrest⟩ ↦ h rest hrest, fun h rest hrest ↦ h ⟨rest, hrest⟩⟩

theorem occursIn_iff {piece cs : List α} : occursIn piece cs = true ↔ piece <:+: cs := by
  induction cs with
  | nil => simp [occursIn]
  | cons c cs ih =>
    have hfront : (afterPrefix? piece (c :: cs)).isSome = true ↔ piece <+: c :: cs := by
      rw [Option.isSome_iff_ne_none, ne_eq, afterPrefix?_eq_none_iff, not_not]
    rw [occursIn, Bool.or_eq_true, hfront, ih, List.infix_cons_iff]

/-! ### Replacing at once -/

/-- A piece, and what it is replaced by. -/
structure Rule (α : Type) where
  piece : List α
  new : List α
  piece_ne_nil : piece ≠ []

/-- What the first rule that applies at the front puts in, and what follows. -/
def applied? (rules : List (Rule α)) (cs : List α) : Option (List α × List α) :=
  rules.findSome? fun r ↦ (afterPrefix? r.piece cs).map fun rest ↦ (r.new, rest)

theorem exists_of_applied? {rules : List (Rule α)} {cs new rest : List α}
    (h : applied? rules cs = some (new, rest)) :
    ∃ r ∈ rules, r.new = new ∧ r.piece ++ rest = cs := by
  obtain ⟨r, hr, hafter⟩ := List.exists_of_findSome?_eq_some h
  obtain ⟨rest', hrest, heq⟩ := Option.map_eq_some_iff.1 hafter
  obtain ⟨rfl, rfl⟩ := Prod.mk.inj heq
  exact ⟨r, hr, rfl, afterPrefix?_eq_some_iff.1 hrest⟩

theorem applied?_eq_none_iff {rules : List (Rule α)} {cs : List α} :
    applied? rules cs = none ↔ ∀ r ∈ rules, ¬r.piece <+: cs := by
  simp only [applied?, List.findSome?_eq_none_iff, Option.map_eq_none_iff,
    afterPrefix?_eq_none_iff]

theorem length_of_applied? {rules : List (Rule α)} {cs new rest : List α}
    (h : applied? rules cs = some (new, rest)) : rest.length < cs.length := by
  obtain ⟨r, -, -, rfl⟩ := exists_of_applied? h
  have hpiece := List.length_pos_iff.2 r.piece_ne_nil
  rw [List.length_append]
  omega

/-- `cs` with the pieces of all rules replaced at once, from left to right; where several pieces
stand at one place, the first rule counts. -/
def substitute (rules : List (Rule α)) (cs : List α) : List α :=
  match cs with
  | [] => []
  | c :: cs' =>
    match _happlied : applied? rules (c :: cs') with
    | some (new, rest) => new ++ substitute rules rest
    | none => c :: substitute rules cs'
termination_by cs.length
decreasing_by
  · exact length_of_applied? ‹_›
  · simp

variable {rules : List (Rule α)} {r : Rule α} {x y w : List α}

theorem substitute_nil (rules : List (Rule α)) : substitute rules [] = [] := by
  rw [substitute]

theorem substitute_of_applied? {cs new rest : List α} (h : applied? rules cs = some (new, rest)) :
    substitute rules cs = new ++ substitute rules rest := by
  cases cs with
  | nil => exact absurd (length_of_applied? h) (Nat.not_lt_zero _)
  | cons c cs =>
    rw [substitute]
    split
    · simp_all
    · simp_all

theorem substitute_cons {c : α} {cs : List α} (h : ∀ r ∈ rules, ¬r.piece <+: c :: cs) :
    substitute rules (c :: cs) = c :: substitute rules cs := by
  rw [← applied?_eq_none_iff] at h
  rw [substitute]
  split
  · simp_all
  · rfl

/-- Replacing one piece is the case of one rule. -/
theorem replaceList_eq_substitute (p : α) (ps new cs : List α) :
    replaceList p ps new cs = substitute [⟨p :: ps, new, List.cons_ne_nil p ps⟩] cs := by
  fun_induction replaceList p ps new cs with
  | case1 => rw [substitute_nil]
  | case2 c cs rest h ih =>
    have happlied : applied? [⟨p :: ps, new, List.cons_ne_nil p ps⟩] (c :: cs) =
        some (new, rest) := by
      simp [applied?, h]
    rw [substitute_of_applied? happlied, ih]
  | case3 c cs h ih =>
    rw [substitute_cons, ih]
    simpa [afterPrefix?_eq_none_iff] using h

theorem replaceAll_eq (s : String) {piece new : String} (h : piece.toList ≠ []) :
    replaceAll s piece new =
      String.ofList (substitute [⟨piece.toList, new.toList, h⟩] s.toList) := by
  rw [replaceAll]
  split
  case h_1 hnil => exact absurd hnil h
  case h_2 p ps hpiece =>
    rw [replaceList_eq_substitute]
    simp only [hpiece]

/-- Nothing changes exactly where no piece occurs, if what is put in starts unlike the pieces. -/
theorem substitute_eq_self_iff
    (h : ∀ r ∈ rules, r.new ≠ [] ∧ ∀ c ∈ r.new, c ∉ r.piece) :
    substitute rules x = x ↔ ∀ r ∈ rules, ¬r.piece <:+: x := by
  induction x with
  | nil =>
    simp only [substitute_nil, List.infix_nil, true_iff]
    exact fun r _ ↦ r.piece_ne_nil
  | cons c x ih =>
    simp only [List.infix_cons_iff, not_or]
    cases happlied : applied? rules (c :: x) with
    | none =>
      have hfront := applied?_eq_none_iff.1 happlied
      rw [substitute_cons hfront, List.cons.injEq, ih]
      exact ⟨fun hx r hr ↦ ⟨hfront r hr, hx.2 r hr⟩, fun hx ↦ ⟨rfl, fun r hr ↦ (hx r hr).2⟩⟩
    | some found =>
      obtain ⟨new, rest⟩ := found
      obtain ⟨r, hr, rfl, hrest⟩ := exists_of_applied? happlied
      rw [substitute_of_applied? happlied, ← hrest]
      refine ⟨fun heq ↦ ?_, fun hnot ↦ absurd (List.prefix_append _ _) (hnot r hr).1⟩
      obtain ⟨hne, hdisjoint⟩ := h r hr
      obtain ⟨d, new', hnew⟩ := List.exists_cons_of_ne_nil hne
      obtain ⟨p, piece', hpiece⟩ := List.exists_cons_of_ne_nil r.piece_ne_nil
      rw [hnew, hpiece, List.cons_append, List.cons_append, List.cons.injEq] at heq
      simp_all

/-! ### What is left -/

/-- What begins a list after the replacing has begun it before, if it has no element in common with
what was put in. -/
theorem prefix_of_prefix_substitute {piece : List α}
    (h : ∀ r ∈ rules, r.new ≠ [] ∧ ∀ c ∈ r.new, c ∉ piece) (hpiece : piece <+: substitute rules x) :
    piece <+: x := by
  fun_induction substitute rules x generalizing piece with
  | case1 => exact hpiece
  | case2 c x new rest happlied ih =>
    obtain ⟨r, hr, rfl, -⟩ := exists_of_applied? happlied
    obtain ⟨hne, hdisjoint⟩ := h r hr
    obtain ⟨d, new, hnew⟩ := List.exists_cons_of_ne_nil hne
    rw [hnew, List.cons_append] at hpiece
    rcases List.prefix_cons_iff.1 hpiece with rfl | ⟨piece, rfl, -⟩
    · exact List.nil_prefix
    · -- The piece would begin with what was put in.
      exact absurd (List.mem_cons_self ..) (hdisjoint d (hnew ▸ List.mem_cons_self ..))
  | case3 c x happlied ih =>
    rcases List.prefix_cons_iff.1 hpiece with rfl | ⟨piece, rfl, hrest⟩
    · exact List.nil_prefix
    · refine (List.prefix_cons_inj c).2 (ih (fun r hr ↦ ?_) hrest)
      exact ⟨(h r hr).1, fun d hd hpiece ↦ (h r hr).2 d hd (List.mem_cons_of_mem c hpiece)⟩

omit [DecidableEq α] in
/-- A piece does not begin in what has no element in common with it. -/
theorem infix_of_infix_append {piece : List α} (h : ∀ c ∈ w, c ∉ piece)
    (hpiece : piece <:+: w ++ y) : piece <:+: y := by
  induction w with
  | nil => exact hpiece
  | cons c w ih =>
    obtain ⟨hc, hw⟩ := List.forall_mem_cons.1 h
    rcases List.infix_cons_iff.1 hpiece with hfront | hinfix
    · rcases List.prefix_cons_iff.1 hfront with rfl | ⟨piece, rfl, -⟩
      · exact List.nil_infix
      · exact absurd (List.mem_cons_self ..) hc
    · exact ih hw hinfix

/-- No piece is left, and none is made, where what is put in has no element in common with the
pieces: not within it, not at its ends, and not across it. -/
theorem not_infix_substitute
    (h : ∀ r ∈ rules, ∀ q ∈ rules, q.new ≠ [] ∧ ∀ c ∈ q.new, c ∉ r.piece) :
    ∀ r ∈ rules, ¬r.piece <:+: substitute rules x := by
  intro r hr hpiece
  fun_induction substitute rules x with
  | case1 => exact r.piece_ne_nil (List.infix_nil.1 hpiece)
  | case2 c x new rest happlied ih =>
    obtain ⟨q, hq, rfl, -⟩ := exists_of_applied? happlied
    exact ih (infix_of_infix_append (h r hr q hq).2 hpiece)
  | case3 c x happlied ih =>
    rcases List.infix_cons_iff.1 hpiece with hfront | hinfix
    · -- In front there was no piece before.
      rw [← substitute_cons (applied?_eq_none_iff.1 happlied)] at hfront
      exact applied?_eq_none_iff.1 happlied r hr (prefix_of_prefix_substitute (h r hr) hfront)
    · exact ih hinfix

/-! ### Concatenations -/

/-- In front of anything, `b` may begin at position `k` of `a`. -/
def MayBeginAt (b a : List α) (k : Nat) : Prop := a.drop k <+: b ∨ b <+: a.drop k

instance (b a : List α) (k : Nat) : Decidable (MayBeginAt b a k) :=
  inferInstanceAs (Decidable (_ ∨ _))

omit [DecidableEq α] in
theorem MayBeginAt.of_front {a b : List α} {k : Nat} (h : b <+: a.drop k ++ y) :
    MayBeginAt b a k :=
  List.prefix_or_prefix_of_prefix (List.prefix_append _ _) h

omit [DecidableEq α] in
/-- Nothing begins inside of what has no elements in common with it. -/
theorem not_mayBeginAt_of_disjoint {a b : List α} {k : Nat} (hb : b ≠ []) (hk : k < a.length)
    (h : ∀ c ∈ a, c ∉ b) : ¬MayBeginAt b a k := by
  obtain ⟨c, b, rfl⟩ := List.exists_cons_of_ne_nil hb
  rw [MayBeginAt, List.drop_eq_getElem_cons hk]
  have hmem : a[k] ∈ a := List.getElem_mem hk
  rintro (⟨t, ht⟩ | ⟨t, ht⟩)
  all_goals
    rw [List.cons_append, List.cons.injEq] at ht
    exact h _ hmem (ht.1 ▸ List.mem_cons_self ..)

/-- What no piece may begin in is passed over. -/
theorem substitute_append_of_passed
    (h : ∀ r ∈ rules, ∀ k < w.length, ¬MayBeginAt r.piece w k) (y : List α) :
    substitute rules (w ++ y) = w ++ substitute rules y := by
  induction w with
  | nil => rfl
  | cons c w ih =>
    have hnot : ∀ r ∈ rules, ¬r.piece <+: c :: (w ++ y) := fun r hr hprefix ↦
      h r hr 0 (Nat.succ_pos _) (.of_front hprefix)
    rw [List.cons_append, substitute_cons hnot, ih fun r hr k hk ↦ h r hr (k + 1) ?_,
      List.cons_append]
    simpa using hk

/-- `w` may not begin inside of a piece. -/
def IsSeam (rules : List (Rule α)) (w : List α) : Prop :=
  ∀ r ∈ rules, ∀ k < r.piece.length, 0 < k → ¬MayBeginAt w r.piece k

instance (rules : List (Rule α)) (w : List α) : Decidable (IsSeam rules w) :=
  inferInstanceAs (Decidable (∀ r ∈ rules, ∀ k < r.piece.length, 0 < k → ¬MayBeginAt w r.piece k))

omit [DecidableEq α] in
/-- What has no element in common with the pieces is a seam. -/
theorem isSeam_of_disjoint (hw : w ≠ []) (h : ∀ r ∈ rules, ∀ c ∈ w, c ∉ r.piece) :
    IsSeam rules w := by
  refine fun r hr k hk _ ↦ not_mayBeginAt_of_disjoint hw hk fun c hc hcw ↦ ?_
  exact h r hr c hcw hc

/-- Where `w` may not begin inside of a piece, the piece is found in front of `w` if it is found
there alone. -/
theorem afterPrefix?_append {piece : List α}
    (h : ∀ k < piece.length, 0 < k → ¬MayBeginAt w piece k) (hx : x ≠ []) (y : List α) :
    afterPrefix? piece (x ++ (w ++ y)) =
      (afterPrefix? piece x).map fun rest ↦ rest ++ (w ++ y) := by
  cases hafter : afterPrefix? piece x with
  | some rest =>
    rw [Option.map_some, afterPrefix?_eq_some_iff, ← afterPrefix?_eq_some_iff.1 hafter,
      List.append_assoc]
  | none =>
    rw [Option.map_none, afterPrefix?_eq_none_iff]
    rw [afterPrefix?_eq_none_iff] at hafter
    intro hpiece
    -- A piece that ends behind `x` goes on in `w`, which then begins inside of it.
    rcases List.prefix_or_prefix_of_prefix hpiece (List.prefix_append x _) with hin | ⟨t, rfl⟩
    · exact hafter hin
    · have ht : t ≠ [] := by
        rintro rfl
        exact hafter (by rw [List.append_nil])
      refine h x.length ?_ (List.length_pos_iff.2 hx) ?_
      · rw [List.length_append]
        exact Nat.lt_add_of_pos_right (List.length_pos_iff.2 ht)
      · rw [MayBeginAt, List.drop_left]
        exact List.prefix_or_prefix_of_prefix ((List.prefix_append_right_inj x).1 hpiece)
          (List.prefix_append w y)

theorem applied?_append (h : IsSeam rules w) (hx : x ≠ []) (y : List α) :
    applied? rules (x ++ (w ++ y)) =
      (applied? rules x).map fun found ↦ (found.1, found.2 ++ (w ++ y)) := by
  induction rules with
  | nil => rfl
  | cons r rules ih =>
    obtain ⟨hr, hrules⟩ := List.forall_mem_cons.1 h
    have hrest := ih hrules
    simp only [applied?, List.findSome?_cons, afterPrefix?_append hr hx] at hrest ⊢
    cases afterPrefix? r.piece x with
    | some rest => rfl
    | none => exact hrest

/-- What stands before a seam is replaced for itself. -/
theorem substitute_append (h : IsSeam rules w) (x y : List α) :
    substitute rules (x ++ (w ++ y)) = substitute rules x ++ substitute rules (w ++ y) := by
  fun_induction substitute rules x with
  | case1 => rfl
  | case2 c x new rest happlied ih =>
    have hfront := applied?_append h (List.cons_ne_nil c x) y
    rw [happlied] at hfront
    rw [substitute_of_applied? hfront, ih, List.append_assoc]
  | case3 c x happlied ih =>
    have hfront := applied?_append h (List.cons_ne_nil c x) y
    rw [happlied, Option.map_none, applied?_eq_none_iff, List.cons_append] at hfront
    rw [List.cons_append, substitute_cons hfront, ih, List.cons_append]

/-- What may not begin inside of a piece, and what no piece may begin in, stays as it is. -/
theorem substitute_append_kept (h : IsSeam rules w)
    (hw : ∀ r ∈ rules, ∀ k < w.length, ¬MayBeginAt r.piece w k) (x y : List α) :
    substitute rules (x ++ (w ++ y)) = substitute rules x ++ (w ++ substitute rules y) := by
  rw [substitute_append h, substitute_append_of_passed hw]

/-- An occurrence of a piece that may not begin inside of another one is replaced, wherever it
stands. -/
theorem substitute_append_piece (h : IsSeam rules r.piece)
    (hr : ∀ z, applied? rules (r.piece ++ z) = some (r.new, z)) (x y : List α) :
    substitute rules (x ++ (r.piece ++ y)) =
      substitute rules x ++ (r.new ++ substitute rules y) := by
  rw [substitute_append h, substitute_of_applied? (hr y)]

/-! ### One after the other -/

theorem applied?_piece_append (p : Rule α) (z : List α) :
    applied? [p] (p.piece ++ z) = some (p.new, z) := by
  have hafter : afterPrefix? p.piece (p.piece ++ z) = some z := afterPrefix?_eq_some_iff.2 rfl
  simp [applied?, hafter]

/-- Replacing `p` and then `q` is replacing both at once and then `q` again, where no piece may
begin inside of `q` and `q` is not replaced by anything it has an element in common with. -/
theorem substitute_substitute {p q : Rule α}
    (hp : ∀ k < q.piece.length, ¬MayBeginAt p.piece q.piece k) (hq : IsSeam [q] q.piece)
    (hnew : q.new ≠ []) (hdisjoint : ∀ c ∈ q.new, c ∉ q.piece) (cs : List α) :
    substitute [q] (substitute [p] cs) = substitute [q] (substitute [p, q] cs) := by
  have hqnew : IsSeam [q] q.new := isSeam_of_disjoint hnew (List.forall_mem_singleton.2 hdisjoint)
  have hkept : ∀ r ∈ [q], ∀ k < q.new.length, ¬MayBeginAt r.piece q.new k :=
    List.forall_mem_singleton.2 fun k hk ↦ not_mayBeginAt_of_disjoint q.piece_ne_nil hk hdisjoint
  -- What `p` put in may begin an occurrence of `q`, so all that came before is carried along.
  suffices h : ∀ x, substitute [q] (x ++ substitute [p] cs) =
      substitute [q] (x ++ substitute [p, q] cs) from h []
  intro x
  fun_induction substitute [p, q] cs generalizing x with
  | case1 => rw [substitute_nil]
  | case2 c cs new rest happlied ih =>
    obtain ⟨r, hr, rfl, hrest⟩ := exists_of_applied? happlied
    rw [← hrest]
    rcases List.mem_pair.1 hr with rfl | rfl
    · rw [substitute_of_applied? (applied?_piece_append r rest), ← List.append_assoc, ih,
        List.append_assoc]
    · have hbehind : substitute [r] (substitute [p] rest) =
          substitute [r] (substitute [p, r] rest) := ih []
      rw [substitute_append_of_passed (List.forall_mem_singleton.2 hp),
        substitute_append_piece hq (applied?_piece_append r), substitute_append_kept hqnew hkept,
        hbehind]
  | case3 c cs happlied ih =>
    rw [applied?_eq_none_iff, List.forall_mem_cons] at happlied
    rw [substitute_cons (List.forall_mem_singleton.2 happlied.1), List.append_cons, ih,
      ← List.append_cons]

end MacroStream.Text
