import Mathlib.Data.List.Induction
import MacroStream.Text.Blank

/-!
# Laws of trimming

What a trimmed list is made of, one character at a time: a character at either end is dropped if it
belongs to the class, and a list that has none at its ends is left alone.
-/

namespace MacroStream.Text

variable {α : Type} {p : α → Bool}

theorem dropEndWhile_concat_of_pos {x : α} (h : p x = true) (xs : List α) :
    dropEndWhile p (xs ++ [x]) = dropEndWhile p xs := by
  simp [dropEndWhile, h]

theorem dropEndWhile_concat_of_neg {x : α} (h : p x = false) (xs : List α) :
    dropEndWhile p (xs ++ [x]) = xs ++ [x] := by
  simp [dropEndWhile, h]

theorem dropEndWhile_eq_self {xs : List α} (h : ∀ x ∈ xs.getLast?, p x = false) :
    dropEndWhile p xs = xs := by
  rcases List.eq_nil_or_concat xs with rfl | ⟨ys, x, rfl⟩
  · rfl
  · rw [List.concat_eq_append] at h ⊢
    exact dropEndWhile_concat_of_neg (h x (by simp)) ys

theorem trimBy_cons_of_pos {x : α} (h : p x = true) (xs : List α) :
    trimBy p (x :: xs) = trimBy p xs := by
  rw [trimBy, List.dropWhile_cons_of_pos h, trimBy]

theorem trimBy_concat_of_pos {x : α} (h : p x = true) (xs : List α) :
    trimBy p (xs ++ [x]) = trimBy p xs := by
  rw [trimBy, trimBy, List.dropWhile_append]
  split
  case isTrue hnil =>
    rw [List.isEmpty_iff.1 hnil, List.dropWhile_cons_of_pos h]
    rfl
  case isFalse => exact dropEndWhile_concat_of_pos h _

/-- A list whose ends do not belong to the class is trimmed. -/
theorem trimBy_eq_self {xs : List α} (hhead : ∀ x ∈ xs.head?, p x = false)
    (hlast : ∀ x ∈ xs.getLast?, p x = false) : trimBy p xs = xs := by
  have hdrop : xs.dropWhile p = xs := by
    cases xs with
    | nil => rfl
    | cons x xs => exact List.dropWhile_cons_of_neg (by simp [hhead x rfl])
  rw [trimBy, hdrop, dropEndWhile_eq_self hlast]

theorem isPrefix_dropEndWhile (xs : List α) : dropEndWhile p xs <+: xs := by
  rw [dropEndWhile, ← List.reverse_suffix, List.reverse_reverse]
  exact List.dropWhile_suffix p

theorem head?_dropEndWhile {xs : List α} {x : α} (h : (dropEndWhile p xs).head? = some x) :
    xs.head? = some x := by
  obtain ⟨ys, hys⟩ := isPrefix_dropEndWhile (p := p) xs
  rw [← hys, List.head?_append, h]
  rfl

/-- A trimmed list does not begin with an element of the class. -/
theorem not_of_mem_head?_trimBy {xs : List α} : ∀ x ∈ (trimBy p xs).head?, p x = false := by
  intro x hx
  have hhead : (xs.dropWhile p).head? = some x := head?_dropEndWhile hx
  have hall := List.head?_dropWhile_not p xs
  rw [hhead] at hall
  exact hall

/-- A trimmed list does not end with an element of the class. -/
theorem not_of_mem_getLast?_trimBy {xs : List α} : ∀ x ∈ (trimBy p xs).getLast?, p x = false := by
  intro x hx
  rw [trimBy, dropEndWhile, List.getLast?_reverse] at hx
  have hall := List.head?_dropWhile_not p (xs.dropWhile p).reverse
  rw [hx] at hall
  exact hall

/-- There is nothing left to trim. -/
theorem trimBy_trimBy (xs : List α) : trimBy p (trimBy p xs) = trimBy p xs :=
  trimBy_eq_self not_of_mem_head?_trimBy not_of_mem_getLast?_trimBy

/-- What is left after trimming stands in the list. -/
theorem isInfix_trimBy (xs : List α) : trimBy p xs <:+: xs :=
  (isPrefix_dropEndWhile _).isInfix.trans (List.dropWhile_suffix p).isInfix

theorem mem_of_mem_trimBy {xs : List α} {x : α} (h : x ∈ trimBy p xs) : x ∈ xs :=
  (isInfix_trimBy xs).subset h

/-- What does not change when a character of the class is put at either end of a list does not
change when the list is trimmed. -/
theorem apply_trimBy {β : Type} {f : List α → β} (hcons : ∀ x xs, p x = true → f (x :: xs) = f xs)
    (hconcat : ∀ x xs, p x = true → f (xs ++ [x]) = f xs) (xs : List α) :
    f (trimBy p xs) = f xs := by
  have hend (ys : List α) : f (dropEndWhile p ys) = f ys := by
    induction ys using List.reverseRecOn with
    | nil => rfl
    | append_singleton ys y ih =>
      rcases hy : p y with _ | _
      · rw [dropEndWhile_concat_of_neg hy]
      · rw [dropEndWhile_concat_of_pos hy, ih, hconcat y ys hy]
  rw [trimBy, hend]
  induction xs with
  | nil => rfl
  | cons x xs ih =>
    rcases hx : p x with _ | _
    · rw [List.dropWhile_cons_of_neg (by simp [hx])]
    · rw [List.dropWhile_cons_of_pos hx, ih, hcons x xs hx]

end MacroStream.Text
