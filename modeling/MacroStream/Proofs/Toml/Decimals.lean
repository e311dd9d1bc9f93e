import Mathlib.Data.List.Basic
import MacroStream.Toml.Reader

/-!
# Whole numbers are read as they are written

The decimal digits of a whole number are a value of a settings file, and are read as the number, as
long as it fits a signed word. No number is written with a zero in front, no digit starts any other
value, and digits alone are no date.
-/

namespace MacroStream.Toml

variable {c d : Char} {cs ds : List Char} {n : Nat}

/-! ### Digits -/

theorem ne_of_isDigit (hc : c.isDigit = true) (hd : d.isDigit = false) : c ≠ d := by
  rintro rfl
  exact Bool.noConfusion (hc.symm.trans hd)

theorem number_eq_ofDigitChars (hds : ∀ c ∈ ds, c.isDigit = true) :
    number 10 ds = Nat.ofDigitChars 10 ds 0 := by
  refine List.foldl_ext _ _ 0 fun m c hc ↦ ?_
  rw [Json.hexValue?, if_pos (hds c hc), Nat.mul_comm]
  rfl

theorem readDigits_eq_some (hne : ds ≠ []) (hds : ∀ c ∈ ds, c.isDigit = true) :
    readDigits Char.isDigit ds = some (ds, []) := by
  induction ds with
  | nil => exact absurd rfl hne
  | cons c cs ih =>
    obtain ⟨hc, hcs⟩ := List.forall_mem_cons.1 hds
    rw [readDigits.eq_def]
    split
    case h_1 d r heq =>
      obtain ⟨-, rfl⟩ := List.cons.inj heq
      exact absurd (hcs '_' List.mem_cons_self) (by decide)
    case h_2 r _ heq =>
      obtain ⟨rfl, rfl⟩ := List.cons.inj heq
      rw [if_pos hc]
      rcases cs with _ | ⟨d, ds⟩
      · rfl
      · rw [ih (List.cons_ne_nil _ _) hcs]
    case h_3 heq => exact nomatch heq

/-- A number is not written with a zero in front. -/
theorem head?_toDigits_ne (hn : 0 < n) : (Nat.toDigits 10 n).head? ≠ some '0' := by
  induction n using Nat.strongRecOn with
  | ind n ih =>
    by_cases hlt : n < 10
    · rw [Nat.toDigits_of_lt_base hlt, List.head?_cons]
      intro hzero
      have htoNat := Nat.toNat_digitChar_of_lt_ten hlt
      rw [Option.some.inj hzero] at htoNat
      have hvalue : 48 = 48 + n := htoNat
      omega
    · have hle : 10 ≤ n := Nat.le_of_not_lt hlt
      rw [Nat.toDigits_of_base_le (by decide) hle,
        List.head?_append_of_ne_nil _ Nat.toDigits_ne_nil]
      exact ih (n / 10) (by omega) (by omega)

/-- The digits of a number: a first one and the others. -/
theorem exists_toDigits_eq_cons (n : Nat) :
    ∃ c cs, Nat.toDigits 10 n = c :: cs ∧ (∀ d ∈ c :: cs, d.isDigit = true) ∧
      number 10 (c :: cs) = n ∧ readDecimal (c :: cs) = some (c :: cs, []) := by
  have hdigits : ∀ d ∈ Nat.toDigits 10 n, d.isDigit = true := fun d hd ↦
    Nat.isDigit_of_mem_toDigits (by decide) (by decide) hd
  have hnumber : number 10 (Nat.toDigits 10 n) = n := by
    rw [number_eq_ofDigitChars hdigits, Nat.ofDigitChars_ten_toDigits]
  have hdecimal : readDecimal (Nat.toDigits 10 n) = some (Nat.toDigits 10 n, []) := by
    rcases Nat.eq_zero_or_pos n with rfl | hn
    · rfl
    · rw [readDecimal.eq_def]
      split
      case h_1 heq => exact absurd (congrArg List.head? heq) (head?_toDigits_ne hn)
      case h_2 => exact readDigits_eq_some Nat.toDigits_ne_nil hdigits
  obtain ⟨c, cs, heq⟩ := List.exists_cons_of_ne_nil (Nat.toDigits_ne_nil (n := n) (b := 10))
  rw [heq] at hdigits hnumber hdecimal
  exact ⟨c, cs, heq, hdigits, hnumber, hdecimal⟩

theorem skipSpaces_toDigits (n : Nat) : skipSpaces (Nat.toDigits 10 n) = Nat.toDigits 10 n := by
  obtain ⟨c, cs, heq, hdigits, -⟩ := exists_toDigits_eq_cons n
  have hc := hdigits c List.mem_cons_self
  rw [heq, skipSpaces, List.dropWhile_cons_of_neg]
  rw [Bool.or_eq_true, decide_eq_true_eq, decide_eq_true_eq, not_or]
  exact ⟨ne_of_isDigit hc (by decide), ne_of_isDigit hc (by decide)⟩

/-! ### Values -/

theorem looksLikeDate_eq_false (hds : ∀ c ∈ ds, c.isDigit = true) : looksLikeDate ds = false := by
  rw [looksLikeDate.eq_def]
  split
  case h_1 a b r => exact absurd (hds ':' (by simp)) (by decide)
  case h_2 a b c d r _ => exact absurd (hds '-' (by simp)) (by decide)
  case h_3 => rfl

theorem readSign_eq (hc : c.isDigit = true) : readSign (c :: cs) = (false, c :: cs) := by
  rw [readSign.eq_def]
  split
  case h_1 heq => exact absurd (List.cons.inj heq).1 (ne_of_isDigit hc (by decide))
  case h_2 heq => exact absurd (List.cons.inj heq).1 (ne_of_isDigit hc (by decide))
  case h_3 => rfl

theorem readNumber_toDigits (hn : Json.fitsInt64 n = true) :
    readNumber (Nat.toDigits 10 n) = some (.int n, []) := by
  obtain ⟨c, cs, heq, hdigits, hnumber, hdecimal⟩ := exists_toDigits_eq_cons n
  have hc := hdigits c List.mem_cons_self
  rw [heq, readNumber, readSign_eq hc]
  dsimp only
  split
  case h_1 h => exact absurd (List.cons.inj h).1 (ne_of_isDigit hc (by decide))
  case h_2 h => exact absurd (List.cons.inj h).1 (ne_of_isDigit hc (by decide))
  case h_3 =>
    rw [hdecimal]
    change (if Json.fitsInt64 (number 10 (c :: cs)) then
      some (Json.int (number 10 (c :: cs)), []) else none) = some (.int n, [])
    rw [hnumber, if_pos hn]

/-- **The digits of a number are read as the number.** -/
theorem readValue_toDigits (hn : Json.fitsInt64 n = true) (fuel depth : Nat) :
    readValue (fuel + 1) depth (Nat.toDigits 10 n) = some (.int n, []) := by
  obtain ⟨c, cs, heq, hdigits, -, -⟩ := exists_toDigits_eq_cons n
  have hne {d : Char} {r : List Char} (hd : d.isDigit = false) : c :: cs ≠ d :: r := fun h ↦
    ne_of_isDigit (hdigits c List.mem_cons_self) hd (List.cons.inj h).1
  have hsecond {b d : Char} {r : List Char} (hd : d.isDigit = false) : c :: cs ≠ b :: d :: r := by
    intro h
    exact absurd (hdigits d (h ▸ by simp)) (by simp [hd])
  rw [heq, readValue.eq_def]
  dsimp only
  split
  case h_7 h | h_8 h | h_9 h => exact absurd h (hsecond (by decide))
  case h_10 =>
    rw [if_neg (by rw [looksLikeDate_eq_false hdigits]; exact Bool.false_ne_true), ← heq]
    exact readNumber_toDigits hn
  all_goals exact absurd ‹_› (hne (by decide))

end MacroStream.Toml
