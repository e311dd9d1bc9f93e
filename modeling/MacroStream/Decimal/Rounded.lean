import MacroStream.Decimal.Binary

/-!
# Decimals of a chosen length

The three ways to write a number with a given number of digits: with a fixed number of places behind
the point, with an exponent, and by whichever of the two suits its size. Every digit is exact: the
number is rounded once, to the nearest, ties to even. A fourth way writes the binary digits in
hexadecimal.

All functions take the absolute value `m · 2^q` of the number.
-/

namespace MacroStream.Decimal

/-- How a number is written beyond its digits. -/
structure DigitStyle where
  /-- Keeps the point, and in general form the zeros at the end. -/
  alternative : Bool := false
  upper : Bool := false

/-- The text of a whole number. -/
def wholeChars (n : Nat) : List Char := Nat.toDigits 10 n

/-- `cs` with zeros in front up to `n` characters. -/
def padZeros (n : Nat) (cs : List Char) : List Char := List.replicate (n - cs.length) '0' ++ cs

/-- Digits with a point before the last `places` of them. -/
def withPoint (style : DigitStyle) (places : Nat) (digits : List Char) : List Char :=
  let cs := padZeros (places + 1) digits
  let whole := cs.take (cs.length - places)
  if places = 0 then (if style.alternative then whole ++ ['.'] else whole)
  else whole ++ '.' :: cs.drop (cs.length - places)

/-- The number with `places` digits behind the point. -/
def fixed (style : DigitStyle) (places m : Nat) (q : Int) : List Char :=
  let (num, den) := scaled m q places
  withPoint style places (wholeChars (roundDiv num den))

/-- The exponent of the first digit of a positive number, searched downwards from `e`. -/
def leadingExponent (m : Nat) (q : Int) : Nat → Int → Int
  | 0, e => e
  | n + 1, e =>
    let (num, den) := scaled m q (-e)
    if den ≤ num then e else leadingExponent m q n (e - 1)

/-- The number rounded to `n + 1` digits, and the exponent of the first. -/
def significant (n m : Nat) (q : Int) : Nat × Int :=
  if m = 0 then (0, 0)
  else
    let e := leadingExponent m q 6 (log10Bound m q + 1)
    let (num, den) := scaled m q (n - e)
    let c := roundDiv num den
    if c < 10 ^ (n + 1) then (c, e) else (c / 10, e + 1)

/-- The exponent `e`, signed and with at least two digits. -/
def exponentChars (style : DigitStyle) (e : Int) : List Char :=
  (if style.upper then 'E' else 'e') :: (if e < 0 then '-' else '+') ::
    padZeros 2 (wholeChars e.natAbs)

/-- The number with one digit before the point, `places` behind it, and an exponent. -/
def exponential (style : DigitStyle) (places m : Nat) (q : Int) : List Char :=
  let (c, e) := significant places m q
  withPoint style places (padZeros (places + 1) (wholeChars c)) ++ exponentChars style e

/-- Without the zeros behind the point, and without the point if nothing is left behind it. -/
def stripZeros (cs : List Char) : List Char :=
  if cs.contains '.' then
    let rev := cs.reverse.dropWhile (· = '0')
    (if rev.head? = some '.' then rev.drop 1 else rev).reverse
  else cs

/-- The number with at most `digits` significant digits: with an exponent when the first digit
stands more than four places behind the point or `digits` places or more before it. -/
def general (style : DigitStyle) (digits m : Nat) (q : Int) : List Char :=
  let digits := max digits 1
  let (c, e) := significant (digits - 1) m q
  let strip := if style.alternative then id else stripZeros
  if e < -4 ∨ (digits : Int) ≤ e then
    strip (withPoint style (digits - 1) (padZeros digits (wholeChars c))) ++ exponentChars style e
  else strip (fixed style (digits - 1 - e).toNat m q)

/-- A hexadecimal digit. -/
def hexChar (upper : Bool) (n : Nat) : Char :=
  let c := (Nat.toDigits 16 (n % 16)).headD '0'
  if upper then c.toUpper else c

/-- The hexadecimal digits of a number, at least `n` of them. -/
def hexChars (upper : Bool) (n v : Nat) : List Char :=
  padZeros n ((Nat.toDigits 16 v).map fun c ↦ if upper then c.toUpper else c)

/-- The number in hexadecimal with a binary exponent: one digit before the point, and behind it
`places` digits, or as many as the number needs. -/
def hexadecimal (style : DigitStyle) (places : Option Nat) (m : Nat) (q : Int) : List Char :=
  -- Thirteen digits behind the point hold every number.
  let e : Int := if m = 0 then 0 else if m < 2 ^ 52 then -1022 else q + 52
  let (lead, digits) := match places with
    | some p =>
      if p < 13 then
        let c := roundDiv m (16 ^ (13 - p))
        (c / 16 ^ p, if p = 0 then [] else hexChars style.upper p (c % 16 ^ p))
      else (m / 2 ^ 52, hexChars style.upper 13 (m % 2 ^ 52) ++ List.replicate (p - 13) '0')
    | none =>
      let rev := (hexChars style.upper 13 (m % 2 ^ 52)).reverse.dropWhile (· = '0')
      (m / 2 ^ 52, rev.reverse)
  let point := if digits.isEmpty && !style.alternative then [] else ['.']
  '0' :: (if style.upper then 'X' else 'x') :: hexChar style.upper lead :: point ++ digits ++
    (if style.upper then 'P' else 'p') :: (if e < 0 then '-' else '+') :: wholeChars e.natAbs

end MacroStream.Decimal
