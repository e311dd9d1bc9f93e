import MacroStream.Decimal.Binary

/-!
# The shortest decimal that reads back

Among the decimals that round to a given number, `shortest` takes one with the fewest digits, and of
those the nearest to the number. It walks from a coarse decimal grid to finer ones and looks only at
the two grid points around the number: if any point of a grid rounds to the number, one of these two
does.
-/

namespace MacroStream.Decimal

/-- The decimal `coefficient · 10^exponent`. -/
structure Scientific where
  coefficient : Nat
  exponent : Int
  deriving DecidableEq, Repr

/-- Whether `c · 10^e` rounds to `m · 2^q`. The numbers below a power of two lie closer together, so
the interval reaches half as far down there; its ends belong to it when `m` is even. -/
def roundsTo (m : Nat) (q : Int) (c : Nat) (e : Int) : Bool :=
  let down := if m = 2 ^ 52 ∧ -1074 < q then 1 else 2
  -- All three in units of a quarter of the last place, over one denominator.
  let (point, _) := scaled c 0 e
  let point := point * 2 ^ (2 - q).toNat
  let unit := 2 ^ (q - 2).toNat * 10 ^ (-e).toNat
  let low := (4 * m - down) * unit
  let high := (4 * m + 2) * unit
  if m % 2 = 0 then low ≤ point && point ≤ high else low < point && point < high

/-- The point of the grid with step `10^e` that rounds to `m · 2^q`, the nearer one if both
neighbours do. -/
def gridPoint? (m : Nat) (q e : Int) : Option Nat :=
  let (num, den) := scaled m q (-e)
  let below := num / den
  let near := roundDiv num den
  let far := if near = below then below + 1 else below
  if roundsTo m q near e then some near
  else if roundsTo m q far e then some far
  else none

/-- The first grid, from the step `10^e` downwards, with a point that rounds to `m · 2^q`. -/
def firstGrid (m : Nat) (q : Int) : Nat → Int → Scientific
  | 0, e => ⟨m, e⟩
  | n + 1, e =>
    match gridPoint? m q e with
    | some c => ⟨c, e⟩
    | none => firstGrid m q n (e - 1)

/-- A shortest decimal for the positive number `m · 2^q`. -/
def shortest (m : Nat) (q : Int) : Scientific :=
  firstGrid m q 24 (log10Bound m q)

/-- The decimal digits of a number, most significant first. -/
def digitChars (n : Nat) : List Char := Nat.toDigits 10 n

/-- How shortest decimals are written: positionally for a decimal point behind at least `least` and
at most `most` digits, with a decimal point always, and otherwise with a signed exponent. -/
structure FloatStyle where
  least : Int
  most : Int

/-- Writes the positive number `d`. -/
def FloatStyle.render (style : FloatStyle) (d : Scientific) : List Char :=
  let cs := digitChars d.coefficient
  let point := cs.length + d.exponent
  if style.least ≤ point && point ≤ style.most then
    if d.exponent ≥ 0 then cs ++ List.replicate d.exponent.toNat '0' ++ ['.', '0']
    else if point > 0 then cs.take point.toNat ++ '.' :: cs.drop point.toNat
    else '0' :: '.' :: List.replicate (-point).toNat '0' ++ cs
  else
    let mantissa := match cs with
      | [c] => [c]
      | c :: rest => c :: '.' :: rest
      | [] => []
    let e := point - 1
    mantissa ++ 'e' :: (if e < 0 then '-' else '+') :: digitChars e.natAbs

/-- The text of a finite number in a style; `none` for infinities and NaN. -/
def FloatStyle.text? (style : FloatStyle) (x : Float) : Option String :=
  match Binary.ofFloat x with
  | .finite negative m q =>
    let sign := if negative then ['-'] else []
    let body := if m = 0 then ['0', '.', '0'] else style.render (shortest m q)
    some (String.ofList (sign ++ body))
  | _ => none

end MacroStream.Decimal
