/-!
# The exact value of a floating-point number

A finite number is `m · 2^q` for integers `m` and `q`. Every decimal text of it is found from these
two in exact integer arithmetic; no floating-point operation takes part.
-/

-- Powers are those of the core library, also beside a library with instances of its own.
attribute [instance (1100), default_instance high] instPowNat

namespace MacroStream.Decimal

/-- A floating-point number taken apart. -/
inductive Binary where
  | nan
  | infinite (negative : Bool)
  /-- The number `± m · 2^q`. -/
  | finite (negative : Bool) (m : Nat) (q : Int)
  deriving DecidableEq, Repr

namespace Binary

/-- The number with the given bits. -/
def ofBits (bits : UInt64) : Binary :=
  let n := bits.toNat
  let negative := decide (2 ^ 63 ≤ n)
  let biased : Nat := n / 2 ^ 52 % 2 ^ 11
  let fraction := n % 2 ^ 52
  if biased = 2047 then
    if fraction = 0 then infinite negative else nan
  else if biased = 0 then finite negative fraction (-1074)
  else finite negative (2 ^ 52 + fraction) ((biased : Int) - 1075)

/-- The parts of a number. -/
def ofFloat (x : Float) : Binary := ofBits x.toBits

end Binary

/-- The fraction `m · 2^q · 10^e`, as a numerator and a denominator. -/
def scaled (m : Nat) (q e : Int) : Nat × Nat :=
  (m * 2 ^ q.toNat * 10 ^ e.toNat, 2 ^ (-q).toNat * 10 ^ (-e).toNat)

/-- The integer nearest to `num / den`; a tie goes to the even one. -/
def roundDiv (num den : Nat) : Nat :=
  let c := num / den
  let rest := num % den
  if 2 * rest < den then c
  else if den < 2 * rest then c + 1
  else if c % 2 = 0 then c else c + 1

/-- An integer that is at least the decimal logarithm of `m · 2^q`, and exceeds it by less than
three. -/
def log10Bound (m : Nat) (q : Int) : Int :=
  ((m.log2 + 1 : Nat) + q) * 30103 / 100000 + 1

end MacroStream.Decimal
