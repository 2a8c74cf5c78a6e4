import SocBench.Numeral.Rounding

/-!
# Doubles as exact data

A finite double is `± significand · 2 ^ exponent` with `significand < 2 ^ 53` and
`-1074 ≤ exponent ≤ 971`; zero has the least exponent.  Every operation computes the exact
quotient of two natural numbers first and rounds it once, a tie to the even significand, so what
the project says about doubles is ordinary arithmetic on natural numbers.
-/

namespace SocBench

/-- A double, by value. -/
inductive Binary64 where
  | nan
  | infinite (negative : Bool)
  | finite (negative : Bool) (significand : Nat) (exponent : Int)
  deriving DecidableEq

namespace Binary64

/-- The exponent of the smallest positive double. -/
def minExponent : Int := -1074

/-- The exponent of the largest finite double. -/
def maxExponent : Int := 971

/-- `num · 2 ^ shift / den` as a quotient of natural numbers. -/
def scaled (num den : Nat) (shift : Int) : Nat × Nat :=
  if 0 ≤ shift then (num * Nat.pow 2 shift.toNat, den) else (num, den * Nat.pow 2 (-shift).toNat)

/-- The whole part of the binary logarithm of the positive quotient `num / den`. -/
def ratioLog (num den : Nat) : Int :=
  let guess : Int := (num.log2 : Int) - den.log2
  let (n, d) := scaled num den (-guess)
  if d ≤ n then guess else guess - 1

/-- A significand of at most 53 bits at a given exponent; past the largest double it is infinite. -/
def pack (negative : Bool) (significand : Nat) (exponent : Int) : Binary64 :=
  if maxExponent < exponent then .infinite negative else .finite negative significand exponent

/-- The double nearest to `± num · 2 ^ shift / den`. -/
def round (negative : Bool) (num den : Nat) (shift : Int) : Binary64 :=
  if num = 0 then .finite negative 0 minExponent
  else
    let exponent := max minExponent (ratioLog num den + shift - 52)
    let (n, d) := scaled num den (shift - exponent)
    let significand := roundEven n d
    if significand = Nat.pow 2 53 then pack negative (Nat.pow 2 52) (exponent + 1)
    else pack negative significand exponent

/-- The double nearest to a natural number. -/
def ofNat (n : Nat) : Binary64 :=
  round false n 1 0

/-- The product, rounded once. -/
def mul : Binary64 → Binary64 → Binary64
  | .nan, _ | _, .nan => .nan
  | .infinite s, .infinite t => .infinite (s != t)
  | .infinite s, .finite t m _ | .finite t m _, .infinite s =>
    if m = 0 then .nan else .infinite (s != t)
  | .finite s m e, .finite t n f => round (s != t) (m * n) 1 (e + f)

/-- The quotient, rounded once. -/
def div : Binary64 → Binary64 → Binary64
  | .nan, _ | _, .nan => .nan
  | .infinite _, .infinite _ => .nan
  | .infinite s, .finite t _ _ => .infinite (s != t)
  | .finite s _ _, .infinite t => .finite (s != t) 0 minExponent
  | .finite s m e, .finite t n f =>
    if n = 0 then (if m = 0 then .nan else .infinite (s != t))
    else round (s != t) m n (e - f)

/-- The opposite number. -/
def neg : Binary64 → Binary64
  | .nan => .nan
  | .infinite s => .infinite (!s)
  | .finite s m e => .finite (!s) m e

/-- The size of a finite double, rounded to a whole number, a half away from zero. -/
def roundMagnitude (significand : Nat) (exponent : Int) : Nat :=
  let (n, d) := scaled significand 1 exponent
  roundHalfUp n d

end Binary64

end SocBench
