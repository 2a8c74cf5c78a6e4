import SocBench.Numeral.Binary64

/-!
# The shortest decimal text of a double

A double is written with the fewest decimal digits that read back as the same double; of the
decimals with that many digits the nearest one is taken, and of two equally near ones the larger.
The digits are always laid out positionally, without an exponent.
-/

namespace SocBench

/-- The number `digits · 10 ^ exponent`. -/
structure DecimalNumber where
  digits : Nat
  exponent : Int

namespace Binary64

/-- `num · 10 ^ shift / den` as a quotient of natural numbers. -/
def scaledTen (num den : Nat) (shift : Int) : Nat × Nat :=
  if 0 ≤ shift then (num * Nat.pow 10 shift.toNat, den) else (num, den * Nat.pow 10 (-shift).toNat)

/-- The whole part of the decimal logarithm of the positive quotient `num / den`. -/
def ratioLogTen (num den : Nat) : Int :=
  let guess : Int := (ratioLog num den * 30103).fdiv 100000
  let atLeast (k : Int) : Bool :=
    let (n, d) := scaledTen num den (-k)
    d ≤ n
  if atLeast (guess + 1) then guess + 1
  else if atLeast guess then guess
  else guess - 1

/-- The reals that round to `significand · 2 ^ exponent`, in quarters of its last place: the lower
end, the value, the upper end, and whether the ends belong to it. -/
structure Cell where
  lower : Nat
  value : Nat
  upper : Nat
  closed : Bool

/-- The cell of a positive finite double.  Below a power of two the grid is twice as fine. -/
def Cell.of (significand : Nat) (exponent : Int) : Cell where
  lower := 4 * significand - (if significand = Nat.pow 2 52 ∧ minExponent < exponent then 1 else 2)
  value := 4 * significand
  upper := 4 * significand + 2
  closed := significand % 2 = 0

/-- Whether `candidate · den` lies in the cell scaled by `num`. -/
def Cell.holds (cell : Cell) (num candidate : Nat) : Bool :=
  if cell.closed then cell.lower * num ≤ candidate ∧ candidate ≤ cell.upper * num
  else cell.lower * num < candidate ∧ candidate < cell.upper * num

/-- The best decimal with `count` digits that reads back, if there is one. -/
def shortestWith? (significand : Nat) (exponent : Int) (top : Int) (count : Nat) :
    Option DecimalNumber :=
  let cell := Cell.of significand exponent
  let place : Int := top - count + 1
  -- one quarter of the last place, in units of `10 ^ place`, is `unit / den`
  let (half, den₁) := scaled 1 1 (exponent - 2)
  let (unit, den) := scaledTen half den₁ (-place)
  let down := cell.value * unit / den
  let up := down + 1
  let downFits := cell.holds unit (down * den)
  let upFits := cell.holds unit (up * den)
  let nearerUp := up * den + down * den ≤ 2 * (cell.value * unit)
  if downFits && !(upFits && nearerUp) then some ⟨down, place⟩
  else if upFits then some ⟨up, place⟩
  else none

/-- The shortest decimal that reads back as `significand · 2 ^ exponent`; 17 digits always do. -/
def shortest (significand : Nat) (exponent : Int) : DecimalNumber :=
  if significand = 0 then ⟨0, 0⟩
  else
    let (n, d) := scaled significand 1 exponent
    let top := ratioLogTen n d
    ((List.range' 1 17).findSome? (shortestWith? significand exponent top)).getD ⟨n / d, 0⟩

end Binary64

namespace DecimalNumber

/-- Drops the zeros at the end of a digit list given from the last digit to the first, and counts
them. -/
def stripZeros : List Char → List Char × Nat
  | '0' :: rest => let (digits, count) := stripZeros rest; (digits, count + 1)
  | digits => (digits, 0)

/-- Positional text: every digit stands at its place, and a point only before a fraction. -/
def toText (n : DecimalNumber) : String :=
  if n.digits = 0 then "0"
  else
    let (reversed, zeros) := stripZeros (Nat.toDigits 10 n.digits).reverse
    let digits := reversed.reverse
    let exponent := n.exponent + zeros
    let chars : List Char :=
      if 0 ≤ exponent then digits ++ List.replicate exponent.toNat '0'
      else
        let places := (-exponent).toNat
        if places < digits.length then
          digits.take (digits.length - places) ++ '.' :: digits.drop (digits.length - places)
        else '0' :: '.' :: (List.replicate (places - digits.length) '0' ++ digits)
    String.ofList chars

end DecimalNumber

namespace Binary64

/-- The text of a double: shortest digits, positional, no fraction shown for whole numbers. -/
def toText : Binary64 → String
  | .nan => "NaN"
  | .infinite negative => if negative then "-inf" else "inf"
  | .finite negative significand exponent =>
    (if negative then "-" else "") ++ (shortest significand exponent).toText

/-- The text of a double that shows it is one: a finite whole number ends in `.0`. -/
def toPointedText (x : Binary64) : String :=
  let text := x.toText
  match x with
  | .finite .. => if text.any (· == '.') then text else text ++ ".0"
  | _ => text

end Binary64

end SocBench
