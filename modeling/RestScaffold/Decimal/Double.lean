/-! Double-precision numbers and their shortest decimal text: the fewest digits that no other
double is nearer to, written out in full without an exponent. Infinities and what is not a number
have their names for a text. -/
namespace RestScaffold

/-- A double by its bits, so that equality tells the two zeros apart. -/
structure Double where
  bits : UInt64
  deriving DecidableEq, Repr

namespace Double

def negative (d : Double) : Bool := d.bits.toNat >>> 63 = 1

def exponentField (d : Double) : Nat := d.bits.toNat >>> 52 % 2048

def hiddenBit : Nat := 4503599627370496

def fractionField (d : Double) : Nat := d.bits.toNat % hiddenBit

def significand (d : Double) : Nat :=
  if d.exponentField = 0 then d.fractionField else d.fractionField + hiddenBit

def exponent (d : Double) : Nat := if d.exponentField = 0 then 1 else d.exponentField

def below (d : Double) : Nat := if d.fractionField = 0 ∧ 1 < d.exponentField then 1 else 2

structure Decimal where
  digits : Nat
  place : Nat
  deriving DecidableEq, Repr

def unitRatio (d : Double) (place : Nat) : Nat × Nat :=
  (Nat.pow 2 d.exponent * Nat.pow 10 400, Nat.pow 2 1077 * Nat.pow 10 place)

/-- `n` units lie no farther from the double than from its neighbours; an even significand takes
both ends of the interval. -/
def owns (d : Double) (place n : Nat) : Bool :=
  let (num, den) := d.unitRatio place
  let low := (4 * d.significand - d.below) * num
  let high := (4 * d.significand + 2) * num
  if d.significand % 2 = 0 then low ≤ n * den && n * den ≤ high
  else low < n * den && n * den < high

def onGrid? (d : Double) (place : Nat) : Option Nat :=
  let (num, den) := d.unitRatio place
  let value := 4 * d.significand * num
  let n := value / den
  match d.owns place n, d.owns place (n + 1) with
  | true, true => if 2 * (value % den) < den then some n else some (n + 1)
  | true, false => some n
  | false, true => some (n + 1)
  | false, false => none

def leadingPlace (d : Double) : Nat :=
  let (num, den) := d.unitRatio 0
  (Nat.toDigits 10 (4 * d.significand * num / den)).length - 1

def shortestFrom (d : Double) : (more : Nat) → (place : Nat) → Decimal
  | 0, place => ⟨4 * d.significand * (d.unitRatio place).1 / (d.unitRatio place).2, place⟩
  | more + 1, place =>
      match d.onGrid? place with
      | some n => ⟨n, place⟩
      | none => d.shortestFrom more (place - 1)

def shortest (d : Double) : Decimal := d.shortestFrom 17 d.leadingPlace

def Decimal.text (d : Decimal) : String :=
  let digits := Nat.toDigits 10 d.digits
  if 400 ≤ d.place then String.ofList (digits ++ List.replicate (d.place - 400) '0')
  else
    let places := 400 - d.place
    let padded := List.replicate (places + 1 - digits.length) '0' ++ digits
    let whole := padded.take (padded.length - places)
    let part := ((padded.drop (padded.length - places)).reverse.dropWhile (· = '0')).reverse
    String.ofList (if part.isEmpty then whole else whole ++ '.' :: part)

def isSpecial (d : Double) : Bool := d.exponentField = 2047

def text (d : Double) : String :=
  if d.isSpecial && d.fractionField ≠ 0 then "NaN"
  else (if d.negative then "-" else "") ++
    if d.isSpecial then "inf" else if d.significand = 0 then "0" else d.shortest.text

end Double
end RestScaffold
