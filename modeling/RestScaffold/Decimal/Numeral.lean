import RestScaffold.Decimal.Double

/-! Decimal numerals as written in a document, and the numbers that they are read as. -/
namespace RestScaffold

structure Numeral where
  negative : Bool
  whole : List Char
  fraction : List Char
  exponent : Option (Bool × List Char)
  deriving DecidableEq, Repr

namespace Numeral

def digitsValue (digits : List Char) : Nat :=
  digits.foldl (fun n c => 10 * n + (c.toNat - '0'.toNat)) 0

def ofInt (n : Int) : Numeral := ⟨n < 0, Nat.toDigits 10 n.natAbs, [], none⟩

def toInt? (n : Numeral) : Option Int :=
  if n.fraction ≠ [] ∨ n.exponent.isSome then none
  else match n.negative, digitsValue n.whole with
    | true, 0 => none
    | true, v => some (-v)
    | false, v => some v

def toIntIn? (low high : Int) (n : Numeral) : Option Int :=
  n.toInt?.filter fun v => low ≤ v && v ≤ high

/-- Digits join a 64-bit significand while they fit. A digit before the point that does not fit
ends that, and counts in the exponent with all that follow it. -/
def takeWhole (significand : Nat) : List Char → Nat × Int
  | [] => (significand, 0)
  | c :: rest =>
      let next := 10 * significand + (c.toNat - '0'.toNat)
      if next < UInt64.size then takeWhole next rest else (significand, rest.length + 1)

def takeFraction (significand : Nat) (exponent : Int) : List Char → Nat × Int
  | [] => (significand, exponent)
  | c :: rest =>
      let next := 10 * significand + (c.toNat - '0'.toNat)
      if next < UInt64.size then takeFraction next (exponent - 1) rest else (significand, exponent)

def powerOfTen (n : Nat) : Float := Float.ofScientific 1 false n

def scale? (f : Float) (exponent : Int) : Option Float :=
  if exponent.natAbs ≤ 308 then
    if 0 ≤ exponent then
      let scaled := f * powerOfTen exponent.natAbs
      if scaled.isInf then none else some scaled
    else some (f / powerOfTen exponent.natAbs)
  else if f == 0 then some f
  else if 0 ≤ exponent then none
  else scale? (f / powerOfTen 308) (exponent + 308)
termination_by exponent.natAbs

def maxExponent : Nat := 2147483647

def clampExponent (e : Int) : Int := max (-2147483648) (min maxExponent e)

def magnitude? (n : Numeral) : Option Float :=
  let (whole, dropped) := takeWhole 0 n.whole
  let (significand, start) := takeFraction whole dropped n.fraction
  let f := significand.toUInt64.toFloat
  match n.exponent with
  | none => scale? f start
  | some (down, digits) =>
      let e := digitsValue digits
      if maxExponent < e then
        if significand ≠ 0 ∧ !down then none else some 0
      else scale? f (clampExponent (if down then start - e else start + e))

/-- The double that a numeral is read as. Not always the nearest one: the significand is rounded
before it is scaled. -/
def toDouble? (n : Numeral) : Option Double :=
  n.magnitude?.map fun f => ⟨(if n.negative then -f else f).toBits⟩

def text (n : Numeral) : List Char :=
  (if n.negative then ['-'] else []) ++ n.whole ++
  (if n.fraction.isEmpty then [] else '.' :: n.fraction) ++
  match n.exponent with
  | none => []
  | some (down, digits) => 'e' :: (if down then ['-'] else []) ++ digits

end Numeral
end RestScaffold
