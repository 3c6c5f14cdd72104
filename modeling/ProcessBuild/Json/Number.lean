/-
The text of JSON numbers. Integers are written in decimal. A binary number is written with the fewest digits that read
back: positionally while the exponent of its leading digit is between -5 and 15 (with a trailing `.0` when it is
integral), else with one digit before the point and a signed exponent.

A number is read as an integer when it is written without point and exponent and fits; otherwise its digits are
gathered as long as they fit 64 bits, converted to the nearest binary number and multiplied or divided by the nearest
binary number to the power of ten.
-/
import ProcessBuild.Json.Value
import ProcessBuild.Number.Shortest

namespace ProcessBuild.JsonNumber

open Number

/-- the least and greatest exponent of the leading digit that is written positionally -/
def positionalRange : Int × Int := (-5, 15)

def digits (n : Nat) : List Char := Nat.toDigits 10 n

def intText (i : Int) : List Char :=
  if i < 0 then '-' :: digits i.natAbs else digits i.natAbs

/-- digits d₁d₂… with the point after the first, none after a single digit -/
def scientificMantissa : List Char → List Char
  | [] => []
  | [c] => [c]
  | c :: r => c :: '.' :: r

def decimalText (d : Shortest.Decimal) : List Char :=
  let ds := digits d.digits
  let lead : Int := d.scale + ds.length - 1
  if positionalRange.1 ≤ lead && lead ≤ positionalRange.2 then
    if d.scale ≥ 0 then ds ++ List.replicate d.scale.toNat '0' ++ ['.', '0']
    else if lead ≥ 0 then ds.take (lead.toNat + 1) ++ '.' :: ds.drop (lead.toNat + 1)
    else '0' :: '.' :: List.replicate (-1 - lead).toNat '0' ++ ds
  else
    scientificMantissa ds ++ 'e' :: (if lead < 0 then '-' else '+') :: digits lead.natAbs

/-- a finite binary number -/
def floatText (x : Binary64) : List Char :=
  (if x.negative then ['-'] else []) ++
    (if x.isZero then ['0', '.', '0'] else decimalText (Shortest.decimal x))

def text : JsonNumber → List Char
  | .int i => intText i
  | .float x => floatText x

/-- the largest integer of 64 bits -/
def maxWord : Nat := Nat.pow 2 64 - 1

/-- scale a binary number down by powers of 10^308 until the rest of the exponent is small; the exponent is -n -/
def scaleDown (x : Binary64) : Nat → Nat → Option Binary64
  | 0, n => x.div (Binary64.pow10 n)
  | fuel + 1, n =>
    if n ≤ 308 then x.div (Binary64.pow10 n)
    else if x.isZero then some x
    else (x.div (Binary64.pow10 308)).bind fun y => scaleDown y fuel (n - 308)

/-- the binary number written as significand · 10^exponent; none when it is out of range -/
def ofParts (positive : Bool) (significand : Nat) (exponent : Int) : Option Binary64 := do
  let f ← Binary64.ofRatio significand 1
  let x ←
    if exponent ≥ 0 then
      if exponent ≤ 308 then f.mul (Binary64.pow10 exponent.toNat) else if f.isZero then some f else none
    else scaleDown f 3 exponent.natAbs
  return x.withSign (!positive)

end ProcessBuild.JsonNumber
