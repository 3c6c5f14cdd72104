/-
Binary floating point numbers of 64 bits, as their bit patterns. A finite number is (-1)^s · m · 2^q; `ofRatio` rounds
a positive quotient of natural numbers to the nearest such number, a tie going to the even significand. All arithmetic
is exact on natural numbers, so every result can be computed and reasoned about without hardware numbers.
-/

namespace ProcessBuild.Number

/-- a number in the 64 bit binary format -/
structure Binary64 where
  bits : UInt64
  deriving DecidableEq, Repr, Inhabited

namespace Binary64

def negative (x : Binary64) : Bool := x.bits.toNat / Nat.pow 2 63 % 2 == 1

/-- the biased exponent -/
def exponentField (x : Binary64) : Nat := x.bits.toNat / Nat.pow 2 52 % 2048

/-- the stored part of the significand -/
def fractionField (x : Binary64) : Nat := x.bits.toNat % Nat.pow 2 52

def significand (x : Binary64) : Nat :=
  if x.exponentField = 0 then x.fractionField else x.fractionField + Nat.pow 2 52

def exponent (x : Binary64) : Int :=
  if x.exponentField = 0 then -1074 else (x.exponentField : Int) - 1075

/-- whether the number is zero, of either sign -/
def isZero (x : Binary64) : Bool := x.significand == 0

/-- the number with the given sign, biased exponent and fraction -/
def ofFields (negative : Bool) (exponent fraction : Nat) : Binary64 :=
  ⟨UInt64.ofNat ((if negative then Nat.pow 2 63 else 0) + exponent * Nat.pow 2 52 + fraction)⟩

def zero (negative : Bool) : Binary64 := ofFields negative 0 0

/-- the same number with the sign set or cleared -/
def withSign (x : Binary64) (negative : Bool) : Binary64 :=
  ofFields negative x.exponentField x.fractionField

/-- the numerator and denominator of num / den / 2^q -/
def scaled (num den : Nat) (q : Int) : Nat × Nat :=
  if q < 0 then (num * Nat.pow 2 q.natAbs, den) else (num, den * Nat.pow 2 q.natAbs)

/-- round a quotient to the nearest integer, a tie to the even one -/
def roundDiv (num den : Nat) : Nat :=
  let m := num / den
  let r := num % den
  if 2 * r > den then m + 1 else if 2 * r = den then m + m % 2 else m

/-- the exponent with which num / den has 53 significant bits, or the least exponent of the format -/
def quotientExponent (num den : Nat) : Int :=
  let q : Int := (Nat.log2 num : Int) - (Nat.log2 den : Int) - 52
  let (n, d) := scaled num den q
  max (-1074) (if n / d < Nat.pow 2 52 then q - 1 else q)

/-- the positive number nearest to num / den; none where that is beyond the largest finite number -/
def ofRatio (num den : Nat) : Option Binary64 :=
  if num = 0 then some (zero false)
  else
    let q := quotientExponent num den
    let (n, d) := scaled num den q
    let m := roundDiv n d
    let (m, q) := if m = Nat.pow 2 53 then (Nat.pow 2 52, q + 1) else (m, q)
    if m < Nat.pow 2 52 then some (ofFields false 0 m)
    else if q > 971 then none
    else some (ofFields false (q + 1075).toNat (m - Nat.pow 2 52))

/-- numerator and denominator of the absolute value of a finite number -/
def ratio (x : Binary64) : Nat × Nat :=
  if x.exponent < 0 then (x.significand, Nat.pow 2 x.exponent.natAbs)
  else (x.significand * Nat.pow 2 x.exponent.natAbs, 1)

/-- product of two positive numbers; none on overflow -/
def mul (x y : Binary64) : Option Binary64 :=
  let (a, b) := x.ratio
  let (c, d) := y.ratio
  ofRatio (a * c) (b * d)

/-- quotient of two positive numbers; none on overflow -/
def div (x y : Binary64) : Option Binary64 :=
  let (a, b) := x.ratio
  let (c, d) := y.ratio
  ofRatio (a * d) (b * c)

/-- the number nearest to 10^n, for n up to 308 -/
def pow10 (n : Nat) : Binary64 := (ofRatio (Nat.pow 10 n) 1).getD (zero false)

end Binary64
end ProcessBuild.Number
