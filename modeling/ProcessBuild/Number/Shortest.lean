/-
The shortest decimal text of a binary number: the fewest digits that read back as the same number, and of those the
nearest to it. A decimal reads back when it lies in the interval of reals that round to the number; the interval holds
its ends exactly when the significand is even. For each number of digits the two neighbours of the value on that
decimal grid are tested, the coarsest grid first.
-/
import ProcessBuild.Number.Binary64

namespace ProcessBuild.Number.Shortest

/-- a positive decimal d · 10^e -/
structure Decimal where
  digits : Nat
  scale : Int
  deriving DecidableEq, Repr

def power10 (n : Nat) (e : Int) : Nat × Nat :=
  if e < 0 then (n, Nat.pow 10 e.natAbs) else (n * Nat.pow 10 e.natAbs, 1)

/-- search upwards for the exponent e with 10^e ≤ a/b < 10^(e+1) -/
def leadingExponentFrom (fuel : Nat) (a b : Nat) (e : Int) : Int :=
  match fuel with
  | 0 => e
  | fuel + 1 =>
    let (n, d) := power10 1 (e + 1)
    if a * d < n * b then e else leadingExponentFrom fuel a b (e + 1)

/-- the exponent of the leading digit of a/b -/
def leadingExponent (a b : Nat) : Int :=
  let bits : Int := (Nat.log2 a : Int) - (Nat.log2 b : Int)
  leadingExponentFrom 5 a b ((bits - 1) * 30103 / 100000 - 1)

/-- the reals that round to m · 2^q, as lower end, upper end (over one denominator) and whether the ends belong -/
structure Interval where
  low : Nat
  high : Nat
  den : Nat
  closed : Bool

/-- the interval of a positive number, and the number itself over four times its unit -/
def interval (x : Binary64) : Interval × Nat :=
  let m := x.significand
  let below := if m = Nat.pow 2 52 ∧ x.exponent > -1074 then 1 else 2
  let q := x.exponent - 2
  let s := Nat.pow 2 q.natAbs
  if q < 0 then (⟨4 * m - below, 4 * m + 2, s, m % 2 == 0⟩, 4 * m)
  else (⟨(4 * m - below) * s, (4 * m + 2) * s, 1, m % 2 == 0⟩, 4 * m * s)

def Interval.holds (i : Interval) (n d : Nat) : Bool :=
  if i.closed then i.low * d ≤ n * i.den && n * i.den ≤ i.high * d
  else i.low * d < n * i.den && n * i.den < i.high * d

/-- distance of n/d from a/b, times d · b -/
def distance (n d a b : Nat) : Nat := (n * b - a * d) + (a * d - n * b)

/-- the best decimal with the scale e, if one lies in the interval; a/b is the value -/
def onGrid (i : Interval) (a b : Nat) (e : Int) : Option Decimal :=
  let (gn, gd) := power10 1 e
  let low := a * gd / (b * gn)
  let ok (n : Nat) : Bool := let (x, y) := power10 n e; n > 0 && i.holds x y
  let dist (n : Nat) : Nat := let (x, y) := power10 n e; distance x y a b
  match ok low, ok (low + 1) with
  | true, true =>
    if dist low < dist (low + 1) then some ⟨low, e⟩
    else if dist (low + 1) < dist low then some ⟨low + 1, e⟩
    else some ⟨low + low % 2, e⟩
  | true, false => some ⟨low, e⟩
  | false, true => some ⟨low + 1, e⟩
  | false, false => none

/-- try grids of falling scale -/
def search (i : Interval) (a b : Nat) : Nat → Int → Decimal
  | 0, e => (onGrid i a b e).getD ⟨a / b, 0⟩
  | fuel + 1, e =>
    match onGrid i a b e with
    | some d => d
    | none => search i a b fuel (e - 1)

/-- drop trailing zeros of the digits -/
def normalize : Nat → Decimal → Decimal
  | 0, d => d
  | fuel + 1, d => if d.digits ≠ 0 ∧ d.digits % 10 = 0 then normalize fuel ⟨d.digits / 10, d.scale + 1⟩ else d

/-- the shortest decimal that reads back as a positive number -/
def decimal (x : Binary64) : Decimal :=
  let (i, n) := interval x
  normalize 20 (search i n i.den 18 (leadingExponent n i.den))

end ProcessBuild.Number.Shortest
