import DroneFleet.Decimal.Binary64

/-!
# The shortest decimal that reads back

A binary number stands for every real that rounds to it. Its shortest decimal is the one of fewest
digits among those reals; of two with equally few it is the nearer, and of two equally near the
even one.

* `Ratio`              a positive amount as a quotient
* `Span`               a binary number with the reals that round to it
* `Span.ofParts`       the span of a mantissa and a power of two
* `Span.onGrid?`       the best multiple of a power of ten inside a span
* `Shortest`           digits and the place of the point
* `shortest`           the shortest decimal of a mantissa and a power of two
-/

namespace DroneFleet.Decimal

structure Ratio where
  num : Nat
  den : Nat
deriving Repr

/-- `n * 2 ^ e` as a quotient -/
def Ratio.ofBinary (n : Nat) (e : Int) : Ratio :=
  if 0 ≤ e then ⟨n * Nat.pow 2 e.toNat, 1⟩ else ⟨n, Nat.pow 2 (-e).toNat⟩

def Ratio.divTen (r : Ratio) (k : Int) : Ratio :=
  if 0 ≤ k then ⟨r.num, r.den * Nat.pow 10 k.toNat⟩ else ⟨r.num * Nat.pow 10 (-k).toNat, r.den⟩

def Ratio.lt (a b : Ratio) : Bool := a.num * b.den < b.num * a.den

/-- a binary number `mid`, the ends of the reals that round to it, and whether the ends do -/
structure Span where
  low : Ratio
  mid : Ratio
  high : Ratio
  closed : Bool
deriving Repr

/-- the span of `mantissa * 2 ^ exponent`: half a step to both sides, half of that below a power
of two; the ends belong to the even mantissas -/
def Span.ofParts (mantissa : Nat) (exponent : Int) : Span :=
  let below := if mantissa = 0x10000000000000 ∧ -1074 < exponent then 1 else 2
  { low := .ofBinary (4 * mantissa - below) (exponent - 2)
    mid := .ofBinary (4 * mantissa) (exponent - 2)
    high := .ofBinary (4 * mantissa + 2) (exponent - 2)
    closed := mantissa % 2 = 0 }

def Span.holds (s : Span) (n : Nat) : Bool :=
  let r : Ratio := ⟨n, 1⟩
  (s.low.lt r && r.lt s.high) || (s.closed && !r.lt s.low && !s.high.lt r)

def Span.divTen (s : Span) (k : Int) : Span :=
  { s with low := s.low.divTen k, mid := s.mid.divTen k, high := s.high.divTen k }

/-- the integer next to the middle that the span holds: the one below or the one above, the
nearer if both, the even one if they are equally near -/
def Span.integer? (s : Span) : Option Nat :=
  let d := s.mid.num / s.mid.den
  let twice := 2 * (s.mid.num % s.mid.den)
  match s.holds d, s.holds (d + 1) with
  | true, true =>
    if twice < s.mid.den then some d
    else if s.mid.den < twice then some (d + 1)
    else some (if d % 2 = 0 then d else d + 1)
  | true, false => some d
  | false, true => some (d + 1)
  | false, false => none

/-- the best multiple of `10 ^ k` inside the span, in units of `10 ^ k` -/
def Span.onGrid? (s : Span) (k : Int) : Option Nat :=
  match (s.divTen k).integer? with
  | some 0 => none
  | r => r

structure Shortest where
  digits : Nat
  exponent : Int
deriving DecidableEq, Repr

/-- the first grid with a hit, from `10 ^ k` down, `fuel` grids at most -/
def Span.search (s : Span) : Nat → Int → Shortest
  | 0, k => ⟨0, k⟩
  | fuel + 1, k =>
    match s.onGrid? k with
    | some d => ⟨d, k⟩
    | none => s.search fuel (k - 1)

/-- a power of ten that no real of the span reaches -/
def Span.top (mantissa : Nat) (exponent : Int) : Int :=
  let bits : Int := Nat.log2 mantissa + 1 + exponent
  if 0 ≤ bits then bits * 30103 / 100000 + 2 else -(-bits * 30102 / 100000) + 2

/-- digits without zeros at their end -/
def Shortest.trim : Nat → Shortest → Shortest
  | 0, s => s
  | fuel + 1, s =>
    if s.digits ≠ 0 ∧ s.digits % 10 = 0 then trim fuel ⟨s.digits / 10, s.exponent + 1⟩ else s

/-- the shortest decimal of the positive amount `mantissa * 2 ^ exponent` -/
def shortest (mantissa : Nat) (exponent : Int) : Shortest :=
  ((Span.ofParts mantissa exponent).search 24 (Span.top mantissa exponent)).trim 24

end DroneFleet.Decimal
