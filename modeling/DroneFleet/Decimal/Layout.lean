import DroneFleet.Decimal.Shortest

/-!
# Writing a decimal

* `digitText`      the digits of an amount
* `Layout`         where positional notation ends, and whether integers show a point
* `write`          a shortest decimal in a layout
* `Layout.wire`    the layout of numbers on the wire
* `Layout.plain`   the layout of numbers that stand for a text
-/

namespace DroneFleet.Decimal

def digitText (n : Nat) : List Char := Nat.toDigits 10 n

def integerText (n : Int) : List Char :=
  if n < 0 then '-' :: digitText n.natAbs else digitText n.natAbs

/-- which powers of ten of the first digit are written positionally; beyond them one digit stands
before the point and the power of ten follows. An integer may show a point and a zero. -/
structure Layout where
  leastPlain : Int
  greatestPlain : Int
  pointed : Bool
deriving Repr

/-- numbers on the wire are positional from `0.00001` to below `10 ^ 16` -/
def Layout.wire : Layout := ⟨-5, 15, true⟩

/-- numbers that stand for a text are positional always, and integers show no point -/
def Layout.plain : Layout := ⟨-400, 400, false⟩

/-- the power of ten after the mark, with a sign always -/
def exponentText (e : Int) : List Char :=
  'e' :: (if e < 0 then '-' else '+') :: digitText e.natAbs

/-- a point and a zero after an integer, if the layout shows them -/
def Layout.integerEnd (layout : Layout) : List Char := if layout.pointed then ['.', '0'] else []

/-- digits with a point after the first `n` of them, filled with zeros on either side; there is a
digit before the point -/
def positional (layout : Layout) (ds : List Char) (n : Int) : List Char :=
  if n ≤ 0 then '0' :: '.' :: (List.replicate (-n).toNat '0' ++ ds)
  else if ds.length ≤ n.toNat then
    ds ++ List.replicate (n.toNat - ds.length) '0' ++ layout.integerEnd
  else ds.take n.toNat ++ '.' :: ds.drop n.toNat

def scientific (ds : List Char) (e : Int) : List Char :=
  match ds with
  | [] => exponentText e
  | [d] => d :: exponentText e
  | d :: more => d :: '.' :: more ++ exponentText e

def write (layout : Layout) (s : Shortest) : List Char :=
  let ds := digitText s.digits
  let e : Int := s.exponent + ds.length - 1
  if layout.leastPlain ≤ e ∧ e ≤ layout.greatestPlain then positional layout ds (e + 1)
  else scientific ds e

/-- the text of a binary number in a layout, the shortest that reads back; none if it is not
finite -/
def text? (layout : Layout) : Binary64 → Option (List Char)
  | .finite negative m e =>
    let body := if m = 0 then '0' :: layout.integerEnd else write layout (shortest m e)
    some (if negative then '-' :: body else body)
  | _ => none

end DroneFleet.Decimal
