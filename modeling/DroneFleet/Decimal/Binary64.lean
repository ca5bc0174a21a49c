/-!
# Binary numbers of 64 bits, taken apart

* `Binary64`            not a number, infinite, or sign, mantissa and power of two
* `Binary64.ofFloat`    the parts of a float, read from its bits
* `Binary64.toInt64`    the nearest integer of 64 bits, halves away from zero, zero for what is
                        not a number
-/

namespace DroneFleet

/-- the parts of a binary number of 64 bits -/
inductive Binary64 where
  | notANumber
  | infinite (negative : Bool)
  /-- the amount `mantissa * 2 ^ exponent` with a sign, which zero keeps too -/
  | finite (negative : Bool) (mantissa : Nat) (exponent : Int)
deriving DecidableEq, Repr

namespace Binary64

/-- the parts that 64 bits encode: a sign, eleven bits of exponent, fifty-two of fraction -/
def ofBits (b : UInt64) : Binary64 :=
  let n := b.toNat
  let negative := 0x8000000000000000 ≤ n
  let biased : Nat := n / 0x10000000000000 % 0x800
  let part := n % 0x10000000000000
  if biased = 0x7FF then
    if part = 0 then .infinite negative else .notANumber
  else if biased = 0 then .finite negative part (-1074)
  else .finite negative (0x10000000000000 + part) ((biased : Int) - 1075)

def ofFloat (x : Float) : Binary64 := ofBits x.toBits

/-- `n / 2 ^ k` to the nearest integer, halves up -/
def roundShift (n k : Nat) : Nat := (n + Nat.pow 2 k / 2) / Nat.pow 2 k

/-- the nearest integer, halves away from zero -/
def magnitude (mantissa : Nat) (exponent : Int) : Nat :=
  if 0 ≤ exponent then mantissa * Nat.pow 2 exponent.toNat
  else roundShift mantissa (-exponent).toNat

/-- the nearest integer that 64 bits hold; zero for what is not a number -/
def toInt64 : Binary64 → Int
  | .notANumber => 0
  | .infinite negative => if negative then -0x8000000000000000 else 0x7FFFFFFFFFFFFFFF
  | .finite negative m e =>
    let n : Int := magnitude m e
    if negative then max (-0x8000000000000000) (-n) else min 0x7FFFFFFFFFFFFFFF n

end Binary64

end DroneFleet
