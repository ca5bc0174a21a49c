import DroneFleet.Text.Blank

/-!
# Integers at the front of a text

Loose operands such as `90.7` or `-15deg` are read by the integer they begin with.

* `Word64.clamp`      the nearest integer of 64 bits
* `natOfDigits`       the number that a run of decimal digits denotes
* `signed`            an optional sign in front, and the rest
* `leadingInteger?`   the integer that a text begins with, clamped to 64 bits
-/

namespace DroneFleet

namespace Word64

def least : Int := -0x8000000000000000

def greatest : Int := 0x7FFFFFFFFFFFFFFF

/-- the signed integer of 64 bits nearest to `n` -/
def clamp (n : Int) : Int := max least (min greatest n)

theorem clamp_of_mem {n : Int} (hl : least ≤ n) (hg : n ≤ greatest) : clamp n = n := by
  unfold clamp
  omega

theorem least_le_clamp (n : Int) : least ≤ clamp n := by
  unfold clamp
  omega

theorem clamp_le_greatest (n : Int) : clamp n ≤ greatest := by
  unfold clamp least greatest
  omega

end Word64

namespace Numeral

def digitValue (c : Char) : Nat := c.toNat - '0'.toNat

/-- the number that a run of decimal digits denotes, read from the left -/
def natOfDigits (ds : List Char) : Nat :=
  ds.foldl (fun n c => 10 * n + digitValue c) 0

/-- is there a minus sign in front, and what follows the optional sign -/
def signed : List Char → Bool × List Char
  | '-' :: r => (true, r)
  | '+' :: r => (false, r)
  | r => (false, r)

def withSign (negative : Bool) (n : Nat) : Int := if negative then -n else n

/-- the integer that the text begins with after blanks: an optional sign and all the decimal
digits that follow it, clamped to 64 bits; none if no digit follows -/
def leadingInteger? (s : List Char) : Option Int :=
  let (negative, r) := signed (Text.trimStart s)
  match r.takeWhile Char.isDigit with
  | [] => none
  | ds => some (Word64.clamp (withSign negative (natOfDigits ds)))

end Numeral

end DroneFleet
