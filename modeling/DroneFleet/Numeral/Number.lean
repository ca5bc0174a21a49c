import DroneFleet.Numeral.Integer

/-!
# Numbers that fill a whole text

A coordinate operand is read whole: either all of it is a number or none of it is.

* `Reading`             what a text says as a number
* `exponent?`           the power of ten at the end of a numeral
* `unsignedDecimal?`    digits with an optional point and an optional power of ten
* `read`                the reading of a whole text; blank text is zero
* `Reading.toFloat`     the binary number nearest to a reading
-/

namespace DroneFleet.Numeral

/-- what a text says when all of it is read as one number -/
inductive Reading where
  | notANumber
  | infinite (negative : Bool)
  /-- the amount `digits * 10 ^ exponent` with a sign, which zero keeps too -/
  | decimal (negative : Bool) (digits : Nat) (exponent : Int)
deriving DecidableEq, Repr

/-- the power of ten that stands at the end of a numeral: nothing, or `e` or `E`, an optional
sign and digits -/
def exponent? : List Char → Option Int
  | [] => some 0
  | c :: r =>
    if c = 'e' ∨ c = 'E' then
      let (negative, ds) := signed r
      if ds ≠ [] ∧ ds.all Char.isDigit then some (withSign negative (natOfDigits ds)) else none
    else none

/-- the digits after a point in front, and what follows them -/
def fraction : List Char → List Char × List Char
  | '.' :: r => (r.takeWhile Char.isDigit, r.dropWhile Char.isDigit)
  | r => ([], r)

/-- digits, on at least one side of an optional point, and an optional power of ten; read as
an integer and a power of ten -/
def unsignedDecimal? (s : List Char) : Option (Nat × Int) :=
  let whole := s.takeWhile Char.isDigit
  let (part, rest) := fraction (s.dropWhile Char.isDigit)
  if whole = [] ∧ part = [] then none
  else (exponent? rest).map fun e => (natOfDigits (whole ++ part), e - part.length)

def infinity : List Char := "Infinity".toList

/-- the reading of a whole text between blanks: nothing at all is zero, and what is neither a
decimal nor infinite is not a number -/
def read (s : List Char) : Reading :=
  match Text.trim s with
  | [] => .decimal false 0 0
  | t =>
    let (negative, r) := signed t
    if r = infinity then .infinite negative
    else
      match unsignedDecimal? r with
      | some (n, e) => .decimal negative n e
      | none => .notANumber

def decimalLength (n : Nat) : Nat := (Nat.toDigits 10 n).length

/-- the binary number nearest to `n * 10 ^ e`; amounts far outside of the range of binary
numbers are told by their length, so that no huge power is computed -/
def nearest (n : Nat) (e : Int) : Float :=
  if n = 0 then 0.0
  else
    let top := decimalLength n + e
    if 400 < top then 1.0 / 0.0
    else if top < -400 then 0.0
    else if e < 0 then Float.ofScientific n true e.natAbs
    else Float.ofScientific n false e.natAbs

/-- an amount with its sign, which zero keeps -/
def negateIf (negative : Bool) (x : Float) : Float := if negative then -x else x

/-- the binary number nearest to a reading -/
def Reading.toFloat : Reading → Float
  | .notANumber => 0.0 / 0.0
  | .infinite negative => negateIf negative (1.0 / 0.0)
  | .decimal negative n e => negateIf negative (nearest n e)

def toFloat (s : List Char) : Float := (read s).toFloat

end DroneFleet.Numeral
