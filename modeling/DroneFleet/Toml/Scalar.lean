import DroneFleet.Numeral.Number
import DroneFleet.Json.Reader
import DroneFleet.Toml.Value

/-!
# Numbers and words in TOML

A value that stands without marks is one word. Its form decides what it is.

* `grouped?`         digits with single underscores between them
* `integer?`         an integer of 64 bits
* `float?`           a number with a point or a power of ten
* `Scalar.read?`     the value of a word
-/

namespace DroneFleet.Toml

/-- digits with single underscores between them, without the underscores -/
def grouped? (isDigit : Char → Bool) : List Char → Option (List Char)
  | [] => none
  | [c] => if isDigit c then some [c] else none
  | c :: '_' :: r => if isDigit c then (grouped? isDigit r).map (c :: ·) else none
  | c :: d :: r => if isDigit c then (grouped? isDigit (d :: r)).map (c :: ·) else none

/-- the digits of a base up to sixteen -/
def isDigitOf (base : Nat) (c : Char) : Bool := (Json.hexValue? c).any (· < base)

/-- a number without a sign in a base -/
def based? (base : Nat) (s : List Char) : Option Int := do
  let ds ← grouped? (isDigitOf base) s
  let n ← ds.foldlM (fun n c => (Json.hexValue? c).map (base * n + ·)) 0
  if n < 0x8000000000000000 then some n else none

/-- decimal digits that do not begin with a zero, or a zero alone -/
def decimal? (s : List Char) : Option (List Char) := do
  let ds ← grouped? Char.isDigit s
  if s.head? = some '0' ∧ s ≠ ['0'] then none else some ds

/-- an integer of 64 bits; without a sign it may be written in base two, eight or sixteen -/
def integer? (s : List Char) : Option Int :=
  match s with
  | '0' :: 'x' :: r => based? 16 r
  | '0' :: 'o' :: r => based? 8 r
  | '0' :: 'b' :: r => based? 2 r
  | _ => do
    let (negative, r) := Numeral.signed s
    let n := Numeral.withSign negative (Numeral.natOfDigits (← decimal? r))
    if Word64.least ≤ n ∧ n ≤ Word64.greatest then some n else none

def power? (s : List Char) : Option Int := do
  let (negative, r) := Numeral.signed s
  return Numeral.withSign negative (Numeral.natOfDigits (← grouped? Char.isDigit r))

def isPowerMark (c : Char) : Bool := c = 'e' || c = 'E'

/-- a number with a point or a power of ten, without its sign -/
def amount? (s : List Char) : Option (Nat × Int) := do
  let front := s.takeWhile fun c => !isPowerMark c
  let power ← match s.dropWhile fun c => !isPowerMark c with
    | [] => some none
    | _ :: r => (power? r).map some
  let whole ← decimal? (front.takeWhile (· ≠ '.'))
  match front.dropWhile (· ≠ '.'), power with
  | [], none => none
  | [], some e => some (Numeral.natOfDigits whole, e)
  | _ :: r, e => do
    let part ← grouped? Char.isDigit r
    return (Numeral.natOfDigits (whole ++ part), e.getD 0 - part.length)

/-- a number with a point or a power of ten, or a word for one; a positive number beyond the range
is refused -/
def float? (s : List Char) : Option Float :=
  let (negative, r) := Numeral.signed s
  if r = "inf".toList then some (Numeral.Reading.infinite negative).toFloat
  else if r = "nan".toList then some Numeral.Reading.notANumber.toFloat
  else do
    let (n, e) ← amount? r
    let x := Numeral.nearest n e
    if !negative && x.isInf then none else some (Numeral.negateIf negative x)

def Scalar.read? (s : List Char) : Option Value :=
  if s = "true".toList then some (.bool true)
  else if s = "false".toList then some (.bool false)
  else
    match integer? s, float? s, Moment.read? .bare s with
    | some n, _, _ => some (.integer n)
    | none, some x, _ => some (.float x)
    | none, none, some m => some (.moment m)
    | none, none, none => none

end DroneFleet.Toml
