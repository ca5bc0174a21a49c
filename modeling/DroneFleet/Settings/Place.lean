import DroneFleet.Numeral.Integer
import DroneFleet.Settings.Value

/-!
# Reading places

A place is written as names with points between them; a number in brackets asks for an item.

* `Place.read?`     the place that a text denotes
* `Place.ofText`    that place, or the text itself as a name at the top
-/

namespace DroneFleet.Setting

namespace Place

def isNameChar (c : Char) : Bool := c.isAlphanum || c = '_' || c = '-' || c = ' '

/-- the number between brackets, of 64 bits; blanks may stand around it -/
def index? (s : List Char) : Option (Int × List Char) :=
  let isBlank (c : Char) : Bool := c = ' ' || c = '\t'
  let s := s.dropWhile isBlank
  let (negative, s) := match s with
    | '-' :: r => (true, r)
    | r => (false, r)
  match s.takeWhile Char.isDigit, (s.dropWhile Char.isDigit).dropWhile isBlank with
  | [], _ => none
  | ds, ']' :: r =>
    let i := Numeral.withSign negative (Numeral.natOfDigits ds)
    if Word64.least ≤ i ∧ i ≤ Word64.greatest then some (i, r) else none
  | _, _ => none

/-- the steps after the first, `fuel` at most; `done` are those before, the last first -/
def steps? : Nat → Step → List Step → List Char → Option Place
  | _, last, done, [] => some ⟨done.reverse, last⟩
  | 0, _, _, _ => none
  | fuel + 1, last, done, '.' :: r =>
    match r.takeWhile isNameChar with
    | [] => none
    | n => steps? fuel (.name (String.ofList n)) (last :: done) (r.dropWhile isNameChar)
  | fuel + 1, last, done, '[' :: r =>
    match index? r with
    | some (i, r) => steps? fuel (.index i) (last :: done) r
    | none => none
  | _, _, _, _ => none

def read? (s : List Char) : Option Place :=
  match s.takeWhile isNameChar with
  | [] => none
  | n => steps? s.length (.name (String.ofList n)) [] (s.dropWhile isNameChar)

/-- the place that a text denotes; a text that denotes none is a name at the top -/
def ofText (s : String) : Place := (read? s.toList).getD (.top s)

end Place

end DroneFleet.Setting
