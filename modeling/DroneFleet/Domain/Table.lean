import DroneFleet.Text.Blank
import DroneFleet.Text.Parts

/-!
# Tables of code points

Properties of characters are kept as text: numbers in hexadecimal with blanks between them.

* `hexNumber`     the number that hexadecimal digits denote
* `tokens`        the words of several lines
* `bounds`        a set, by the code points where it begins and ends in turn
* `steps`         a function that keeps its value from one code point to the next
* `groups`        lists of numbers under a number that heads them
* `isWithin`, `valueAt`   look-ups
-/

namespace DroneFleet.Domain

def hexDigitValue (c : Char) : Nat := if c.isDigit then c.toNat - 48 else c.toNat - 55

def hexNumber (ds : List Char) : Nat := ds.foldl (fun n d => 16 * n + hexDigitValue d) 0

def tokens (lines : List String) : List (List Char) := lines.flatMap fun l => Text.words l.toList

/-- the numbers of a word, with a mark between them -/
def numbersAt (mark : Char) (word : List Char) : List Nat :=
  (Text.partsAt (· = mark) word).map hexNumber

/-! ## sets -/

/-- the code points where a set begins and ends in turn -/
def bounds (lines : List String) : List Nat := (tokens lines).map hexNumber

/-- is a code point in a set that begins and ends in turn at these? -/
def isWithin (n : Nat) : List Nat → Bool
  | [] => false
  | first :: r => first ≤ n && !isWithin n r

/-! ## functions -/

/-- the code points where a function changes, each with the value from there on -/
def steps (lines : List String) : List (Nat × Nat) :=
  (tokens lines).filterMap fun word =>
    match numbersAt ':' word with
    | [first, v] => some (first, v)
    | _ => none

/-- the value at a code point, given the value in front of the first step -/
def valueAt (n : Nat) : Nat → List (Nat × Nat) → Nat
  | v, [] => v
  | v, (first, w) :: r => if first ≤ n then valueAt n w r else v

/-! ## groups -/

/-- lists of numbers, each with the number that heads its group; a heading ends with an equals
sign -/
def groups (lines : List String) : List (Nat × List Nat) :=
  ((tokens lines).foldl
    (fun (acc : Nat × List (Nat × List Nat)) word =>
      if word.getLast? = some '=' then (hexNumber word.dropLast, acc.2)
      else (acc.1, (acc.1, numbersAt '+' word) :: acc.2))
    (0, [])).2.reverse

/-- the items of groups, counted within each group from its heading on -/
def counted : Option (Nat × Nat) → List (Nat × List Nat) → List (Nat × List Nat)
  | _, [] => []
  | before, (head, item) :: r =>
    let n := match before with
      | some (h, last) => if h = head then last + 1 else head
      | none => head
    (n, item) :: counted (some (head, n)) r

end DroneFleet.Domain
