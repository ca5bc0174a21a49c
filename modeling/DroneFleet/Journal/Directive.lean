import DroneFleet.Journal
import DroneFleet.Numeral.Integer
import DroneFleet.Text.Alphanumeric
import DroneFleet.Text.Parts

/-!
# Directives

A directive says from which level on the remarks of a source are shown. Written in full it is
`source[scope{field,field=value}]=level`, and almost every part may be left out; a word that stands
alone is a level if it can be one, and else a source.

* `Threshold`           which levels are shown
* `Directive`           whose remarks it is about, and the threshold for them
* `Directive.read?`     the directive that a text gives
* `Directive.concerns`  is a remark one of those it is about?
-/

namespace DroneFleet

/-! ## thresholds -/

/-- the least rank that is shown -/
structure Threshold where
  rank : Nat
deriving DecidableEq, Repr

namespace Threshold

def shows (t : Threshold) (l : Level) : Bool := t.rank ≤ l.rank

def all : Threshold := ⟨0⟩

/-- a level and those above it are shown -/
def ofLevel (l : Level) : Threshold := ⟨l.rank⟩

/-- the words for thresholds: from the one that nothing passes to the one that everything passes -/
def words : List String := ["off", "error", "warn", "info", "debug", "trace"]

/-- the threshold at a place in the list of words -/
def ofPlace (n : Nat) : Threshold := ⟨words.length - 1 - n⟩

/-- the place in the list of words that a number gives; a plus sign may stand in front -/
def place? (s : List Char) : Option Nat :=
  let ds := match s with
    | '+' :: r => r
    | r => r
  let n := Numeral.natOfDigits ds
  if ds ≠ [] ∧ ds.all Char.isDigit ∧ n < words.length then some n else none

/-- the threshold that a word or a number names; capital letters count as small ones -/
def ofWord? (s : List Char) : Option Threshold :=
  let word := String.ofList (s.map Char.toLower)
  (place? s <|> words.findIdx? (· = word)).map ofPlace

end Threshold

/-! ## directives -/

/-- whose remarks a directive is about, and the threshold for them -/
structure Directive where
  /-- what the source of a remark begins with, if this matters -/
  source? : Option (List Char)
  /-- the fields that a remark has -/
  fields : List (List Char)
  /-- is it only about what happens in a scope, or about fields with certain values? -/
  isNarrow : Bool
  threshold : Threshold
deriving DecidableEq, Repr

namespace Directive

def general (t : Threshold) : Directive := ⟨none, [], false, t⟩

def textField : List Char := "message".toList

/-- is a remark one of those that the directive is about? No remark is made in a scope, and none
has a field whose value could be compared. -/
def concerns (d : Directive) (r : Remark) : Bool :=
  !d.isNarrow && (d.source?.getD []).isPrefixOf r.source.toList && d.fields.all (· = textField)

/-- how closely a directive describes its remarks: the length of the source, and the number of
fields -/
def closeness (d : Directive) : Nat × Nat :=
  (match d.source? with
    | none => 0
    | some s => s.length + 1,
   d.fields.length)

/-- does a directive describe its remarks more closely than another one? The source counts
first. -/
def isCloser (d e : Directive) : Bool :=
  e.closeness.1 < d.closeness.1
    || (e.closeness.1 = d.closeness.1 && e.closeness.2 < d.closeness.2)

/-! ## reading -/

/-- the marks of a directive stand in its text without the blanks around it; its parts are read at
the same places of the text itself, and the last part goes on to its end -/
structure Written where
  /-- the marks, each with the character at its place -/
  places : List (Char × Char)
  /-- what follows the places -/
  tail : List Char

def Written.ofText (s : List Char) : Written :=
  let marks := Text.trim s
  ⟨marks.zip s, s.drop marks.length⟩

def textAt (ps : List (Char × Char)) : List Char := ps.map (·.2)

/-- the places up to the first of these marks, and the places from there on -/
def cutAt (marks : List Char) (ps : List (Char × Char)) :
    List (Char × Char) × List (Char × Char) :=
  (ps.takeWhile fun p => p.1 ∉ marks, ps.dropWhile fun p => p.1 ∉ marks)

/-- the threshold after an equals sign; nothing at all names the one that everything passes -/
def thresholdOf? : List Char → Option Threshold
  | [] => some .all
  | s => Threshold.ofWord? s

/-- the threshold after an equals sign; a comma may end it, but nothing follows a comma -/
def thresholdAt? (tail : List Char) (ps : List (Char × Char)) : Option Threshold :=
  match cutAt [','] ps with
  | (front, []) => thresholdOf? (textAt front ++ tail)
  | (front, [_]) => thresholdOf? (textAt front)
  | _ => none

def thresholdAfterScope? (tail : List Char) : List (Char × Char) → Option Threshold
  | [] => some .all
  | ('=', _) :: r => thresholdAt? tail r
  | [(',', _)] => some .all
  | _ => none

def fieldName (field : List Char) : List Char := field.takeWhile (· ≠ '=')

def hasValue (field : List Char) : Bool := '=' ∈ field

/-- the directive whose scope begins here -/
def readScope? (source? : Option (List Char)) (tail : List Char) (ps : List (Char × Char)) :
    Option Directive :=
  match cutAt [']', '{'] ps with
  | (_, (']', _) :: r) => (thresholdAfterScope? tail r).map fun t => ⟨source?, [], true, t⟩
  | (scope, ('{', _) :: r) =>
    match cutAt ['}'] r with
    | (inside, _ :: (']', _) :: r) =>
      let fields := (Text.partsAt (fun p => decide (p.1 = ',')) inside).map textAt
      if fields.any (· = []) then none
      else
        (thresholdAfterScope? tail r).map fun t =>
          ⟨source?, fields.map fieldName, scope ≠ [] || fields.any hasValue, t⟩
    | _ => none
  | _ => none

def ofWord (s : List Char) : Directive :=
  match Threshold.ofWord? s with
  | some t => general t
  | none => ⟨some s, [], false, .all⟩

/-- can a source begin with the character? -/
def beginsSource (c : Char) : Bool := c = '-' || c = ':' || c = '_' || Text.isAlphanumeric c

def read? (s : List Char) : Option Directive :=
  let w := Written.ofText s
  match cutAt ['=', '[', ','] w.places with
  | ([], ('[', _) :: r) => readScope? none w.tail r
  | ([], _) => none
  | (front, rest) =>
    if front.head?.any fun p => beginsSource p.1 then
      match rest with
      | [] => some (ofWord (textAt front ++ w.tail))
      | ('=', _) :: r =>
        (thresholdAt? w.tail r).map fun t => ⟨some (textAt front), [], false, t⟩
      | ('[', _) :: r => readScope? (some (textAt front)) w.tail r
      | r => if r.length = 1 then some (ofWord (textAt front)) else none
    else none

end Directive

end DroneFleet
