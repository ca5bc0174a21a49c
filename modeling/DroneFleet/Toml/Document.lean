import DroneFleet.Toml.Scalar
import DroneFleet.Toml.Table
import DroneFleet.Toml.Text

/-!
# Reading TOML

* `value?`       a value, of bounded nesting
* `Document.read?`   the tables of a whole document
* `read?`        the entries of a whole document
-/

namespace DroneFleet.Toml

/-! ## values -/

def isWordChar (c : Char) : Bool := isBare c || c = '+' || c = '.' || c = ':'

/-- a date and the blank and the time after it -/
def dateAndTime (word : List Char) : List Char → List Char × List Char
  | ' ' :: c :: r =>
    if c.isDigit && (Date.read? word).any (·.2 = []) then
      (word ++ ' ' :: (c :: r).takeWhile isWordChar, (c :: r).dropWhile isWordChar)
    else (word, ' ' :: c :: r)
  | r => (word, r)

def scalarValue? (s : List Char) : Option (Value × List Char) :=
  let (word, r) := dateAndTime (s.takeWhile isWordChar) (s.dropWhile isWordChar)
  (Scalar.read? word).map (·, r)

/-- the items of an array, `fuel` at most; `done` are those so far, the last first -/
def items? (read : List Char → Option (Value × List Char)) :
    Nat → List Value → List Char → Option (List Value × List Char)
  | 0, _, _ => none
  | fuel + 1, done, s =>
    match gap false s with
    | ']' :: r => some (done.reverse, r)
    | s =>
      match read s with
      | none => none
      | some (v, r) =>
        match gap false r with
        | ',' :: r => items? read fuel (v :: done) r
        | ']' :: r => some ((v :: done).reverse, r)
        | _ => none

def assignment? (read : List Char → Option (Value × List Char)) (s : List Char) :
    Option ((List String × String × Value) × List Char) :=
  match key? s with
  | some ((path, n), r) =>
    match skip r with
    | '=' :: r => (read (skip r)).map fun (v, r) => ((path, n, v), r)
    | _ => none
  | none => none

/-- the entries of a table in braces, `fuel` at most -/
def fields? (read : List Char → Option (Value × List Char)) :
    Nat → Entries → List Char → Option (Entries × List Char)
  | 0, _, _ => none
  | fuel + 1, es, s =>
    match assignment? read s with
    | none => none
    | some ((path, n, v), r) =>
      match Node.insert path n v .heading es with
      | none => none
      | some es =>
        match skip r with
        | ',' :: r => fields? read fuel es r
        | '\x7d' :: r => some (es, r)
        | _ => none

def inlineTable? (read : List Char → Option (Value × List Char)) (s : List Char) :
    Option (Value × List Char) :=
  match skip s with
  | '\x7d' :: r => some (.table [], r)
  | s => (fields? read (s.length + 1) [] s).map fun (es, r) => (.table (Node.values es), r)

/-- a value with at most `depth` levels of brackets and braces -/
def value? (depth : Nat) (s : List Char) : Option (Value × List Char) :=
  match s with
  | '[' :: r =>
    match depth with
    | 0 => none
    | depth + 1 =>
      (items? (value? depth) (r.length + 1) [] r).map fun (vs, r) => (.array vs, r)
  | '\x7b' :: r =>
    match depth with
    | 0 => none
    | depth + 1 => inlineTable? (value? depth) r
  | '"' :: _ => (text? s).map fun (t, r) => (.text t, r)
  | '\'' :: _ => (text? s).map fun (t, r) => (.text t, r)
  | _ => scalarValue? s

/-- how deep brackets and braces may nest -/
def maxDepth : Nat := 79

/-! ## documents -/

namespace Document

/-- a heading whose first bracket is read already -/
def heading? (d : Document) (s : List Char) : Option (Document × List Char) :=
  match s with
  | '[' :: r =>
    match key? r with
    | some ((path, n), r) =>
      match skip r with
      | ']' :: ']' :: r => (d.append path n).map (·, r)
      | _ => none
    | none => none
  | r =>
    match key? r with
    | some ((path, n), r) =>
      match skip r with
      | ']' :: r => (d.enter path n).map (·, r)
      | _ => none
    | none => none

def line? (d : Document) (s : List Char) : Option (Document × List Char) :=
  match s with
  | '[' :: r => d.heading? r
  | _ =>
    match assignment? (value? maxDepth) s with
    | some ((path, n, v), r) => (d.insert path n v).map (·, r)
    | none => none

/-- the lines of a document, `fuel` at most -/
def lines? : Nat → Document → List Char → Option Document
  | fuel, d, s =>
    match gap false s with
    | [] => some d
    | c :: r =>
      match fuel with
      | 0 => none
      | fuel + 1 =>
        match d.line? (c :: r) with
        | none => none
        | some (d, r) =>
          match lineEnd? r with
          | some r => lines? fuel d r
          | none => none

def read? (s : List Char) : Option Document :=
  match s with
  | [] => some {}
  | c :: r =>
    let s := if c = Char.ofNat 0xFEFF then r else c :: r
    lines? s.length {} s

end Document

/-- the entries of a whole document, which has to be a table -/
def read? (s : String) : Option (List (String × Setting)) :=
  match (Document.read? s.toList).bind fun d => (Value.table (Node.values d.entries)).setting? with
  | some (.table es) => some es
  | _ => none

end DroneFleet.Toml
