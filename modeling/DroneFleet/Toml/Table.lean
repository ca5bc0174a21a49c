import DroneFleet.Toml.Value

/-!
# Tables of a document under construction

A table may be opened once, and what is written in one place is not continued in another. So each
table knows how it came to be.

* `Origin`          how a table came to be
* `Node`            a value, a table, or an array of tables
* `Node.within`     a change of the table at a path
* `Document`        the tables so far, and the one that is open
* `Document.enter`, `Document.append`, `Document.insert`
                    a heading, a heading of an array, a line with a key and a value
-/

namespace DroneFleet.Toml

/-- how a table came to be -/
inductive Origin where
  /-- it was opened by a heading -/
  | heading
  /-- a heading of a table inside it implies it -/
  | implied
  /-- a key with points implies it -/
  | dotted
deriving DecidableEq, Repr

/-- a value, a table, or an array of tables with its last one apart -/
inductive Node where
  | value (v : Value)
  | table (origin : Origin) (entries : List (String × Node))
  | tables (front : List (List (String × Node))) (last : List (String × Node))

abbrev Entries := List (String × Node)

namespace Node

mutual

def toValue : Node → Value
  | .value v => v
  | .table _ es => .table (values es)
  | .tables front last => .array (listed front (.table (values last)))

def values : List (String × Node) → List (String × Value)
  | [] => []
  | (n, v) :: r => (n, v.toValue) :: values r

/-- tables as values, and one more -/
def listed : List (List (String × Node)) → Value → List Value
  | [], last => [last]
  | es :: r, last => .table (values es) :: listed r last

end

/-- changes the table at a path. Tables on the way that are not there are made; in an array the
last table counts. A key with points does not lead into a table that a heading opened. -/
def within (dotted : Bool) (change : Origin → Entries → Option Entries) :
    List String → Origin → Entries → Option Entries
  | [], origin, es => change origin es
  | n :: path, _, es =>
    match es.lookup n with
    | none =>
      let origin := if dotted then Origin.dotted else .implied
      (within dotted change path origin []).map fun sub => Named.put n (.table origin sub) es
    | some (.value _) => none
    | some (.table origin sub) =>
      if dotted ∧ origin = .heading then none
      else (within dotted change path origin sub).map fun sub => Named.put n (.table origin sub) es
    | some (.tables front last) =>
      (within dotted change path .heading last).map fun last => Named.put n (.tables front last) es

/-- a new value under a name. Keys with points write into tables that such keys made, and other
keys into tables that a heading opened. -/
def add (dotted : Bool) (n : String) (v : Value) (origin : Origin) (es : Entries) :
    Option Entries :=
  if dotted ≠ (origin = .dotted) ∨ (es.lookup n).isSome then none
  else some (Named.put n (.value v) es)

def insert (path : List String) (n : String) (v : Value) (origin : Origin) (es : Entries) :
    Option Entries :=
  within true (add (!path.isEmpty) n v) path origin es

/-- opens a table: one that is not there, or one that is implied by a heading -/
def openTable (n : String) (_ : Origin) (es : Entries) : Option Entries :=
  match es.lookup n with
  | none => some (Named.put n (.table .heading []) es)
  | some (.table .implied sub) => some (Named.put n (.table .heading sub) es)
  | some _ => none

/-- opens one more table of an array -/
def openNext (n : String) (_ : Origin) (es : Entries) : Option Entries :=
  match es.lookup n with
  | none => some (Named.put n (.tables [] []) es)
  | some (.tables front last) => some (Named.put n (.tables (front ++ [last]) []) es)
  | some _ => none

end Node

/-- the tables so far, and the path of the one that is open -/
structure Document where
  entries : Entries := []
  current : List String := []

namespace Document

def change (d : Document) (path : List String) (f : Origin → Entries → Option Entries) :
    Option Entries :=
  Node.within false f path .heading d.entries

/-- a heading opens a table -/
def enter (d : Document) (path : List String) (n : String) : Option Document :=
  (d.change path (Node.openTable n)).map fun es => ⟨es, path ++ [n]⟩

/-- a heading of an array opens one more table of it -/
def append (d : Document) (path : List String) (n : String) : Option Document :=
  (d.change path (Node.openNext n)).map fun es => ⟨es, path ++ [n]⟩

/-- a key with its value in the open table -/
def insert (d : Document) (path : List String) (n : String) (v : Value) : Option Document :=
  (d.change d.current (Node.insert path n v)).map fun es => { d with entries := es }

end Document

end DroneFleet.Toml
