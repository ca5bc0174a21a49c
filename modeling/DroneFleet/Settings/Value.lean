import DroneFleet.Named

/-!
# Values of settings

The layers of a configuration are trees of named values. They are laid over each other: tables are
merged name by name, and everything else replaces what was there. Names are told apart without
regard to case.

* `Setting`             a value of a configuration
* `Setting.put`         a value laid under a name of a table
* `Place`               the way to a value: names and numbers
* `Setting.assign`      a value laid at a place
-/

namespace DroneFleet

inductive Setting where
  | nothing
  | text (s : String)
  | integer (n : Int)
  | float (x : Float)
  | bool (b : Bool)
  | array (items : List Setting)
  | table (entries : List (String × Setting))
deriving Repr, Inhabited

namespace Setting

/-- the letter that stands for a character in names: the one in lower case. Of the characters
beyond ASCII only the Kelvin sign has a letter of ASCII as its lower case. -/
def lowerChar (c : Char) : Char := if c = Char.ofNat 0x212A then 'k' else c.toLower

/-- a name without regard to case -/
def fold (name : String) : String := String.ofList (name.toList.map lowerChar)

def entries : Setting → List (String × Setting)
  | .table es => es
  | _ => []

def items : Setting → List Setting
  | .array vs => vs
  | _ => []

mutual

/-- lays a value under a name of a table: a table is merged with what is there, and everything else
replaces it -/
def put (name : String) (v : Setting) (es : List (String × Setting)) : List (String × Setting) :=
  match v with
  | .table incoming =>
    Named.put (fold name) (merge incoming ((es.lookup (fold name)).getD (.table []))) es
  | v => Named.put (fold name) v es

/-- lays the entries of a table over a value, in order; what is not a table gives way to the
first -/
def merge : List (String × Setting) → Setting → Setting
  | [], t => t
  | (name, v) :: r, t => merge r (.table (put name v t.entries))

end

/-! ## places -/

/-- a step on the way to a value: a name in a table, or a number in an array, where negative
numbers count from its end -/
inductive Step where
  | name (n : String)
  | index (i : Int)
deriving DecidableEq, Repr

/-- the way to a value: the first steps, and the last -/
structure Place where
  way : List Step
  last : Step
deriving DecidableEq, Repr

def Place.top (name : String) : Place := ⟨[], .name name⟩

/-- sets the item of a number; an array that is too short is filled up with nothing -/
def setAt (v : Setting) (i : Nat) (vs : List Setting) : List Setting :=
  if i < vs.length then vs.set i v
  else vs ++ List.replicate (i - vs.length) .nothing ++ [v]

/-- the number of an item, counted from the front; none for numbers before it -/
def position? (i : Int) (count : Nat) : Option Nat :=
  if 0 ≤ i then some i.toNat
  else if i.natAbs ≤ count then some (count - i.natAbs)
  else none

/-- changes what a step leads to, which is nothing if nothing is there; a value of another kind
than the step asks for gives way -/
def change (f : Setting → Setting) (t : Setting) : Step → Setting
  | .name n => .table (Named.put (fold n) (f ((t.entries.lookup (fold n)).getD .nothing)) t.entries)
  | .index i =>
    match position? i t.items.length with
    | some k => .array (setAt (f (t.items[k]?.getD .nothing)) k t.items)
    | none => .array t.items

/-- lays a value where the last step leads -/
def lay (t : Setting) (v : Setting) : Step → Setting
  | .name n => .table (put n v t.entries)
  | .index i => change (fun _ => v) t (.index i)

/-- lays a value where a way and a last step lead -/
def assignAlong (v : Setting) (last : Step) : List Step → Setting → Setting
  | [], t => t.lay v last
  | s :: way, t => t.change (assignAlong v last way) s

def assign (t : Setting) (p : Place) (v : Setting) : Setting := assignAlong v p.last p.way t

def assignAll (t : Setting) (vs : List (Place × Setting)) : Setting :=
  vs.foldl (fun t pv => t.assign pv.1 pv.2) t

end Setting

end DroneFleet
