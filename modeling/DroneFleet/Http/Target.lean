import DroneFleet.Text.Parts
import DroneFleet.Text.Percent

/-!
# Targets

A target is a path and, after a question mark, a query. It may be written as a whole address, whose
scheme and server do not matter.

* `afterServer?`      what follows scheme and server of a whole address
* `Target.ofText`     the path and the query of a target
* `formFields`        the names and values of a query
* `single?`           the one value of a name
-/

namespace DroneFleet.Http

structure Target where
  path : List Char
  query : List Char
deriving DecidableEq, Repr

def isSchemeChar (c : Char) : Bool := c.isAlphanum || "+-.~".toList.contains c

/-- what follows scheme and server of a whole address; none if the text is not one -/
def afterServer? (s : List Char) : Option (List Char) :=
  match s.dropWhile isSchemeChar with
  | ':' :: '/' :: '/' :: r => some (r.dropWhile fun c => c ≠ '/' && c ≠ '?')
  | _ => none

/-- the path and the query of a target; what follows a number sign is no part of it, and the path
of an address without one is a slash -/
def Target.ofText (s : List Char) : Target :=
  let s := s.takeWhile (· ≠ '#')
  let r := (afterServer? s).getD s
  let path := r.takeWhile (· ≠ '?')
  ⟨if path = [] then ['/'] else path, (r.dropWhile (· ≠ '?')).drop 1⟩

/-- a name or a value of a query: a plus is a space -/
def formText (s : List Char) : String :=
  String.ofList (Text.Utf8.lossy (Text.Percent.decode (s.map fun c => if c = '+' then ' ' else c)))

def formFields (query : List Char) : List (String × String) :=
  ((Text.partsAt (· = '&') query).filter (· ≠ [])).map fun field =>
    (formText (field.takeWhile (· ≠ '=')), formText ((field.dropWhile (· ≠ '=')).drop 1))

/-- why a query is refused: a name is there twice -/
inductive QueryFault where
  | duplicate (name : String)
deriving DecidableEq, Repr

/-- the value of a name, if it is there once -/
def single? (name : String) (fields : List (String × String)) :
    Except QueryFault (Option String) :=
  match fields.filter fun f => f.1 = name with
  | [] => .ok none
  | [f] => .ok (some f.2)
  | _ => .error (.duplicate name)

end DroneFleet.Http
