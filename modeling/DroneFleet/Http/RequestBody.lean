import DroneFleet.Json.Reader
import DroneFleet.Text.Utf8

/-!
# Bodies of requests

A body is a record, written as an object or as an array of its fields in order. Reading stops at
the end of the record; fields of other names are skipped. What is malformed and what has another
shape than is asked for are told apart, and the fault that comes first counts.

* `textOf`             the bytes of a body as a text
* `mismatch`           the fault of a value of another shape
* `readText`, `readTexts`   a text, an array of texts
* `Record.read`        a record of either form
* `DroneRequest.read`  the drone that a request is about
* `FlightRequest.read` a drone, a path and zones
-/

namespace DroneFleet.Http

open Json (Fault Read skip)

/-! ## bytes -/

/-- a part of a body that is no character, put into characters: a letter and an unpaired surrogate.
No reader takes it for something else, and only one that skips a text passes over it. -/
def stray : List Char := "x\\udc00".toList

/-- the bytes of a body as a text -/
def textOf (body : ByteArray) : List Char :=
  match String.fromUTF8? body with
  | some s => s.toList
  | none => (Text.Utf8.decode (body.toList.map UInt8.toNat)).flatMap fun c => c.elim stray ([·])

/-! ## records -/

def maxDepth : Nat := 127

/-- the fault of a value that has another shape than is asked for; a malformed one is just that -/
def mismatch (s : List Char) : Fault :=
  match skip s with
  | '[' :: _ => .mismatched
  | '\x7b' :: _ => .mismatched
  | r =>
    match Json.scalar true r with
    | .ok _ => .mismatched
    | .error f => f

def readText (s : List Char) : Read String :=
  match skip s with
  | '"' :: r => Json.chars true r
  | _ => .error (mismatch s)

/-- an array of texts; `size` is at least the length of the text -/
def readTexts (size : Nat) (s : List Char) : Read (List String) :=
  match skip s with
  | '[' :: r =>
    (Json.items (fun ts r => (readText r).map fun (t, r) => (t :: ts, r))
      (size + 1) true [] r).map fun (ts, r) => (ts.reverse, r)
  | _ => .error (mismatch s)

/-- a value that may be null; `size` is at least the length of the text -/
def readOptional (size depth : Nat) (s : List Char) : Read (Option Json) :=
  match skip s with
  | 'n' :: r =>
    match Json.word? "ull".toList r with
    | some r => .ok (none, r)
    | none => .error .malformed
  | _ => (Json.value true size depth s).map fun (v, r) => (some v, r)

def closeArray (s : List Char) : Except Fault (List Char) :=
  match skip s with
  | ']' :: r => .ok r
  | _ => .error .malformed

/-- the next field of an array, if there is one: the text where it begins -/
def nextField (first : Bool) (s : List Char) : Except Fault (Option (List Char)) :=
  match skip s with
  | [] => .error .malformed
  | c :: r =>
    if c = ']' then .ok none
    else if first then .ok (some (c :: r))
    else if c = ',' then
      match skip r with
      | [] => .error .malformed
      | d :: r => if d = ']' then .error .malformed else .ok (some (d :: r))
    else .error .malformed

/-- how the fields of a record are read into a state -/
structure Record (σ : Type) where
  /-- the fields in order, each with the readers of its value; a field that is there already is a
  mismatch -/
  fields : List (String × (σ → Bool) × (σ → List Char → Read σ))
  /-- nothing read yet -/
  start : σ

namespace Record

variable {σ : Type}

/-- the fields of an array from a place on; fields at its end may be missing -/
def readFields (fields : List (String × (σ → Bool) × (σ → List Char → Read σ))) (first : Bool)
    (acc : σ) (s : List Char) : Read σ :=
  match fields with
  | [] => .ok (acc, s)
  | (_, _, field) :: more =>
    match nextField first s with
    | .error f => .error f
    | .ok none => .ok (acc, s)
    | .ok (some r) =>
      match field acc r with
      | .ok (acc, r) => readFields more false acc r
      | .error f => .error f

/-- one named field of an object -/
def readEntry (rec : Record σ) (size : Nat) (acc : σ) (name : String) (s : List Char) : Read σ :=
  match rec.fields.lookup name with
  | some (present, field) =>
    if present acc then .error .mismatched
    else
      match Json.colon s with
      | .ok r => field acc r
      | .error f => .error f
  | none =>
    match Json.colon s with
    | .ok r => (Json.skipValue size r).map fun r => (acc, r)
    | .error f => .error f

/-- a record of either form; `complete` is false while a field is missing that has to be there, and
`size` is at least the length of the text -/
def read (rec : Record σ) (complete : σ → Bool) (size : Nat) (s : List Char) : Read σ :=
  match skip s with
  | '[' :: r =>
    match readFields rec.fields true rec.start r with
    | .error f => .error f
    | .ok (acc, r) =>
      if complete acc then (closeArray r).map fun r => (acc, r) else .error .mismatched
  | '\x7b' :: r =>
    match Json.entries true (rec.readEntry size) (size + 1) true rec.start r with
    | .error f => .error f
    | .ok (acc, r) => if complete acc then .ok (acc, r) else .error .mismatched
  | _ => .error (mismatch s)

end Record

structure DroneRequest where
  id : String
deriving DecidableEq, Repr

def DroneRequest.read (s : List Char) : Except Fault DroneRequest :=
  let record : Record (Option String) :=
    { fields := [("id", Option.isSome, fun _ r => (readText r).map fun (t, r) => (some t, r))]
      start := none }
  match record.read Option.isSome s.length s with
  | .ok (some id, _) => .ok ⟨id⟩
  | .ok (none, _) => .error .mismatched
  | .error f => .error f

structure FlightCommands where
  path? : Option (List String) := none
  zones? : Option (Option Json) := none

namespace FlightCommands

/-- the fields of a path and zones; `depth` is left for nesting inside -/
def record (size depth : Nat) : Record FlightCommands where
  fields :=
    [("path", fun c => c.path?.isSome,
        fun c r => (readTexts size r).map fun (p, r) => ({ c with path? := some p }, r)),
     ("zones", fun c => c.zones?.isSome,
        fun c r => (readOptional size depth r).map fun (z, r) => ({ c with zones? := some z }, r))]
  start := {}

/-- reads a path and zones; both may be missing, and `size` is at least the length of the text -/
def read (size depth : Nat) (s : List Char) : Read FlightCommands :=
  (record size depth).read (fun _ => true) size s

end FlightCommands

/-- a submission: a drone, a path, and the definitions of zones -/
structure FlightRequest where
  id : String
  path : List String
  zones : Option Json

/-- reads the body of a submission; all but the id may be missing -/
def FlightRequest.read (s : List Char) : Except Fault FlightRequest :=
  let record : Record (Option String × Option FlightCommands) :=
    { fields :=
        [("id", fun a => a.1.isSome,
            fun a r => (readText r).map fun (t, r) => ((some t, a.2), r)),
         ("commands", fun a => a.2.isSome,
            fun a r => (FlightCommands.read s.length (maxDepth - 2) r).map fun (c, r) =>
              ((a.1, some c), r))]
      start := (none, none) }
  match record.read (fun a => a.1.isSome) s.length s with
  | .ok ((some id, c), _) =>
    let c := c.getD {}
    .ok ⟨id, c.path?.getD [], c.zones?.getD none⟩
  | .ok ((none, _), _) => .error .mismatched
  | .error f => .error f

end DroneFleet.Http
