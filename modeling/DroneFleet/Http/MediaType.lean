import DroneFleet.Http.Message

/-!
# Media types

A media type is a type, a slash, a subtype and parameters. What follows the last plus of a subtype
is its suffix.

* `isToken`        the characters of names
* `parameters`     are these well-formed parameters?
* `MediaType`      a media type without its parameters
* `MediaType.ofText?`  the media type of a header
* `MediaType.isJson`   does it announce JSON?
-/

namespace DroneFleet.Http

def isToken (c : Char) : Bool :=
  c.isAlphanum || "!#$%&'*+-.^_`|~".toList.contains c

def isQuotable (c : Char) : Bool := 0x20 ≤ c.toNat && c.toNat ≠ 0x7F

def isVisible (c : Char) : Bool := c = '\t' || (0x20 ≤ c.toNat && c.toNat < 0x7F)

/-- where a scan of parameters stands -/
inductive ParameterMode where
  | start
  | name
  /-- right after the equals sign -/
  | equals
  | value
  /-- right after the opening mark -/
  | openMark
  | quoted
  | closeMark
deriving DecidableEq, Repr

namespace ParameterMode

/-- one character of the parameters; none if it cannot stand there -/
def step (c : Char) : ParameterMode → Option ParameterMode
  | .start => if c = ' ' then some .start else if isToken c then some .name else none
  | .name => if c = '=' then some .equals else if isToken c then some .name else none
  | .equals => if c = '"' then some .openMark else if isToken c then some .value else none
  | .value => if c = ';' then some .start else if isToken c then some .value else none
  | .openMark => if isQuotable c then some .quoted else none
  | .quoted => if c = '"' then some .closeMark else if isQuotable c then some .quoted else none
  | .closeMark => if c = ';' then some .start else if c = ' ' then some .closeMark else none

/-- may the parameters end here? -/
def final : ParameterMode → Bool
  | .start | .equals | .value | .closeMark => true
  | _ => false

end ParameterMode

/-- are these well-formed parameters? -/
def parameters (s : List Char) : Bool :=
  match s.foldlM (fun m c => m.step c) ParameterMode.start with
  | some m => m.final
  | none => false

/-- a media type without its parameters, in lower case -/
structure MediaType where
  type : List Char
  subtype : List Char
  suffix? : Option (List Char)
deriving DecidableEq, Repr

namespace MediaType

/-- a subtype and its suffix: what stands before and after the last plus, if something stands
before it -/
def splitSuffix (s : List Char) : List Char × Option (List Char) :=
  match s with
  | [] => ([], none)
  | c :: r =>
    if r.contains '+' then
      (c :: ((r.reverse.dropWhile (· ≠ '+')).drop 1).reverse,
        some (r.reverse.takeWhile (· ≠ '+')).reverse)
    else (s, none)

def ofText? (s : List Char) : Option MediaType :=
  let type := s.takeWhile isToken
  match s.dropWhile isToken with
  | '/' :: r =>
    let name := r.takeWhile isToken
    let (subtype, suffix?) := splitSuffix (lower name)
    let m : MediaType := ⟨lower type, subtype, suffix?⟩
    if type = [] then none
    else
      match r.dropWhile isToken with
      | [] => some m
      | ';' :: ps => if name ≠ [] && parameters ps then some m else none
      | _ => none
  | _ => none

def isJson (m : MediaType) : Bool :=
  m.type = "application".toList
    && (m.subtype = "json".toList || m.suffix? = some "json".toList)

end MediaType

/-- does the request announce JSON? -/
def Request.announcesJson (r : Request) : Bool :=
  match r.header? "content-type" with
  | some s =>
    s.toList.all isVisible && (MediaType.ofText? s.toList).elim false MediaType.isJson
  | none => false

end DroneFleet.Http
