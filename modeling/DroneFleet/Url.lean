import DroneFleet.Url.Host
import DroneFleet.Url.Path

/-!
# Addresses of the network

* `Url`                  an address in its normal form
* `Url.text`             the text of an address
* `Url.read?`            the address that a text denotes
* `Url.withoutUser`      an address without the name and the password of a user
* `Url.isRequestable`    can the server of the address be asked?
-/

namespace DroneFleet

/-- who is asked, and in whose name -/
structure Server where
  user : List Char
  password : Option (List Char)
  host : Host
  /-- the port, unless it is the usual one of the scheme -/
  port : Option Nat
deriving DecidableEq, Repr

structure Url where
  scheme : List Char
  server : Option Server
  path : Url.Path
  query : Option (List Char)
  fragment : Option (List Char)
deriving DecidableEq, Repr

def Server.hasUser (s : Server) : Bool := s.user ≠ [] || s.password.isSome

def Server.text (s : Server) : List Char :=
  (if s.hasUser then s.user ++ s.password.elim [] (':' :: ·) ++ ['@'] else [])
    ++ s.host.text ++ s.port.elim [] fun p => ':' :: Decimal.digitText p

namespace Url

/-- the text of an address; without a server a path does not begin with two slashes -/
def text (u : Url) : List Char :=
  let path := u.path.text
  u.scheme ++ ':' ::
    (match u.server with
      | some s => "//".toList ++ s.text ++ path
      | none => if "//".toList.isPrefixOf path then "/.".toList ++ path else path)
    ++ u.query.elim [] ('?' :: ·) ++ u.fragment.elim [] ('#' :: ·)

/-! ## characters that are written with percent signs -/

def inFragment (c : Char) : Bool := " \"<>`".toList.contains c

def inQuery (c : Char) : Bool := " \"#<>".toList.contains c

/-- in queries to servers that are asked by name -/
def inServerQuery (c : Char) : Bool := inQuery c || c = '\''

/-- in names and passwords of users -/
def inUser (c : Char) : Bool := inPath c || "/:;=@[\\]^|".toList.contains c

/-! ## schemes -/

/-- how the rest of an address is read -/
inductive Kind where
  /-- the server is asked by name, at this port unless another is given -/
  | server (usual : Nat)
  | file
  | plain
deriving DecidableEq, Repr

def kindOf (scheme : List Char) : Kind :=
  match String.ofList scheme with
  | "http" => .server 80
  | "https" => .server 443
  | "ws" => .server 80
  | "wss" => .server 443
  | "ftp" => .server 21
  | "file" => .file
  | _ => .plain

/-- does a slash of either kind separate? -/
def Kind.isSlash (k : Kind) (c : Char) : Bool := c = '/' || (k ≠ .plain && c = '\\')

/-! ## servers -/

def readUser (s : List Char) : List Char × Option (List Char) :=
  let name := s.takeWhile (· ≠ ':')
  let password := (s.dropWhile (· ≠ ':')).drop 1
  (Text.Percent.encode inUser name,
    if password = [] then none else some (Text.Percent.encode inUser password))

/-- a text cut at its last at sign -/
def splitUser (s : List Char) : Option (List Char × List Char) :=
  if '@' ∈ s then
    let back := (s.reverse.takeWhile (· ≠ '@')).reverse
    some (s.take (s.length - back.length - 1), back)
  else none

/-- a text cut before the first colon outside of brackets -/
def splitPort (inside : Bool) : List Char → List Char × List Char
  | [] => ([], [])
  | c :: r =>
    if c = ':' && !inside then ([], c :: r)
    else
      let (host, rest) := splitPort ((inside || c = '[') && c ≠ ']') r
      (c :: host, rest)

/-- the port of a text, and the text after it: none, or a number of 16 bits -/
def readPort? (usual : Option Nat) : List Char → Option (Option Nat × List Char)
  | ':' :: r =>
    let ds := r.takeWhile Char.isDigit
    let n := Numeral.natOfDigits ds
    if 65535 < n then none
    else some (if ds = [] ∨ some n = usual then none else some n, r.dropWhile Char.isDigit)
  | r => some (none, r)

/-- the server that is written in front of a path, and what is left of the text; `follows` tells
whether anything comes after it -/
def readServer? (kind : Kind) (follows : Bool) (s : List Char) :
    Option (Server × List Char) := do
  let (info, place) := (splitUser s).getD ([], s)
  let (user, password) := readUser info
  if '@' ∈ s ∧ info = [] ∧ place = [] ∧ follows then none
  let (name, rest) := splitPort false place
  let (host, usual) ← match kind with
    | .server usual => (Host.server? name).map fun h => (h, some usual)
    | _ => (Host.plain? name).map fun h => (h, none)
  let (port, rest) ← readPort? usual rest
  let server : Server := ⟨user, password, host, port⟩
  if host = .name [] ∧ (place.head? = some ':' ∨ server.hasUser) then none
  return (server, rest)

/-! ## addresses -/

/-- a text without blanks and control characters at its ends, and without tabs and line ends -/
def clean (s : List Char) : List Char :=
  let isEdge (c : Char) : Bool := c.toNat ≤ 0x20
  let s := s.dropWhile isEdge
  let s := (s.reverse.dropWhile isEdge).reverse
  s.filter fun c => c ≠ '\t' && c ≠ '\n' && c ≠ '\r'

/-- an address from what is in front of its query, and the query and the fragment -/
def finish (kind : Kind) (scheme : List Char) (server : Option Server) (path : Path)
    (s : List Char) : Url :=
  let query := s.takeWhile (· ≠ '#')
  let fragment := s.dropWhile (· ≠ '#')
  let inClass := match kind with
    | .plain => inQuery
    | _ => inServerQuery
  { scheme := scheme
    server := server
    path := path
    query := if query = [] then none else some (Text.Percent.encode inClass (query.drop 1))
    fragment :=
      if fragment = [] then none else some (Text.Percent.encode inFragment (fragment.drop 1)) }

def endsPath (c : Char) : Bool := c = '?' || c = '#'

def readWithServer? (kind : Kind) (scheme s : List Char) : Option Url := do
  let isEnd (c : Char) : Bool := kind.isSlash c || endsPath c
  let r := s.dropWhile fun c => isEnd c = false
  let (server, rest) ← readServer? kind (r ≠ []) (s.takeWhile fun c => isEnd c = false)
  let place := r.takeWhile fun c => endsPath c = false
  let path ← match kind, rest with
    | .plain, [] => some (if place = [] then .parts [] else .ofParts kind.isSlash (place.drop 1))
    | .plain, '\\' :: more => some (.ofParts kind.isSlash ('\\' :: more ++ place))
    | _, [] => some (.ofParts kind.isSlash (place.drop 1))
    | _, _ => none
  return finish kind scheme (some server) path (r.dropWhile fun c => endsPath c = false)

/-- the address of a file, from the colon on. The own machine needs no name, and the letter of a
drive takes the place of the server. -/
def readFile? (scheme s : List Char) : Option Url := do
  let r := s.dropWhile fun c => endsPath c = false
  let place := s.takeWhile fun c => endsPath c = false
  let isPart (c : Char) : Bool := !isSlash c
  let address (host : Host) (path : Path) : Url :=
    let host := if path.hasDrive then Host.name [] else host
    finish .file scheme (some ⟨[], none, host, none⟩) path r
  match place with
  | a :: b :: rest =>
    let name := rest.takeWhile isPart
    if isSlash a && isSlash b && name ≠ [] && !isDrive name then
      let host ← Host.server? name
      let host := if host = .name "localhost".toList then .name [] else host
      return address host (.ofFile (rest.dropWhile isPart))
    else return address (.name []) (.ofFile place)
  | _ => return address (.name []) (.ofFile place)

/-- an address of any other kind, from the colon on -/
def readPlain? (scheme s : List Char) : Option Url :=
  let r := s.dropWhile fun c => endsPath c = false
  match s.takeWhile fun c => endsPath c = false with
  | '/' :: '/' :: _ => readWithServer? .plain scheme (s.drop 2)
  | '/' :: place => some (finish .plain scheme none (.ofParts (· = '/') place) r)
  | place =>
    some (finish .plain scheme none (.whole (Text.Percent.encode (fun _ => false) place)) r)

def isSchemeChar (c : Char) : Bool := c.isAlphanum || c = '+' || c = '-' || c = '.'

def read? (s : List Char) : Option Url :=
  let s := clean s
  let name := s.takeWhile isSchemeChar
  match s.dropWhile isSchemeChar with
  | ':' :: r =>
    if !name.head?.any Char.isAlpha then none
    else
      let scheme := name.map Char.toLower
      match kindOf scheme with
      | .server usual => readWithServer? (.server usual) scheme (r.dropWhile isSlash)
      | .file => readFile? scheme r
      | .plain => readPlain? scheme r
  | _ => none

/-! ## requests -/

def hasHost (u : Url) : Bool := u.server.any fun s => s.host ≠ .name []

/-- the text that a part with percent signs stands for -/
def plainText? (s : List Char) : Option (List Char) := Text.Utf8.strict? (Text.Percent.decode s)

/-- an address without the name and the password of a user; both stay if the name is no text, or if
there is only a password and that is none -/
def withoutUser (u : Url) : Url :=
  match u.server with
  | none => u
  | some s =>
    let known := (plainText? s.user).isSome
      && (s.user ≠ [] || (s.password.bind plainText?).isSome)
    if known then { u with server := some { s with user := [], password := none } } else u

def isWeb (u : Url) : Bool := u.scheme = "http".toList || u.scheme = "https".toList

def maxLength : Nat := 65534

/-- can the server of the address be asked? -/
def isRequestable (u : Url) : Bool :=
  u.isWeb && u.hasHost && u.text.length ≤ maxLength
    && u.server.all fun s => !s.host.text.any fun c => "\"`\x7b\x7d".toList.contains c

end Url

end DroneFleet
