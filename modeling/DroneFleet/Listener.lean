import DroneFleet.Settings
import DroneFleet.Url.Host

/-!
# Where the service listens

One listens at an address of four bytes. Of the addresses of eight pieces only those are one's own
that stand for four bytes, and the one of zeros, which like four zeros stands for all addresses.

* `Host.ofFigures?`           the four bytes that a text of numbers denotes
* `Host.bytes?`               the four bytes that an address stands for
* `Host.excludes`             can only one of two addresses be listened at?
* `WebSettings.place?`        the address that is listened at
* `WebSettings.address`       the address as it is set
* `WebSettings.isReachable`   can one listen there without asking for the address of a name?
* `WebSettings.isFree`        can one listen there although others do?
* `WebSettings.refusal`       what is said when one cannot listen there
-/

namespace DroneFleet

namespace Host

/-- the four bytes that a text of numbers denotes: up to four numbers with points between them, each
decimal, octal after a zero, or hexadecimal after `0x`; the last one fills the bytes that are
left -/
def ofFigures? (s : List Char) : Option Host :=
  let ls := Domain.labels (s.map Char.toLower)
  if "0x".toList ∈ ls then none
  else ((ls.mapM partNumber?).bind joinBytes?).map .fourBytes

def withoutBrackets (s : List Char) : List Char :=
  match s, s.getLast? with
  | '[' :: r, some ']' => r.dropLast
  | _, _ => s

/-- the address that a text denotes; eight pieces may stand in brackets -/
def ofNumber? (s : List Char) : Option Host :=
  ofFigures? s <|> (eightPieces? (withoutBrackets s)).map .eightPieces

/-- the four bytes that an address stands for -/
def bytes? : Host → Option Nat
  | .fourBytes n => some n
  | .eightPieces [0, 0, 0, 0, 0, 0, 0, 0] => some 0
  | .eightPieces [0, 0, 0, 0, 0, 0xFFFF, a, b] => some (0x10000 * a + b)
  | _ => none

/-- an address that is listened at, as it is reported -/
def report (h : Host) : String :=
  match h, h.bytes? with
  | .eightPieces [_, _, _, _, _, 0xFFFF, _, _], some n =>
    "[::ffff:" ++ String.ofList (fourText n) ++ "]"
  | _, _ => String.ofList h.text

/-- can only one of two addresses be listened at? Four zeros stand for all addresses. -/
def excludes (h k : Host) : Bool :=
  match h.bytes?, k.bytes? with
  | some a, some b => a = b || a = 0 || b = 0
  | _, _ => false

end Host

namespace WebSettings

def ownName : List Char := "localhost".toList

def ownAddress : Host := .fourBytes 0x7F000001

/-- the address that is listened at; none if one would have to ask for it, or it is not one's
own -/
def place? (w : WebSettings) : Option Host :=
  let s := w.host.toList
  let h? := if s.map Char.toLower = ownName then some ownAddress else Host.ofNumber? s
  h?.filter fun h => h.bytes?.isSome

def isReachable (w : WebSettings) : Bool := w.place?.isSome

def excludes (w v : WebSettings) : Bool :=
  match w.place?, v.place? with
  | some h, some k => w.port = v.port && h.excludes k
  | _, _ => false

/-- can one listen there although others listen already? -/
def isFree (w : WebSettings) (others : List WebSettings) : Bool :=
  w.isReachable && others.all fun v => !w.excludes v

def withPort (address : String) (port : Nat) : String := address ++ ":" ++ naturalString port

def address (w : WebSettings) : String := withPort w.host w.port

def refusal (w : WebSettings) : String := "Failed to bind to " ++ w.address

end WebSettings

end DroneFleet
