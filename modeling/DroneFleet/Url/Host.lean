import DroneFleet.Decimal.Layout
import DroneFleet.Domain.Name
import DroneFleet.Numeral.Integer
import DroneFleet.Text.Percent

/-!
# Hosts

The host of an address is a name or a number. Numbers have four bytes, which may be written in
several ways, or eight pieces in brackets.

* `Host`             a name or a number
* `Host.text`        the host as it is written in normal form
* `fourBytes?`       the number that labels denote
* `eightPieces?`     the number that a text with colons denotes
* `Host.server?`     the host of a server that is asked by name
* `Host.plain?`      the host of any other address
-/

namespace DroneFleet

inductive Host where
  | name (s : List Char)
  /-- a number of 32 bits -/
  | fourBytes (n : Nat)
  /-- eight numbers of 16 bits -/
  | eightPieces (ns : List Nat)
deriving DecidableEq, Repr

namespace Host

/-! ## four bytes -/

/-- the number of one part of a numeric host: decimal, octal after a zero, or hexadecimal; letters
are small -/
def partNumber? (s : List Char) : Option Nat :=
  let digits (base : Nat) (ds : List Char) : Option Nat :=
    ds.foldlM (fun n c =>
      let d := if c.isDigit then c.toNat - 48
        else if 'a' ≤ c ∧ c ≤ 'f' then c.toNat - 87 else base
      if d < base then some (base * n + d) else none) 0
  match s with
  | [] => none
  | '0' :: 'x' :: r => digits 16 r
  | '0' :: d :: r => digits 8 (d :: r)
  | r => digits 10 r

/-- the number of parts: the first ones are a byte each, and the last one fills the bytes that are
left -/
def joinBytes? (ns : List Nat) : Option Nat :=
  let last := ns.getLastD 0
  let front := ns.dropLast
  if ns = [] ∨ 4 < ns.length ∨ front.any (255 < ·) ∨ Nat.pow 256 (4 - front.length) ≤ last then none
  else some (front.zipIdx.foldl (fun n (x, i) => n + x * Nat.pow 256 (3 - i)) last)

/-- the labels without an empty one at the end -/
def withoutLast (ls : List (List Char)) : List (List Char) :=
  if ls.getLast? = some [] ∧ 1 < ls.length then ls.dropLast else ls

/-- is a host meant as a number? Its last label says so. -/
def isNumeric (ls : List (List Char)) : Bool :=
  match (withoutLast ls).getLast? with
  | some l => l ≠ [] && (l.all Char.isDigit || (partNumber? l).isSome)
  | none => false

def fourBytes? (ls : List (List Char)) : Option Nat := do
  joinBytes? (← (withoutLast ls).mapM partNumber?)

/-- the four bytes of a number, in decimal, with points between them -/
def fourText (n : Nat) : List Char :=
  let byte (i : Nat) : List Char := Decimal.digitText (n / Nat.pow 256 (3 - i) % 256)
  byte 0 ++ '.' :: byte 1 ++ '.' :: byte 2 ++ '.' :: byte 3

/-! ## eight pieces -/

/-- the number of one piece: four hexadecimal digits at most -/
def piece? (s : List Char) : Option Nat :=
  if s = [] ∨ 4 < s.length then none
  else
    s.foldlM (fun n c => (Text.Percent.hexValue? c.toNat).map fun d => 16 * n + d) 0

/-- the number of a byte in its only decimal form -/
def byte? (s : List Char) : Option Nat :=
  let n := Numeral.natOfDigits s
  if s ≠ [] ∧ s.all Char.isDigit ∧ s.length ≤ 3 ∧ n ≤ 255 ∧ Decimal.digitText n = s then some n
  else none

/-- two pieces that are written as four bytes -/
def bytePieces? (s : List Char) : Option (List Nat) :=
  match (Text.partsAt (· = '.') s).mapM byte? with
  | some [a, b, c, d] => some [256 * a + b, 256 * c + d]
  | _ => none

/-- pieces with colons between them; the last two may be written as four bytes -/
def pieces? (mayEndInBytes : Bool) (s : List Char) : Option (List Nat) :=
  if s = [] then some []
  else do
    let ps := Text.partsAt (· = ':') s
    let last := ps.getLastD []
    let front ← ps.dropLast.mapM piece?
    if mayEndInBytes ∧ '.' ∈ last then return front ++ (← bytePieces? last)
    else return front ++ [← piece? last]

/-- the text in front of the first two colons in a row, and the text after them -/
def splitColons : List Char → Option (List Char × List Char)
  | ':' :: ':' :: r => some ([], r)
  | c :: r => (splitColons r).map fun (front, back) => (c :: front, back)
  | [] => none

/-- the eight pieces that a text denotes; two colons in a row stand for as many zeros as are
missing, one at least -/
def eightPieces? (s : List Char) : Option (List Nat) :=
  match splitColons s with
  | none => do
    let ns ← pieces? true s
    if ns.length = 8 then some ns else none
  | some (front, back) => do
    let a ← pieces? false front
    let b ← pieces? true back
    let n := a.length + b.length
    if n ≤ 7 then some (a ++ List.replicate (8 - n) 0 ++ b) else none

def zeros (ns : List Nat) : Nat := (ns.takeWhile (· = 0)).length

/-- where the longest run of zeros begins and how long it is; of several the first -/
def longestZeros : Nat → List Nat → Nat × Nat
  | i, [] => (i, 0)
  | i, n :: ns =>
    let here := zeros (n :: ns)
    let later := longestZeros (i + 1) ns
    if later.2 ≤ here then (i, here) else later

def piecesText (ns : List Nat) : List Char :=
  ((ns.map (Nat.toDigits 16)).intersperse [':']).flatten

/-- eight pieces; the longest run of zeros, of two at least, is left out -/
def eightText (ns : List Nat) : List Char :=
  let (i, count) := longestZeros 0 ns
  if count < 2 then piecesText ns
  else piecesText (ns.take i) ++ "::".toList ++ piecesText (ns.drop (i + count))

/-! ## hosts -/

def text : Host → List Char
  | .name s => s
  | .fourBytes n => fourText n
  | .eightPieces ns => '[' :: eightText ns ++ [']']

/-- the characters that no host has as they are -/
def isForbidden (c : Char) : Bool :=
  "\x00\t\n\r #/:<>?@[\\]^|".toList.contains c

/-- the characters that no name of a server has -/
def isForbiddenInName (c : Char) : Bool :=
  isForbidden c || c.toNat < 0x20 || c.toNat = 0x7F || c = '%'

/-- the number in brackets; the opening bracket is read already -/
def bracketed? (s : List Char) : Option Host :=
  if s.getLast? = some ']' then (eightPieces? s.dropLast).map .eightPieces else none

/-- the host of a server that is asked by name -/
def server? : List Char → Option Host
  | '[' :: r => bracketed? r
  | s => do
    let t ← Domain.ascii? (← Text.Utf8.strict? (Text.Percent.decode s))
    if t = [] ∨ t.any isForbiddenInName then none
    else
      let ls := Domain.labels t
      if isNumeric ls then (fourBytes? ls).map .fourBytes else some (.name t)

/-- the host of any other address; it may be empty -/
def plain? : List Char → Option Host
  | '[' :: r => bracketed? r
  | s =>
    if s.any isForbidden then none
    else some (.name (Text.Percent.encode (fun _ => false) s))

end Host

end DroneFleet
