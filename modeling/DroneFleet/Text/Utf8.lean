/-!
# Characters and bytes

* `encodeChar`     the bytes of a character in UTF-8
* `encode`         the bytes of a text
* `decode`         the characters of bytes; nothing stands for each part that no character has
* `strict?`        the text of bytes that are nothing but characters
* `lossy`          the text of any bytes, with a mark for each part that is none
-/

namespace DroneFleet.Text.Utf8

def encodeChar (c : Char) : List Nat :=
  let n := c.toNat
  if n < 0x80 then [n]
  else if n < 0x800 then [0xC0 + n / 0x40, 0x80 + n % 0x40]
  else if n < 0x10000 then [0xE0 + n / 0x1000, 0x80 + n / 0x40 % 0x40, 0x80 + n % 0x40]
  else [0xF0 + n / 0x40000, 0x80 + n / 0x1000 % 0x40, 0x80 + n / 0x40 % 0x40, 0x80 + n % 0x40]

def encode (s : List Char) : List Nat := s.flatMap encodeChar

inductive Mode where
  | start
  /-- inside a character: bytes still to come, bounds of the next one, value so far -/
  | inside (left low high value : Nat)
deriving DecidableEq, Repr

/-- what a byte that begins a character leads to; none if no character begins so. The bounds of the
second byte exclude surrogates, needless length and what lies beyond the last code point. -/
def lead? (b : Nat) : Option Mode :=
  if 0xC2 ≤ b ∧ b ≤ 0xDF then some (.inside 1 0x80 0xBF (b - 0xC0))
  else if b = 0xE0 then some (.inside 2 0xA0 0xBF 0)
  else if b = 0xED then some (.inside 2 0x80 0x9F 0xD)
  else if 0xE1 ≤ b ∧ b ≤ 0xEF then some (.inside 2 0x80 0xBF (b - 0xE0))
  else if b = 0xF0 then some (.inside 3 0x90 0xBF 0)
  else if 0xF1 ≤ b ∧ b ≤ 0xF3 then some (.inside 3 0x80 0xBF (b - 0xF0))
  else if b = 0xF4 then some (.inside 3 0x80 0x8F 4)
  else none

/-- a byte between two characters -/
def opening (b : Nat) : List (Option Char) × Mode :=
  if b < 0x80 then ([some (Char.ofNat b)], .start)
  else
    match lead? b with
    | some m => ([], m)
    | none => ([none], .start)

def step (b : Nat) : Mode → List (Option Char) × Mode
  | .start => opening b
  | .inside left low high value =>
    if low ≤ b ∧ b ≤ high then
      let value := 0x40 * value + (b - 0x80)
      if left ≤ 1 then ([some (Char.ofNat value)], .start)
      else ([], .inside (left - 1) 0x80 0xBF value)
    else
      let (out, m) := opening b
      (none :: out, m)

/-- the characters of bytes from a place on; nothing stands for each part that no character has -/
def decodeFrom : Mode → List Nat → List (Option Char)
  | .start, [] => []
  | .inside .., [] => [none]
  | m, b :: r =>
    let (out, m) := step b m
    out ++ decodeFrom m r

def decode (bs : List Nat) : List (Option Char) := decodeFrom .start bs

def allSome : List (Option Char) → Option (List Char)
  | [] => some []
  | none :: _ => none
  | some c :: r => (allSome r).map (c :: ·)

/-- the text of bytes that are nothing but characters -/
def strict? (bs : List Nat) : Option (List Char) := allSome (decode bs)

/-- the text of any bytes, with a mark for each part that is no character -/
def lossy (bs : List Nat) : List Char :=
  (decode bs).map fun c => c.getD (Char.ofNat 0xFFFD)

end DroneFleet.Text.Utf8
