import DroneFleet.Text.Utf8

/-!
# Percent signs

In an address a byte may be written as a percent sign and two hexadecimal digits.

* `Percent.decode`    the bytes of a text; a percent sign without two digits stands for itself
* `Percent.encode`    a text with some characters written so
-/

namespace DroneFleet.Text.Percent

/-- the value of a byte that is a hexadecimal digit of either case -/
def hexValue? (b : Nat) : Option Nat :=
  if 48 ≤ b ∧ b ≤ 57 then some (b - 48)
  else if 97 ≤ b ∧ b ≤ 102 then some (b - 87)
  else if 65 ≤ b ∧ b ≤ 70 then some (b - 55)
  else none

def pair? (a b : Nat) : Option Nat :=
  match hexValue? a, hexValue? b with
  | some x, some y => some (16 * x + y)
  | _, _ => none

/-- the bytes that bytes with percent signs stand for -/
def decodeBytes : List Nat → List Nat
  | 37 :: a :: b :: r =>
    match pair? a b with
    | some n => n :: decodeBytes r
    | none => 37 :: decodeBytes (a :: b :: r)
  | b :: r => b :: decodeBytes r
  | [] => []

/-- the bytes of a text with percent signs -/
def decode (s : List Char) : List Nat := decodeBytes (Utf8.encode s)

def hexDigit (n : Nat) : Char := (Nat.digitChar n).toUpper

def encodeByte (b : Nat) : List Char := ['%', hexDigit (b / 16), hexDigit (b % 16)]

/-- a text with the characters of a class, and all beyond ASCII, written with percent signs -/
def encode (inClass : Char → Bool) (s : List Char) : List Char :=
  s.flatMap fun c =>
    if inClass c || 0x7F ≤ c.toNat || c.toNat < 0x20 then (Utf8.encodeChar c).flatMap encodeByte
    else [c]

end DroneFleet.Text.Percent
