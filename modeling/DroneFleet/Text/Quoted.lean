import DroneFleet.Text.Glyph

/-!
# Quoted text

Messages show a text between quotation marks, with what could be misread escaped.

* `hexDigits`   an amount in lower-case hexadecimal
* `escape`      one character inside the marks
* `quote`       a text between quotation marks
* `quote?`      the same for a text that may be absent
-/

namespace DroneFleet.Text

def hexDigits (n : Nat) : List Char := Nat.toDigits 16 n

def escape (c : Char) : List Char :=
  if c = '\x00' then ['\\', '0']
  else if c = '\t' then ['\\', 't']
  else if c = '\r' then ['\\', 'r']
  else if c = '\n' then ['\\', 'n']
  else if c = '"' ∨ c = '\\' then ['\\', c]
  else if noGlyph c then ['\\', 'u', '\x7b'] ++ hexDigits c.toNat ++ ['\x7d']
  else [c]

/-- a text between quotation marks -/
def quote (s : String) : String :=
  String.ofList ('"' :: (s.toList.flatMap escape ++ ['"']))

/-- a text that may be absent, told apart from one that reads the same -/
def quote? : Option String → String
  | none => "None"
  | some s => "Some(" ++ quote s ++ ")"

end DroneFleet.Text
