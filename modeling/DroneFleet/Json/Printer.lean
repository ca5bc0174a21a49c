import DroneFleet.Json.Value

/-!
# JSON text

Values are written without any blank.

* `Json.escape`     one character of a text
* `Json.textOf`     a text between quotation marks
* `Json.render`     a value
* `Json.compress`   the same as a string
-/

namespace DroneFleet.Json

def hexDigit (n : Nat) : Char := Nat.digitChar n

/-- one character of a text; only the quotation mark, the backslash and control characters are
escaped -/
def escape (c : Char) : List Char :=
  if c = '"' then ['\\', '"']
  else if c = '\\' then ['\\', '\\']
  else if c = '\n' then ['\\', 'n']
  else if c = '\r' then ['\\', 'r']
  else if c = '\t' then ['\\', 't']
  else if c = '\x08' then ['\\', 'b']
  else if c = '\x0c' then ['\\', 'f']
  else if c.toNat < 0x20 then
    ['\\', 'u', '0', '0', hexDigit (c.toNat / 16), hexDigit (c.toNat % 16)]
  else [c]

def textOf (s : String) : List Char :=
  '"' :: (s.toList.flatMap escape ++ ['"'])

mutual

def render : Json → List Char
  | .null => "null".toList
  | .bool true => "true".toList
  | .bool false => "false".toList
  | .number literal => literal.toList
  | .string s => textOf s
  | .array [] => ['[', ']']
  | .array (v :: vs) => '[' :: (render v ++ renderItems vs)
  | .object [] => ['\x7b', '\x7d']
  | .object ((n, v) :: ms) => '\x7b' :: (textOf n ++ ':' :: (render v ++ renderMembers ms))

/-- the items after the first, up to the closing bracket -/
def renderItems : List Json → List Char
  | [] => [']']
  | v :: vs => ',' :: (render v ++ renderItems vs)

/-- the members after the first, up to the closing brace -/
def renderMembers : List (String × Json) → List Char
  | [] => ['\x7d']
  | (n, v) :: ms => ',' :: (textOf n ++ ':' :: (render v ++ renderMembers ms))

end

def compress (v : Json) : String := String.ofList (render v)

end DroneFleet.Json
