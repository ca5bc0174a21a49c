import DroneFleet.Json.Range
import DroneFleet.Json.Value

/-!
# Reading JSON

A reader takes the value in front of a text and gives the rest back. What is kept is read
strictly: no unpaired surrogate, no number out of range, no nesting beyond a depth. What is skipped
has to have the right form only.

* `Fault`            why a text is refused
* `chars`            the characters of a text up to its closing mark
* `numeral?`         a number as it is written
* `items`, `entries` what stands between brackets, between braces, folded from the left
* `value`            a value of bounded depth
* `skipValue`        a value that nobody needs
* `read?`            a text that is one value and nothing else
-/

namespace DroneFleet.Json

/-- why a text is refused: its form is wrong, or the value has another shape than is asked for -/
inductive Fault where
  | malformed
  | mismatched
deriving DecidableEq, Repr

/-- the result of a reader: a value and the text after it -/
abbrev Read (α : Type) := Except Fault (α × List Char)

def isSpace (c : Char) : Bool := c = ' ' || c = '\n' || c = '\t' || c = '\r'

def skip (s : List Char) : List Char := s.dropWhile isSpace

/-! ## texts -/

def hexValue? (c : Char) : Option Nat :=
  if c.isDigit then some (c.toNat - '0'.toNat)
  else if 'a' ≤ c ∧ c ≤ 'f' then some (c.toNat - 'a'.toNat + 10)
  else if 'A' ≤ c ∧ c ≤ 'F' then some (c.toNat - 'A'.toNat + 10)
  else none

/-- what a single letter after a backslash stands for -/
def plainEscape? (c : Char) : Option Char :=
  if c = '"' ∨ c = '\\' ∨ c = '/' then some c
  else if c = 'b' then some '\x08'
  else if c = 'f' then some '\x0c'
  else if c = 'n' then some '\n'
  else if c = 'r' then some '\r'
  else if c = 't' then some '\t'
  else none

/-- the character that stands for an unpaired surrogate in a text that nobody needs -/
def replacement : Char := Char.ofNat 0xFFFD

inductive Mode where
  | plain
  | escape
  /-- inside a four-digit escape: digits still to come, their value so far, and the surrogate in
  front -/
  | hex (left value : Nat) (high : Option Nat)
  | paired (high : Nat)
  /-- after a leading surrogate and a backslash -/
  | pairedEscape (high : Nat)

/-- what a finished four-digit escape means: the character, or the mode that waits for the other
half of a pair -/
def closeHex (strict : Bool) (code : Nat) : Option Nat → Except Fault (Char ⊕ Nat)
  | none =>
    if 0xDC00 ≤ code ∧ code ≤ 0xDFFF then
      if strict then .error .malformed else .ok (.inl replacement)
    else if 0xD800 ≤ code ∧ code ≤ 0xDBFF then
      if strict then .ok (.inr code) else .ok (.inl replacement)
    else .ok (.inl (Char.ofNat code))
  | some high =>
    if 0xDC00 ≤ code ∧ code ≤ 0xDFFF then
      .ok (.inl (Char.ofNat (0x10000 + (high - 0xD800) * 0x400 + (code - 0xDC00))))
    else .error .malformed

/-- one character more in front of what a reader found -/
def push (c : Char) : Read (List Char) → Read (List Char)
  | .ok (cs, r) => .ok (c :: cs, r)
  | e => e

/-- the characters of a text up to its closing mark -/
def scan (strict : Bool) : Mode → List Char → Read (List Char)
  | _, [] => .error .malformed
  | .plain, c :: r =>
    if c = '"' then .ok ([], r)
    else if c = '\\' then scan strict .escape r
    else if c.toNat < 0x20 then .error .malformed
    else push c (scan strict .plain r)
  | .escape, c :: r =>
    if c = 'u' then scan strict (.hex 4 0 none) r
    else
      match plainEscape? c with
      | some d => push d (scan strict .plain r)
      | none => .error .malformed
  | .hex left value high, c :: r =>
    match hexValue? c with
    | none => .error .malformed
    | some d =>
      let code := 16 * value + d
      if 1 < left then scan strict (.hex (left - 1) code high) r
      else
        match closeHex strict code high with
        | .ok (.inl d) => push d (scan strict .plain r)
        | .ok (.inr high) => scan strict (.paired high) r
        | .error f => .error f
  | .paired high, c :: r =>
    if c = '\\' then scan strict (.pairedEscape high) r else .error .malformed
  | .pairedEscape high, c :: r =>
    if c = 'u' then scan strict (.hex 4 0 (some high)) r else .error .malformed

/-- the text whose opening mark is read already -/
def chars (strict : Bool) (s : List Char) : Read String :=
  match scan strict .plain s with
  | .ok (cs, r) => .ok (String.ofList cs, r)
  | .error f => .error f

/-! ## numbers -/

def digits? (s : List Char) : Option (List Char × List Char) :=
  match s.takeWhile Char.isDigit with
  | [] => none
  | ds => some (ds, s.dropWhile Char.isDigit)

/-- the digits before the point: a zero alone, or digits that do not begin with zero -/
def whole? : List Char → Option (List Char × List Char)
  | '0' :: r =>
    match r with
    | d :: _ => if d.isDigit then none else some (['0'], r)
    | [] => some (['0'], [])
  | s => digits? s

/-- a point and the digits after it, if there is a point -/
def point? : List Char → Option (List Char × List Char)
  | '.' :: r => (digits? r).map fun (ds, r) => ('.' :: ds, r)
  | r => some ([], r)

/-- the power of ten, if there is one -/
def power? : List Char → Option (List Char × List Char)
  | c :: r =>
    if c = 'e' ∨ c = 'E' then
      match r with
      | s :: r' =>
        if s = '+' ∨ s = '-' then (digits? r').map fun (ds, r) => (c :: s :: ds, r)
        else (digits? r).map fun (ds, r) => (c :: ds, r)
      | [] => none
    else some ([], c :: r)
  | [] => some ([], [])

/-- a number without its sign, as it is written -/
def unsigned? (s : List Char) : Option (List Char × List Char) := do
  let (w, r) ← whole? s
  let (p, r) ← point? r
  let (e, r) ← power? r
  return (w ++ (p ++ e), r)

def numeral? : List Char → Option (List Char × List Char)
  | '-' :: r => (unsigned? r).map fun (t, r) => ('-' :: t, r)
  | r => unsigned? r

/-! ## values -/

/-- the rest of a text after a word -/
def word? : List Char → List Char → Option (List Char)
  | [], r => some r
  | w :: ws, c :: r => if w = c then word? ws r else none
  | _ :: _, [] => none

/-- what stands between brackets, folded from the left; the opening bracket is read already -/
def items {σ : Type} (step : σ → List Char → Read σ) : Nat → Bool → σ → List Char → Read σ
  | 0, _, _, _ => .error .malformed
  | fuel + 1, first, acc, s =>
    match skip s with
    | [] => .error .malformed
    | c :: r =>
      if c = ']' then .ok (acc, r)
      else if first then
        match step acc (c :: r) with
        | .ok (acc, r) => items step fuel false acc r
        | .error f => .error f
      else if c = ',' then
        match skip r with
        | [] => .error .malformed
        | d :: r =>
          if d = ']' then .error .malformed
          else
            match step acc (d :: r) with
            | .ok (acc, r) => items step fuel false acc r
            | .error f => .error f
      else .error .malformed

def colon (s : List Char) : Except Fault (List Char) :=
  match skip s with
  | ':' :: r => .ok r
  | _ => .error .malformed

/-- a name between quotation marks -/
def name (strict : Bool) : List Char → Read String
  | '"' :: r => chars strict r
  | _ => .error .malformed

/-- what stands between braces, folded from the left; the opening brace is read already, and a
step is given a name and the text after it, from the colon on -/
def entries {σ : Type} (strict : Bool) (step : σ → String → List Char → Read σ) :
    Nat → Bool → σ → List Char → Read σ
  | 0, _, _, _ => .error .malformed
  | fuel + 1, first, acc, s =>
    match skip s with
    | [] => .error .malformed
    | c :: r =>
      if c = '\x7d' then .ok (acc, r)
      else if first ∨ c = ',' then
        match name strict (if first then c :: r else skip r) with
        | .ok (n, r) =>
          match step acc n r with
          | .ok (acc, r) => entries strict step fuel false acc r
          | .error f => .error f
        | .error f => .error f
      else .error .malformed

/-- a value other than an array or an object -/
def scalar (strict : Bool) : List Char → Read Json
  | [] => .error .malformed
  | '"' :: r => (chars strict r).map fun (t, r) => (.string t, r)
  | 'n' :: r => (word? "ull".toList r).elim (.error .malformed) fun r => .ok (.null, r)
  | 't' :: r => (word? "rue".toList r).elim (.error .malformed) fun r => .ok (.bool true, r)
  | 'f' :: r => (word? "alse".toList r).elim (.error .malformed) fun r => .ok (.bool false, r)
  | s =>
    match numeral? s with
    | some (t, r) =>
      if strict && !inRange t then .error .malformed
      else .ok (.number (String.ofList t), r)
    | none => .error .malformed

/-- a value with at most `depth` levels of brackets and braces; `size` is at least the length of
the text -/
def value (strict : Bool) (size depth : Nat) (s : List Char) : Read Json :=
  match skip s with
  | '[' :: r =>
    match depth with
    | 0 => .error .malformed
    | depth + 1 =>
      (items (fun vs r => (value strict size depth r).map fun (v, r) => (v :: vs, r))
        (size + 1) true [] r).map fun (vs, r) => (.array vs.reverse, r)
  | '\x7b' :: r =>
    match depth with
    | 0 => .error .malformed
    | depth + 1 =>
      (entries strict
        (fun ms n r =>
          match colon r with
          | .ok r => (value strict size depth r).map fun (v, r) => (Named.put n v ms, r)
          | .error f => .error f)
        (size + 1) true [] r).map fun (ms, r) => (.object ms, r)
  | r => scalar strict r

/-- the text after a value that nobody needs; `size` is at least the length of the text -/
def skipValue (size : Nat) (s : List Char) : Except Fault (List Char) :=
  (value false size size s).map (·.2)

/-- a text that is one value between blanks and nothing else -/
def read? (s : String) : Option Json :=
  match value true s.length s.length s.toList with
  | .ok (v, r) => if skip r = [] then some v else none
  | .error _ => none

end DroneFleet.Json
