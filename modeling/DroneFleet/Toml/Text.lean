import DroneFleet.Json.Reader

/-!
# Texts, blanks and keys in TOML

A reader takes what stands in front of a text and gives the rest back.

* `gap`             the text after blanks, line ends and comments
* `lineEnd?`        the text after a comment, up to and with the end of the line
* `text?`           a text of any of the four kinds
* `key?`            names with points between them
-/

namespace DroneFleet.Toml

/-- a character that cannot stand in a document, but for the ends of lines -/
def isControl (c : Char) : Bool := (c.toNat < 0x20 && c ≠ '\t') || c.toNat = 0x7F

def isBlank (c : Char) : Bool := c = ' ' || c = '\t'

def skip (s : List Char) : List Char := s.dropWhile isBlank

/-- the text after blanks, line ends and comments; `comment` holds inside a comment -/
def gap (comment : Bool) : List Char → List Char
  | [] => []
  | '\r' :: '\n' :: r => gap false r
  | c :: r =>
    if c = '\n' then gap false r
    else if comment then if isControl c then c :: r else gap true r
    else if isBlank c then gap false r
    else if c = '#' then gap true r
    else c :: r

/-- the text after the end of a line, before which blanks and a comment may stand -/
def lineEnd? (s : List Char) : Option (List Char) :=
  let s := match skip s with
    | '#' :: r => r.dropWhile fun c => !isControl c
    | r => r
  match s with
  | [] => some []
  | '\n' :: r => some r
  | '\r' :: '\n' :: r => some r
  | _ => none

/-! ## texts -/

/-- the character that hexadecimal digits stand for, if it is one -/
def scalar? (ds : List Char) : Option Char := do
  let n ← ds.foldlM (fun n c => (Json.hexValue? c).map (16 * n + ·)) 0
  if n < 0xD800 ∨ (0xDFFF < n ∧ n < 0x110000) then some (Char.ofNat n) else none

/-- what a letter after a backslash stands for -/
def escape? (c : Char) : Option Char := if c = '/' then none else Json.plainEscape? c

/-- what follows a backslash: a character that is meant by it -/
def escaped? : List Char → Option (Char × List Char)
  | 'u' :: a :: b :: c :: d :: r => (scalar? [a, b, c, d]).map (·, r)
  | 'U' :: a :: b :: c :: d :: e :: f :: g :: h :: r =>
    (scalar? [a, b, c, d, e, f, g, h]).map (·, r)
  | c :: r => (escape? c).map (·, r)
  | [] => none

/-- the text after a backslash at the end of a line: the first that is not a blank or a line end -/
def afterBreak? (s : List Char) : Option (List Char) :=
  match skip s with
  | '\n' :: r => some (blanks r)
  | '\r' :: '\n' :: r => some (blanks r)
  | _ => none
where
  /-- the text after blanks and line ends -/
  blanks : List Char → List Char
    | [] => []
    | '\r' :: '\n' :: r => blanks r
    | c :: r => if c = '\n' ∨ isBlank c then blanks r else c :: r

/-- the rest of a text in double marks, `fuel` steps at most -/
def basic? : Nat → List Char → Option (List Char × List Char)
  | 0, _ => none
  | fuel + 1, s =>
    match s with
    | [] => none
    | '"' :: r => some ([], r)
    | '\\' :: r => do
      let (c, r) ← escaped? r
      (basic? fuel r).map fun (cs, r) => (c :: cs, r)
    | c :: r => if isControl c then none else (basic? fuel r).map fun (cs, r) => (c :: cs, r)

/-- the rest of a text in single marks -/
def literal? : List Char → Option (List Char × List Char)
  | [] => none
  | c :: r =>
    if c = '\'' then some ([], r)
    else if isControl c then none
    else (literal? r).map fun (cs, r) => (c :: cs, r)

/-- the marks that belong to a text before its closing marks: two at most, of those that follow
them -/
def marksBefore (mark : Char) : List Char → List Char × List Char
  | c :: d :: r =>
    if c = mark then if d = mark then ([c, d], r) else ([c], d :: r) else ([], c :: d :: r)
  | [c] => if c = mark then ([c], []) else ([], [c])
  | [] => ([], [])

def threeMarks? (mark : Char) : List Char → Option (List Char)
  | a :: b :: c :: r => if a = mark ∧ b = mark ∧ c = mark then some r else none
  | _ => none

/-- the rest of a text of many lines, `fuel` steps at most; in double marks a backslash escapes -/
def long? (mark : Char) : Nat → List Char → Option (List Char × List Char)
  | 0, _ => none
  | fuel + 1, s =>
    match threeMarks? mark s with
    | some r => some (marksBefore mark r)
    | none =>
      match s with
      | [] => none
      | '\r' :: '\n' :: r => (long? mark fuel r).map fun (cs, r) => ('\n' :: cs, r)
      | c :: r =>
        if c = '\\' ∧ mark = '"' then
          match afterBreak? r with
          | some r => long? mark fuel r
          | none => do
            let (c, r) ← escaped? r
            (long? mark fuel r).map fun (cs, r) => (c :: cs, r)
        else if isControl c && c ≠ '\n' then none
        else (long? mark fuel r).map fun (cs, r) => (c :: cs, r)

/-- a text without the line end that it begins with -/
def dropLineEnd : List Char → List Char
  | '\n' :: r => r
  | '\r' :: '\n' :: r => r
  | r => r

def shortText? : List Char → Option (String × List Char)
  | '"' :: r => (basic? (r.length + 1) r).map fun (cs, r) => (String.ofList cs, r)
  | '\'' :: r => (literal? r).map fun (cs, r) => (String.ofList cs, r)
  | _ => none

/-- a text of any kind: the three marks of many lines, or one -/
def text? (s : List Char) : Option (String × List Char) :=
  match s with
  | [] => none
  | mark :: _ =>
    if mark = '"' ∨ mark = '\'' then
      match threeMarks? mark s with
      | some r =>
        (long? mark (r.length + 1) (dropLineEnd r)).map fun (cs, r) => (String.ofList cs, r)
      | none => shortText? s
    else none

/-! ## keys -/

/-- the characters of names that stand without marks -/
def isBare (c : Char) : Bool := c.isAlphanum || c = '_' || c = '-'

def name? (s : List Char) : Option (String × List Char) :=
  match s.takeWhile isBare with
  | [] => shortText? s
  | n => some (String.ofList n, s.dropWhile isBare)

/-- how many names a key has at most -/
def maxNames : Nat := 79

/-- the names of a key after the first, `fuel` at most -/
def moreNames? : Nat → List Char → Option (List String × List Char)
  | fuel, s =>
    match skip s with
    | '.' :: r =>
      match fuel with
      | 0 => none
      | fuel + 1 => do
        let (n, r) ← name? (skip r)
        (moreNames? fuel r).map fun (ns, r) => (n :: ns, r)
    | r => some ([], r)

/-- a key: the names before the last, and the last; blanks may stand around the points -/
def key? (s : List Char) : Option ((List String × String) × List Char) := do
  let (n, r) ← name? (skip s)
  let (ns, r) ← moreNames? (maxNames - 1) r
  let all := n :: ns
  return ((all.dropLast, all.getLastD n), r)

end DroneFleet.Toml
