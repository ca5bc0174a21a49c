import DroneFleet.Text.Parts
import DroneFleet.Text.Percent

/-!
# Paths of addresses

* `Path`             parts after slashes, or a text that is kept whole
* `resolve`          parts without those that stand for the place itself or the one above
* `Path.ofParts`     the path that a text with slashes denotes
* `Path.ofFile`      the path of a file, which may begin with the letter of a drive
* `Path.text`        the path as it is written
-/

namespace DroneFleet.Url

/-- is the character in this class of marks that a path has with percent signs only? -/
def inPath (c : Char) : Bool := " \"#<>?`\x7b\x7d".toList.contains c

def isSlash (c : Char) : Bool := c = '/' || c = '\\'

/-- the way to a place at a server -/
inductive Path where
  /-- the parts of the way, each after a slash -/
  | parts (ps : List (List Char))
  /-- a text that has no parts -/
  | whole (s : List Char)
deriving DecidableEq, Repr

/-! ## dots -/

/-- a part that stands for the place itself -/
def isSingleDot (s : List Char) : Bool :=
  let t := String.ofList (s.map Char.toLower)
  t = "." || t = "%2e"

/-- a part that stands for the place above -/
def isDoubleDot (s : List Char) : Bool :=
  let t := String.ofList (s.map Char.toLower)
  t = ".." || t = ".%2e" || t = "%2e." || t = "%2e%2e"

/-- is a part the letter of a drive, with a colon or a bar? -/
def isDrive : List Char → Bool
  | [c, d] => c.isAlpha && (d = ':' || d = '|')
  | _ => false

/-- the parts in front without the last; the letter of a drive stays -/
def shorten (drives : Bool) (done : List (List Char)) : List (List Char) :=
  match done with
  | [l] => if drives && isDrive l then [l] else []
  | _ => done.drop 1

/-- the parts of a path in normal form; `done` are those in front, the last first. With drives
a first part that is the letter of one ends with a colon. -/
def resolve (drives : Bool) : List (List Char) → List (List Char) → List (List Char)
  | done, [] => done.reverse
  | done, p :: ps =>
    if isDoubleDot p then
      let done := shorten drives done
      resolve drives (if ps = [] then [] :: done else done) ps
    else if isSingleDot p then resolve drives (if ps = [] then [] :: done else done) ps
    else
      let p := if drives && done.isEmpty && isDrive p then p.take 1 ++ [':']
        else Text.Percent.encode inPath p
      resolve drives (p :: done) ps

namespace Path

/-- the path that a text denotes, given which characters are slashes; the first slash is read
already -/
def ofParts (isSlash : Char → Bool) (s : List Char) : Path :=
  .parts (resolve false [] (Text.partsAt isSlash s))

/-- the path of a file; empty parts in front do not count -/
def ofFile (s : List Char) : Path :=
  let ps := Text.partsAt isSlash (s.dropWhile isSlash)
  let rs := (resolve true [] ps).dropWhile (· = [])
  .parts (if rs = [] then [[]] else rs)

/-- does the path begin with the letter of a drive? -/
def hasDrive : Path → Bool
  | .parts (p :: _) => isDrive p
  | _ => false

def text : Path → List Char
  | .parts ps => ps.flatMap ('/' :: ·)
  | .whole s => s

end Path

end DroneFleet.Url
