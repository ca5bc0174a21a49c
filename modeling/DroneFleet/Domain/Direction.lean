import DroneFleet.Domain.Letters

/-!
# Directions of writing

A name with characters that are written from right to left has labels that keep one direction each,
so that they look as they are read.

* `Direction`      how a character takes part in the direction of a text
* `directionOf`    that of a character
* `keepsDirection` does a label keep one direction?
* `directionsFit`  do the labels of a name fit together?
-/

namespace DroneFleet.Domain

/-- how a character takes part in the direction of a text -/
inductive Direction where
  | leftToRight
  | rightToLeft
  | arabic
  | arabicNumber
  | number
  | sign
  | separator
  | terminator
  | neutral
  | boundary
  | mark
deriving DecidableEq, Repr

/-- where the direction changes, marks not counted; numbers are in the order of `Direction` -/
def directionSteps : List (Nat × Nat) := steps [
  "0:9 21:8 23:7 26:8 2B:5 2C:6 2D:5 2E:6 30:4 3A:6 3B:8 61:0 7B:8 7F:9 A1:8 A2:7 A6:8 B0:7 B6:8",
  "DF:0 F7:8 F8:0 2B9:8 2BB:0 2C2:8 2D0:0 2D2:8 2EE:0 2EF:8 371:0 375:8 377:0 3F6:8 3F8:0 58A:8",
  "58F:7 5BE:1 606:8 608:2 609:7 60B:2 60C:6 60D:2 60E:8 61B:2 660:3 66A:7 66B:3 66D:2 6DE:8",
  "6E5:2 6E9:8 6EE:2 6F0:4 6FA:2 7C0:1 7F6:8 7FA:1 860:2 903:0 9F2:7 9F4:0 9FB:7 9FC:0 AF1:7",
  "AF9:0 BF3:8 BF9:7 BFA:8 C01:0 C78:8 C7F:0 E3F:7 E40:0 F3A:8 F3E:0 1390:8 13A0:0 1400:8 1401:0",
  "169B:8 16A0:0 17DB:7 17DC:0 17F0:8 1810:0 1940:8 1946:0 19DE:8 1A00:0 200C:9 2010:8 2030:7",
  "2035:8 2044:6 2045:8 20A0:7 2104:8 212E:7 213A:8 214E:0 218A:8 2212:5 2213:7 2214:8 2336:0",
  "237B:8 2395:0 2396:8 26AC:0 26AD:8 2800:0 2900:8 2C30:0 2CE5:8 2CEC:0 2CF9:8 2D00:0 2E00:8",
  "3005:0 3008:8 3021:0 3030:8 3031:0 3037:8 303B:0 303D:8 3041:0 30A0:8 30A1:0 30FB:8 30FC:0",
  "31C0:8 31F0:0 4DC0:8 4E00:0 A490:8 A4D0:0 A60D:8 A610:0 A673:8 A681:0 A700:8 A723:0 A788:8",
  "A789:0 A828:8 A830:0 A838:7 A840:0 A874:8 A880:0 AB6A:8 ABC0:0 FBB2:2 FBC3:8 FE73:2 10000:0",
  "10101:8 10102:0 10140:8 1018D:0 10190:8 101D0:0 102E1:4 10300:0 10800:1 1091F:8 10920:1",
  "10B39:8 10B40:1 10D00:2 10D30:3 10D40:1 10D6E:8 10D6F:1 10E60:3 10E80:1 10EC2:2 10ED0:8",
  "10F00:1 10F30:2 10F70:1 11000:0 11052:8 11066:0 11660:8 11680:0 1171E:A 11720:0 11FD5:8",
  "11FDD:7 11FE1:8 11FFF:0 16FE2:8 16FE3:0 1CC00:8 1CF50:0 1D1E9:8 1D2C0:0 1D300:8 1D360:0",
  "1E2FF:7 1E4D0:0 1E800:1 1EC71:2 1EEF0:8 1F150:0 1F16D:8 1F170:0 1F1AD:8 1F1E6:0 1F260:8",
  "20000:0"]

def directionOf (c : Char) : Direction :=
  if kindOf c = .overlaid then .mark
  else
    match valueAt c.toNat 0 directionSteps with
    | 1 => .rightToLeft
    | 2 => .arabic
    | 3 => .arabicNumber
    | 4 => .number
    | 5 => .sign
    | 6 => .separator
    | 7 => .terminator
    | 8 => .neutral
    | 9 => .boundary
    | 10 => .mark
    | _ => .leftToRight

namespace Direction

def turns (d : Direction) : Bool := d = .rightToLeft || d = .arabic || d = .arabicNumber

/-- may it be in a label of either direction? -/
def isWeak (d : Direction) : Bool :=
  d = .number || d = .sign || d = .separator || d = .terminator || d = .neutral || d = .boundary
    || d = .mark

end Direction

open Domain.Direction in
/-- does a label keep one direction? Its first character gives the direction, its last but for marks
is a letter of that direction or a figure, and figures of two kinds do not mix. -/
def keepsDirection (label : List Char) : Bool :=
  let ds := label.map directionOf
  let last := ds.reverse.dropWhile (· = mark)
  match ds, last with
  | [], _ => true
  | _, [] => false
  | first :: _, last :: _ =>
    if first = rightToLeft ∨ first = arabic then
      ds.all (fun d => d.turns || d.isWeak)
        && (last = rightToLeft || last = arabic || last = number || last = arabicNumber)
        && !(ds.contains number && ds.contains arabicNumber)
    else if first = leftToRight then
      ds.all (fun d => d = leftToRight || d.isWeak) && (last = leftToRight || last = number)
    else false

/-- do the labels of a name fit together? -/
def directionsFit (labels : List (List Char)) : Bool :=
  if labels.any fun l => l.any fun c => (directionOf c).turns then labels.all keepsDirection
  else true

end DroneFleet.Domain
