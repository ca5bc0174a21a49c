import DroneFleet.Command
import DroneFleet.Numeral.Number

/-!
# Reading commands

A command is its words: an operator and operands. Nothing fails to be a command; what follows the
operands that an operator takes is ignored.

* `wordsOf`               the words of a text
* `Command.integer?`      an operand read by the integer it begins with
* `Command.coordinate`    an operand read whole; one that is missing is not a number
* `Command.ofWords`       the command that words denote
* `Command.parse`         the command that a text denotes
-/

namespace DroneFleet

def wordsOf (s : String) : List String := (Text.words s.toList).map String.ofList

namespace Command

/-- the operand at a place, by the integer it begins with -/
def integer? (operands : List String) (i : Nat) : Option Int :=
  operands[i]?.bind fun w => Numeral.leadingInteger? w.toList

/-- the operand at a place, read whole; one that is missing is not a number -/
def coordinate (operands : List String) (i : Nat) : Float :=
  match operands[i]? with
  | some w => Numeral.toFloat w.toList
  | none => Numeral.Reading.notANumber.toFloat

def point (operands : List String) (i : Nat) : Point Float :=
  ⟨coordinate operands i, coordinate operands (i + 1), coordinate operands (i + 2)⟩

/-- the distance of a move: the integer its operand begins with, or not a number -/
def distance (operands : List String) : Float :=
  match integer? operands 0 with
  | some n => Float.ofInt n
  | none => Numeral.Reading.notANumber.toFloat

def ofOperator (operator : String) (operands : List String) : Command :=
  match operator with
  | "takeoff" => .takeoff
  | "land" => .land
  | "cw" => .rotate true (integer? operands 0)
  | "ccw" => .rotate false (integer? operands 0)
  | "go" =>
    if 4 ≤ operands.length then .go (point operands 0) (coordinate operands 3)
    else .incomplete operator
  | "curve" =>
    if 7 ≤ operands.length then
      .curve (point operands 0) (point operands 3) (coordinate operands 6)
    else .incomplete operator
  | "streamon" => .streamOn
  | "streamoff" => .streamOff
  | "record" => .record (integer? operands 0)
  | "clear" => .clear
  | "reset-dir" => .resetDirection
  | "action" => .action operands[0]?
  | "wait" => .wait (integer? operands 0)
  | _ => .unknown operator

/-- the command that words denote: the first is the operator -/
def ofWords : List String → Command
  | [] => .unknown ""
  | operator :: operands =>
    match Direction.ofWord? operator with
    | some direction => .move direction (distance operands)
    | none => ofOperator operator operands

def parse (raw : String) : Command := ofWords (wordsOf raw)

end Command

end DroneFleet
