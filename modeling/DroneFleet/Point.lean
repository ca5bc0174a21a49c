/-!
# Points in the world frame

`x` grows to the east, `y` to the north, `z` is the altitude. The arithmetic of the coordinates is
a parameter.

* `Point`           a position or a displacement
* `Point.translate` a point moved by a displacement
* `Direction`       the six directions of a drone's own frame
* `Point.travel`    a point after a move, for a given sine and cosine of the heading
* `Point.advance`   the same for a heading in degrees
-/

namespace DroneFleet

structure Point (α : Type) where
  x : α
  y : α
  z : α
deriving Repr

namespace Point

variable {α : Type}

def translate [Add α] (p d : Point α) : Point α := ⟨p.x + d.x, p.y + d.y, p.z + d.z⟩

/-- the point where every flight begins -/
def origin : Point Float := ⟨0.0, 0.0, 0.0⟩

end Point

/-- a direction in a drone's own frame -/
inductive Direction where
  | forward
  | back
  | left
  | right
  | up
  | down
deriving DecidableEq, Repr

namespace Direction

def all : List Direction := [.forward, .back, .left, .right, .up, .down]

def word : Direction → String
  | .forward => "forward"
  | .back => "back"
  | .left => "left"
  | .right => "right"
  | .up => "up"
  | .down => "down"

def ofWord? (w : String) : Option Direction := all.find? fun d => d.word = w

theorem ofWord?_word (d : Direction) : ofWord? d.word = some d := by
  cases d <;> decide

theorem word_of_ofWord? {w : String} {d : Direction} (h : ofWord? w = some d) : d.word = w := by
  simpa using List.find?_some h

end Direction

namespace Point

variable {α : Type}

/-- the point after a move of `distance`, for the sine and cosine of the heading; a horizontal
move adds nothing to the altitude, a vertical one leaves the other coordinates alone -/
def travel [Add α] [Sub α] [Mul α] [Neg α] [OfNat α 0] (sine cosine : α) (direction : Direction)
    (distance : α) (p : Point α) : Point α :=
  let dx := sine * distance
  let dy := cosine * distance
  match direction with
  | .forward => p.translate ⟨dx, dy, 0⟩
  | .back => p.translate ⟨-dx, -dy, 0⟩
  | .left => p.translate ⟨-dy, dx, 0⟩
  | .right => p.translate ⟨dy, -dx, 0⟩
  | .up => { p with z := p.z + distance }
  | .down => { p with z := p.z - distance }

def radians (degrees : Int) : Float := Float.ofInt degrees * 0.017453292519943295

def advance (yaw : Int) (direction : Direction) (distance : Float) (p : Point Float) :
    Point Float :=
  p.travel (radians yaw).sin (radians yaw).cos direction distance

end Point

end DroneFleet
