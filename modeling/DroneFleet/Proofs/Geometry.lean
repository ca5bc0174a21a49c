import DroneFleet.Flight
import Mathlib.Algebra.Order.Ring.Abs
import Mathlib.Tactic.NormNum
import Mathlib.Tactic.Ring

/-!
# Moves in exact arithmetic

A move goes by a distance along an axis of the drone's own frame, and the sine and the cosine of the
heading say how that frame lies in the world. Here moves are read in exact arithmetic, for any two
numbers as the sine and the cosine: each is a displacement by a multiple of an axis, and directions
that are opposite to each other have opposite axes.

* `Direction.opposite`, `Direction.axis`   the direction against a direction, and where it points to
* `Point.travel_eq`            a move is a displacement along the axis of its direction
* `Point.travel_travel`        moves in one direction add up
* `Point.travel_opposite`      a move in the opposite direction is one by the opposite distance
* `Point.way`, `Point.turnRight`, `Point.dot`, `Point.HasLength`   displacements and their geometry
* `Point.moves_follow_axes`    all together
-/

namespace DroneFleet

attribute [ext] Point

namespace Point
variable {R : Type} [CommRing R]

/-- a displacement `k` times as far -/
def scale (k : R) (a : Point R) : Point R := ⟨k * a.x, k * a.y, k * a.z⟩

/-- a displacement turned by a right angle, clockwise as it is seen from above -/
def turnRight (a : Point R) : Point R := ⟨a.y, -a.x, a.z⟩

def way (p q : Point R) : Point R := ⟨q.x - p.x, q.y - p.y, q.z - p.z⟩

def dot (a b : Point R) : R := a.x * b.x + a.y * b.y + a.z * b.z

def HasLength [LE R] (a : Point R) (l : R) : Prop := 0 ≤ l ∧ l * l = a.dot a

end Point

namespace Direction

def opposite : Direction → Direction
  | .forward => .back
  | .back => .forward
  | .left => .right
  | .right => .left
  | .up => .down
  | .down => .up

def IsHorizontal : Direction → Prop
  | .up => False
  | .down => False
  | _ => True

section
variable {R : Type} [CommRing R] (s c : R)

/-- where a direction points to, for the sine and the cosine of the heading -/
def axis : Direction → Point R
  | .forward => ⟨s, c, 0⟩
  | .right => Point.turnRight ⟨s, c, 0⟩
  | .back => Point.scale (-1) ⟨s, c, 0⟩
  | .left => Point.scale (-1) (Point.turnRight ⟨s, c, 0⟩)
  | .up => ⟨0, 0, 1⟩
  | .down => Point.scale (-1) ⟨0, 0, 1⟩

theorem axis_opposite (dir : Direction) : dir.opposite.axis s c = (dir.axis s c).scale (-1) := by
  cases dir <;> ext <;> simp [opposite, axis, Point.scale, Point.turnRight]

theorem axis_z_of_horizontal {dir : Direction} (h : dir.IsHorizontal) : (dir.axis s c).z = 0 := by
  cases dir with
  | up => exact h.elim
  | down => exact h.elim
  | _ => simp [axis, Point.scale, Point.turnRight]

end

end Direction

namespace Point

section
variable {R : Type} [CommRing R] (s c : R) (dir : Direction) (d e : R) (p a : Point R)

/-! ## moves -/

/-- a move is a displacement along the axis of its direction -/
theorem travel_eq : p.travel s c dir d = p.translate ((dir.axis s c).scale d) := by
  cases dir <;> ext <;> simp [travel, translate, Direction.axis, scale, turnRight] <;> ring

theorem translate_scale_scale :
    (p.translate (a.scale d)).translate (a.scale e) = p.translate (a.scale (d + e)) := by
  ext <;> simp only [translate, scale] <;> ring

theorem translate_scale_zero : p.translate (a.scale 0) = p := by
  ext <;> simp [translate, scale]

theorem scale_scale : (a.scale d).scale e = a.scale (e * d) := by
  ext <;> simp only [scale] <;> ring

theorem travel_travel : (p.travel s c dir d).travel s c dir e = p.travel s c dir (d + e) := by
  rw [travel_eq, travel_eq, travel_eq, translate_scale_scale]

theorem travel_opposite : p.travel s c dir.opposite d = p.travel s c dir (-d) := by
  rw [travel_eq, travel_eq, Direction.axis_opposite, scale_scale, mul_neg_one]

theorem travel_travel_opposite : (p.travel s c dir d).travel s c dir.opposite d = p := by
  rw [travel_opposite, travel_travel, add_neg_cancel, travel_eq, translate_scale_zero]

/-- moves go by the same way wherever they begin, so one may come before the other -/
theorem travel_comm (dir' : Direction) :
    (p.travel s c dir d).travel s c dir' e = (p.travel s c dir' e).travel s c dir d := by
  rw [travel_eq, travel_eq, travel_eq, travel_eq]
  ext <;> simp only [translate] <;> ring

/-- the four sides of a square, each the opposite of the side across -/
theorem travel_square :
    (((p.travel s c .forward d).travel s c .right d).travel s c .back d).travel s c .left d =
      p := by
  rw [travel_comm s c .right d d _ .back]
  have back := travel_travel_opposite s c .forward d p
  have left := travel_travel_opposite s c .right d p
  unfold Direction.opposite at back left
  rw [back, left]

/-! ## displacements -/

theorem way_translate : p.way (p.translate a) = a := by
  ext <;> simp [way, translate]

theorem way_travel : p.way (p.travel s c dir d) = (dir.axis s c).scale d := by
  rw [travel_eq, way_translate]

theorem turnRight_scale : (a.scale d).turnRight = (a.turnRight).scale d := by
  ext <;> simp [turnRight, scale]

theorem dot_turnRight (h : a.z = 0) : a.turnRight.dot a = 0 := by
  simp only [dot, turnRight, h]
  ring

theorem dot_turnRight_self : a.turnRight.dot a.turnRight = a.dot a := by
  simp only [dot, turnRight]
  ring

theorem dot_scale_self : (a.scale d).dot (a.scale d) = d * d * a.dot a := by
  simp only [dot, scale]
  ring

theorem dot_axis_forward :
    (Direction.axis s c .forward).dot (Direction.axis s c .forward) = s * s + c * c := by
  simp [dot, Direction.axis]

theorem dot_axis_right :
    (Direction.axis s c .right).dot (Direction.axis s c .right) = s * s + c * c := by
  show (turnRight ⟨s, c, 0⟩).dot (turnRight ⟨s, c, 0⟩) = _
  rw [dot_turnRight_self]
  exact dot_axis_forward s c

end

section
variable {R : Type} [CommRing R] [LinearOrder R] [IsStrictOrderedRing R]

theorem hasLength_scale (d : R) {a : Point R} (h : a.dot a = 1) : (a.scale d).HasLength |d| := by
  refine ⟨abs_nonneg d, ?_⟩
  rw [dot_scale_self, h, mul_one, abs_mul_abs_self]

/-- **Moves go along the axes of the drone's own frame.** In exact arithmetic, whatever numbers the
sine and the cosine of the heading are: a move and the same one in the opposite direction lead back;
a move is the move by the opposite distance in the opposite direction; and forward, right, back and
left in a row lead back. Forward goes by the sine to the east and by the cosine to the north, and
right is forward turned by a right angle, so that the two are at right angles, and as long as the
distance says if the sine and the cosine belong to an angle. No horizontal move changes the
altitude, and a vertical one changes nothing else, whatever the heading is. Flights move in just
this way, with the numbers of 64 bits for the exact ones. -/
theorem moves_follow_axes (s c d : R) (p : Point R) :
    (∀ dir, (p.travel s c dir d).travel s c dir.opposite d = p) ∧
    (∀ dir, p.travel s c dir d = p.travel s c dir.opposite (-d)) ∧
    (((p.travel s c .forward d).travel s c .right d).travel s c .back d).travel s c .left d = p ∧
    p.way (p.travel s c .forward d) = ⟨s * d, c * d, 0⟩ ∧
    p.way (p.travel s c .right d) = (p.way (p.travel s c .forward d)).turnRight ∧
    (p.way (p.travel s c .right d)).dot (p.way (p.travel s c .forward d)) = 0 ∧
    (s * s + c * c = 1 → (p.way (p.travel s c .forward d)).HasLength |d| ∧
      (p.way (p.travel s c .right d)).HasLength |d|) ∧
    (∀ dir : Direction, dir.IsHorizontal → (p.travel s c dir d).z = p.z) ∧
    (p.travel s c .up d = { p with z := p.z + d } ∧
      p.travel s c .down d = { p with z := p.z - d }) ∧
    ∀ (t : FlightSettings) (f : Flight) dir distance,
      (f.apply t (.move dir distance)).drone.position =
        f.drone.position.travel (radians f.drone.yaw).sin (radians f.drone.yaw).cos dir
          distance := by
  have turned : p.way (p.travel s c .right d) = (p.way (p.travel s c .forward d)).turnRight := by
    rw [way_travel, way_travel, turnRight_scale]
    rfl
  have flat : (p.way (p.travel s c .forward d)).z = 0 := by
    rw [way_travel]
    exact mul_zero d
  refine ⟨fun dir => travel_travel_opposite s c dir d p, fun dir => ?_, travel_square s c d p, ?_,
    turned, ?_, fun unit => ⟨?_, ?_⟩, fun dir horizontal => ?_, ⟨rfl, rfl⟩, fun _ _ _ _ => rfl⟩
  · rw [travel_opposite, neg_neg]
  · rw [way_travel]
    ext <;> simp [Direction.axis, scale, mul_comm]
  · rw [turned, dot_turnRight _ flat]
  · rw [way_travel]
    exact hasLength_scale d ((dot_axis_forward s c).trans unit)
  · rw [way_travel]
    exact hasLength_scale d ((dot_axis_right s c).trans unit)
  · rw [travel_eq]
    show p.z + d * (dir.axis s c).z = p.z
    rw [Direction.axis_z_of_horizontal s c horizontal, mul_zero, add_zero]

end

/-- ten units backwards, with the heading of a triangle of sides three, four and five -/
theorem moves_follow_axes_of_triangle :
    (3 / 5 : ℚ) * (3 / 5) + 4 / 5 * (4 / 5) = 1 ∧
    (way (⟨1, 2, 3⟩ : Point ℚ) (travel (3 / 5) (4 / 5) .forward (-10) ⟨1, 2, 3⟩)) = ⟨-6, -8, 0⟩ ∧
    (way (⟨1, 2, 3⟩ : Point ℚ)
      (travel (3 / 5) (4 / 5) .right (-10) ⟨1, 2, 3⟩)).HasLength 10 ∧
    (travel (3 / 5 : ℚ) (4 / 5) .left (-10) ⟨1, 2, 3⟩).z = 3 := by
  obtain ⟨-, -, -, forward, -, -, long, flat, -⟩ :=
    moves_follow_axes (3 / 5 : ℚ) (4 / 5) (-10) ⟨1, 2, 3⟩
  have unit : (3 / 5 : ℚ) * (3 / 5) + 4 / 5 * (4 / 5) = 1 := by norm_num
  have right := (long unit).2
  refine ⟨unit, ?_, ?_, flat .left trivial⟩
  · rw [forward]
    norm_num
  · rwa [abs_neg, Nat.abs_ofNat] at right

end Point

end DroneFleet
