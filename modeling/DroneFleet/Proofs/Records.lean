import DroneFleet.Drone.Wire
import DroneFleet.Proofs.Figures

/-!
# What is told of a drone

A record, a snapshot, an entry of a listing and a status notice are read back with the keys they were
written with and with what the drone has. Neither its zones nor the mark of an active run shows; all
the rest does, but for coordinates that are not finite, which look the same.

* `Json.TellsInt`            does a value tell an integer?
* `Coordinate.shown`         what can be seen of a coordinate
* `Drone.Sized`              a drone with numbers of 64 bits
* `Drone.printable_toJson`   what is told of it can be printed
* `Drone.toJson_eq_iff`      two drones of which the same is told
* `Status.text_injective`    each status has its own text
* `Drone.texts_tell_drone`   what the texts of a drone tell
-/

namespace DroneFleet

/-! ## values -/

namespace Json

/-- does a value tell an integer? -/
def TellsInt (n : Int) (v : Json) : Prop :=
  ∃ literal, v = .number literal ∧
    Numeral.read literal.toList = .decimal (decide (n < 0)) n.natAbs 0

theorem read_integerText (n : Int) :
    Numeral.read (Decimal.integerText n) = .decimal (decide (n < 0)) n.natAbs 0 := by
  have parts := Decimal.read_parts (proper_digitText n.natAbs) (decide (n < 0))
  have digits : (⟨Decimal.digitText n.natAbs, [], none⟩ : Numeral.Parts).digits = n.natAbs := by
    unfold Numeral.Parts.digits
    rw [List.append_nil, Numeral.natOfDigits_digitText]
  rw [text_digitText, digits] at parts
  rw [← show _ = Numeral.Reading.decimal (decide (n < 0)) n.natAbs 0 from parts]
  unfold Decimal.integerText
  by_cases hn : n < 0
  · rw [if_pos hn, if_pos (decide_eq_true hn)]
  · rw [if_neg hn, if_neg (by simpa using hn)]

theorem tells_ofInt (n : Int) : TellsInt n (ofInt n) := by
  refine ⟨_, rfl, ?_⟩
  rw [String.toList_ofList]
  exact read_integerText n

theorem printable_ofInt {n : Int} (h : n.natAbs ≤ 0xFFFFFFFFFFFFFFFF) : Printable (ofInt n) := by
  refine .number ?_
  rw [String.toList_ofList]
  exact numeric_integerText h

theorem TellsInt.unique {n k : Int} {v : Json} (h : TellsInt n v) (h' : TellsInt k v) : n = k := by
  obtain ⟨literal, rfl, reading⟩ := h
  obtain ⟨_, same, reading'⟩ := h'
  cases same
  rw [reading, Numeral.Reading.decimal.injEq, decide_eq_decide] at reading'
  omega

theorem ofInt_eq_iff (n k : Int) : ofInt n = ofInt k ↔ n = k := by
  constructor
  · intro same
    have told := tells_ofInt k
    rw [← same] at told
    exact (tells_ofInt n).unique told
  · rintro rfl
    rfl

theorem printable_ofStrings (ss : List String) : Printable (ofStrings ss) := by
  refine .array ?_
  intro v hv
  obtain ⟨s, -, rfl⟩ := List.mem_map.mp hv
  exact .string s

theorem ofStrings_eq_iff (ss ts : List String) : ofStrings ss = ofStrings ts ↔ ss = ts := by
  constructor
  · intro same
    refine List.map_injective_iff.mpr ?_ (Json.array.inj same)
    intro s t h
    exact Json.string.inj h
  · rintro rfl
    rfl

end Json

/-! ## coordinates -/

/-- what can be seen of a coordinate -/
def Coordinate.shown (x : Float) : Option Float := if x.isFinite then some x else none

def Point.shown (p : Point Float) : Option Float × Option Float × Option Float :=
  (Coordinate.shown p.x, Coordinate.shown p.y, Coordinate.shown p.z)

theorem Json.ofFloat_eq_iff_shown (x y : Float) :
    Json.ofFloat x = Json.ofFloat y ↔ Coordinate.shown x = Coordinate.shown y := by
  rw [Json.ofFloat_eq_iff]
  unfold Coordinate.shown
  cases x.isFinite <;> cases y.isFinite <;> simp

theorem Point.toJson_eq_iff (p q : Point Float) : p.toJson = q.toJson ↔ p.shown = q.shown := by
  unfold Point.toJson Point.shown
  simp only [Json.object.injEq, List.cons.injEq, Prod.mk.injEq, true_and, and_true,
    Json.ofFloat_eq_iff_shown]

theorem Point.printable_toJson (p : Point Float) : Json.Printable p.toJson := by
  have names : ["x", "y", "z"].Nodup := by decide
  refine .object names ?_
  intro m hm
  simp only [List.mem_cons, List.not_mem_nil, or_false] at hm
  rcases hm with rfl | rfl | rfl
  · exact (Json.tells_ofFloat p.x).2
  · exact (Json.tells_ofFloat p.y).2
  · exact (Json.tells_ofFloat p.z).2

/-! ## statuses -/

/-- the first letters of a status -/
def Status.letters (s : Status) : List Char := s.text.toList.take 11

theorem Status.letters_executing (command : String) :
    (Status.executing command).letters = "executing: ".toList := by
  unfold letters text
  rw [String.toList_append]
  exact List.take_left' (by decide)

theorem Status.text_injective : Function.Injective Status.text := by
  intro s t same
  have letters : s.letters = t.letters := by
    unfold Status.letters
    rw [same]
  cases s with
  | executing command =>
    rw [Status.letters_executing] at letters
    cases t with
    | executing command' =>
      have tail := congrArg String.toList same
      unfold Status.text at tail
      rw [String.toList_append, String.toList_append] at tail
      rw [String.toList_inj.mp (List.append_cancel_left tail)]
    | _ => exact absurd letters (by decide)
  | _ =>
    cases t with
    | executing command' =>
      rw [Status.letters_executing] at letters
      exact absurd letters (by decide)
    | _ => first | rfl | exact absurd same (by decide)

/-! ## drones -/

namespace Drone

open Json (Printable)

/-- a drone with numbers of 64 bits -/
structure Sized (d : Drone) : Prop where
  range : d.range ≤ 0xFFFFFFFFFFFFFFFF
  battery : d.battery ≤ 0xFFFFFFFFFFFFFFFF
  yaw : d.yaw.natAbs ≤ 0xFFFFFFFFFFFFFFFF

section
variable {d e : Drone}

theorem printable_range (h : d.Sized) : Printable (.ofInt d.range) := Json.printable_ofInt h.range

theorem printable_battery (h : d.Sized) : Printable (.ofInt d.battery) :=
  Json.printable_ofInt h.battery

theorem printable_toJson (h : d.Sized) : Printable d.toJson := by
  have names : ["id", "ip", "connected", "streamon", "inFlight", "range", "battery", "yaw",
      "position", "status", "commandQueue"].Nodup := by decide
  refine .object names ?_
  intro m hm
  simp only [List.mem_cons, List.not_mem_nil, or_false] at hm
  rcases hm with rfl | rfl | rfl | rfl | rfl | rfl | rfl | rfl | rfl | rfl | rfl
  · exact .string _
  · exact .string _
  · exact .bool _
  · exact .bool _
  · exact .bool _
  · exact printable_range h
  · exact printable_battery h
  · exact Json.printable_ofInt h.yaw
  · exact d.position.printable_toJson
  · exact .string _
  · exact Json.printable_ofStrings _

theorem printable_snapshot (h : d.Sized) : Printable d.snapshot.toJson := by
  have names : ["id", "connected", "status", "battery", "position", "yaw", "inFlight"].Nodup := by
    decide
  refine .object names ?_
  intro m hm
  simp only [List.mem_cons, List.not_mem_nil, or_false] at hm
  rcases hm with rfl | rfl | rfl | rfl | rfl | rfl | rfl
  · exact .string _
  · exact .bool _
  · exact .string _
  · exact printable_battery h
  · exact d.position.printable_toJson
  · exact Json.printable_ofInt h.yaw
  · exact .bool _

theorem printable_summary (h : d.Sized) : Printable d.summary.toJson := by
  have names : ["id", "ip", "range", "streamon", "connected", "status"].Nodup := by decide
  refine .object names ?_
  intro m hm
  simp only [List.mem_cons, List.not_mem_nil, or_false] at hm
  rcases hm with rfl | rfl | rfl | rfl | rfl | rfl
  · exact .string _
  · exact .string _
  · exact printable_range h
  · exact .bool _
  · exact .bool _
  · exact .string _

theorem printable_notice (h : d.Sized) : Printable (Notice.status d.snapshot).toJson := by
  have names : ["type", "drone"].Nodup := by decide
  refine .object names ?_
  intro m hm
  simp only [List.mem_cons, List.not_mem_nil, or_false] at hm
  rcases hm with rfl | rfl
  · exact .string _
  · exact printable_snapshot h

/-- two values that can be printed have one text only if they are one value -/
theorem compress_eq_iff {v w : Json} (hv : Printable v) (hw : Printable w) :
    v.compress = w.compress ↔ v = w := by
  constructor
  · intro same
    have read := Json.read?_compress hw
    rw [← same, Json.read?_compress hv] at read
    exact Option.some.inj read
  · rintro rfl
    rfl

theorem toJson_eq_iff (d e : Drone) :
    d.toJson = e.toJson ↔ d.id = e.id ∧ d.ip = e.ip ∧ d.connected = e.connected ∧
      d.streaming = e.streaming ∧ d.inFlight = e.inFlight ∧ d.range = e.range ∧
      d.battery = e.battery ∧ d.yaw = e.yaw ∧ d.position.shown = e.position.shown ∧
      d.status = e.status ∧ d.queue = e.queue := by
  unfold toJson
  simp only [Json.object.injEq, List.cons.injEq, Prod.mk.injEq, true_and, and_true,
    Json.string.injEq, Json.bool.injEq, Json.ofInt_eq_iff, Int.natCast_inj, Point.toJson_eq_iff,
    Status.text_injective.eq_iff, Json.ofStrings_eq_iff]

theorem snapshot_toJson_eq_iff (d e : Drone) :
    d.snapshot.toJson = e.snapshot.toJson ↔ d.id = e.id ∧ d.connected = e.connected ∧
      d.status = e.status ∧ d.battery = e.battery ∧ d.position.shown = e.position.shown ∧
      d.yaw = e.yaw ∧ d.inFlight = e.inFlight := by
  unfold Snapshot.toJson snapshot
  simp only [Json.object.injEq, List.cons.injEq, Prod.mk.injEq, true_and, and_true,
    Json.string.injEq, Json.bool.injEq, Json.ofInt_eq_iff, Int.natCast_inj, Point.toJson_eq_iff,
    Status.text_injective.eq_iff]

theorem summary_toJson_eq_iff (d e : Drone) :
    d.summary.toJson = e.summary.toJson ↔ d.id = e.id ∧ d.ip = e.ip ∧ d.range = e.range ∧
      d.streaming = e.streaming ∧ d.connected = e.connected ∧ d.status = e.status := by
  unfold Summary.toJson summary
  simp only [Json.object.injEq, List.cons.injEq, Prod.mk.injEq, true_and, and_true,
    Json.string.injEq, Json.bool.injEq, Json.ofInt_eq_iff, Int.natCast_inj,
    Status.text_injective.eq_iff]

theorem notice_toJson_eq_iff (s t : Snapshot) :
    (Notice.status s).toJson = (Notice.status t).toJson ↔ s.toJson = t.toJson := by
  simp only [Notice.toJson, Json.object.injEq, List.cons.injEq, Prod.mk.injEq, true_and, and_true]

end

/-- **What the texts of a drone tell.** Record, snapshot, entry of a listing and status notice are
read back with the keys of each and with what the drone has. Its zones and the mark of an active run
do not show. Two drones have one text of a kind exactly if they agree on all that it shows, where
coordinates that are not finite look the same, and each status has its own text. -/
theorem texts_tell_drone (d : Drone) (hd : d.Sized) :
    (∃ range battery yaw x y z,
      Json.TellsInt d.range range ∧ Json.TellsInt d.battery battery ∧ Json.TellsInt d.yaw yaw ∧
      Json.Tells d.position.x x ∧ Json.Tells d.position.y y ∧ Json.Tells d.position.z z ∧
      Json.read? d.toJson.compress = some (.object
        [("id", .string d.id), ("ip", .string d.ip), ("connected", .bool d.connected),
          ("streamon", .bool d.streaming), ("inFlight", .bool d.inFlight), ("range", range),
          ("battery", battery), ("yaw", yaw), ("position", .object [("x", x), ("y", y), ("z", z)]),
          ("status", .string d.status.text), ("commandQueue", .array (d.queue.map .string))]) ∧
      Json.read? d.snapshot.toJson.compress = some (.object
        [("id", .string d.id), ("connected", .bool d.connected), ("status", .string d.status.text),
          ("battery", battery), ("position", .object [("x", x), ("y", y), ("z", z)]),
          ("yaw", yaw), ("inFlight", .bool d.inFlight)]) ∧
      Json.read? d.summary.toJson.compress = some (.object
        [("id", .string d.id), ("ip", .string d.ip), ("range", range),
          ("streamon", .bool d.streaming), ("connected", .bool d.connected),
          ("status", .string d.status.text)]) ∧
      Json.read? (Notice.status d.snapshot).toJson.compress = some (.object
        [("type", .string "status"), ("drone", .object
          [("id", .string d.id), ("connected", .bool d.connected),
            ("status", .string d.status.text), ("battery", battery),
            ("position", .object [("x", x), ("y", y), ("z", z)]), ("yaw", yaw),
            ("inFlight", .bool d.inFlight)])])) ∧
    (∀ zones active, let e := { d with zones := zones, runActive := active }
      e.toJson.compress = d.toJson.compress ∧
      e.snapshot.toJson.compress = d.snapshot.toJson.compress ∧
      e.summary.toJson.compress = d.summary.toJson.compress ∧
      (Notice.status e.snapshot).toJson.compress = (Notice.status d.snapshot).toJson.compress) ∧
    (∀ e : Drone, e.Sized →
      (d.toJson.compress = e.toJson.compress ↔ d.id = e.id ∧ d.ip = e.ip ∧
        d.connected = e.connected ∧ d.streaming = e.streaming ∧ d.inFlight = e.inFlight ∧
        d.range = e.range ∧ d.battery = e.battery ∧ d.yaw = e.yaw ∧
        d.position.shown = e.position.shown ∧ d.status = e.status ∧ d.queue = e.queue) ∧
      (d.snapshot.toJson.compress = e.snapshot.toJson.compress ↔ d.id = e.id ∧
        d.connected = e.connected ∧ d.status = e.status ∧ d.battery = e.battery ∧
        d.position.shown = e.position.shown ∧ d.yaw = e.yaw ∧ d.inFlight = e.inFlight) ∧
      (d.summary.toJson.compress = e.summary.toJson.compress ↔ d.id = e.id ∧ d.ip = e.ip ∧
        d.range = e.range ∧ d.streaming = e.streaming ∧ d.connected = e.connected ∧
        d.status = e.status) ∧
      ((Notice.status d.snapshot).toJson.compress = (Notice.status e.snapshot).toJson.compress ↔
        d.snapshot.toJson.compress = e.snapshot.toJson.compress)) ∧
    Function.Injective Status.text := by
  refine ⟨?_, fun _ _ => ⟨rfl, rfl, rfl, rfl⟩, fun e he => ⟨?_, ?_, ?_, ?_⟩,
    Status.text_injective⟩
  · refine ⟨_, _, _, _, _, _, Json.tells_ofInt d.range, Json.tells_ofInt d.battery,
      Json.tells_ofInt d.yaw, (Json.tells_ofFloat d.position.x).1,
      (Json.tells_ofFloat d.position.y).1, (Json.tells_ofFloat d.position.z).1, ?_, ?_, ?_, ?_⟩
    · exact Json.read?_compress (printable_toJson hd)
    · exact Json.read?_compress (printable_snapshot hd)
    · exact Json.read?_compress (printable_summary hd)
    · exact Json.read?_compress (printable_notice hd)
  · rw [compress_eq_iff (printable_toJson hd) (printable_toJson he)]
    exact toJson_eq_iff d e
  · rw [compress_eq_iff (printable_snapshot hd) (printable_snapshot he)]
    exact snapshot_toJson_eq_iff d e
  · rw [compress_eq_iff (printable_summary hd) (printable_summary he)]
    exact summary_toJson_eq_iff d e
  · rw [compress_eq_iff (printable_notice hd) (printable_notice he),
      compress_eq_iff (printable_snapshot hd) (printable_snapshot he)]
    exact notice_toJson_eq_iff _ _

def odd : Drone :=
  { new "tello \"1\"" "127.0.0.101" 4500 100 with
    position := ⟨0.1, 0.0 / 0.0, -0.0⟩
    status := .executing "go \\ 1"
    queue := ["land\n", ""] }

theorem texts_tell_odd_drone : odd.Sized ∧
    ∃ x y z, Json.Tells 0.1 x ∧ Json.Tells (0.0 / 0.0) y ∧ Json.Tells (-0.0) z ∧
      (Json.read? odd.snapshot.toJson.compress).bind (Json.member? "position") =
        some (.object [("x", x), ("y", y), ("z", z)]) := by
  have sized : odd.Sized := ⟨by decide, by decide, by decide⟩
  obtain ⟨⟨_, _, _, x, y, z, -, -, -, hx, hy, hz, -, snapshot, -, -⟩, -⟩ := texts_tell_drone odd sized
  refine ⟨sized, x, y, z, hx, hy, hz, ?_⟩
  rw [snapshot]
  rfl

end Drone

end DroneFleet
