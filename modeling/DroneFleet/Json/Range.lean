import DroneFleet.Numeral.Integer

/-!
# The range of numbers

A number that is kept has to fit into a binary number of 64 bits. Its first digits make up an
integer of 64 bits; digits after those only count for the place of the point. Integer and power of
ten are both rounded to 53 binary digits before they are multiplied, so that at the end of the range
a number may be refused, or taken, that an exact reading would treat otherwise.

* `roundBits`        an integer with its first binary digits only
* `Amount`           an integer and a power of ten
* `Amount.ofText`    the amount that a numeral without sign stands for
* `inRange`          does a numeral fit?
-/

namespace DroneFleet.Json

/-! ## rounding -/

/-- an integer rounded to its first `digits` binary digits, halves to the even neighbour -/
def roundBits (digits n : Nat) : Nat :=
  let unit := Nat.pow 2 (n.log2 + 1 - digits)
  let below := n / unit
  let rest := n % unit
  if 2 * rest < unit then below * unit
  else if unit < 2 * rest then (below + 1) * unit
  else (below + below % 2) * unit

theorem roundBits_of_short {digits n : Nat} (h : n.log2 + 1 ≤ digits) :
    roundBits digits n = n := by
  have h : n.log2 + 1 - digits = 0 := by omega
  simp [roundBits, h, Nat.mod_one]

/-- the least integer that rounds to infinity -/
def overflow : Nat := Nat.pow 2 1024 - Nat.pow 2 970

/-! ## amounts -/

structure Amount where
  digits : Nat
  exponent : Int
deriving DecidableEq, Repr

/-- digits put behind an integer as long as 64 bits hold it, and the digits left over -/
def takeDigits (n : Nat) : List Char → Nat × List Char
  | [] => (n, [])
  | d :: ds =>
    let next := 10 * n + Numeral.digitValue d
    if next ≤ 0xFFFFFFFFFFFFFFFF then takeDigits next ds else (n, d :: ds)

/-- a power of ten beyond which all are alike -/
def remote : Nat := 10000000000

/-- the amount of digits, but no more than `remote` -/
def boundedNat (ds : List Char) : Nat :=
  ds.foldl (fun n d => min remote (10 * n + Numeral.digitValue d)) 0

/-- the power of ten that follows the digits of a numeral -/
def powerOf : List Char → Int
  | _ :: '-' :: ds => -(boundedNat ds : Int)
  | _ :: '+' :: ds => boundedNat ds
  | _ :: ds => boundedNat ds
  | [] => 0

/-- the amount that a numeral without sign stands for -/
def Amount.ofText (s : List Char) : Amount :=
  let isDigit := Char.isDigit
  let (n, dropped) := takeDigits 0 (s.takeWhile isDigit)
  match s.dropWhile isDigit with
  | '.' :: r =>
    let part := r.takeWhile isDigit
    let (m, left) := takeDigits n part
    ⟨m, dropped.length - (part.length - left.length : Nat) + powerOf (r.dropWhile isDigit)⟩
  | r => ⟨n, dropped.length + powerOf r⟩

/-- does an amount fit? Zero does with any power of ten, and so does whatever is divided by one. -/
def Amount.fits (a : Amount) : Bool :=
  a.digits = 0 || a.exponent < 0 ||
    (a.exponent ≤ 308 &&
      roundBits 53 a.digits * roundBits 53 (Nat.pow 10 a.exponent.toNat) < overflow)

/-- does a number, as it is written, fit? -/
def inRange : List Char → Bool
  | '-' :: s => (Amount.ofText s).fits
  | s => (Amount.ofText s).fits

end DroneFleet.Json
