import DroneFleet.Decimal.Layout
import DroneFleet.Numeral.Number
import DroneFleet.Settings.Value

/-!
# What a value of a setting means

A setting is a text, a natural number or a real number, and values of other kinds are converted
where that makes sense. A word such as `on` or `no` is one or zero.

* `Setting.text?`       a value as a text
* `Setting.natural?`    a value as a natural number up to a limit
* `Setting.real?`       a value as a real number
-/

namespace DroneFleet.Setting

/-- the plainest text of a number -/
def floatText (x : Float) : List Char :=
  match Binary64.ofFloat x with
  | .notANumber => "NaN".toList
  | .infinite negative => if negative then "-inf".toList else "inf".toList
  | parts => (Decimal.text? .plain parts).getD []

def text? : Setting → Option String
  | .text s => some s
  | .integer n => some (String.ofList (Decimal.integerText n))
  | .float x => some (String.ofList (floatText x))
  | .bool b => some (if b then "true" else "false")
  | _ => none

/-- the words for one and zero, in any case -/
def truth? (s : String) : Option Bool :=
  let s := fold s
  if s = "true" ∨ s = "on" ∨ s = "yes" then some true
  else if s = "false" ∨ s = "off" ∨ s = "no" then some false
  else none

/-- the digits of a text after an optional plus -/
def digits? (s : String) : Option Nat :=
  let ds := match s.toList with
    | '+' :: r => r
    | r => r
  if ds ≠ [] ∧ ds.all Char.isDigit then some (Numeral.natOfDigits ds) else none

/-- the nearest natural number of 64 bits, halves away from zero; zero for what is not a number -/
def nearestNatural (x : Float) : Nat :=
  match Binary64.ofFloat x with
  | .notANumber => 0
  | .infinite negative => if negative then 0 else 0xFFFFFFFFFFFFFFFF
  | .finite negative m e => if negative then 0 else min 0xFFFFFFFFFFFFFFFF (Binary64.magnitude m e)

def anyNatural? : Setting → Option Nat
  | .integer n => if 0 ≤ n then some n.toNat else none
  | .float x => some (nearestNatural x)
  | .bool b => some b.toNat
  | .text s => ((truth? s).map Bool.toNat).or (digits? s)
  | _ => none

/-- a value as a natural number up to a limit -/
def natural? (limit : Nat) (v : Setting) : Option Nat :=
  v.anyNatural?.bind fun n => if n ≤ limit then some n else none

/-- a text as a real number: a decimal, or a word for infinity or for what is not a number, in any
case -/
def realOfText? (s : String) : Option Float :=
  let (negative, r) := Numeral.signed s.toList
  let word := fold (String.ofList r)
  if word = "inf" ∨ word = "infinity" then some (Numeral.Reading.infinite negative).toFloat
  else if word = "nan" then some Numeral.Reading.notANumber.toFloat
  else
    (Numeral.unsignedDecimal? r).map fun (n, e) => (Numeral.Reading.decimal negative n e).toFloat

def realOfTruth (b : Bool) : Float := if b then 1.0 else 0.0

def real? : Setting → Option Float
  | .float x => some x
  | .integer n => some (Numeral.negateIf (n < 0) (Numeral.nearest n.natAbs 0))
  | .bool b => some (realOfTruth b)
  | .text s => ((truth? s).map realOfTruth).or (realOfText? s)
  | _ => none

end DroneFleet.Setting
