import DroneFleet.Decimal.Layout
import DroneFleet.Numeral.Integer

/-!
# Dates and times in TOML

* `Date`, `Clock`, `Offset`   a day, a time of a day, and a distance from universal time
* `Bounds`                    how large the parts may be
* `Moment.read?`              the moment that a text denotes
* `Moment.text`               the normal text of a moment
-/

namespace DroneFleet.Toml

structure Date where
  year : Nat
  month : Nat
  day : Nat
deriving DecidableEq, Repr

structure Clock where
  hour : Nat
  minute : Nat
  second : Nat
  nano : Nat
deriving DecidableEq, Repr

/-- a distance from universal time, in minutes; none is universal time itself -/
structure Offset where
  minutes? : Option Int
deriving DecidableEq, Repr

/-- a date, a time, or both; with both there may be an offset -/
structure Moment where
  date? : Option Date
  clock? : Option Clock
  offset? : Option Offset
deriving DecidableEq, Repr

/-! ## reading -/

/-- the greatest hour of a day, and the greatest offset: its hours, its minutes, and all of it in
minutes -/
structure Bounds where
  hour : Nat
  offsetHour : Nat
  offsetMinute : Nat
  offset : Nat

/-- the bounds of a moment that stands in a document without marks -/
def Bounds.bare : Bounds := ⟨23, 23, 59, 23 * 60 + 59⟩

/-- the bounds of a moment that is written as a text -/
def Bounds.quoted : Bounds := ⟨24, 99, 99, 24 * 60⟩

/-- exactly so many digits, as a number within bounds -/
def digits? (count least greatest : Nat) (s : List Char) : Option (Nat × List Char) :=
  let ds := s.take count
  let n := Numeral.natOfDigits ds
  if ds.length = count ∧ ds.all Char.isDigit ∧ least ≤ n ∧ n ≤ greatest then
    some (n, s.drop count)
  else none

def after? (mark : Char) : List Char → Option (List Char)
  | c :: r => if c = mark then some r else none
  | [] => none

def isLeap (year : Nat) : Bool := year % 4 = 0 && (year % 100 ≠ 0 || year % 400 = 0)

def daysOf (year month : Nat) : Nat :=
  if month = 2 then if isLeap year then 29 else 28
  else if month = 4 ∨ month = 6 ∨ month = 9 ∨ month = 11 then 30
  else 31

def Date.read? (s : List Char) : Option (Date × List Char) := do
  let (year, r) ← digits? 4 0 9999 s
  let (month, r) ← digits? 2 1 12 (← after? '-' r)
  let (day, r) ← digits? 2 1 (daysOf year month) (← after? '-' r)
  return (⟨year, month, day⟩, r)

/-- the nanoseconds that the digits after a point denote; those after the ninth are dropped -/
def nanos (ds : List Char) : Nat :=
  let ds := ds.take 9
  Numeral.natOfDigits ds * Nat.pow 10 (9 - ds.length)

def Clock.read? (b : Bounds) (s : List Char) : Option (Clock × List Char) := do
  let (hour, r) ← digits? 2 0 b.hour s
  let (minute, r) ← digits? 2 0 59 (← after? ':' r)
  let (second, r) ← digits? 2 0 60 (← after? ':' r)
  match r with
  | '.' :: r =>
    match r.takeWhile Char.isDigit with
    | [] => none
    | ds => return (⟨hour, minute, second, nanos ds⟩, r.dropWhile Char.isDigit)
  | _ => return (⟨hour, minute, second, 0⟩, r)

/-- an offset that is all of a text -/
def Offset.read? (b : Bounds) : List Char → Option Offset
  | [] => none
  | c :: r =>
    if c = 'Z' ∨ c = 'z' then if r = [] then some ⟨none⟩ else none
    else if c = '+' ∨ c = '-' then do
      let (hour, r) ← digits? 2 0 b.offsetHour r
      let (minute, r) ← digits? 2 0 b.offsetMinute (← after? ':' r)
      let n := 60 * hour + minute
      if r = [] ∧ n ≤ b.offset then some ⟨some (Numeral.withSign (c = '-') n)⟩ else none
    else none

/-- may the character stand between a date and a time? -/
def isDelimiter (c : Char) : Bool := c = 'T' || c = 't' || c = ' '

/-- the moment that a text denotes -/
def Moment.read? (b : Bounds) (s : List Char) : Option Moment :=
  match Date.read? s with
  | some (d, []) => some ⟨some d, none, none⟩
  | some (d, c :: r) =>
    if isDelimiter c then
      match Clock.read? b r with
      | some (t, []) => some ⟨some d, some t, none⟩
      | some (t, r) => (Offset.read? b r).map fun o => ⟨some d, some t, some o⟩
      | none => none
    else none
  | none =>
    match Clock.read? b s with
    | some (t, []) => some ⟨none, some t, none⟩
    | _ => none

/-! ## writing -/

/-- a number with at least so many digits -/
def padded (count n : Nat) : List Char :=
  let ds := Decimal.digitText n
  List.replicate (count - ds.length) '0' ++ ds

def Date.text (d : Date) : List Char :=
  padded 4 d.year ++ '-' :: padded 2 d.month ++ '-' :: padded 2 d.day

/-- the text of a time; zeros at the end of its fraction are dropped -/
def Clock.text (t : Clock) : List Char :=
  padded 2 t.hour ++ ':' :: padded 2 t.minute ++ ':' :: padded 2 t.second
    ++ (if t.nano = 0 then []
      else '.' :: ((padded 9 t.nano).reverse.dropWhile (· = '0')).reverse)

def Offset.text (o : Offset) : List Char :=
  match o.minutes? with
  | none => ['Z']
  | some m =>
    (if m < 0 then '-' else '+') :: padded 2 (m.natAbs / 60) ++ ':' :: padded 2 (m.natAbs % 60)

def Moment.text (m : Moment) : List Char :=
  (m.date?.elim [] Date.text)
    ++ (if m.date?.isSome && m.clock?.isSome then ['T'] else [])
    ++ (m.clock?.elim [] Clock.text)
    ++ (m.offset?.elim [] Offset.text)

end DroneFleet.Toml
