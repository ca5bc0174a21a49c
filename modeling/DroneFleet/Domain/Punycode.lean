/-!
# Letters and digits for all characters

A label with characters beyond ASCII is written as its ASCII characters, a hyphen, and digits of
base 36 that tell which characters are missing and where. The digits write differences, each as a
number whose places have weights that adapt to the differences before.

* `threshold`, `adapt`        the bounds of a place, and the shift of all bounds
* `encode`                    a label in ASCII
* `decode?`                   the label that a text in ASCII stands for
-/

namespace DroneFleet.Domain.Punycode

/-! ## digits -/

/-- the digit of a value: letters first, then figures -/
def digitChar (d : Nat) : Char :=
  if d < 26 then Char.ofNat (97 + d) else Char.ofNat (48 + (d - 26))

/-- the value of a digit of either case -/
def digitValue? (c : Char) : Option Nat :=
  if 'a' ≤ c ∧ c ≤ 'z' then some (c.toNat - 97)
  else if 'A' ≤ c ∧ c ≤ 'Z' then some (c.toNat - 65)
  else if c.isDigit then some (c.toNat - 48 + 26)
  else none

/-- the least digit that is not the last one at place `k`, where places count by 36 -/
def threshold (k bias : Nat) : Nat := max 1 (min 26 (k - bias))

theorem one_le_threshold (k bias : Nat) : 1 ≤ threshold k bias := by
  unfold threshold
  omega

/-- divides by 35 until the rest is small; counts the divisions by 36 -/
def scale (delta k : Nat) : Nat × Nat :=
  if 455 < delta then scale (delta / 35) (k + 36) else (delta, k)
termination_by delta
decreasing_by exact Nat.div_lt_self (by omega) (by omega)

/-- the shift of the bounds after a difference; `count` characters are there by then -/
def adapt (delta count : Nat) (first : Bool) : Nat :=
  let d := if first then delta / 700 else delta / 2
  let (d, k) := scale (d + d / count) 0
  k + 36 * d / (d + 38)

/-! ## writing -/

/-- the digits of a difference, from place `k` on -/
def digits (bias k q : Nat) : List Char :=
  let t := threshold k bias
  if q < t then [digitChar q]
  else digitChar (t + (q - t) % (36 - t)) :: digits bias (k + 36) ((q - t) / (36 - t))
termination_by q
decreasing_by
  have h := one_le_threshold k bias
  calc (q - threshold k bias) / (36 - threshold k bias)
      ≤ q - threshold k bias := Nat.div_le_self _ _
    _ < q := by omega

/-- where a writer stands -/
structure Writer where
  /-- what is written so far, the last piece first -/
  pieces : List (List Char)
  delta : Nat
  bias : Nat
  /-- how many characters are told -/
  told : Nat

/-- passes one character of a label while those of code point `n` are told -/
def Writer.pass (basic n : Nat) (w : Writer) (c : Char) : Writer :=
  if c.toNat < n then { w with delta := w.delta + 1 }
  else if c.toNat = n then
    { pieces := digits w.bias 36 w.delta :: w.pieces
      delta := 0
      bias := adapt w.delta (w.told + 1) (w.told = basic)
      told := w.told + 1 }
  else w

/-- tells the characters of the code points of a list, which is in order; `n` is the code point
after the last one told -/
def Writer.run (label : List Char) (basic : Nat) : Nat → List Nat → Writer → Writer
  | _, [], w => w
  | n, m :: ms, w =>
    let w := { w with delta := w.delta + (m - n) * (w.told + 1) }
    let w := label.foldl (Writer.pass basic m) w
    Writer.run label basic (m + 1) ms { w with delta := w.delta + 1 }

def isBasic (c : Char) : Bool := c.toNat < 0x80

/-- the code points beyond ASCII of a label, each once, in order -/
def others (label : List Char) : List Nat :=
  (((label.filter fun c => !isBasic c).map Char.toNat).mergeSort).eraseDups

def encode (label : List Char) : List Char :=
  let basic := label.filter isBasic
  let w := Writer.run label basic.length 128 (others label) ⟨[], 0, 72, basic.length⟩
  basic ++ (if basic = [] then [] else ['-']) ++ w.pieces.reverse.flatten

/-! ## reading -/

/-- a difference added to `i`, and the text after it; `weight` is that of place `k` -/
def difference? (bias : Nat) : List Char → Nat → Nat → Nat → Option (Nat × List Char)
  | [], _, _, _ => none
  | c :: r, k, weight, i =>
    match digitValue? c with
    | none => none
    | some d =>
      let t := threshold k bias
      if d < t then some (i + d * weight, r)
      else difference? bias r (k + 36) (weight * (36 - t)) (i + d * weight)

/-- the characters of a label as the differences of a text put them among those in front, `fuel`
differences at most; `n` is the code point told last, `i` the place after it -/
def insertAll? : Nat → Nat → Nat → Nat → List Char → List Char → Option (List Char)
  | _, _, _, _, label, [] => some label
  | 0, _, _, _, _, _ :: _ => none
  | fuel + 1, bias, n, i, label, s =>
    match difference? bias s 36 1 i with
    | none => none
    | some (j, r) =>
      let count := label.length + 1
      let n := n + j / count
      let place := j % count
      if h : n.isValidChar then
        insertAll? fuel (adapt (j - i) count (i = 0)) n (place + 1)
          (label.insertIdx place (Char.ofNatAux n h)) r
      else none

/-- the ASCII characters in front of the last hyphen, and what follows it; a hyphen with nothing in
front belongs to what follows -/
def splitLast (s : List Char) : List Char × List Char :=
  let back := s.reverse.takeWhile (· ≠ '-')
  let front := s.take (s.length - back.length - 1)
  if front = [] then ([], s) else (front, back.reverse)

/-- the label that a text in ASCII stands for -/
def decode? (s : List Char) : Option (List Char) :=
  let (front, back) := splitLast s
  if s.all isBasic then insertAll? back.length 72 128 0 front back else none

end DroneFleet.Domain.Punycode
