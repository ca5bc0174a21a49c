/-!
# Blank characters and words

* `isBlank`              the characters that separate words, the Unicode property `White_Space`
* `trimStart`, `trim`    a text without the blanks at its start, at both ends
* `words`                the maximal runs of characters that are not blank
* `words_append_blank`   a blank ends a word, whatever stands around it
-/

namespace DroneFleet.Text

/-- the blank characters as ranges of code points, both ends included -/
def blankRanges : List (Nat × Nat) :=
  [(0x09, 0x0D), (0x20, 0x20), (0x85, 0x85), (0xA0, 0xA0), (0x1680, 0x1680), (0x2000, 0x200A),
   (0x2028, 0x2029), (0x202F, 0x202F), (0x205F, 0x205F), (0x3000, 0x3000)]

def isBlank (c : Char) : Bool :=
  blankRanges.any fun r => r.1 ≤ c.toNat && c.toNat ≤ r.2

/-- the text from its first character that is not blank -/
def trimStart (s : List Char) : List Char :=
  s.dropWhile isBlank

/-- the text up to its last character that is not blank -/
def trimEnd (s : List Char) : List Char :=
  (s.reverse.dropWhile isBlank).reverse

def trim (s : List Char) : List Char :=
  trimEnd (trimStart s)

/-- a character in front of a list of words: it joins the first word if that word begins right
after it -/
def attach (c : Char) (touches : Bool) : List (List Char) → List (List Char)
  | w :: ws => if touches then (c :: w) :: ws else [c] :: w :: ws
  | [] => [[c]]

def startsWord : List Char → Bool
  | c :: _ => !isBlank c
  | [] => false

/-- the words of a text: its maximal runs of characters that are not blank, in order -/
def words : List Char → List (List Char)
  | [] => []
  | c :: r => if isBlank c then words r else attach c (startsWord r) (words r)

theorem words_nil : words [] = [] := rfl

theorem words_cons_blank {c : Char} (h : isBlank c = true) (r : List Char) :
    words (c :: r) = words r := by
  simp [words, h]

theorem words_cons_word {c : Char} (h : isBlank c = false) (r : List Char) :
    words (c :: r) = attach c (startsWord r) (words r) := by
  simp [words, h]

theorem trimStart_cons_word {c : Char} (h : isBlank c = false) (r : List Char) :
    trimStart (c :: r) = c :: r := by
  simp [trimStart, List.dropWhile, h]

theorem words_ne_nil_of_startsWord {s : List Char} (h : startsWord s = true) : words s ≠ [] := by
  cases s with
  | nil => simp [startsWord] at h
  | cons c r =>
    have hc : isBlank c = false := by simpa [startsWord] using h
    rw [words_cons_word hc]
    unfold attach
    split
    · split <;> simp
    · simp

/-- a blank ends a word, whatever stands around it -/
theorem words_append_blank (s : List Char) {b : Char} (hb : isBlank b = true) (t : List Char) :
    words (s ++ b :: t) = words s ++ words t := by
  induction s with
  | nil => simp [words, hb]
  | cons c r ih =>
    cases hc : isBlank c with
    | true => simp [words, hc, ih]
    | false =>
      rw [List.cons_append, words_cons_word hc, words_cons_word hc, ih]
      cases r with
      | nil =>
        have hs : startsWord ([] ++ b :: t) = false := by simp [startsWord, hb]
        rw [hs, words_nil]
        cases words t <;> simp [attach]
      | cons d r' =>
        have hs : startsWord (d :: r' ++ b :: t) = startsWord (d :: r') := rfl
        rw [hs]
        cases hd : startsWord (d :: r') with
        | false =>
          cases words (d :: r') with
          | nil => cases words t <;> simp [attach]
          | cons w ws => simp [attach]
        | true =>
          have hne := words_ne_nil_of_startsWord hd
          cases hw : words (d :: r') with
          | nil => exact absurd hw hne
          | cons w ws => simp [attach]

end DroneFleet.Text
