import DroneFleet.Proofs.Digits

/-!
# The words of a text

A text falls into words in one way only. Each word has blanks in front of it, or nothing, and reaches
to the next blank or to the end of the text.

* `Text.IsWord`            some characters that are not blank
* `Text.HasWords`          how a text falls into words, without saying how they are found
* `Text.hasWords_iff`      they are the words that are found
* `HasWords`               the same for texts as they stand in a queue
* `HasWords.isWord`        no word is empty or holds a blank
-/

namespace DroneFleet

namespace Text

/-- some characters that are not blank, one at least -/
structure IsWord (w : List Char) : Prop where
  ne_nil : w ≠ []
  unblank : ∀ c ∈ w, isBlank c = false

/-- does a word in front of the text end there? -/
def EndsWord (r : List Char) : Prop := ∀ c ∈ r.head?, isBlank c = true

/-- the words of a text in order: blanks come in front of each, and it reaches to the next blank or
to the end -/
inductive HasWords : List Char → List (List Char) → Prop where
  | blank {s : List Char} (h : ∀ c ∈ s, isBlank c = true) : HasWords s []
  | word {b w r : List Char} {ws : List (List Char)} (hb : ∀ c ∈ b, isBlank c = true)
      (hw : IsWord w) (hr : EndsWord r) (h : HasWords r ws) : HasWords (b ++ (w ++ r)) (w :: ws)

section
variable {b w r s : List Char} {ws : List (List Char)}

theorem endsWord_nil : EndsWord [] := nofun

theorem endsWord_cons {c : Char} (h : isBlank c = true) (r : List Char) : EndsWord (c :: r) := by
  intro d hd
  cases hd
  exact h

/-! ## the words that are found -/

theorem words_blank_append (hb : ∀ c ∈ b, isBlank c = true) (t : List Char) :
    words (b ++ t) = words t := by
  induction b with
  | nil => rfl
  | cons c b ih =>
    rw [List.cons_append, words_cons_blank (hb c List.mem_cons_self)]
    exact ih fun d hd => hb d (List.mem_cons_of_mem c hd)

theorem words_of_blank (h : ∀ c ∈ s, isBlank c = true) : words s = [] := by
  have rest := words_blank_append h []
  rw [List.append_nil] at rest
  rw [rest, words_nil]

theorem words_word_append (hw : IsWord w) (hr : EndsWord r) : words (w ++ r) = w :: words r := by
  cases r with
  | nil => rw [List.append_nil, words_of_unblank hw.ne_nil hw.unblank, words_nil]
  | cons d r =>
    have hd : isBlank d = true := hr d rfl
    rw [words_append_blank w hd, words_of_unblank hw.ne_nil hw.unblank, words_cons_blank hd]
    rfl

theorem HasWords.eq_words (h : HasWords s ws) : words s = ws := by
  induction h with
  | blank hs => exact words_of_blank hs
  | word hb hw hr _ ih => rw [words_blank_append hb, words_word_append hw hr, ih]

/-! ## there are words in every text -/

theorem HasWords.cons_blank {c : Char} (hc : isBlank c = true) (h : HasWords s ws) :
    HasWords (c :: s) ws := by
  cases h with
  | blank hs => exact .blank (List.forall_mem_cons.mpr ⟨hc, hs⟩)
  | word hb hw hr h => exact .word (b := c :: _) (List.forall_mem_cons.mpr ⟨hc, hb⟩) hw hr h

theorem HasWords.first {c : Char} (hc : isBlank c = false) (h : HasWords (c :: s) ws) :
    ∃ w r vs, c :: s = w ++ r ∧ ws = w :: vs ∧ IsWord w ∧ EndsWord r ∧ HasWords r vs := by
  obtain ⟨t, ht⟩ : ∃ t, t = c :: s := ⟨_, rfl⟩
  rw [← ht] at h
  cases h with
  | blank hs =>
    have blank := hs c (ht ▸ List.mem_cons_self)
    rw [hc] at blank
    cases blank
  | @word b w r vs hb hw hr h =>
    cases b with
    | nil => exact ⟨w, r, vs, ht.symm, rfl, hw, hr, h⟩
    | cons d b =>
      have same : d = c := (List.cons.inj ht).1
      have blank := hb d List.mem_cons_self
      rw [same, hc] at blank
      cases blank

theorem attach_false (c : Char) (ws : List (List Char)) : attach c false ws = [c] :: ws := by
  cases ws <;> rfl

theorem isWord_singleton {c : Char} (hc : isBlank c = false) : IsWord [c] :=
  ⟨List.cons_ne_nil c [], List.forall_mem_singleton.mpr hc⟩

theorem IsWord.cons {c : Char} (hc : isBlank c = false) (hw : IsWord w) : IsWord (c :: w) :=
  ⟨List.cons_ne_nil c w, List.forall_mem_cons.mpr ⟨hc, hw.unblank⟩⟩

theorem hasWords_words (s : List Char) : HasWords s (words s) := by
  induction s with
  | nil => exact .blank (List.forall_mem_nil _)
  | cons c s ih =>
    cases hc : isBlank c with
    | true =>
      rw [words_cons_blank hc]
      exact ih.cons_blank hc
    | false =>
      rw [words_cons_word hc]
      cases s with
      | nil => exact .word (b := []) (List.forall_mem_nil _) (isWord_singleton hc) endsWord_nil ih
      | cons d s =>
        cases hd : isBlank d with
        | true =>
          have apart : startsWord (d :: s) = false := by simp [startsWord, hd]
          rw [apart, attach_false]
          exact .word (b := []) (List.forall_mem_nil _) (isWord_singleton hc) (endsWord_cons hd s)
            ih
        | false =>
          -- the character belongs to the first word of the rest
          have touches : startsWord (d :: s) = true := by simp [startsWord, hd]
          obtain ⟨w, r, vs, hs, hws, hw, hr, h⟩ := ih.first hd
          rw [touches, hws, hs]
          exact .word (b := []) (List.forall_mem_nil _) (hw.cons hc) hr h

/-- **A text falls into words in one way**, and they are the ones that are found. -/
theorem hasWords_iff : HasWords s ws ↔ words s = ws := by
  refine ⟨HasWords.eq_words, ?_⟩
  rintro rfl
  exact hasWords_words s

theorem HasWords.isWord (h : HasWords s ws) : ∀ w ∈ ws, IsWord w := by
  induction h with
  | blank _ => exact List.forall_mem_nil _
  | word _ hw _ _ ih => exact List.forall_mem_cons.mpr ⟨hw, ih⟩

end

end Text

/-! ## texts of a queue -/

def HasWords (raw : String) (ws : List String) : Prop :=
  Text.HasWords raw.toList (ws.map String.toList)

theorem hasWords_iff {raw : String} {ws : List String} : HasWords raw ws ↔ wordsOf raw = ws := by
  unfold HasWords wordsOf
  rw [Text.hasWords_iff]
  constructor
  · intro h
    rw [h, List.map_map]
    simp
  · rintro rfl
    rw [List.map_map]
    simp

theorem hasWords_wordsOf (raw : String) : HasWords raw (wordsOf raw) := hasWords_iff.mpr rfl

theorem HasWords.isWord {raw : String} {ws : List String} (h : HasWords raw ws) :
    ∀ w ∈ ws, Text.IsWord w.toList := by
  intro w hw
  exact Text.HasWords.isWord h w.toList (List.mem_map_of_mem hw)

end DroneFleet
