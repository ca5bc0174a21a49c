/-!
# Lines of a text

* `lines`        a text cut at every newline; never empty
* `unlines`      lines joined with one newline between neighbours
* `unlines_lines`   cutting and joining gives the text back
* `lines_unlines`   joining and cutting gives the lines back, when there is one at least and none
                    holds a newline
-/

namespace DroneFleet.Text

/-- the text cut at every newline: one line more than it has newlines -/
def lines : List Char → List (List Char)
  | [] => [[]]
  | c :: r =>
    if c = '\n' then [] :: lines r
    else
      match lines r with
      | l :: ls => (c :: l) :: ls
      | [] => [[c]]

/-- the lines joined with one newline between neighbours -/
def unlines : List (List Char) → List Char
  | [] => []
  | [l] => l
  | l :: m :: ls => l ++ '\n' :: unlines (m :: ls)

theorem lines_ne_nil (s : List Char) : lines s ≠ [] := by
  cases s with
  | nil => simp [lines]
  | cons c r =>
    unfold lines
    split
    · simp
    · split <;> simp

theorem unlines_cons_cons_head (c : Char) (l : List Char) (ls : List (List Char)) :
    unlines ((c :: l) :: ls) = c :: unlines (l :: ls) := by
  cases ls <;> simp [unlines]

theorem unlines_lines (s : List Char) : unlines (lines s) = s := by
  induction s with
  | nil => rfl
  | cons c r ih =>
    cases hl : lines r with
    | nil => exact absurd hl (lines_ne_nil r)
    | cons l ls =>
      rw [hl] at ih
      by_cases hc : c = '\n'
      · simp [lines, hc, hl, unlines, ih]
      · simp [lines, hc, hl, unlines_cons_cons_head, ih]

theorem lines_eq_singleton {l : List Char} (h : '\n' ∉ l) : lines l = [l] := by
  induction l with
  | nil => rfl
  | cons c r ih =>
    simp only [List.mem_cons, not_or] at h
    have hc : c ≠ '\n' := fun e => h.1 e.symm
    simp [lines, hc, ih h.2]

theorem lines_append_newline {l : List Char} (h : '\n' ∉ l) (t : List Char) :
    lines (l ++ '\n' :: t) = l :: lines t := by
  induction l with
  | nil => simp [lines]
  | cons c r ih =>
    simp only [List.mem_cons, not_or] at h
    have hc : c ≠ '\n' := fun e => h.1 e.symm
    simp [lines, hc, ih h.2]

theorem lines_unlines {ls : List (List Char)} (hne : ls ≠ []) (h : ∀ l ∈ ls, '\n' ∉ l) :
    lines (unlines ls) = ls := by
  induction ls with
  | nil => exact absurd rfl hne
  | cons l ls ih =>
    have hl : '\n' ∉ l := h l (by simp)
    cases ls with
    | nil => simpa [unlines] using lines_eq_singleton hl
    | cons m ms =>
      rw [unlines, lines_append_newline hl, ih (by simp)]
      intro k hk
      exact h k (by simp [hk])

theorem newline_notMem_of_mem_lines {s l : List Char} (h : l ∈ lines s) : '\n' ∉ l := by
  induction s generalizing l with
  | nil => simp [lines] at h; simp [h]
  | cons c r ih =>
    by_cases hc : c = '\n'
    · simp only [lines, hc, if_true, List.mem_cons] at h
      rcases h with rfl | h
      · simp
      · exact ih h
    · cases hl : lines r with
      | nil => exact absurd hl (lines_ne_nil r)
      | cons m ms =>
        simp only [lines, hc, if_false, hl, List.mem_cons] at h
        rcases h with rfl | h
        · have hm : '\n' ∉ m := ih (by simp [hl])
          simp only [List.mem_cons, not_or]
          exact ⟨fun e => hc e.symm, hm⟩
        · exact ih (by simp [hl, h])

end DroneFleet.Text
