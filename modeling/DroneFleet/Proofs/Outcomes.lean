/-!
# Outcomes

An outcome is a value or the reason why there is none. What is computed from the value changes
neither whether there is one nor the reason.

* `map_eq_error_iff`, `exists_of_map_eq_ok`   where the outcome of a computed value comes from
-/

namespace DroneFleet

section
variable {ε α β : Type} {x : Except ε α} {g : α → β}

theorem map_eq_error_iff {e : ε} : x.map g = .error e ↔ x = .error e := by
  cases x with
  | error d => exact ⟨fun h => congrArg _ (Except.error.inj h), fun h => by rw [h]; rfl⟩
  | ok a => exact iff_of_false nofun nofun

theorem exists_of_map_eq_ok {b : β} (h : x.map g = .ok b) : ∃ a, x = .ok a ∧ g a = b := by
  cases x with
  | error e => cases h
  | ok a => exact ⟨a, rfl, Except.ok.inj h⟩

end

end DroneFleet
