/-!
Contract: where the value or the error of a computation that can fail comes from.

Owns: reading a result back through a function that changed its value, and through a
computation that went on with it.

Does not own: the errors of queries (`Query.Fault`) and of documents (`Failure`).
-/

namespace Outliner

variable {α β ε : Type}

/-- A value that was changed by a function comes from a value before it. -/
theorem exists_of_map_eq_ok {change : α → β} {result : Except ε α} {value : β}
    (mapped : result.map change = .ok value) :
    ∃ before, result = .ok before ∧ change before = value := by
  cases result with
  | error error => cases mapped
  | ok before => exact ⟨before, rfl, Except.ok.inj mapped⟩

theorem exists_of_bind_eq_ok {result : Except ε α} {next : α → Except ε β} {value : β}
    (bound : result.bind next = .ok value) :
    ∃ before, result = .ok before ∧ next before = .ok value := by
  cases result with
  | error error => cases bound
  | ok before => exact ⟨before, rfl, bound⟩

theorem exists_of_isOk {result : Except ε α} (isOk : result.isOk = true) :
    ∃ value, result = .ok value := by
  cases result with
  | error error => cases isOk
  | ok value => exact ⟨value, rfl⟩

/-- An error is the same whatever the value would be. Where values have no decidable
equality, the left side can still be evaluated. -/
theorem eq_error_of_map {result : Except ε α} {error : ε}
    (failed : result.map (fun _ => ()) = .error error) : result = .error error := by
  cases result with
  | error found => exact congrArg Except.error (Except.error.inj failed)
  | ok value => cases failed

/-- Where the second part of a value is kept, there was a first part. -/
theorem map_snd_ok {result : Except ε (α × β)} {right : β}
    (ok : result.map Prod.snd = .ok right) : ∃ left, result = .ok (left, right) := by
  obtain ⟨⟨left, _⟩, isResult, rfl⟩ := exists_of_map_eq_ok ok
  exact ⟨left, isResult⟩

end Outliner
