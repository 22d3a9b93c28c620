/-!
# Results in steps

A result that is put together from other results is a value only when each of them is one, and a
result that is refused under some condition is a value only when the condition fails. So a value
that is the outcome of several steps is taken apart one step after the other: `exists_of_bind_ok`
for a step whose value the next ones use, `of_unless_ok` and `of_guard_ok` for one that can only be
refused. `exists_of_map_ok`, `of_mapError_ok` and `exists_of_toOption_map` are for values and errors
that have been changed on the way.
-/

set_option autoImplicit false

namespace Runbook

/-- A result that is got in two steps. -/
theorem exists_of_bind_ok {ε α β : Type} {result : Except ε α} {next : α → Except ε β} {value : β}
    (h : result >>= next = .ok value) : ∃ found, result = .ok found ∧ next found = .ok value := by
  cases result with
  | error error => cases h
  | ok found => exact ⟨found, rfl, h⟩

theorem exists_of_map_ok {ε α β : Type} {result : Except ε α} {change : α → β} {value : β}
    (h : result.map change = .ok value) : ∃ found, result = .ok found ∧ change found = value := by
  cases result with
  | error error => cases h
  | ok found => exact ⟨found, rfl, Except.ok.inj h⟩

/-- A result whose error would have been changed. -/
theorem of_mapError_ok {ε δ α : Type} {result : Except ε α} {change : ε → δ} {value : α}
    (h : result.mapError change = .ok value) : result = .ok value := by
  cases result with
  | error error => cases h
  | ok found => exact congrArg _ (Except.ok.inj h)

/-- A result of which something has been evaluated. -/
theorem exists_of_toOption_map {ε α β : Type} {result : Except ε α} {change : α → β} {value : β}
    (h : result.toOption.map change = some value) :
    ∃ found, result = .ok found ∧ change found = value := by
  cases result with
  | error error => cases h
  | ok found => exact ⟨found, rfl, Option.some.inj h⟩

/-- A result that is refused if something is the case. -/
theorem of_unless_ok {ε α : Type} {refused : Prop} [Decidable refused] {error : ε}
    {result : Except ε α} {value : α}
    (h : (if refused then .error error else result) = .ok value) :
    ¬refused ∧ result = .ok value := by
  split at h
  · cases h
  · next hgranted => exact ⟨hgranted, h⟩

/-- A result in steps that is refused before the next one if something is the case. -/
theorem of_guard_ok {ε α : Type} {refused : Prop} [Decidable refused] {error : ε}
    {next : Unit → Except ε α} {value : α}
    (h : (if refused then (throw error : Except ε Unit) >>= next else next ()) = .ok value) :
    ¬refused ∧ next () = .ok value :=
  of_unless_ok h

end Runbook
