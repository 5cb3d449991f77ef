-- Results that may be errors: what a chain of them returns, and errors that are told as others.
namespace WebListener

variable {fault told : Type _} {tell : fault → told} {result : Except fault α} {value : α} {e : told}

theorem bind_ok_iff {next : α → Except fault β} {last : β} :
    (result >>= next) = .ok last ↔ ∃ value, result = .ok value ∧ next value = .ok last := by
  cases result with
  | error fault => simp [bind, Except.bind]
  | ok value => simp [bind, Except.bind]

theorem mapError_ok_iff : result.mapError tell = .ok value ↔ result = .ok value := by
  cases result with
  | error fault => exact ⟨nofun, nofun⟩
  | ok own =>
    constructor
    · rintro ⟨⟩
      rfl
    · rintro ⟨⟩
      rfl

theorem mapError_error_iff :
    result.mapError tell = .error e ↔ ∃ cause, result = .error cause ∧ tell cause = e := by
  cases result with
  | error fault =>
    constructor
    · rintro ⟨⟩
      exact ⟨fault, rfl, rfl⟩
    · rintro ⟨_, ⟨⟩, rfl⟩
      rfl
  | ok value =>
    constructor
    · rintro ⟨⟩
    · rintro ⟨_, ⟨⟩, _⟩

theorem ok_of_toOption (found : result.toOption = some value) : result = .ok value := by
  cases result with
  | error fault => cases found
  | ok other =>
    cases found
    rfl

end WebListener
