/-! Results that may be faults, and what it takes for one to be there. -/

namespace Gleaner

variable {ε α β : Type}

theorem eq_ok_of_map {f : α → β} {o : Except ε α} {b : β} (h : o.map f = .ok b) :
    ∃ a, o = .ok a ∧ b = f a := by
  cases o with
  | error e => cases h
  | ok a => exact ⟨a, rfl, (Except.ok.inj h).symm⟩

theorem eq_error_of_map {f : α → β} {o : Except ε α} {e : ε} (h : o.map f = .error e) :
    o = .error e := by
  cases o with
  | error e => exact congrArg Except.error (Except.error.inj h)
  | ok a => cases h

theorem eq_ok_of_toOption {o : Except ε α} {a : α} (h : o.toOption = some a) : o = .ok a := by
  cases o with
  | error e => cases h
  | ok c =>
    cases h
    rfl

theorem exists_error_of_toOption {o : Except ε α} (h : o.toOption = none) : ∃ e, o = .error e := by
  cases o with
  | error e => exact ⟨e, rfl⟩
  | ok a => cases h

end Gleaner
