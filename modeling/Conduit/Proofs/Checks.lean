import Mathlib.Logic.Basic

/-! # Checks one after another

A result that is found in steps is one that every step found, each from what the step before it
found. -/

namespace Conduit

variable {ε α β : Type} {found : Except ε α}

theorem bind_eq_ok_iff {next : α → Except ε β} {b : β} :
    (found >>= next) = .ok b ↔ ∃ a, found = .ok a ∧ next a = .ok b := by
  cases found with
  | error e => simp [bind, Except.bind]
  | ok a => simp [bind, Except.bind]

theorem pure_eq_ok_iff {a a' : α} : (pure a : Except ε α) = .ok a' ↔ a = a' := by
  simp [pure, Except.pure]

theorem map_eq_ok_iff {f : α → β} {b : β} :
    found.map f = .ok b ↔ ∃ a, found = .ok a ∧ f a = b := by
  cases found with
  | error e => simp [Except.map]
  | ok a => simp [Except.map]

end Conduit
