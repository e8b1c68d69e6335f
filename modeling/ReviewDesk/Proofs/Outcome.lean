import ReviewDesk.Fault

/-!
# Results of chains of steps

A chain of steps has a result only when each step has one, and an integration has
succeeded only when it neither broke off nor gave a reason for its failure.
-/

namespace ReviewDesk

variable {ε α β : Type}

theorem bind_eq_ok_iff {result : Except ε α} {next : α → Except ε β} {b : β} :
    (result >>= next) = .ok b ↔ ∃ a, result = .ok a ∧ next a = .ok b := by
  cases result with
  | error e => simp [bind, Except.bind]
  | ok a => simp [bind, Except.bind]

namespace Outcome

theorem ofAttempt_eq_success_iff {result : Except Fault (Outcome α)} {value : α} :
    ofAttempt result = .success value ↔ result = .ok (.success value) := by
  cases result with
  | error fault => simp [ofAttempt]
  | ok outcome => simp [ofAttempt]

theorem value?_eq_some_iff {outcome : Outcome α} {value : α} :
    outcome.value? = some value ↔ outcome = .success value := by
  cases outcome with
  | success other => simp [value?]
  | failure reason detail => simp [value?]

end Outcome
end ReviewDesk
