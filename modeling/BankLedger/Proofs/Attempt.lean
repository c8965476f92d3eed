/-!
# Attempts

An attempt ends with an answer or with the reason why it was refused. Attempts are made one after
the other, and the first refusal ends them all. So a sequence that succeeds can be taken apart: each
of its attempts has succeeded.

## Theorems

* `bind_eq_ok_iff`: Two attempts succeed when the first does and then the second.
* `map_eq_ok_iff`: An answer that is only rewritten.
* `check_eq_ok_iff`: An attempt that is refused on a condition.
-/

namespace BankLedger

namespace Attempt

variable {ε α β : Type}

@[simp] theorem pure_eq (a : α) : (pure a : Except ε α) = .ok a := rfl

@[simp] theorem throw_eq (e : ε) : (throw e : Except ε α) = .error e := rfl

@[simp] theorem ok_bind (a : α) (f : α → Except ε β) : (Except.ok a >>= f) = f a := rfl

@[simp] theorem error_bind (e : ε) (f : α → Except ε β) : (Except.error e >>= f) = .error e := rfl

@[simp] theorem map_ok (a : α) (f : α → β) : (Except.ok a : Except ε α).map f = .ok (f a) := rfl

@[simp] theorem map_error (e : ε) (f : α → β) : (Except.error e).map f = .error e := rfl

/-- Two attempts succeed when the first does, and then the second with its answer. -/
theorem bind_eq_ok_iff (x : Except ε α) (f : α → Except ε β) (b : β) :
    (x >>= f) = .ok b ↔ ∃ a, x = .ok a ∧ f a = .ok b := by
  cases x with
  | error e => simp only [error_bind, reduceCtorEq, false_and, exists_false]
  | ok a => simp only [ok_bind, Except.ok.injEq, exists_eq_left']

/-- An answer that is only rewritten. -/
theorem map_eq_ok_iff (x : Except ε α) (f : α → β) (b : β) :
    x.map f = .ok b ↔ ∃ a, x = .ok a ∧ f a = b := by
  cases x with
  | error e => simp only [map_error, reduceCtorEq, false_and, exists_false]
  | ok a => simp only [map_ok, Except.ok.injEq, exists_eq_left']

/-- An attempt fails as it does, whatever its answer is turned into. -/
theorem map_eq_error_iff (x : Except ε α) (f : α → β) (e : ε) :
    x.map f = .error e ↔ x = .error e := by
  cases x with
  | error e' => simp only [map_error, Except.error.injEq]
  | ok a => simp only [map_ok, reduceCtorEq]

/-- An attempt that is refused on a condition is made when the condition does not hold. -/
theorem check_eq_ok_iff (p : Prop) [Decidable p] (e : ε) (x : Except ε α) (a : α) :
    (if p then .error e else x) = .ok a ↔ ¬ p ∧ x = .ok a := by
  by_cases h : p
  · rw [if_pos h]
    exact iff_of_false nofun fun hno => hno.1 h
  · rw [if_neg h]
    exact (and_iff_right h).symm

end Attempt

end BankLedger
