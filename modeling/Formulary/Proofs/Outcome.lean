namespace Formulary

/-! # Outcomes

When steps that may fail are taken one after the other, and what the outcome of
all of them says about each.
-/

namespace Except

variable {ε δ α β : Type}

theorem eq_ok_of_isOk {result : Except ε Unit} (ok : result.isOk = true) : result = .ok () := by
  cases result with
  | error reason => cases ok
  | ok _ => rfl

theorem bind_eq_ok_iff {first : Except ε α} {next : α → Except ε β} {result : β} :
    (first >>= next) = .ok result ↔ ∃ value, first = .ok value ∧ next value = .ok result := by
  cases first with
  | error reason => simp [bind, Except.bind]
  | ok value => simp [bind, Except.bind]

theorem ok_bind (value : α) (next : α → Except ε β) :
    ((.ok value : Except ε α) >>= next) = next value := rfl

theorem error_bind (reason : ε) (next : α → Except ε β) :
    ((.error reason : Except ε α) >>= next) = .error reason := rfl

def reason? : Except ε α → Option ε
  | .error reason => some reason
  | .ok _ => none

theorem reason?_eq_some_iff {result : Except ε α} {reason : ε} :
    reason? result = some reason ↔ result = .error reason := by
  cases result <;> simp [reason?]

theorem toOption_eq_some_iff {result : Except ε α} {value : α} :
    result.toOption = some value ↔ result = .ok value := by
  cases result <;> simp [Except.toOption]

theorem not_ok_of_error {result : Except ε α} {reason : ε} (failed : result = .error reason) :
    ¬ ∃ value, result = .ok value := by
  simp [failed]

/-- Whether there is a result, and the error if there is none. -/
def forget (result : Except ε α) : Except ε Unit :=
  result.map fun _ => ()

theorem forget_eq_ok_iff {result : Except ε α} :
    forget result = .ok () ↔ ∃ value, result = .ok value := by
  cases result <;> simp [forget, Except.map]

theorem forget_eq_error_iff {result : Except ε α} {reason : ε} :
    forget result = .error reason ↔ result = .error reason := by
  cases result <;> simp [forget, Except.map]

theorem forget_bind (first : Except ε α) (next : α → Except ε β) :
    forget (first >>= next) = first >>= fun value => forget (next value) := by
  cases first <;> rfl

theorem map_bind {γ : Type} (first : Except ε α) (change : α → γ)
    (next : γ → Except ε β) :
    first.map change >>= next = first >>= fun value => next (change value) := by
  cases first <;> rfl

end Except

end Formulary
