import Formulary.CommandLine.Program
import Formulary.Proofs.Evaluation.Context
import Formulary.Proofs.Json.Line

namespace Formulary

/-! # Printing results

A value is printed on one line, and the status is zero.  There is one exception:
integers grow without bound under multiplication, but one of more digits than the
limit is not written, and the program stops with an error that is not reported.
-/

/-- What a result is shown as: strict JSON, or the number alone. -/
def Result.shown (json : Bool) (result : Result) : Text :=
  if json then result.toJson.line else result.value.resultText

theorem Result.shown_printable (json : Bool) (result : Result) :
    (result.shown json).PrintableAscii := by
  unfold shown
  split
  · exact result.toJson.line_printable
  · exact result.value.resultText_printable

theorem Result.shown_ne_nil (json : Bool) (result : Result) : result.shown json ≠ [] := by
  unfold shown
  split
  · exact List.cons_ne_nil _ _
  · exact result.value.resultText_ne_nil

theorem Number.isPrintable_eq_false_iff {value : Number} :
    value.isPrintable = false ↔ ∃ whole, value = .int whole ∧ 10 ^ digitLimit ≤ whole.natAbs := by
  cases value with
  | float value => simp [isPrintable]
  | int value =>
      rw [isPrintable, decide_eq_false_iff_not, Nat.not_lt, Nat.pow_eq]
      simp only [int.injEq, exists_eq_left']

theorem Document.validate_of_load {source : Source} {document : Json}
    (loaded : load source = .ok document) : validate document = .ok () := by
  unfold load at loaded
  split at loaded
  · cases loaded
  · obtain ⟨_, accepted, same⟩ := Except.bind_eq_ok_iff.mp loaded
    cases same
    exact accepted

/-- To run a source that loads is to look its security up and to compute its formula. -/
theorem Store.run_of_formula? {store : Store} {source : Source} {symbol : Text} {formula : Formula}
    {security : Security} {value : Number}
    (reads : (Document.load source).toOption.bind Document.formula? = some (symbol, formula))
    (known : store.security? symbol = some security)
    (computed : formula.evaluate (store.valueOf security.id) = .ok value) :
    store.run source = .ok (.ofValue value) := by
  cases loaded : Document.load source with
  | error rejection => simp [loaded, Except.toOption] at reads
  | ok document =>
      simp only [loaded, Except.toOption, Option.bind_some] at reads
      obtain ⟨_, _, reads', evaluated⟩ :=
        Document.evaluate_of_validate (Document.validate_of_load loaded)
      cases reads.symm.trans reads'
      have evaluated := evaluated store
      simp only [known, computed, Except.map] at evaluated
      simp only [run, loaded, Store.execute_of_ok evaluated]

namespace CommandLine

/-- Does the line tell of what has happened, and not of what is wrong? -/
def Line.isLog : Line → Bool
  | log .. | trace => true
  | plain _ | block _ | problem _ => false

variable {store : Store} {text : Text} {result : Result} {json : Bool} {logs : List Line}

theorem isLog_of_mem_logged {set : LogLevel} {lines : List (LogLevel × Text)} {line : Line}
    (listed : line ∈ logged set lines) : line.isLog = true := by
  obtain ⟨_, _, same⟩ := List.mem_map.mp listed
  exact same ▸ rfl

theorem isLog_of_mem_evaluationLines {set : LogLevel} {found : Except Failure (Security × Number)}
    {line : Line} (listed : line ∈ evaluationLines set found) : line.isLog = true := by
  unfold evaluationLines at listed
  split at listed
  · exact isLog_of_mem_logged listed
  · split at listed
    · cases listed
    · rcases List.mem_append.mp listed with logs | trace
      · exact isLog_of_mem_logged logs
      · rw [List.mem_singleton.mp trace]
        rfl
  · exact isLog_of_mem_logged listed

/-- Before a result is printed, nothing but what has happened is logged. -/
theorem runOutcome_logs (set : LogLevel) (json : Bool) (place : Text)
    (ran : store.run (.text text) = .ok result) :
    ∃ logs, (∀ line ∈ logs, line.isLog = true) ∧
      runOutcome set json place store text = printResult json logs result := by
  have loadedOnly : ∀ line ∈ logged set [loadedLine place store], line.isLog = true :=
    fun _ listed => isLog_of_mem_logged listed
  unfold Store.run at ran
  cases loaded : Document.load (.text text) with
  | ok document =>
      simp only [loaded, Except.ok.injEq] at ran
      simp only [runOutcome, loaded, ran]
      refine ⟨_, fun line listed => ?_, rfl⟩
      rcases List.mem_append.mp listed with before | evaluated
      · exact loadedOnly line before
      · exact isLog_of_mem_evaluationLines evaluated
  | error rejection =>
      cases rejection with
      | range error => simp [loaded] at ran
      | notJson =>
          simp only [loaded, Except.ok.injEq] at ran
          simp only [runOutcome, loaded, ran]
          exact ⟨_, loadedOnly, rfl⟩
      | violation violation =>
          simp only [loaded, Except.ok.injEq] at ran
          simp only [runOutcome, loaded, ran]
          exact ⟨_, loadedOnly, rfl⟩

theorem runOutcome_of_run (set : LogLevel) (json : Bool) (place : Text)
    (ran : store.run (.text text) = .ok result) :
    ∃ logs, runOutcome set json place store text = printResult json logs result := by
  obtain ⟨logs, _, outcome⟩ := runOutcome_logs set json place ran
  exact ⟨logs, outcome⟩

theorem printResult_of_printable (printable : result.value.isPrintable = true)
    (succeeded : result.success = true) :
    printResult json logs result = .ok ⟨0, result.shown json ++ "\n", logs⟩ := by
  cases json <;> simp [printResult, printable, succeeded, Result.shown]

theorem printResult_of_unprintable (tooLong : result.value.isPrintable = false) :
    printResult json logs result = .error (.fatal .unprintable) := by
  simp [printResult, tooLong]

/-- The value of a successful run is printed on one line with status zero,
unless it is an integer of more digits than the limit, which stops the program. -/
theorem prints_within_digitLimit (set : LogLevel) (json : Bool) (place : Text)
    (ran : store.run (.text text) = .ok result) (succeeded : result.success = true) :
    ((∀ whole, result.value = .int whole → whole.natAbs < 10 ^ Number.digitLimit) →
      ∃ logs, runOutcome set json place store text = .ok ⟨0, result.shown json ++ "\n", logs⟩ ∧
        (result.shown json).PrintableAscii ∧ result.shown json ≠ []) ∧
    (∀ whole, result.value = .int whole → 10 ^ Number.digitLimit ≤ whole.natAbs →
      runOutcome set json place store text = .error (.fatal .unprintable)) := by
  obtain ⟨logs, outcome⟩ := runOutcome_of_run set json place ran
  rw [outcome]
  constructor
  · intro short
    refine ⟨logs, printResult_of_printable ?_ succeeded, result.shown_printable json,
      result.shown_ne_nil json⟩
    by_contra tooLong
    obtain ⟨whole, same, long⟩ :=
      Number.isPrintable_eq_false_iff.mp (Bool.eq_false_iff.mpr tooLong)
    exact absurd (short whole same) (Nat.not_lt.mpr long)
  · intro whole same long
    exact printResult_of_unprintable (Number.isPrintable_eq_false_iff.mpr ⟨whole, same, long⟩)

/-- The price times a number below the range of floats. -/
def plunge : Text :=
  "\x7b\"security\":\"ABC\",\"expression\":\x7b\"fn\":\"*\",\"a\":\"price\",\"b\":-1e400\x7d\x7d"

theorem run_plunge :
    Document.pricedOnly.store.run (.text plunge) = .ok (.ofValue (.float (.infinity true))) := by
  have reads : (Document.load (.text plunge)).toOption.bind Document.formula? =
      some (Text.ofString "ABC",
        .apply .multiply (.reference "price") (.literal (.float (.infinity true)))) := by
    decide +kernel
  have multiplied : Operator.multiply.apply (.int 10) (.float (.infinity true)) =
      .ok (.float (.infinity true)) := by decide +kernel
  refine Store.run_of_formula? reads Document.security?_pricedOnly ?_
  simp only [Formula.evaluate, Document.valueOf_price, multiplied, bind, Except.bind,
    Except.mapError]

theorem prints_within_digitLimit_plunge :
    Document.pricedOnly.store.run (.text plunge) = .ok (.ofValue (.float (.infinity true))) ∧
    (∃ logs, runOutcome .warning false builtInPlace Document.pricedOnly.store plunge =
      .ok ⟨0, "-Infinity\n", logs⟩) ∧
    ∃ logs, runOutcome .warning true builtInPlace Document.pricedOnly.store plunge =
      .ok ⟨0, "\x7b\"success\": true, \"value\": null, \"message\": \"\", \"code\": \"\"\x7d\n",
        logs⟩ := by
  have short (whole : Int) (same : (Result.ofValue (.float (.infinity true))).value = .int whole) :
      whole.natAbs < 10 ^ Number.digitLimit := by
    cases same
  obtain ⟨logs, printed, _⟩ :=
    (prints_within_digitLimit .warning false builtInPlace run_plunge rfl).1 short
  obtain ⟨jsonLogs, jsonPrinted, _⟩ :=
    (prints_within_digitLimit .warning true builtInPlace run_plunge rfl).1 short
  exact ⟨run_plunge, ⟨logs, printed⟩, ⟨jsonLogs, jsonPrinted⟩⟩

/-- A factor multiplied by itself so many times. -/
def power (factor : Nat) : Nat → Formula
  | 0 => .literal (.int factor)
  | times + 1 => .apply .multiply (.literal (.int factor)) (power factor times)

theorem evaluate_power (resolve : Text → Except Failure Number) (factor times : Nat) :
    (power factor times).evaluate resolve = .ok (.int (factor ^ (times + 1) : Nat)) := by
  induction times with
  | zero => rw [power, Formula.evaluate, zero_add, pow_one]
  | succ times ih =>
      have multiplied : Operator.multiply.apply (.int factor) (.int (factor ^ (times + 1) : Nat)) =
          .ok (.int ((factor : Int) * (factor ^ (times + 1) : Nat))) := rfl
      simp only [power, Formula.evaluate, ih, multiplied, bind, Except.bind, Except.mapError]
      rw [pow_succ' factor (times + 1), Int.natCast_mul]

/-- A number of 309 digits, in the range of floats. -/
def broad : Nat := 10 ^ 308

def powerText : Nat → Text
  | 0 => .scalar '1' :: List.replicate 308 (.scalar '0')
  | times + 1 =>
    Text.ofString "\x7b\"fn\":\"*\",\"a\":" ++ powerText 0 ++ Text.ofString ",\"b\":" ++
      powerText times ++ Text.ofString "\x7d"

/-- A document whose value has 4313 digits. -/
def vast : Text :=
  Text.ofString "\x7b\"security\":\"ABC\",\"expression\":" ++ powerText 13 ++
    Text.ofString "\x7d"

theorem load_vast :
    (Document.load (.text vast)).toOption.bind Document.formula? =
      some (Text.ofString "ABC", power broad 13) := by
  decide +kernel

theorem run_vast :
    Store.builtIn.run (.text vast) = .ok (.ofValue (.int (broad ^ (13 + 1) : Nat))) := by
  have tables : Store.builtIn = Tables.store
      ⟨Store.builtInSecurities, Store.builtInAttributes, Store.builtInFacts⟩ := rfl
  have known : Store.builtIn.security? "ABC" = Store.builtInSecurities.head? := by
    rw [tables, Tables.store_security?]
    rfl
  exact Store.run_of_formula? load_vast known (evaluate_power _ _ 13)

/-- The value is computed, and neither way of printing it comes to an end. -/
theorem vast_unprinted :
    (∃ result, Store.builtIn.run (.text vast) = .ok result ∧ result.success = true) ∧
      ∀ set json, runOutcome set json builtInPlace .builtIn vast = .error (.fatal .unprintable) := by
  refine ⟨⟨_, run_vast, rfl⟩, fun set json => ?_⟩
  obtain ⟨logs, outcome⟩ := runOutcome_of_run set json builtInPlace run_vast
  -- the kernel computes these powers, which elaboration refuses to do
  have long : 10 ^ Number.digitLimit ≤ broad ^ (13 + 1) := by decide +kernel
  rw [outcome]
  exact printResult_of_unprintable (Number.isPrintable_eq_false_iff.mpr ⟨_, rfl, long⟩)

end CommandLine

end Formulary
