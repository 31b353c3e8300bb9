import Formulary.Proofs.CommandLine.Printing
import Formulary.Proofs.Json.LineRoundTrip
import Formulary.Proofs.Json.Strictness

namespace Formulary

/-! # Results in JSON

Asked for JSON, the program prints a result on one line that documents could
have: strict JSON, read back as the members of the result.  Infinities and
not-a-number are printed as null.
-/

/-- A result that an execution or a run ends with. -/
inductive Result.Returned : Result → Prop where
  | execute (store : Store) (document : Json) : Returned (store.execute document)
  | run {store : Store} {source : Source} {result : Result} (ran : store.run source = .ok result) :
      Returned result

theorem Code.name_scalar (code : Code) : code.name.Scalar := by
  cases code <;> decide

namespace Result

variable {result : Result}

theorem code_execute (store : Store) (document : Json) : (store.execute document).code.Scalar := by
  unfold Store.execute
  split
  · exact fun _ member => absurd member List.not_mem_nil
  · exact Code.name_scalar _

theorem Returned.code_scalar (returned : result.Returned) : result.code.Scalar := by
  cases returned with
  | execute store document => exact code_execute store document
  | @run store source _ ran =>
      unfold Store.run at ran
      split at ran <;> cases ran
      · exact code_execute store _
      · exact Code.name_scalar .invalidJson
      · exact Code.name_scalar .invalidDocument

theorem isPrintable_of_short (short : ∀ whole, result.value = .int whole →
    whole.natAbs < 10 ^ Number.digitLimit) : result.value.isPrintable = true := by
  by_contra long
  obtain ⟨whole, same, tooLong⟩ := Number.isPrintable_eq_false_iff.mp (Bool.eq_false_iff.mpr long)
  exact absurd (short whole same) (Nat.not_lt.mpr tooLong)

theorem jsonValue_legible (printable : result.value.isPrintable = true) :
    result.jsonValue.IsLegible := by
  unfold jsonValue
  split
  · rename_i finite
    exact .number finite printable
  · exact .null

theorem toJson_legible (returned : result.Returned) (printable : result.value.isPrintable = true)
    (scalar : result.message.Scalar) : result.toJson.IsLegible := by
  have distinct : (["success", "value", "message", "code"] : List Text).Nodup := by decide
  refine .object distinct ?_ ?_
  · simp only [List.forall_mem_cons, List.not_mem_nil, false_imp_iff, implies_true, and_true]
    decide
  · simp only [List.forall_mem_cons, List.not_mem_nil, false_imp_iff, implies_true, and_true]
    exact ⟨.bool _, jsonValue_legible printable, .string scalar, .string returned.code_scalar⟩

theorem toJson_nesting (result : Result) : result.toJson.nesting ≤ Json.nestingLimit := by
  have number : result.jsonValue.nesting = 0 := by
    unfold jsonValue
    split <;> rfl
  simp [toJson, Json.nesting, Json.nestingOfFields, number, Json.nestingLimit]

theorem jsonValue_eq_null_iff : result.jsonValue = .null ↔
    ∃ float, result.value = .float float ∧ float.isFinite = false := by
  unfold jsonValue
  cases result.value with
  | int whole => simp [Number.isFinite]
  | float float => cases finite : float.isFinite <;> simp [Number.isFinite, finite]

end Result

namespace CommandLine

/-- The line of a result is strict JSON, and reading it gives the result back. -/
theorem printResult_json {result : Result} (returned : result.Returned)
    (short : ∀ whole, result.value = .int whole → whole.natAbs < 10 ^ Number.digitLimit)
    (scalar : result.message.Scalar) :
    ∃ line,
      (∀ logs, printResult true logs result =
        .ok ⟨if result.success then 0 else 1, line ++ "\n", logs⟩) ∧
      (∀ set place store text, store.run (.text text) = .ok result →
        ∃ logs, runOutcome set true place store text =
          .ok ⟨if result.success then 0 else 1, line ++ "\n", logs⟩) ∧
      line.PrintableAscii ∧ line.holdsConstant = false ∧
      ∃ value, Document.parse (.text line) = some (.object
          [("success", .bool result.success), ("value", value),
            ("message", .string result.message), ("code", .string result.code)]) ∧
        (value = .null ↔ ∃ float, result.value = .float float ∧ float.isFinite = false) ∧
        (result.value.isFinite = true → value = .number result.value) := by
  have printable := Result.isPrintable_of_short short
  have legible := Result.toJson_legible returned printable scalar
  have read : Json.read .strict result.toJson.line = .ok result.toJson :=
    Json.read_line legible result.toJson_nesting
  have printed (logs : List Line) : printResult true logs result =
      .ok ⟨if result.success then 0 else 1, result.toJson.line ++ "\n", logs⟩ := by
    simp [printResult, printable]
  refine ⟨result.toJson.line, printed, ?_, result.toJson.line_printable,
    Json.holdsConstant_of_read read, result.jsonValue, ?_, Result.jsonValue_eq_null_iff,
    fun finite => if_pos finite⟩
  · intro set place store text ran
    obtain ⟨logs, outcome⟩ := runOutcome_of_run set true place ran
    exact ⟨logs, outcome.trans (printed logs)⟩
  · rw [Document.parse, read]
    rfl

/-- A quote, a line break, and a character beyond the first plane. -/
def clef : Text := "\"\n𝄞"

def clefDocument : Json := .object [("security", .string clef)]

theorem execute_clefDocument :
    Document.pricedOnly.store.execute clefDocument = .ofFailure (.unknownSecurity clef) := by
  have unknown : Document.pricedOnly.store.security? clef = none :=
    (Document.pricedOnly.store_security? clef).trans (by decide)
  have named : Document.pricedOnly.store.securityNamed (.string clef) =
      .error (.unknownSecurity clef) := by
    rw [Store.securityNamed, unknown]
  have symbol : Fields.get? Document.securityName [("security", .string clef)] =
      some (.string clef) := rfl
  rw [Store.execute, clefDocument, Document.evaluate, symbol]
  simp only [named, bind, Except.bind]

theorem printResult_json_clef :
    (Result.ofFailure (.unknownSecurity clef)).Returned ∧
    (∀ whole, (Result.ofFailure (.unknownSecurity clef)).value = .int whole →
      whole.natAbs < 10 ^ Number.digitLimit) ∧
    (Result.ofFailure (.unknownSecurity clef)).message.Scalar ∧
    ∃ line : Text, line = "\x7b\"success\": false, \"value\": 0, \"message\": " ++
        "\"Security (\\\"\\n\\ud834\\udd1e) could not be found.\", \"code\": \"DSL101\"\x7d" ∧
      printResult true [] (.ofFailure (.unknownSecurity clef)) = .ok ⟨1, line ++ "\n", []⟩ ∧
      line.PrintableAscii ∧ line.holdsConstant = false ∧
      Document.parse (.text line) = some (.object
        [("success", .bool false), ("value", .number (.int 0)),
          ("message", .string ("Security (" ++ clef ++ ") could not be found.")),
          ("code", .string "DSL101")]) := by
  have returned : (Result.ofFailure (.unknownSecurity clef)).Returned :=
    execute_clefDocument ▸ .execute _ _
  have short (whole : Int) (same : (Result.ofFailure (.unknownSecurity clef)).value = .int whole) :
      whole.natAbs < 10 ^ Number.digitLimit := by
    cases same
    exact Nat.pow_pos (by decide)
  have scalar : (Result.ofFailure (.unknownSecurity clef)).message.Scalar := by decide
  obtain ⟨line, printed, _, ascii, noConstant, value, parsed, _, kept⟩ :=
    printResult_json returned short scalar
  obtain rfl := kept rfl
  refine ⟨returned, short, scalar, line, ?_, printed [], ascii, noConstant, parsed⟩
  have shown : (Result.ofFailure (.unknownSecurity clef)).toJson.line = line := by
    simpa [printResult, Result.isPrintable_of_short short] using printed []
  rw [← shown]
  decide +kernel

end CommandLine

end Formulary
