import Formulary.Proofs.Evaluation.Safety

namespace Formulary

/-! # What evaluation accepts

Evaluation is laxer than validation: members beyond those it looks up are
passed over, and zero, not-a-number and the empty name are operands like any
other.  It gives a value exactly for the values of this looser grammar whose
names resolve and whose operations stay in range, and a failure with its code
and its message for everything else.
-/

/-- The name is that of an attribute which has a value for the security. -/
def Store.Resolves (store : Store) (securityId : Id) (name : Text) : Prop :=
  ∃ found fact, store.attribute? name = some found ∧ store.fact? found.id securityId = some fact

/-- A number, a name that resolves, or an object with at least an operator and
two operands. -/
inductive IsLooseOperand (store : Store) (securityId : Id) : Json → Prop where
  | literal (value : Number) : IsLooseOperand store securityId (.number value)
  | reference {name : Text} (resolves : store.Resolves securityId name) :
      IsLooseOperand store securityId (.string name)
  | expression {node : Fields} {operator : Operator} {operand : Side → Json}
      (named : node.get? Member.operator.name = some (.string [operator.symbol]))
      (present : ∀ side, node.get? side.name = some (operand side))
      (valid : ∀ side, IsLooseOperand store securityId (operand side)) :
      IsLooseOperand store securityId (.object node)

variable {store : Store} {securityId : Id}

theorem Store.resolves_iff {name : Text} :
    store.Resolves securityId name ↔ ∃ value, store.valueOf securityId name = .ok value := by
  unfold Resolves valueOf
  cases store.attribute? name with
  | none => simp
  | some found =>
      simp only [Option.some.injEq, exists_and_left, exists_eq_left']
      cases store.fact? found.id securityId <;> simp

theorem Store.securityNamed_eq_ok {named : Json} {security : Security} :
    store.securityNamed named = .ok security ↔
      ∃ symbol, named = .string symbol ∧ store.security? symbol = some security := by
  cases named with
  | string symbol =>
      simp only [securityNamed, Json.string.injEq, exists_eq_left']
      cases store.security? symbol <;> simp
  | number value =>
      rw [securityNamed]
      split <;> simp
  | _ => simp [securityNamed]

theorem isLooseOperand_object_iff {node : Fields} :
    IsLooseOperand store securityId (.object node) ↔
      (∃ operator : Operator, node.get? Member.operator.name = some (.string [operator.symbol])) ∧
        ∀ side : Side, ∃ operand, node.get? side.name = some operand ∧
          IsLooseOperand store securityId operand := by
  constructor
  · intro valid
    cases valid with
    | expression named present valid =>
        exact ⟨⟨_, named⟩, fun side => ⟨_, present side, valid side⟩⟩
  · rintro ⟨⟨operator, named⟩, operands⟩
    choose operand present valid using operands
    exact .expression named present valid

/-- The values of the looser grammar are those with a formula all of whose names resolve. -/
theorem isLooseOperand_iff {value : Json} :
    IsLooseOperand store securityId value ↔
      ∃ formula, value.formula? = some formula ∧
        ∀ name ∈ formula.references, store.Resolves securityId name := by
  constructor
  · intro valid
    induction valid with
    | literal value => exact ⟨.literal value, rfl, by simp [Formula.references]⟩
    | @reference name resolves =>
        exact ⟨.reference name, rfl, by simpa [Formula.references] using resolves⟩
    | @expression node operator operand named present valid ih =>
        obtain ⟨left, readsLeft, leftResolves⟩ := ih .left
        obtain ⟨right, readsRight, rightResolves⟩ := ih .right
        refine ⟨.apply operator left right, ?_, fun name member => ?_⟩
        · exact Json.formula?_eq_apply.mpr
            ⟨node, _, _, rfl, named, present .left, readsLeft, present .right, readsRight⟩
        · rcases List.mem_append.mp member with onLeft | onRight
          · exact leftResolves name onLeft
          · exact rightResolves name onRight
  · rintro ⟨formula, reads, resolves⟩
    induction formula generalizing value with
    | literal number =>
        obtain rfl := Json.formula?_eq_literal.mp reads
        exact .literal number
    | reference name =>
        obtain rfl := Json.formula?_eq_reference.mp reads
        exact .reference (resolves name (by simp [Formula.references]))
    | apply operator left right leftIH rightIH =>
        obtain ⟨node, _, _, rfl, named, onLeft, readsLeft, onRight, readsRight⟩ :=
          Json.formula?_eq_apply.mp reads
        refine isLooseOperand_object_iff.mpr ⟨⟨operator, named⟩, ?_⟩
        rintro (_ | _)
        · exact ⟨_, onLeft, leftIH readsLeft fun name member =>
            resolves name (List.mem_append_left _ member)⟩
        · exact ⟨_, onRight, rightIH readsRight fun name member =>
            resolves name (List.mem_append_right _ member)⟩

namespace Json

variable {value operand : Json} {room : Nat}

/-- Expressions inside each other along the operands are less than so many. -/
def ExpressionsWithin (room : Nat) (value : Json) : Prop :=
  ∀ path node, value.operandAt? path = some (object node) → path.length < room

theorem nesting_operandAt? {path : List Side} (found : value.operandAt? path = some operand) :
    operand.nesting + path.length ≤ value.nesting := by
  induction path generalizing value with
  | nil =>
      simp only [operandAt?_nil, Option.some.injEq] at found
      simp [found]
  | cons side path ih =>
      obtain ⟨node, inner, rfl, present, rest⟩ := operandAt?_cons.mp found
      have inside := nesting_lt present
      have deeper := ih rest
      simp only [List.length_cons]
      omega

theorem expressionsWithin_of_nesting (shallow : value.nesting ≤ room) :
    value.ExpressionsWithin room := by
  intro path node found
  have deeper := nesting_operandAt? found
  simp only [nesting] at deeper
  omega

theorem height_le_of_expressionsWithin {formula : Formula} (reads : value.formula? = some formula)
    (within : value.ExpressionsWithin room) : formula.height ≤ room := by
  induction formula generalizing value room with
  | literal number => exact Nat.zero_le _
  | reference name => exact Nat.zero_le _
  | apply operator left right leftIH rightIH =>
      obtain ⟨node, onLeft, onRight, rfl, _, leftPresent, readsLeft, rightPresent, readsRight⟩ :=
        formula?_eq_apply.mp reads
      cases room with
      | zero => exact absurd (within [] node (by simp)) (Nat.not_lt_zero _)
      | succ room =>
          have inside {side : Side} {operand : Json}
              (present : Fields.get? side.name node = some operand) :
              operand.ExpressionsWithin room := by
            intro path inner found
            have bound := within (side :: path) inner
              (operandAt?_object_cons.mpr ⟨operand, present, found⟩)
            simp only [List.length_cons] at bound
            omega
          have leftHeight := leftIH readsLeft (inside leftPresent)
          have rightHeight := rightIH readsRight (inside rightPresent)
          simp only [Formula.height]
          omega

end Json

namespace Document

variable {node : Fields} {room : Nat} {value : Number}

theorem member_eq_ok {wanted : Member} {found : Json} :
    member node wanted = .ok found ↔ node.get? wanted.name = some found := by
  unfold member
  cases node.get? wanted.name <;> simp

theorem applyNamed_eq_ok {found : Json} {left right : Number} :
    applyNamed found left right = .ok value ↔
      ∃ operator : Operator, found = .string [operator.symbol] ∧
        operator.apply left right = .ok value := by
  constructor
  · intro applied
    cases named : operator? found with
    | none => simp [applyNamed, named] at applied
    | some operator =>
        simp only [applyNamed, named] at applied
        refine ⟨operator, operator?_eq_some_iff.mp named, ?_⟩
        cases outcome : operator.apply left right with
        | error error => simp [outcome, Except.mapError] at applied
        | ok result =>
            simp only [outcome, Except.mapError, Except.ok.injEq] at applied
            rw [applied]
  · rintro ⟨operator, rfl, applied⟩
    rw [applyNamed_symbol, applied]
    rfl

/-- What the evaluation of an expression looks up when it gives a value. -/
theorem evaluateExpression_succ_eq_ok
    (evaluated : evaluateExpression store securityId (room + 1) node = .ok value) :
    ∃ left leftValue right rightValue, ∃ operator : Operator,
      node.get? Side.left.name = some left ∧
      evaluateOperand store securityId (evaluateExpression store securityId room) left =
        .ok leftValue ∧
      node.get? Side.right.name = some right ∧
      evaluateOperand store securityId (evaluateExpression store securityId room) right =
        .ok rightValue ∧
      node.get? Member.operator.name = some (.string [operator.symbol]) ∧
      operator.apply leftValue rightValue = .ok value := by
  simp only [evaluateExpression, Except.bind_eq_ok_iff, member_eq_ok, applyNamed_eq_ok] at evaluated
  obtain ⟨left, onLeft, leftValue, leftRun, right, onRight, rightValue, rightRun, found, named,
    operator, rfl, applied⟩ := evaluated
  exact ⟨left, leftValue, right, rightValue, operator, onLeft, leftRun, onRight, rightRun, named,
    applied⟩

/-- An expression that has a value has a formula, and computing the formula gives the value. -/
theorem formula?_of_evaluateExpression
    (evaluated : evaluateExpression store securityId room node = .ok value) :
    ∃ formula, (Json.object node).formula? = some formula ∧
      formula.evaluate (store.valueOf securityId) = .ok value := by
  induction room generalizing node value with
  | zero => cases evaluated
  | succ room ih =>
      have operand {found : Json} {number : Number}
          (run : evaluateOperand store securityId (evaluateExpression store securityId room) found =
            .ok number) :
          ∃ formula, found.formula? = some formula ∧
            formula.evaluate (store.valueOf securityId) = .ok number := by
        cases found with
        | object inner => exact ih run
        | string name => exact ⟨.reference name, rfl, run⟩
        | number literal => exact ⟨.literal literal, rfl, run⟩
        | _ => cases run
      obtain ⟨left, leftValue, right, rightValue, operator, onLeft, leftRun, onRight, rightRun, named,
        applied⟩ := evaluateExpression_succ_eq_ok evaluated
      obtain ⟨leftFormula, readsLeft, leftComputed⟩ := operand leftRun
      obtain ⟨rightFormula, readsRight, rightComputed⟩ := operand rightRun
      refine ⟨.apply operator leftFormula rightFormula, ?_, ?_⟩
      · exact Json.formula?_eq_apply.mpr
          ⟨node, left, right, rfl, named, onLeft, readsLeft, onRight, readsRight⟩
      · simp only [Formula.evaluate, leftComputed, rightComputed, applied, bind, Except.bind,
          Except.mapError]

theorem evaluate_eq_ok_iff {document : Json} {security : Security} :
    evaluate store document = .ok (security, value) ↔
      ∃ (fields : Fields) (symbol : Text) (node : Fields), document = .object fields ∧
        fields.get? securityName = some (.string symbol) ∧
        store.security? symbol = some security ∧
        fields.get? expressionName = some (.object node) ∧
        evaluateExpression store security.id depthLimit node = .ok value := by
  constructor
  · intro evaluated
    cases document with
    | object fields =>
        simp only [evaluate] at evaluated
        split at evaluated
        · cases evaluated
        · rename_i named present
          obtain ⟨found, looked, rest⟩ := Except.bind_eq_ok_iff.mp evaluated
          obtain ⟨symbol, rfl, known⟩ := Store.securityNamed_eq_ok.mp looked
          split at rest
          · rename_i node expression
            obtain ⟨result, run, same⟩ := Except.bind_eq_ok_iff.mp rest
            cases same
            exact ⟨fields, symbol, node, rfl, present, known, expression, run⟩
          · cases rest
    | _ => cases evaluated
  · rintro ⟨fields, symbol, node, rfl, present, known, expression, run⟩
    have looked : store.securityNamed (.string symbol) = .ok security :=
      Store.securityNamed_eq_ok.mpr ⟨symbol, rfl, known⟩
    simp only [evaluate, present, looked, expression, run, bind, Except.bind, pure, Except.pure]

/-- The expressions of a document are within the limit of nesting. -/
def WithinDepth (document : Json) : Prop :=
  ∀ expression, expression? document = some expression → expression.ExpressionsWithin depthLimit

theorem withinDepth_of_nesting {document : Json} (shallow : document.nesting ≤ depthLimit + 1) :
    WithinDepth document := by
  intro expression found
  cases document with
  | object fields =>
      have inside := Json.nesting_lt found
      exact Json.expressionsWithin_of_nesting (by omega)
  | _ => cases found

/-- A document whose security is found, and whose expression is of the looser
grammar for it and has no operation out of range. -/
def IsLooseDocument (store : Store) (document : Json) : Prop :=
  ∃ (fields : Fields) (symbol : Text) (security : Security) (node : Fields) (formula : Formula),
    document = .object fields ∧
    fields.get? securityName = some (.string symbol) ∧
    store.security? symbol = some security ∧
    fields.get? expressionName = some (.object node) ∧
    IsLooseOperand store security.id (.object node) ∧
    (Json.object node).formula? = some formula ∧
    ¬ formula.Overflows (store.valueOf security.id)

theorem isLooseDocument_of_evaluate {document : Json} {security : Security}
    (evaluated : evaluate store document = .ok (security, value)) :
    IsLooseDocument store document := by
  obtain ⟨fields, symbol, node, rfl, present, known, expression, run⟩ :=
    evaluate_eq_ok_iff.mp evaluated
  obtain ⟨formula, reads, computed⟩ := formula?_of_evaluateExpression run
  refine ⟨fields, symbol, security, node, formula, rfl, present, known, expression, ?_, reads, ?_⟩
  · refine isLooseOperand_iff.mpr ⟨formula, reads, fun name member => Store.resolves_iff.mpr ?_⟩
    exact Formula.evaluate_eq_ok computed name member
  · rw [Formula.overflows_iff Store.valueOf_isMissing, computed]
    simp

theorem evaluate_of_isLooseDocument {document : Json} (within : WithinDepth document)
    (loose : IsLooseDocument store document) :
    ∃ security value, evaluate store document = .ok (security, value) := by
  obtain ⟨fields, symbol, security, node, formula, rfl, present, known, expression, valid, reads,
    calm⟩ := loose
  have height := Json.height_le_of_expressionsWithin reads (within _ expression)
  have run : evaluateExpression store security.id depthLimit node =
      formula.evaluate (store.valueOf security.id) := by
    rw [← evaluateOperand_of_formula? reads height, evaluateOperand_object]
  cases computed : formula.evaluate (store.valueOf security.id) with
  | ok value =>
      exact ⟨security, value, evaluate_eq_ok_iff.mpr
        ⟨fields, symbol, node, rfl, present, known, expression, run.trans computed⟩⟩
  | error failure =>
      rcases Formula.evaluate_eq_error computed with ⟨name, member, missing⟩ | ⟨error, rfl⟩
      · obtain ⟨other, readsOther, resolves⟩ := isLooseOperand_iff.mp valid
        cases reads.symm.trans readsOther
        obtain ⟨value, resolved⟩ := Store.resolves_iff.mp (resolves name member)
        cases missing.symm.trans resolved
      · rw [Formula.overflows_iff Store.valueOf_isMissing] at calm
        exact absurd ⟨error, computed⟩ calm

end Document

/-- A value without a word, or zero with a message and the code of a failure. -/
def Result.IsProper (result : Result) : Prop :=
  (result.success = true ∧ result.message = [] ∧ result.code = []) ∨
    (result.success = false ∧ result.value = .int 0 ∧ result.message ≠ [] ∧
      result.code ∈
        [Code.unknownSecurity, .unknownAttribute, .missingFact, .unexpected].map Code.name)

theorem Failure.message_ne_nil (failure : Failure) : failure.message ≠ [] := by
  have nonempty (text following : Text) (some : text ≠ []) : text ++ following ≠ [] := by
    simp [some]
  cases failure with
  | unknownSecurity shown => exact nonempty _ _ (nonempty _ _ (by decide))
  | unknownAttribute name => exact nonempty _ _ (nonempty _ _ (by decide))
  | missingFact name => exact nonempty _ _ (nonempty _ _ (by decide))
  | unexpected mishap =>
      exact (by decide : Text.ofString "Something was wrong executing the DSL." ≠ [])

theorem Result.ofFailure_isProper (failure : Failure) : (Result.ofFailure failure).IsProper := by
  refine .inr ⟨rfl, rfl, failure.message_ne_nil, List.mem_map_of_mem ?_⟩
  cases failure <;> simp [Failure.code]

namespace Document

/-- Every value is executed with a proper result, and the documents that
execution succeeds on are those of the looser grammar. -/
theorem execute_succeeds_iff (store : Store) {document : Json} (within : WithinDepth document) :
    (store.execute document).IsProper ∧
      ((store.execute document).success = true ↔ IsLooseDocument store document) := by
  cases evaluated : evaluate store document with
  | ok found =>
      obtain ⟨security, value⟩ := found
      rw [Store.execute_of_ok evaluated]
      exact ⟨.inl ⟨rfl, rfl, rfl⟩, iff_of_true rfl (isLooseDocument_of_evaluate evaluated)⟩
  | error failure =>
      rw [Store.execute_of_error evaluated]
      refine ⟨Result.ofFailure_isProper failure, iff_of_false (by simp [Result.ofFailure]) ?_⟩
      intro loose
      obtain ⟨security, value, given⟩ := evaluate_of_isLooseDocument within loose
      cases evaluated.symm.trans given

/-- A store in which the attribute is called by the empty name. -/
def nameless : Store :=
  .ofRows [⟨.number (.int 1), "ABC", []⟩] [⟨.number (.int 7), [], []⟩]
    [⟨.number (.int 1), .number (.int 7), .int 30⟩]

/-- A document with members that nothing looks up, and with operands that are
refused everywhere else. -/
def scribbled : Json :=
  .object
    [("comment", .array []), ("security", .string "ABC"),
      ("expression", .object
        [("fn", .string "+"), ("b", .int 0),
          ("a", .object
            [("note", .null), ("b", .string []), ("a", .number (.float .nan)),
              ("fn", .string "-")])])]

theorem execute_succeeds_iff_scribbled :
    WithinDepth scribbled ∧ (nameless.execute scribbled).IsProper ∧
      ((nameless.execute scribbled).success = true ↔ IsLooseDocument nameless scribbled) := by
  have within : WithinDepth scribbled := withinDepth_of_nesting (by decide +kernel)
  exact ⟨within, execute_succeeds_iff nameless within⟩

end Document

end Formulary
