import Formulary.Proofs.Document.Grammar

namespace Formulary.Document

/-! # The first violation

An expression that is refused is refused for one of its nodes.  The path to
this node passes only nodes in order, and wherever it turns right it leaves a
valid left operand behind; the report is about the first check that the node
itself fails.  There is only one such path, so an error deeper on the left is
never hidden by one on the right, nor the other way round.
-/

/-- The path leads to the node past nodes that pass their own checks, and past
valid left operands where it turns right. -/
structure Leads (value : Json) (path : List Side) (node : Fields) : Prop where
  found : value.operandAt? path = some (.object node)
  passes : ∀ outer side inner ancestor, path = outer ++ side :: inner →
    value.operandAt? outer = some (.object ancestor) → PassesChecks ancestor
  leftValid : ∀ outer inner operand, path = outer ++ .right :: inner →
    value.operandAt? (outer ++ [.left]) = some operand → IsOperand operand

/-- What is reported for the first check that a node fails: the field, the
message and the hint. -/
inductive Reports (node : Fields) : (field message hint : Text) → Prop where
  | missing {member : Member} (first : Member.all.find? (isMissing node) = some member) :
      Reports node member.name
        ("Missing field in \"expression\": " ++ Json.dump 0 (.object node)) []
  | extra {least : Text} (complete : ∀ member, isMissing node member = false)
      (more : Member.all.length < node.length)
      (isExtra : least ∈ node.names ∧ least ∉ expressionNames)
      (isLeast : ∀ name ∈ node.names, name ∉ expressionNames → Text.AtMost least name) :
      Reports node least
        ("Too many fields in \"expression\": " ++ Json.dump 0 (.object node)) []
  | operator {value : Json} (complete : ∀ member, isMissing node member = false)
      (size : node.length = Member.all.length)
      (present : node.get? Member.operator.name = some value)
      (unknown : ∀ operator : Operator, value ≠ .string [operator.symbol]) :
      Reports node Member.operator.name
        ("\"fn\" field is not a valid type: " ++ value.inSentence) "expected one of: * + - /"
  | operand {side : Side} {value : Json} (passes : PassesChecks node)
      (present : node.get? side.name = some value)
      (unfit : (∃ truth, value = .bool truth) ∨ ∃ items, value = .array items)
      (leftValid : side = .right → ∀ left, node.get? Side.left.name = some left → IsOperand left) :
      Reports node side.name (side.name ++ " field is not a valid type: " ++ value.inSentence)
        "expected a number, an attribute name or a nested expression"

/-- The path leads to a node whose first failing check is what the violation reports. -/
def Blames (value : Json) (path : List Side) (violation : Violation) : Prop :=
  ∃ node, Leads value path node ∧ Reports node violation.field violation.message violation.hint

variable {room : Nat} {node found other : Fields} {value : Json} {side : Side}
  {path further : List Side} {violation : Violation}

theorem leads_nil : Leads value [] found ↔ value = .object found := by
  constructor
  · intro leads
    simpa using leads.found
  · intro same
    subst same
    exact ⟨by simp, by simp, by simp⟩

theorem leads_cons :
    Leads value (side :: path) found ↔
      ∃ (node : Fields) (inner : Json), value = .object node ∧ PassesChecks node ∧
        (side = .right → ∀ left, node.get? Side.left.name = some left → IsOperand left) ∧
        node.get? side.name = some inner ∧ Leads inner path found := by
  constructor
  · intro leads
    obtain ⟨node, inner, rfl, present, reached⟩ := Json.operandAt?_cons.mp leads.found
    refine ⟨node, inner, rfl, leads.passes [] side path node rfl (by simp), ?_, present, reached,
      ?_, ?_⟩
    · rintro rfl left onLeft
      exact leads.leftValid [] path left rfl
        (Json.operandAt?_object_cons.mpr ⟨left, onLeft, by simp⟩)
    · intro outer step rest ancestor same at_outer
      exact leads.passes (side :: outer) step rest ancestor (by simp [same])
        (Json.operandAt?_object_cons.mpr ⟨inner, present, at_outer⟩)
    · intro outer rest operand same at_left
      exact leads.leftValid (side :: outer) rest operand (by simp [same])
        (Json.operandAt?_object_cons.mpr ⟨inner, present, at_left⟩)
  · intro given
    obtain ⟨node, inner, rfl, passes, leftValid, present, leads⟩ := given
    refine ⟨Json.operandAt?_object_cons.mpr ⟨inner, present, leads.found⟩, ?_, ?_⟩
    · intro outer step rest ancestor same at_outer
      cases outer with
      | nil =>
          simp only [Json.operandAt?_nil, Option.some.injEq, Json.object.injEq] at at_outer
          exact at_outer ▸ passes
      | cons first outer =>
          simp only [List.cons_append, List.cons.injEq] at same
          obtain ⟨rfl, same⟩ := same
          obtain ⟨target, here, at_outer⟩ := Json.operandAt?_object_cons.mp at_outer
          rw [present, Option.some.injEq] at here
          exact leads.passes outer step rest ancestor same (here ▸ at_outer)
    · intro outer rest operand same at_left
      cases outer with
      | nil =>
          simp only [List.nil_append, List.cons.injEq] at same
          obtain ⟨target, here, at_left⟩ := Json.operandAt?_object_cons.mp at_left
          simp only [Json.operandAt?_nil, Option.some.injEq] at at_left
          exact at_left ▸ leftValid same.1 target here
      | cons first outer =>
          simp only [List.cons_append, List.cons.injEq] at same
          obtain ⟨rfl, same⟩ := same
          obtain ⟨target, here, at_left⟩ := Json.operandAt?_object_cons.mp at_left
          rw [present, Option.some.injEq] at here
          exact leads.leftValid outer rest operand same (here ▸ at_left)

theorem Leads.eq_object (leads : Leads value path found) : ∃ node, value = .object node :=
  Json.eq_object_of_operandAt? leads.found

/-! ## Uniqueness -/

theorem Reports.unfit_operand {field message hint : Text} (passes : PassesChecks node)
    (reports : Reports node field message hint) :
    ∃ (side : Side) (value : Json), node.get? side.name = some value ∧
      ((∃ truth, value = .bool truth) ∨ ∃ items, value = .array items) ∧
      (side = .right → ∀ left, node.get? Side.left.name = some left → IsOperand left) := by
  cases reports with
  | missing first =>
      have missing := List.find?_some first
      rw [passes.complete] at missing
      contradiction
  | extra complete more => exact absurd passes.size (by omega)
  | operator complete size present unknown =>
      obtain ⟨operator, named⟩ := passes.named
      rw [present, Option.some.injEq] at named
      exact absurd named (unknown operator)
  | operand passes present unfit leftValid => exact ⟨_, _, present, unfit, leftValid⟩

theorem Reports.not_isOperand {field message hint : Text}
    (reports : Reports node field message hint) : ¬ IsOperand (.object node) := by
  intro valid
  obtain ⟨passes, operands⟩ := isOperand_object_iff.mp valid
  obtain ⟨side, value, present, unfit, _⟩ := reports.unfit_operand passes
  obtain ⟨operand, here, operandValid⟩ := operands side
  rw [present, Option.some.injEq] at here
  subst here
  rcases unfit with ⟨truth, rfl⟩ | ⟨items, rfl⟩ <;> cases operandValid

theorem Blames.not_isOperand (blames : Blames value path violation) : ¬ IsOperand value := by
  obtain ⟨found, leads, reports⟩ := blames
  intro valid
  exact reports.not_isOperand (isOperand_operandAt? valid leads.found)

theorem blames_cons :
    Blames value (side :: path) violation ↔
      ∃ (node : Fields) (inner : Json), value = .object node ∧ PassesChecks node ∧
        (side = .right → ∀ left, node.get? Side.left.name = some left → IsOperand left) ∧
        node.get? side.name = some inner ∧ Blames inner path violation := by
  simp only [Blames, leads_cons]
  constructor
  · intro given
    obtain ⟨found, ⟨node, inner, same, passes, leftValid, present, leads⟩, reports⟩ := given
    exact ⟨node, inner, same, passes, leftValid, present, found, leads, reports⟩
  · intro given
    obtain ⟨node, inner, same, passes, leftValid, present, found, leads, reports⟩ := given
    exact ⟨found, ⟨node, inner, same, passes, leftValid, present, leads⟩, reports⟩

/-- A path that ends at a node excludes the paths that go on from it. -/
theorem Blames.not_further (here : Blames value [] violation) {beyond : Violation} :
    ¬ Blames value (side :: path) beyond := by
  intro inside
  obtain ⟨node, leads, reports⟩ := here
  obtain ⟨same, inner, object, passes, leftValid, present, deeper⟩ := blames_cons.mp inside
  rw [leads_nil.mp leads, Json.object.injEq] at object
  subst object
  obtain ⟨found, innerLeads, _⟩ := deeper
  obtain ⟨innerNode, rfl⟩ := innerLeads.eq_object
  obtain ⟨faulty, value, faultyPresent, unfit, faultyLeft⟩ := reports.unfit_operand passes
  have different : side ≠ faulty := by
    intro same
    subst same
    rw [present, Option.some.injEq] at faultyPresent
    subst faultyPresent
    simp at unfit
  cases faulty with
  | left =>
      cases side with
      | left => exact different rfl
      | right =>
          have valid := leftValid rfl _ faultyPresent
          rcases unfit with ⟨truth, rfl⟩ | ⟨items, rfl⟩ <;> cases valid
  | right =>
      cases side with
      | left => exact Blames.not_isOperand ⟨found, innerLeads, ‹_›⟩ (faultyLeft rfl _ present)
      | right => exact different rfl

theorem Blames.unique {beyond : Violation} (first : Blames value path violation)
    (second : Blames value further beyond) : path = further := by
  induction path generalizing value further with
  | nil =>
      cases further with
      | nil => rfl
      | cons side further => exact absurd second first.not_further
  | cons side path ih =>
      cases further with
      | nil => exact absurd first second.not_further
      | cons turn further =>
          obtain ⟨node, inner, rfl, _, leftValid, present, inside⟩ := blames_cons.mp first
          obtain ⟨same, target, object, _, otherLeft, otherPresent, otherInside⟩ :=
            blames_cons.mp second
          rw [Json.object.injEq] at object
          subst object
          cases side with
          | left =>
              cases turn with
              | left =>
                  rw [present, Option.some.injEq] at otherPresent
                  subst otherPresent
                  rw [ih inside otherInside]
              | right => exact absurd (otherLeft rfl _ present) inside.not_isOperand
          | right =>
              cases turn with
              | left => exact absurd (leftValid rfl _ otherPresent) otherInside.not_isOperand
              | right =>
                  rw [present, Option.some.injEq] at otherPresent
                  subst otherPresent
                  rw [ih inside otherInside]

/-! ## Existence -/

def IsDecoded (node : Fields) : Prop := node.names.Nodup ∧ MembersInRange node

/-- The outcome is acceptance, or an error for which a node inside the value is to blame. -/
def Accounts (value : Json) (outcome : Except Rejection Unit) : Prop :=
  outcome = .ok () ∨
    ∃ violation path, outcome = .error (.violation violation) ∧
      violation.location = expressionName ∧ Blames value path violation

theorem checkNode_reports (decoded : IsDecoded node) (shallow : (Json.object node).nesting ≤ room)
    (refused : checkNode room node ≠ .ok ()) :
    ∃ violation, checkNode room node = .error (.violation violation) ∧
      violation.location = expressionName ∧
      Reports node violation.field violation.message violation.hint := by
  obtain ⟨missing, tested⟩ := missingMembers_exists decoded.2 Member.all
  rw [checkNode_of_tested tested] at refused ⊢
  cases first : Member.all.find? (isMissing node) with
  | some member =>
      exact ⟨_, refuse_of_shown shallow, rfl, .missing first⟩
  | none =>
      have complete := complete_of_find? first
      simp only [first] at refused ⊢
      split
      · rename_i size
        have more : Member.all.length < node.length := by
          have within : expressionNames ⊆ node.names := by
            intro name listed
            obtain ⟨member, _, rfl⟩ := List.mem_map.mp listed
            obtain ⟨value, found, _⟩ := isMissing_eq_false_iff.mp (complete member)
            exact Fields.mem_names_of_get? found
          have atLeast := ((by decide : expressionNames.Nodup).subperm within).length_le
          rw [Fields.length_names] at atLeast
          exact Nat.lt_of_le_of_ne atLeast (Ne.symm size)
        obtain ⟨least, found⟩ : ∃ least, node.leastExtra? expressionNames = some least :=
          Fields.leastExtra?_exists decoded.1 more
        obtain ⟨isExtra, isLeast⟩ := Fields.leastExtra?_eq_some found
        rw [found]
        exact ⟨_, refuse_of_shown shallow, rfl, .extra complete more isExtra isLeast⟩
      · rename_i size
        obtain ⟨value, present, _⟩ := isMissing_eq_false_iff.mp (complete .operator)
        simp only [present, Option.getD_some] at refused ⊢
        split
        · rename_i unknown
          have shown : (Violation.unknownOperator value).shownNesting ≤ room := by
            have arrays := Json.arrayNesting_le_nesting value
            have inner := Json.nesting_lt present
            simp only [Violation.shownNesting]
            omega
          refine ⟨_, refuse_of_shown shown, rfl,
            .operator complete (by simpa using size) present fun operator same => ?_⟩
          rw [operator?_eq_some_iff.mpr same] at unknown
          contradiction
        · rename_i known
          simp [size, known] at refused

theorem validateSide_reports {side : Side} (passes : PassesChecks node)
    (shallow : (Json.object node).nesting ≤ room)
    (leftValid : side = .right → ∀ left, node.get? Side.left.name = some left → IsOperand left)
    (nested : ∀ inner, node.get? side.name = some (.object inner) →
      Accounts (.object inner) (validateExpression room inner)) :
    Accounts (.object node) (validateSide room side node) := by
  obtain ⟨operand, found, present⟩ := passes.operand side
  have unfit_reports (unfit : (∃ truth, operand = .bool truth) ∨ ∃ items, operand = .array items) :
      Blames (.object node) [] (.badOperand side.member operand) :=
    ⟨node, leads_nil.mpr rfl, .operand passes found unfit leftValid⟩
  have shown : (Violation.badOperand side.member operand).shownNesting ≤ room := by
    have arrays := Json.arrayNesting_le_nesting operand
    have inner := Json.nesting_lt found
    simp only [Violation.shownNesting]
    omega
  simp only [validateSide, found, Option.getD_some]
  cases operand with
  | null => simp [Json.isPresent] at present
  | bool truth =>
      exact .inr ⟨_, [], refuse_of_shown shown, rfl, unfit_reports (.inl ⟨truth, rfl⟩)⟩
  | array items =>
      exact .inr ⟨_, [], refuse_of_shown shown, rfl, unfit_reports (.inr ⟨items, rfl⟩)⟩
  | number value => exact .inl rfl
  | string name => exact .inl rfl
  | object inner =>
      rcases nested inner found with accepted | ⟨violation, path, failed, location, blames⟩
      · exact .inl accepted
      · exact .inr ⟨violation, side :: path, failed, location,
          blames_cons.mpr ⟨node, _, rfl, passes, leftValid, found, blames⟩⟩

theorem validateExpression_reports (shallow : (Json.object node).nesting < room)
    (decoded : (Json.object node).EveryNode IsDecoded) :
    Accounts (.object node) (validateExpression room node) := by
  induction room generalizing node with
  | zero => omega
  | succ room ih =>
      have nested (side : Side) (inner : Fields)
          (found : node.get? side.name = some (.object inner)) :
          Accounts (.object inner) (validateExpression room inner) :=
        ih (Nat.lt_of_lt_of_le (Json.nesting_lt found) (by omega)) (decoded.inside found)
      rw [validateExpression_succ]
      by_cases checked : checkNode room node = .ok ()
      · have passes := checkNode_eq_ok checked
        rw [checked]
        rcases validateSide_reports passes (by omega) (by simp) (nested .left) with
          left | ⟨violation, path, failed, reported⟩
        · have leftValid : ∀ left, node.get? Side.left.name = some left → IsOperand left := by
            intro operand found
            obtain ⟨other, same, valid⟩ :=
              isOperand_of_validateSide passes isOperand_of_validateExpression left
            rw [found, Option.some.injEq] at same
            exact same ▸ valid
          rw [left]
          exact validateSide_reports passes (by omega) (fun _ => leftValid) (nested .right)
        · rw [failed]
          exact .inr ⟨violation, path, rfl, reported⟩
      · obtain ⟨violation, failed, location, reports⟩ :=
          checkNode_reports decoded.here (by omega) checked
        rw [failed]
        exact .inr ⟨violation, [], rfl, location, node, leads_nil.mpr rfl, reports⟩

/-- A document that passes the checks of its root and is refused all the same
is refused for exactly one node of its expression, and the error reports the
first check that this node fails. -/
theorem validate_blames_first {fields : Fields} (root : PassesRoot fields node)
    (shallow : (Json.object fields).nesting ≤ depthLimit)
    (distinct : (Json.object node).EveryNode fun inner => inner.names.Nodup)
    (fits : (Json.object node).EveryNode MembersInRange)
    (refused : validate (.object fields) ≠ .ok ()) :
    ∃ violation, validate (.object fields) = .error (.violation violation) ∧
      violation.location = "expression" ∧ ∃! path, Blames (.object node) path violation := by
  have decoded : (Json.object node).EveryNode IsDecoded := fun path inner found =>
    ⟨distinct path inner found, fits path inner found⟩
  have inner := Json.nesting_lt root.expression
  rw [validate_of_passesRoot root] at refused ⊢
  obtain ⟨violation, path, failed, location, blames⟩ :=
    (validateExpression_reports (by omega) decoded).resolve_left refused
  exact ⟨violation, failed, location, path, blames, fun _ other => other.unique blames⟩

def misnamed : Fields :=
  [("fn", .string "+"), ("a", .string "price"),
    ("b", .object [("fn", .string "^"), ("a", .string "eps"), ("b", .string "dps")])]

def misnamedDocument : Fields :=
  [("security", .string "ABC"), ("expression", .object misnamed)]

theorem everyNode_misnamed {holds : Fields → Prop} (outer : holds misnamed)
    (inner : holds [("fn", .string "^"), ("a", .string "eps"), ("b", .string "dps")]) :
    (Json.object misnamed).EveryNode holds := by
  refine Json.everyNode_object.mpr ⟨outer, ?_⟩
  rintro (_ | _) operand found <;> cases found
  · exact Json.everyNode_of_not_object fun _ => Json.noConfusion
  · refine Json.everyNode_object.mpr ⟨inner, ?_⟩
    rintro (_ | _) operand found <;> cases found <;>
      exact Json.everyNode_of_not_object fun _ => Json.noConfusion

theorem passesRoot_misnamed : PassesRoot misnamedDocument misnamed :=
  ⟨.refl _, ⟨"ABC", by decide, rfl⟩, rfl⟩

theorem validate_misnamed : validate (.object misnamedDocument) ≠ .ok () := by
  intro accepted
  have refused : (validate (.object misnamedDocument)).isOk = false := by decide +kernel
  rw [accepted] at refused
  cases refused

theorem validate_blames_first_misnamed :
    ∃ violation, validate (.object misnamedDocument) = .error (.violation violation) ∧
      violation.location = "expression" ∧ ∃! path, Blames (.object misnamed) path violation :=
  validate_blames_first passesRoot_misnamed (by decide +kernel)
    (everyNode_misnamed (by decide) (by decide))
    (everyNode_misnamed (by rintro (_ | _ | _) value found <;> cases found)
      (by rintro (_ | _ | _) value found <;> cases found))
    validate_misnamed

end Formulary.Document
