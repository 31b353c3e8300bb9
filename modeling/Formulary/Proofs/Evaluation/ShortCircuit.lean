import Formulary.Json.Literal
import Formulary.Proofs.Evaluation.Context
import Formulary.Proofs.Json.ShortNumerals

namespace Formulary

/-! # The first failure

Evaluation follows the operands from left to right and stops at the first one
that fails.  Its failure is the one of the document, and what stands behind it
is not looked at: neither the operators around it, nor the operands on its
right, nor, if the security is not found, the expression as a whole.
-/

namespace Json

/-- Two values that agree in all that arrives first along a path: the operand that
the path leads to, and the left operand wherever the path turns right.  Nothing
else counts: operators, and right operands where the path turns left, may be
anything or be missing. -/
inductive AgreeAlong : List Side → Json → Json → Prop where
  | arrived (operand : Json) : AgreeAlong [] operand operand
  | left {path : List Side} {node other : Fields} {inner otherInner : Json}
      (present : node.get? Side.left.name = some inner)
      (otherPresent : other.get? Side.left.name = some otherInner)
      (further : AgreeAlong path inner otherInner) :
      AgreeAlong (.left :: path) (.object node) (.object other)
  | right {path : List Side} {node other : Fields} {inner otherInner : Json}
      (passed : node.get? Side.left.name = other.get? Side.left.name)
      (present : node.get? Side.right.name = some inner)
      (otherPresent : other.get? Side.right.name = some otherInner)
      (further : AgreeAlong path inner otherInner) :
      AgreeAlong (.right :: path) (.object node) (.object other)

end Json

namespace Document

variable {store : Store} {securityId : Id} {node : Fields} {side : Side} {path : List Side}
  {value other operand : Json} {room rest : Nat} {failure : Failure}

/-- The path leads to the operand, past left operands that have a value. -/
structure Reaches (store : Store) (securityId : Id) (value : Json) (path : List Side)
    (operand : Json) : Prop where
  found : value.operandAt? path = some operand
  leftComputed : ∀ outer inner, path = outer ++ .right :: inner →
    ∃ left number, value.operandAt? (outer ++ [.left]) = some left ∧
      operandValue store securityId left = .ok number

theorem Reaches.cons (reaches : Reaches store securityId value (side :: path) operand) :
    ∃ (node : Fields) (inner : Json), value = .object node ∧ node.get? side.name = some inner ∧
      (side = .right → ∃ left number, node.get? Side.left.name = some left ∧
        operandValue store securityId left = .ok number) ∧
      Reaches store securityId inner path operand := by
  obtain ⟨node, inner, rfl, present, found⟩ := Json.operandAt?_cons.mp reaches.found
  refine ⟨node, inner, rfl, present, ?_, found, ?_⟩
  · rintro rfl
    obtain ⟨left, number, at_left, computed⟩ := reaches.leftComputed [] path rfl
    obtain ⟨same, onLeft, ends⟩ := Json.operandAt?_object_cons.mp at_left
    rw [Json.operandAt?_nil, Option.some.injEq] at ends
    exact ⟨same, number, onLeft, ends ▸ computed⟩
  · intro outer after turns
    obtain ⟨left, number, at_left, computed⟩ :=
      reaches.leftComputed (side :: outer) after (by rw [turns, List.cons_append])
    obtain ⟨same, here, at_left⟩ := Json.operandAt?_object_cons.mp at_left
    rw [present, Option.some.injEq] at here
    exact ⟨left, number, here ▸ at_left, computed⟩

/-- Evaluation with room for some expressions arrives to the operand, with room
for the rest of them. -/
inductive Arrives (store : Store) (securityId : Id) : Nat → Json → List Side → Nat → Json → Prop
  where
  | arrived (room : Nat) (operand : Json) : Arrives store securityId room operand [] room operand
  | left {room rest : Nat} {node : Fields} {path : List Side} {inner operand : Json}
      (present : node.get? Side.left.name = some inner)
      (further : Arrives store securityId room inner path rest operand) :
      Arrives store securityId (room + 1) (.object node) (.left :: path) rest operand
  | right {room rest : Nat} {node : Fields} {path : List Side} {left inner operand : Json}
      {number : Number}
      (passed : node.get? Side.left.name = some left)
      (computed : evaluateOperand store securityId (evaluateExpression store securityId room) left =
        .ok number)
      (present : node.get? Side.right.name = some inner)
      (further : Arrives store securityId room inner path rest operand) :
      Arrives store securityId (room + 1) (.object node) (.right :: path) rest operand

/-- Where there is room for all expressions, evaluation arrives to each operand
that a path leads to past left operands that have a value. -/
theorem Reaches.arrives (reaches : Reaches store securityId value path operand)
    (within : value.ExpressionsWithin room) (enough : room ≤ depthLimit) :
    Arrives store securityId room value path (room - path.length) operand := by
  induction path generalizing value room with
  | nil =>
      obtain rfl : value = operand := by simpa using reaches.found
      exact .arrived room value
  | cons side path ih =>
      obtain ⟨node, inner, rfl, present, leftComputed, further⟩ := reaches.cons
      obtain ⟨room, rfl⟩ : ∃ less, room = less + 1 :=
        ⟨room - 1, by have := within [] node (by simp); simp at this; omega⟩
      have inside := ih further (within.inside present) (by omega)
      rw [List.length_cons, Nat.add_sub_add_right]
      cases side with
      | left => exact .left present inside
      | right =>
          obtain ⟨left, number, onLeft, computed⟩ := leftComputed rfl
          rw [operandValue, evaluateOperand_of_within (within.inside onLeft)
            (by omega : room ≤ depthLimit)] at computed
          exact .right onLeft computed present inside

/-- Evaluation arrives to an operand in the same way if all that arrives first is the same. -/
theorem Arrives.of_agreeAlong (arrives : Arrives store securityId room value path rest operand)
    (agree : value.AgreeAlong path other) : Arrives store securityId room other path rest operand := by
  induction arrives generalizing other with
  | arrived room operand =>
      cases agree
      exact .arrived room operand
  | left present further ih =>
      cases agree with
      | left present' otherPresent agree =>
          cases present.symm.trans present'
          exact .left otherPresent (ih agree)
  | right passed computed present further ih =>
      cases agree with
      | right passed' present' otherPresent agree =>
          cases present.symm.trans present'
          exact .right (passed'.symm.trans passed) computed otherPresent (ih agree)

theorem Arrives.fails (arrives : Arrives store securityId room value path rest operand)
    (failed : evaluateOperand store securityId (evaluateExpression store securityId rest) operand =
      .error failure) :
    evaluateOperand store securityId (evaluateExpression store securityId room) value =
      .error failure := by
  induction arrives with
  | arrived => exact failed
  | left present further ih =>
      simp only [evaluateOperand_object, evaluateExpression_sides, sideValue_of_get? present,
        ih failed, bind, Except.bind]
  | right passed computed present further ih =>
      simp only [evaluateOperand_object, evaluateExpression_sides, sideValue_of_get? passed,
        computed, sideValue_of_get? present, ih failed, bind, Except.bind]

variable {fields : Fields} {symbol : Text} {security : Security} {expression : Json}

theorem execute_of_arrives (named : fields.get? securityName = some (.string symbol))
    (known : store.security? symbol = some security)
    (present : fields.get? expressionName = some (.object node))
    (arrives : Arrives store security.id depthLimit (.object node) path rest operand)
    (failed : evaluateOperand store security.id (evaluateExpression store security.id rest)
      operand = .error failure) :
    store.execute (.object fields) = .ofFailure failure := by
  have evaluated := evaluate_of_known named known present
  rw [operandValue, arrives.fails failed] at evaluated
  exact Store.execute_of_error evaluated

theorem Arrives.eq_object (arrives : Arrives store securityId room (.object node) path rest operand)
    (agree : (Json.object node).AgreeAlong path other) : ∃ others, other = .object others := by
  cases agree with
  | arrived => exact ⟨node, rfl⟩
  | left => exact ⟨_, rfl⟩
  | right => exact ⟨_, rfl⟩

/-- What a security is called that is not found: a string by itself, any other
value by its literal. -/
def calledBy : Json → Text
  | .string symbol => symbol
  | named => named.literal

theorem execute_of_unnamed {named : Json} {failure : Failure}
    (present : fields.get? securityName = some named)
    (looked : store.securityNamed named = .error failure) :
    store.execute (.object fields) = .ofFailure failure := by
  refine Store.execute_of_error ?_
  simp only [evaluate, present, looked, bind, Except.bind]

/-- A security that can be looked up and is not there is called by its name. -/
theorem securityNamed_of_unknown {named : Json}
    (notArray : ∀ items, named ≠ .array items) (notObject : ∀ members, named ≠ .object members)
    (missing : ∀ symbol, named = .string symbol → store.security? symbol = none)
    (printable : ∀ value, named = .number value → value.isPrintable = true) :
    store.securityNamed named = .error (.unknownSecurity (calledBy named)) := by
  cases named with
  | string symbol => simp only [Store.securityNamed, missing symbol rfl, calledBy]
  | array items => exact absurd rfl (notArray items)
  | object members => exact absurd rfl (notObject members)
  | number value =>
      rw [Store.securityNamed, if_pos (printable value rfl)]
      rfl
  | _ => rfl

/-- The first operand that fails decides the result, and nothing behind it
matters; before all operands comes the security.  A number that is none is shown,
which only fails if it has too many digits, as no number in a text has. -/
theorem execute_stops_at_first (store : Store) {named : Json}
    (present : fields.get? securityName = some named) :
    (∀ (symbol : Text) (security : Security) (node : Fields) (path : List Side) (operand : Json)
        (failure : Failure),
      named = .string symbol → store.security? symbol = some security →
      fields.get? expressionName = some (.object node) → WithinDepth (.object fields) →
      Reaches store security.id (.object node) path operand →
      operandValue store security.id operand = .error failure →
        store.execute (.object fields) = .ofFailure failure ∧
        ∀ (others : Fields) (other : Json), others.get? securityName = some named →
          others.get? expressionName = some other →
          (Json.object node).AgreeAlong path other →
          store.execute (.object others) = .ofFailure failure) ∧
    ((∀ items, named ≠ .array items) → (∀ members, named ≠ .object members) →
      (∀ symbol, named = .string symbol → store.security? symbol = none) →
      (∀ value, named = .number value → value.isPrintable = true) →
        store.execute (.object fields) =
          ⟨false, .int 0, "Security (" ++ calledBy named ++ ") could not be found.", "DSL101"⟩) ∧
    (∀ value, named = .number value → value.isPrintable = false →
      store.execute (.object fields) =
        ⟨false, .int 0, "Something was wrong executing the DSL.", "DSL199"⟩) ∧
    ∀ constants text, Json.read constants text = .ok (.object fields) →
      ∀ value, named = .number value → value.isPrintable = true := by
  refine ⟨?_, fun notArray notObject missing printable => ?_, ?_, ?_⟩
  · rintro symbol security node path operand failure rfl known expression shallow reaches failed
    have within := shallow _ expression
    have arrives := reaches.arrives within (Nat.le_refl _)
    -- in its place the operand has only the room that its depth leaves, which is enough
    rw [← evaluateOperand_eq_operandValue within reaches.found] at failed
    refine ⟨execute_of_arrives present known expression arrives failed, ?_⟩
    intro others other otherNamed otherExpression agree
    obtain ⟨otherNode, rfl⟩ := arrives.eq_object agree
    exact execute_of_arrives otherNamed known otherExpression (arrives.of_agreeAlong agree) failed
  · exact execute_of_unnamed present
      (securityNamed_of_unknown notArray notObject missing printable)
  · rintro value rfl unprintable
    have looked : store.securityNamed (.number value) = .error (.unexpected .malformed) := by
      rw [Store.securityNamed, if_neg (Bool.eq_false_iff.mp unprintable)]
    exact execute_of_unnamed present looked
  · rintro constants text accepted value rfl
    exact Json.isShort_of_read accepted value (Json.mem_numbers_of_get? present)

/-- The price plus what remains of a dividend that is missing. -/
def remainder : Fields :=
  [("fn", .string "+"), ("a", .string "price"),
    ("b", .object [("fn", .string "-"), ("a", .string "dividend"), ("b", .int 1)])]

def remainderDocument : Fields :=
  [(securityName, .string "ABC"), (expressionName, .object remainder)]

/-- The same look-ups first, and no operator or right operand behind them. -/
def remainderStripped : Json :=
  .object [("b", .object [("fn", .array []), ("a", .string "dividend")]), ("a", .string "price")]

def strippedDocument : Fields :=
  [(expressionName, remainderStripped), (securityName, .string "ABC")]

/-- A document without an expression. -/
def namelessDocument : Fields :=
  [(securityName, .number (.float .nan))]

theorem reaches_dividend :
    Reaches pricedOnly.store (.number (.int 1)) (.object remainder) [.right, .left]
      (.string "dividend") := by
  refine ⟨rfl, fun outer inner turns => ?_⟩
  match outer with
  | [] => exact ⟨.string "price", .int 10, rfl, valueOf_price⟩
  | [_] => simp at turns
  | _ :: _ :: outer => simp at turns

theorem agreeAlong_remainder :
    (Json.object remainder).AgreeAlong [.right, .left] remainderStripped :=
  .right rfl rfl rfl (.left rfl rfl (.arrived _))

theorem execute_stops_at_first_remainder :
    WithinDepth (.object remainderDocument) ∧
      pricedOnly.store.execute (.object remainderDocument) = .ofFailure (.missingFact "dividend") ∧
      pricedOnly.store.execute (.object strippedDocument) = .ofFailure (.missingFact "dividend") ∧
      pricedOnly.store.execute (.object namelessDocument) =
        ⟨false, .int 0, "Security (" ++ "nan" ++ ") could not be found.", "DSL101"⟩ := by
  have shallow : WithinDepth (.object remainderDocument) :=
    withinDepth_of_nesting (by decide +kernel)
  have missing : operandValue pricedOnly.store (.number (.int 1)) (.string "dividend") =
      .error (.missingFact "dividend") :=
    Tables.store_valueOf_of_none (by decide +kernel)
  obtain ⟨stops, unmoved⟩ := (execute_stops_at_first pricedOnly.store rfl).1 "ABC" _ remainder
    [.right, .left] _ _ rfl security?_pricedOnly rfl shallow reaches_dividend missing
  have named : namelessDocument.get? securityName = some (.number (.float .nan)) := rfl
  have printable (value : Number) (same : Json.number (.float .nan) = .number value) :
      value.isPrintable = true := by
    cases same
    rfl
  have unknown := (execute_stops_at_first pricedOnly.store named).2.1 (by simp) (by simp) (by simp)
    printable
  exact ⟨shallow, stops, unmoved strippedDocument _ rfl rfl agreeAlong_remainder, unknown⟩

end Document

end Formulary
