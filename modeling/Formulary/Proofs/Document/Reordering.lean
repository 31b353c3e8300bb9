import Formulary.Evaluation
import Formulary.Proofs.Document.Checks
import Formulary.Proofs.Json.Reordering
import Formulary.Proofs.Json.RoundTrip

namespace Formulary

/-! # Reordered documents

Two documents that differ only in the order of the members of objects pass the
same checks and fail the same ones, and they evaluate to the same result.  Only
a message that shows a node shows it with its members in their order.
-/

/-- Two reports that are the same but for the order of members in the node that
their messages end with.  `nodes` and `others` are what paths lead to; the two
nodes that are shown lie on one path. -/
structure Violation.Alike (nodes others : List Side → Option Json) (first second : Violation) :
    Prop where
  report : Diagnosis.ofViolation second =
    { Diagnosis.ofViolation first with message := second.message }
  message : first.message = second.message ∨
    ∃ (lead : Text) (path : List Side) (node other : Fields),
      first.shownNode? = some (lead, node) ∧ second.shownNode? = some (lead, other) ∧
      first.message = lead ++ Json.dump 0 (.object node) ∧
      second.message = lead ++ Json.dump 0 (.object other) ∧
      nodes path = some (.object node) ∧ others path = some (.object other) ∧
      (Json.object node).Reordered (.object other)

namespace Document

/-- Two outcomes of validation that are the same, or two violations that are alike. -/
inductive OutcomesAlike (nodes others : List Side → Option Json) :
    Except Rejection Unit → Except Rejection Unit → Prop where
  | same (outcome : Except Rejection Unit) : OutcomesAlike nodes others outcome outcome
  | violation {first second : Violation} (alike : first.Alike nodes others second) :
      OutcomesAlike nodes others (.error (.violation first)) (.error (.violation second))

variable {nodes others : List Side → Option Json} {room : Nat} {node other : Fields}

theorem OutcomesAlike.andThen {first second later laterOther : Except Rejection Unit}
    (alike : OutcomesAlike nodes others first second)
    (thenAlike : OutcomesAlike nodes others later laterOther) :
    OutcomesAlike nodes others (first >>= fun _ => later) (second >>= fun _ => laterOther) := by
  cases alike with
  | same =>
      cases first with
      | error rejection => exact .same _
      | ok _ => exact thenAlike
  | violation alike => exact .violation alike

theorem refuse_alike {first second : Violation} (alike : first.Alike nodes others second)
    (shown : first.shownNesting = second.shownNesting) :
    OutcomesAlike nodes others (refuse room first) (refuse room second) := by
  unfold refuse
  rw [shown]
  split
  · exact .violation alike
  · exact .same _

/-! ## Checks -/

/-- What paths inside an expression lead to. -/
def inside (node : Fields) (path : List Side) : Option Json :=
  (Json.object node).operandAt? path

theorem alike_of_shownNode? {first second : Violation} {lead : Text}
    (report : Diagnosis.ofViolation second =
      { Diagnosis.ofViolation first with message := second.message })
    (shown : first.shownNode? = some (lead, node))
    (otherShown : second.shownNode? = some (lead, other))
    (same : (Json.object node).Reordered (.object other)) :
    first.Alike (inside node) (inside other) second := by
  refine ⟨report, .inr ⟨lead, [], node, other, shown, otherShown, ?_, ?_, ?_, ?_, same⟩⟩
  · exact Violation.message_of_shownNode? shown
  · exact Violation.message_of_shownNode? otherShown
  · exact Json.operandAt?_nil _
  · exact Json.operandAt?_nil _

theorem hasMember_reordered (same : node.Reordered other) (member : Member) :
    hasMember node member = hasMember other member := by
  unfold hasMember
  rcases same.member member.name with ⟨onLeft, onRight⟩ | ⟨value, found, onLeft, onRight, same⟩
  · rw [onLeft, onRight]
  · rw [onLeft, onRight]
    exact same.isTruthy

theorem missingMembers_reordered (same : node.Reordered other) (members : List Member) :
    missingMembers node members = missingMembers other members := by
  induction members with
  | nil => rfl
  | cons member rest ih => rw [missingMembers, missingMembers, hasMember_reordered same, ih]

theorem getD_reordered (same : node.Reordered other) (name : Text) :
    ((node.get? name).getD .null).Reordered ((other.get? name).getD .null) := by
  rcases same.member name with ⟨onLeft, onRight⟩ | ⟨value, found, onLeft, onRight, same⟩
  · rw [onLeft, onRight]
    exact .same _
  · rw [onLeft, onRight]
    exact same

theorem checkNode_reordered (same : (Json.object node).Reordered (.object other)) :
    OutcomesAlike (inside node) (inside other) (checkNode room node) (checkNode room other) := by
  have members := same.fields
  have found := getD_reordered members Member.operator.name
  simp only [checkNode, missingMembers_reordered members, members.length,
    Fields.leastExtra?_perm members.names, found.operator?]
  cases missingMembers other Member.all with
  | error error => exact .same _
  | ok missing =>
      cases missing with
      | cons member rest => exact refuse_alike (alike_of_shownNode? rfl rfl rfl same) same.nesting
      | nil =>
          simp only [Except.mapError, bind, Except.bind]
          split
          · exact refuse_alike (alike_of_shownNode? rfl rfl rfl same) same.nesting
          · split
            · refine refuse_alike ⟨rfl, .inl ?_⟩ found.arrayNesting
              simp only [Violation.message, found.inSentence.1]
            · exact .same _

/-! ## Validation -/

theorem OutcomesAlike.outward {side : Side} {inner otherInner : Fields}
    {first second : Except Rejection Unit}
    (onLeft : node.get? side.name = some (.object inner))
    (onRight : other.get? side.name = some (.object otherInner))
    (alike : OutcomesAlike (inside inner) (inside otherInner) first second) :
    OutcomesAlike (inside node) (inside other) first second := by
  cases alike with
  | same => exact .same _
  | violation alike =>
      refine .violation ⟨alike.report, alike.message.imp_right ?_⟩
      rintro ⟨lead, path, found, otherFound, shown, otherShown, ends, otherEnds, onPath,
        otherOnPath, same⟩
      refine ⟨lead, side :: path, found, otherFound, shown, otherShown, ends, otherEnds, ?_, ?_,
        same⟩
      · exact Json.operandAt?_object_cons.mpr ⟨_, onLeft, onPath⟩
      · exact Json.operandAt?_object_cons.mpr ⟨_, onRight, otherOnPath⟩

theorem validateSide_reordered (members : node.Reordered other) (side : Side)
    (nested : ∀ inner otherInner : Fields, (Json.object inner).Reordered (.object otherInner) →
      OutcomesAlike (inside inner) (inside otherInner) (validateExpression room inner)
        (validateExpression room otherInner)) :
    OutcomesAlike (inside node) (inside other) (validateSide room side node)
      (validateSide room side other) := by
  unfold validateSide
  rcases members.member side.name with ⟨onLeft, onRight⟩ | ⟨value, found, onLeft, onRight, same⟩
  · rw [onLeft, onRight]
    exact .same _
  · rw [onLeft, onRight, Option.getD_some, Option.getD_some]
    cases value with
    | object inner =>
        obtain ⟨otherInner, rfl, _⟩ := same.of_object
        exact (nested inner otherInner same).outward onLeft onRight
    | array items =>
        obtain ⟨others, rfl⟩ := same.of_array
        refine refuse_alike ⟨rfl, .inl ?_⟩ same.arrayNesting
        simp only [Violation.message, same.inSentence.1]
    | _ =>
        cases same
        exact .same _

theorem validateExpression_reordered (same : (Json.object node).Reordered (.object other)) :
    OutcomesAlike (inside node) (inside other) (validateExpression room node)
      (validateExpression room other) := by
  induction room generalizing node other with
  | zero => exact .same _
  | succ room ih =>
      rw [validateExpression_succ, validateExpression_succ]
      have sides (side : Side) := validateSide_reordered same.fields side fun _ _ => ih
      exact (checkNode_reordered same).andThen ((sides .left).andThen (sides .right))

/-- What paths inside the expression of a document lead to. -/
def insideExpression (document : Json) (path : List Side) : Option Json :=
  match document with
  | .object fields => (Fields.get? expressionName fields).bind (Json.operandAt? path)
  | _ => none

theorem insideExpression_object {fields : Fields}
    (found : fields.get? expressionName = some (.object node)) :
    insideExpression (.object fields) = inside node := by
  funext path
  simp only [insideExpression, found, Option.bind_some, inside]

/-- The checks of a document that follow the one of its security. -/
def validateBody (fields : Fields) : Except Rejection Unit :=
  match fields.get? expressionName with
  | some (.object node) =>
    if fields.length ≠ names.length then
      .error (.violation (.extraField (fields.leastExtra? names)))
    else validateExpression depthLimit node
  | _ => .error (.violation .expression)

theorem validate_object {fields : Fields} :
    validate (.object fields) =
      match fields.get? securityName with
      | some (.string (_ :: _)) => validateBody fields
      | _ => .error (.violation .security) := rfl

variable {fields others : Fields}

theorem validateBody_reordered (members : fields.Reordered others) :
    OutcomesAlike (insideExpression (.object fields)) (insideExpression (.object others))
      (validateBody fields) (validateBody others) := by
  unfold validateBody
  rw [members.length, Fields.leastExtra?_perm members.names]
  rcases members.member expressionName with
    ⟨onLeft, onRight⟩ | ⟨value, found, onLeft, onRight, same⟩
  · rw [onLeft, onRight]
    exact .same _
  · cases value with
    | object node =>
        obtain ⟨other, rfl, _⟩ := same.of_object
        rw [insideExpression_object onLeft, insideExpression_object onRight, onLeft, onRight]
        simp only
        split
        · exact .same _
        · exact validateExpression_reordered same
    | array items =>
        obtain ⟨_, rfl⟩ := same.of_array
        rw [onLeft, onRight]
        exact .same _
    | _ =>
        cases same
        rw [onLeft, onRight]
        exact .same _

theorem validate_reordered {document other : Json} (reordered : document.Reordered other) :
    OutcomesAlike (insideExpression document) (insideExpression other) (validate document)
      (validate other) := by
  cases document with
  | object fields =>
      obtain ⟨others, rfl, members⟩ := reordered.of_object
      rw [validate_object, validate_object]
      rcases members.member securityName with
        ⟨onLeft, onRight⟩ | ⟨symbol, found, onLeft, onRight, same⟩
      · rw [onLeft, onRight]
        exact .same _
      · rw [onLeft, onRight]
        cases symbol with
        | string symbol =>
            cases same
            cases symbol with
            | nil => exact .same _
            | cons point rest => exact validateBody_reordered members
        | object inner =>
            obtain ⟨_, rfl, _⟩ := same.of_object
            exact .same _
        | array items =>
            obtain ⟨_, rfl⟩ := same.of_array
            exact .same _
        | _ =>
            cases same
            exact .same _
  | array items =>
      obtain ⟨others, rfl⟩ := reordered.of_array
      exact .same _
  | _ =>
      cases reordered
      exact .same _

/-! ## Evaluation -/

variable {store : Store} {securityId : Id}

/-- Going on with a member goes the same way if it does so for reordered values. -/
theorem member_bind_reordered {α : Type} {next nextOther : Json → Except Failure α}
    (members : node.Reordered other) (sought : Member)
    (goesOn : ∀ value found : Json, value.Reordered found → next value = nextOther found) :
    (member node sought >>= next) = (member other sought >>= nextOther) := by
  unfold member
  rcases members.member sought.name with ⟨onLeft, onRight⟩ | ⟨value, found, onLeft, onRight, same⟩
  · rw [onLeft, onRight]
    rfl
  · rw [onLeft, onRight]
    exact goesOn value found same

theorem evaluateOperand_reordered {nested : Fields → Except Failure Number} {value found : Json}
    (same : value.Reordered found)
    (inner : ∀ node other : Fields, (Json.object node).Reordered (.object other) →
      nested node = nested other) :
    evaluateOperand store securityId nested value =
      evaluateOperand store securityId nested found := by
  cases value with
  | object node =>
      obtain ⟨other, rfl, _⟩ := same.of_object
      exact inner node other same
  | array items =>
      obtain ⟨_, rfl⟩ := same.of_array
      rfl
  | _ =>
      cases same
      rfl

theorem applyNamed_reordered {value found : Json} (same : value.Reordered found)
    (left right : Number) : applyNamed value left right = applyNamed found left right := by
  rw [applyNamed, applyNamed, same.operator?]

theorem evaluateExpression_reordered (same : (Json.object node).Reordered (.object other)) :
    evaluateExpression store securityId room node =
      evaluateExpression store securityId room other := by
  induction room generalizing node other with
  | zero => rfl
  | succ room ih =>
      have operand {value found : Json} (same : value.Reordered found) :
          evaluateOperand store securityId (evaluateExpression store securityId room) value =
            evaluateOperand store securityId (evaluateExpression store securityId room) found :=
        evaluateOperand_reordered same fun _ _ => ih
      unfold evaluateExpression
      refine member_bind_reordered same.fields .left fun left leftOther sameLeft => ?_
      rw [operand sameLeft]
      refine bind_congr fun leftValue => ?_
      refine member_bind_reordered same.fields .right fun right rightOther sameRight => ?_
      rw [operand sameRight]
      refine bind_congr fun rightValue => ?_
      exact member_bind_reordered same.fields .operator fun named namedOther sameNamed =>
        applyNamed_reordered sameNamed leftValue rightValue

theorem securityNamed_reordered {value found : Json} (same : value.Reordered found) :
    store.securityNamed value = store.securityNamed found := by
  cases same <;> rfl

theorem evaluate_reordered {document other : Json} (reordered : document.Reordered other) :
    evaluate store document = evaluate store other := by
  cases reordered with
  | same => rfl
  | array => rfl
  | @object fields others distinct names inside =>
      have members := (Json.Reordered.object distinct names inside).fields
      simp only [evaluate]
      rcases members.member securityName with
        ⟨onLeft, onRight⟩ | ⟨symbol, symbolOther, onLeft, onRight, sameSymbol⟩
      · rw [onLeft, onRight]
      · rw [onLeft, onRight]
        simp only [securityNamed_reordered sameSymbol]
        refine bind_congr fun security => ?_
        rcases members.member expressionName with
          ⟨onLeft, onRight⟩ | ⟨value, found, onLeft, onRight, same⟩
        · rw [onLeft, onRight]
        · rw [onLeft, onRight]
          cases value with
          | object node =>
              obtain ⟨other, rfl, _⟩ := same.of_object
              simp only [evaluateExpression_reordered same]
          | array items =>
              obtain ⟨_, rfl⟩ := same.of_array
              rfl
          | _ =>
              cases same
              rfl

/-- The order of members never matters: the outcomes of validation are alike, and
the results of evaluation are the same for every store. -/
theorem alike_of_reordered {document other : Json} (reordered : document.Reordered other) :
    OutcomesAlike (insideExpression document) (insideExpression other) (validate document)
      (validate other) ∧
    ∀ store : Store, store.execute document = store.execute other := by
  refine ⟨validate_reordered reordered, fun store => ?_⟩
  rw [Store.execute, Store.execute, evaluate_reordered reordered]

/-- An operand without an operator, with an object inside an array. -/
def crowded : Fields :=
  [("b", .string "price"), ("a", .array [.object [("p", .null), ("q", .null)]])]

/-- The same operand with the members of both objects in the other order. -/
def crowdedReversed : Fields :=
  [("a", .array [.object [("q", .null), ("p", .null)]]), ("b", .string "price")]

theorem crowded_reordered : (Json.object crowded).Reordered (.object crowdedReversed) := by
  have inner : (Json.object [("p", .null), ("q", .null)]).Reordered
      (.object [("q", .null), ("p", .null)]) := by
    refine .object (by decide) (by decide) fun name value other onLeft onRight => ?_
    rcases List.mem_pair.mp (Fields.mem_names_of_get? onLeft) with rfl | rfl <;>
      cases onLeft <;> cases onRight <;> exact .same _
  have items : (Json.array [.object [("p", .null), ("q", .null)]]).Reordered
      (.array [.object [("q", .null), ("p", .null)]]) := by
    refine .array rfl fun place item other onLeft onRight => ?_
    cases place with
    | zero =>
        cases onLeft
        cases onRight
        exact inner
    | succ place => cases onLeft
  refine .object (by decide) (by decide) fun name value other onLeft onRight => ?_
  rcases List.mem_pair.mp (Fields.mem_names_of_get? onLeft) with rfl | rfl <;>
    cases onLeft <;> cases onRight
  · exact .same _
  · exact items

/-- A document with an operand on the left of a sum. -/
def crowdedDocument : Json :=
  .object
    [(securityName, .string "ABC"),
      (expressionName,
        .object [("fn", .string "+"), ("a", .object crowded), ("b", .string "price")])]

def crowdedDocumentReversed : Json :=
  .object
    [(expressionName,
        .object [("b", .string "price"), ("a", .object crowdedReversed), ("fn", .string "+")]),
      (securityName, .string "ABC")]

theorem crowdedDocument_reordered : crowdedDocument.Reordered crowdedDocumentReversed := by
  have expression :
      (Json.object [("fn", .string "+"), ("a", .object crowded), ("b", .string "price")]).Reordered
        (.object
          [("b", .string "price"), ("a", .object crowdedReversed), ("fn", .string "+")]) := by
    refine .object (by decide) (by decide) fun name value other onLeft onRight => ?_
    rcases List.mem_cons.mp (Fields.mem_names_of_get? onLeft) with rfl | listed
    · cases onLeft
      cases onRight
      exact .same _
    · rcases List.mem_pair.mp listed with rfl | rfl <;> cases onLeft <;> cases onRight
      · exact crowded_reordered
      · exact .same _
  refine .object (by decide) (by decide) fun name value other onLeft onRight => ?_
  rcases List.mem_pair.mp (Fields.mem_names_of_get? onLeft) with rfl | rfl <;>
    cases onLeft <;> cases onRight
  · exact .same _
  · exact expression

/-- The operand is refused in both orders, and each message shows it in its own. -/
theorem alike_of_reordered_crowded :
    validate crowdedDocument = .error (.violation (.missingMember .operator crowded)) ∧
    validate crowdedDocumentReversed =
      .error (.violation (.missingMember .operator crowdedReversed)) ∧
    OutcomesAlike (insideExpression crowdedDocument) (insideExpression crowdedDocumentReversed)
      (validate crowdedDocument) (validate crowdedDocumentReversed) ∧
    ∀ store : Store, store.execute crowdedDocument = store.execute crowdedDocumentReversed :=
  ⟨rfl, rfl, alike_of_reordered crowdedDocument_reordered⟩

end Document

end Formulary
