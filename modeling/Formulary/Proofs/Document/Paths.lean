import Formulary.Document
import Formulary.Proofs.Json.Members

namespace Formulary

/-! # Paths of operands

An operand inside an expression is found by going to the left or to the right
operand again and again.  What holds of every node of an expression is stated
over these paths; members that are no operands play no part in it.
-/

/-- A step inward: to one of the two operands. -/
inductive Side where
  | left
  | right
deriving DecidableEq, Repr

namespace Side

def member : Side → Member
  | left => .left
  | right => .right

def name (side : Side) : Text := side.member.name

end Side

namespace Json

def operandAt? : List Side → Json → Option Json
  | [], value => some value
  | side :: path, object node => (Fields.get? side.name node).bind (operandAt? path)
  | _ :: _, _ => none

variable {value operand : Json} {node found : Fields} {side : Side} {path : List Side}

@[simp] theorem operandAt?_nil (value : Json) : value.operandAt? [] = some value := by
  cases value <;> rfl

theorem operandAt?_cons :
    value.operandAt? (side :: path) = some operand ↔
      ∃ node inner, value = object node ∧ Fields.get? side.name node = some inner ∧
        inner.operandAt? path = some operand := by
  cases value <;> simp [operandAt?, Option.bind_eq_some_iff]

theorem operandAt?_object_cons :
    (object node).operandAt? (side :: path) = some operand ↔
      ∃ inner, Fields.get? side.name node = some inner ∧ inner.operandAt? path = some operand := by
  simp [operandAt?, Option.bind_eq_some_iff]

theorem eq_object_of_operandAt? (at_path : value.operandAt? path = some (object found)) :
    ∃ node, value = object node := by
  cases path with
  | nil => exact ⟨found, by simpa using at_path⟩
  | cons side path =>
      obtain ⟨node, _, same, _⟩ := operandAt?_cons.mp at_path
      exact ⟨node, same⟩

/-- A property of all nodes that paths from a value lead to. -/
def EveryNode (holds : Fields → Prop) (value : Json) : Prop :=
  ∀ path node, value.operandAt? path = some (object node) → holds node

variable {holds : Fields → Prop}

theorem everyNode_object :
    (object node).EveryNode holds ↔
      holds node ∧
        ∀ side operand, Fields.get? (Side.name side) node = some operand → operand.EveryNode holds := by
  constructor
  · intro every
    refine ⟨every [] node (by simp), fun side operand present path inner found => ?_⟩
    exact every (side :: path) inner (operandAt?_object_cons.mpr ⟨operand, present, found⟩)
  · rintro ⟨here, inside⟩ path inner found
    cases path with
    | nil =>
        simp only [operandAt?_nil, Option.some.injEq, object.injEq] at found
        exact found ▸ here
    | cons side path =>
        obtain ⟨operand, present, found⟩ := operandAt?_object_cons.mp found
        exact inside side operand present path inner found

theorem EveryNode.here (every : (object node).EveryNode holds) : holds node :=
  (everyNode_object.mp every).1

theorem EveryNode.inside (every : (object node).EveryNode holds)
    (present : Fields.get? side.name node = some operand) : operand.EveryNode holds :=
  (everyNode_object.mp every).2 side operand present

theorem everyNode_of_not_object (other : ∀ node, value ≠ object node) : value.EveryNode holds := by
  intro path node found
  obtain ⟨outer, same⟩ := eq_object_of_operandAt? found
  exact absurd same (other outer)

end Json

end Formulary
