/-
# The right operand of a logical assignment

`a ||= v` and `a &&= v` have a whole assignment to the target as their right operand, of which only
the value is kept (`SPEC_FULL.md`, §15).  Whether the operand is an assignment is seen on its model,
but the node behind the wrappers of the operand (`Node.core`) decides it, since its shape decides
the kind of the model:

| node behind the wrappers | value of the logical assignment |
| --- | --- |
| none, an implicit nil, a node that is left out | absent |
| assignment to a variable or a constant | the model of its value |
| assignment to an attribute or an element | the value in its model |
| any other | none: a failure at the logical assignment, which names the kind of the model |

So a logical assignment or an update among the right operands is refused, and a gap is not.
-/

import RubyModel.Proofs.ElementAssignments
import RubyModel.Proofs.Families
import RubyModel.Proofs.Tree
import RubyModel.Raw.Build

namespace RubyModel

/-- The models of the kind assign a value to one target. -/
def ModelKind.isAssignment : ModelKind → Bool
  | .localVarAssignment | .blockVarAssignment | .globalVarAssignment | .classVarAssignment
  | .instanceVarAssignment | .constantDecl | .elementAssignment | .attributeAssignment => true
  | _ => false

/-- A value can be taken out of the models of these kinds, and of no others. -/
theorem Model.isSome_assignedValue? (model : Model) :
    model.assignedValue?.isSome = model.form.kind.isAssignment := by
  obtain ⟨form⟩ := model
  cases form with
  | leaf leaf =>
    cases leaf with
    | localVar scope => cases scope <;> rfl
    | _ => rfl
  | assign target => rcases target with word | word <;> cases word <;> rfl
  | text word | var word | logicalAssign word | loop word | jump word | logical word =>
    cases word <;> rfl
  | _ => rfl

namespace Raw

namespace Shape

variable {α : Type}

/-- The shape assigns a value to one target. -/
def isAssignment : Shape α → Bool
  | .localAssign .. | .varAssign .. | .constantDecl .. | .attributeAssign .. => true
  | _ => false

/-- The value of an assignment to a variable or a constant. -/
def assigned? : Shape α → Option (Option α)
  | .localAssign _ _ value | .varAssign _ _ value | .constantDecl _ value => some value
  | _ => none

/-- The shape is an implicit nil, or one that the policy leaves out. -/
def isLeftOut (policy : Policy) : Shape α → Bool
  | .implicitNil => true
  | .unsupported _ => policy.skipsUnknown
  | _ => false

/-- Shapes that assign give models that do, and other shapes give others. -/
theorem isAssignment_of_modelKind? {shape : Shape α} {kind : ModelKind}
    (h : shape.modelKind? = some kind) : shape.isAssignment = kind.isAssignment := by
  cases shape with
  | leaf leaf =>
    obtain rfl := Option.some.inj h
    cases leaf with
    | localVar scope => cases scope <;> rfl
    | _ => rfl
  | attributeAssign _ name =>
    obtain rfl := Option.some.inj h
    split <;> rfl
  | text word | dynamicText word | var word | localAssign word | varAssign word
  | logicalAssign word | loop word | jump word | logical word | elements word =>
    cases word <;> cases h <;> rfl
  | _ => cases h <;> rfl

end Shape

namespace Node

mutual
/-- The node behind all wrappers; there is none if the last wrapper is empty. -/
def core : Node → Option Node
  | ⟨position, shape⟩ =>
    match shape with
    | .wrap _ inner => coreOf inner
    | other => some ⟨position, other⟩

/-- The node behind all wrappers in a place. -/
def coreOf : Option Node → Option Node
  | none => none
  | some node => core node
end

/-- Behind all wrappers there is no further one. -/
theorem isWrapper_of_mem_core {node core : Node} (h : core ∈ node.core) :
    core.shape.isWrapper = false := by
  induction node using induction with
  | step position shape ih =>
    cases shape with
    | wrap wrapper inner =>
      cases inner with
      | none => cases h
      | some inner => exact ih inner rfl h
    | _ =>
      cases h
      rfl

/-- The node can be the right operand of a logical assignment: behind its wrappers there is nothing
that gives a model, or an assignment. -/
def Assigns (policy : Policy) (node : Node) : Prop :=
  ∀ core ∈ node.core, core.shape.isLeftOut policy = true ∨ core.shape.isAssignment = true

end Node
end Raw

namespace Lowering

open Raw (Node Shape)

variable {policy : Policy}

/-! ## Behind the wrappers -/

/-- A node gives what the node behind its wrappers gives. -/
theorem value_eq_core (policy : Policy) (node : Node) :
    value policy node = child policy node.core := by
  induction node using Node.induction with
  | step position shape ih =>
    cases shape with
    | wrap wrapper inner =>
      cases inner with
      | none => rfl
      | some inner => exact ih inner rfl
    | _ => rfl

section Core

variable {node core : Node} {model : Option Model}

/-- Wrappers around nothing give nothing. -/
theorem Gives.absent (gives : Gives policy node model) (h : node.core = none) : model = none := by
  rw [Gives, value_eq_core, h] at gives
  exact (Except.ok.inj gives).symm

/-- What a node gives, the node behind its wrappers gives. -/
theorem Gives.behind (gives : Gives policy node model) (h : core ∈ node.core) :
    Gives policy core model := by
  rw [Gives, value_eq_core, Option.mem_def.1 h] at gives
  exact gives

/-- The node behind the wrappers decides the kind of the model. -/
theorem Gives.kindOf?_eq (gives : Gives policy node model) (h : core ∈ node.core) :
    kindOf? model = core.shape.modelKind? := by
  obtain ⟨position, shape⟩ := core
  exact shapeValue_modelKind? policy position (Node.isWrapper_of_mem_core h) model (gives.behind h)

/-- What is left out gives no model. -/
theorem Gives.eq_none (gives : Gives policy node model)
    (leftOut : node.shape.isLeftOut policy = true) : model = none := by
  obtain ⟨position, shape⟩ := node
  cases shape with
  | implicitNil => exact (Except.ok.inj gives).symm
  | unsupported shape =>
    cases policy with
    | strict => cases leftOut
    | permissive => exact (Except.ok.inj gives).symm
  | _ => cases leftOut

/-- What is no wrapper and gives no model, though it does not fail, is left out. -/
theorem Gives.isLeftOut (gives : Gives policy node none) (h : core ∈ node.core) :
    core.shape.isLeftOut policy = true := by
  have kind : none = core.shape.modelKind? := gives.kindOf?_eq h
  have notWrapper := Node.isWrapper_of_mem_core h
  replace gives := gives.behind h
  obtain ⟨position, shape⟩ := core
  -- A shape without a kind is left out, or it fails as a value.
  cases shape with
  | wrap => cases notWrapper
  | root | params => cases gives
  | implicitNil => rfl
  | unsupported shape =>
    cases policy with
    | strict => cases gives
    | permissive => rfl
  | elements form =>
    cases form with
    | array => cases kind
    | list => cases gives
  | text word | dynamicText word | var word | localAssign word | varAssign word
  | logicalAssign word | loop word | jump word | logical word =>
    cases word <;> cases kind
  | _ => cases kind

end Core

/-! ## What is assigned -/

/-- The value that the node behind the wrappers assigns. -/
inductive AssignedBy (policy : Policy) : Option Node → Option Model → Prop where
  | absent : AssignedBy policy none none
  | leftOut {core : Node} (h : core.shape.isLeftOut policy = true) :
      AssignedBy policy (some core) none
  | value {core : Node} {assigned : Option Node} {model : Option Model}
      (h : core.shape.assigned? = some assigned)
      (gives : (child policy assigned).result = .ok model) :
      AssignedBy policy (some core) model
  | setAttribute {position : Position} {receiver args : Option Node} {setter : String}
      {object : Option Model} {name : String} {model : Option Model}
      (gives : Gives policy ⟨position, .attributeAssign receiver setter args⟩
        (some ⟨.attributeAssign object name model⟩)) :
      AssignedBy policy (some ⟨position, .attributeAssign receiver setter args⟩) model
  | setElement {position : Position} {receiver args : Option Node} {setter : String}
      {container index model : Option Model}
      (gives : Gives policy ⟨position, .attributeAssign receiver setter args⟩
        (some ⟨.elementAssign container index model⟩)) :
      AssignedBy policy (some ⟨position, .attributeAssign receiver setter args⟩) model

/-- What is taken out of the model of a right operand; `none` if it is no assignment. -/
def takenFrom : Option Model → Option (Option Model)
  | none => some none
  | some model => model.assignedValue?

section Operand

variable {operand core : Node} {right : Option Model}

/-- An assignment to a variable or a constant has the model of its value as its value. -/
theorem takenFrom_of_assigned? {assigned : Option Node} {model : Option Model}
    (h : core.shape.assigned? = some assigned) (given : (child policy assigned).result = .ok model)
    (gives : Gives policy core right) : takenFrom right = some model := by
  obtain ⟨position, shape⟩ := core
  cases shape with
  | localAssign scope name value | varAssign form name value | constantDecl name value =>
    cases h
    obtain ⟨found, found_ok, e⟩ := Outcome.result_bind_eq_ok.1 gives
    cases e
    rw [given] at found_ok
    cases found_ok
    rfl
  | _ => cases h

/-- What the node behind the wrappers assigns is taken out of the model of the operand. -/
theorem takenFrom_of_assignedBy {model : Option Model} (gives : Gives policy operand right)
    (h : AssignedBy policy operand.core model) : takenFrom right = some model := by
  cases e : operand.core with
  | none =>
    rw [e] at h
    cases h
    rw [gives.absent e, takenFrom]
  | some core =>
    rw [e] at h
    have here := gives.behind e
    cases h with
    | leftOut leftOut => rw [here.eq_none leftOut, takenFrom]
    | value assigned given => exact takenFrom_of_assigned? assigned given here
    | setAttribute given | setElement given =>
      cases given.symm.trans here
      rfl

/-- An assignment that does not fail assigns something. -/
theorem exists_assignedBy_of_isAssignment (gives : Gives policy core right)
    (h : core.shape.isAssignment = true) : ∃ model, AssignedBy policy (some core) model := by
  obtain ⟨position, shape⟩ := core
  cases shape with
  | localAssign scope name value | varAssign form name value | constantDecl name value =>
    obtain ⟨found, found_ok, -⟩ := Outcome.result_bind_eq_ok.1 gives
    exact ⟨found, .value rfl found_ok⟩
  | attributeAssign receiver setter args =>
    obtain ⟨object, -, given⟩ := Outcome.result_bind_eq_ok.1 gives
    obtain ⟨values, -, given⟩ := Outcome.result_bind_eq_ok.1 given
    unfold attributeAssignment at given
    split at given
    · split at given
      · cases given
      · cases given
        exact ⟨_, .setElement gives⟩
    · cases given
      exact ⟨_, .setAttribute gives⟩
  | _ => cases h

/-- An assignment that gives a model has a value to assign. -/
theorem exists_assignedBy (gives : Gives policy operand right) (h : operand.Assigns policy) :
    ∃ model, AssignedBy policy operand.core model := by
  cases e : operand.core with
  | none => exact ⟨none, .absent⟩
  | some core =>
    obtain leftOut | isAssignment := h core e
    · exact ⟨none, .leftOut leftOut⟩
    · exact exists_assignedBy_of_isAssignment (gives.behind e) isAssignment

/-- A value is taken out of the model exactly if the operand can be one. -/
theorem assigns_iff (gives : Gives policy operand right) :
    operand.Assigns policy ↔ ∃ model, takenFrom right = some model := by
  constructor
  · intro h
    obtain ⟨model, assignedBy⟩ := exists_assignedBy gives h
    exact ⟨model, takenFrom_of_assignedBy gives assignedBy⟩
  · rintro ⟨model, taken⟩ core mem
    cases right with
    | none => exact .inl (gives.isLeftOut mem)
    | some found =>
      -- From the model to its kind, and from there back to the shape behind the wrappers.
      have kind : some found.form.kind = core.shape.modelKind? := gives.kindOf?_eq mem
      have isSome : found.assignedValue?.isSome = true := Option.isSome_iff_exists.2 ⟨model, taken⟩
      rw [Model.isSome_assignedValue?] at isSome
      exact .inr ((Shape.isAssignment_of_modelKind? kind.symm).trans isSome)

/-- What is taken out of the model is what the node behind the wrappers assigns. -/
theorem assignedBy_iff (gives : Gives policy operand right) {model : Option Model} :
    AssignedBy policy operand.core model ↔ takenFrom right = some model := by
  refine ⟨takenFrom_of_assignedBy gives, fun taken => ?_⟩
  obtain ⟨found, assignedBy⟩ := exists_assignedBy gives ((assigns_iff gives).2 ⟨model, taken⟩)
  have same : some found = some model := (takenFrom_of_assignedBy gives assignedBy).symm.trans taken
  exact Option.some.inj same ▸ assignedBy

end Operand

/-! ## Logical assignments -/

section Operands

variable {first second : Node} {assigned right : Option Model}

/-- If no operand fails, their models decide. -/
theorem value_logicalAssign (position : Position) (operator : Logical)
    (first_gives : Gives policy first assigned) (second_gives : Gives policy second right) :
    (value policy ⟨position, .logicalAssign operator first second⟩).result =
      (logicalAssignment ⟨position, .logicalAssign operator first second⟩ operator assigned
        right).result :=
  (Outcome.result_bind_of_ok first_gives).trans (Outcome.result_bind_of_ok second_gives)

/-- What is taken out of the model on the right becomes the value. -/
theorem logicalAssignment_eq_ok {node : Node} {operator : Logical} {root : Option Model} :
    (logicalAssignment node operator assigned right).result = .ok root ↔
      ∃ model, takenFrom right = some model ∧
        root = some ⟨.logicalAssign operator assigned model⟩ := by
  unfold logicalAssignment takenFrom
  split
  · simp [Outcome.ok, eq_comm]
  · split
    · rename_i value taken
      simp [Outcome.ok, taken, eq_comm]
    · rename_i refused
      simp [Outcome.fail, refused]

/-- A model that nothing can be taken out of is refused by its kind. -/
theorem logicalAssignment_of_not_taken {node : Node} {operator : Logical} {model : Model}
    (h : model.assignedValue? = none) :
    (logicalAssignment node operator assigned (some model)).result =
      .error (.violated (.assignmentExpected model.kindName) node) := by
  simp only [logicalAssignment, h]
  rfl

/-- **A logical assignment takes assignments and gaps, and nothing else.**  Take one whose operands
do not fail.  It gives a model exactly if the node behind the wrappers of its right operand is
absent, left out or an assignment; its value is then what that node assigns.  Else it fails, and
names the kind of the model of its right operand, which is the kind that this node gives. -/
theorem logical_assignment (position : Position) (operator : Logical)
    (first_gives : Gives policy first assigned) (second_gives : Gives policy second right) :
    ((∃ root, Gives policy ⟨position, .logicalAssign operator first second⟩ root) ↔
      second.Assigns policy) ∧
    (∀ root, Gives policy ⟨position, .logicalAssign operator first second⟩ root ↔
      ∃ model, AssignedBy policy second.core model ∧
        root = some ⟨.logicalAssign operator assigned model⟩) ∧
    (¬second.Assigns policy → ∃ core ∈ second.core, ∃ model, right = some model ∧
      core.shape.modelKind? = some model.form.kind ∧
      (value policy ⟨position, .logicalAssign operator first second⟩).result =
        .error (.violated (.assignmentExpected model.kindName)
          ⟨position, .logicalAssign operator first second⟩)) := by
  have whole := value_logicalAssign position operator first_gives second_gives
  have given (root : Option Model) :
      Gives policy ⟨position, .logicalAssign operator first second⟩ root ↔
        ∃ model, takenFrom right = some model ∧
          root = some ⟨.logicalAssign operator assigned model⟩ := by
    rw [Gives, whole]
    exact logicalAssignment_eq_ok
  refine ⟨?_, fun root => ?_, fun refused => ?_⟩
  · rw [assigns_iff second_gives]
    constructor
    · rintro ⟨root, gives⟩
      obtain ⟨model, taken, -⟩ := (given root).1 gives
      exact ⟨model, taken⟩
    · rintro ⟨model, taken⟩
      exact ⟨_, (given _).2 ⟨model, taken, rfl⟩⟩
  · simp only [given, assignedBy_iff second_gives]
  · cases right with
    | none => exact absurd ((assigns_iff second_gives).2 ⟨none, rfl⟩) refused
    | some model =>
      have not_taken : model.assignedValue? = none := by
        rw [assigns_iff second_gives, not_exists] at refused
        exact Option.eq_none_iff_forall_ne_some.2 refused
      have failed := whole.trans (logicalAssignment_of_not_taken not_taken)
      cases e : second.core with
      | none => cases second_gives.absent e
      | some core => exact ⟨core, rfl, model, rfl, (second_gives.kindOf?_eq e).symm, failed⟩

end Operands

section Nested

open Raw.Build

/-- The assignment `a ||= …` with the given right operand. -/
def orAssign (right : Node) : Node := unplaced (.logicalAssign .or (localVar "a") right)

/-- What `orAssign` gives. -/
def orAssignModel (value : Option Model) : Model :=
  ⟨.logicalAssign .or (some ⟨.leaf (.localVar .method "a")⟩) value⟩

/-- An assignment behind two wrappers is taken, and so are one to an element, a shell command that
is left out and an empty wrapper; another logical assignment is refused by its kind. -/
theorem logical_assignment_orAssign :
    Gives .strict (orAssign (newline (interpolation (assignLocal "a" (some (int 1))))))
      (some (orAssignModel (some ⟨.leaf (.int 1)⟩))) ∧
    Gives .strict (orAssign (elementAssignment {} {} (some self) [int 0, int 1]))
      (some (orAssignModel (some ⟨.leaf (.int 1)⟩))) ∧
    Gives .permissive (orAssign (newline (unplaced (.unsupported (.shell "ls")))))
      (some (orAssignModel none)) ∧
    Gives .strict (orAssign (newline (unplaced (.wrap .newline none))))
      (some (orAssignModel none)) ∧
    (value .strict (orAssign (newline (orAssign (assignLocal "a" none))))).result =
      .error (.violated (.assignmentExpected "OrAssignment")
        (orAssign (newline (orAssign (assignLocal "a" none))))) := by
  have target (policy : Policy) : Gives policy (localVar "a")
      (some ⟨.leaf (.localVar .method "a")⟩) := rfl
  obtain ⟨-, wrapped, -⟩ := logical_assignment {} .or (target .strict)
    (rfl : Gives .strict (newline (interpolation (assignLocal "a" (some (int 1))))) _)
  obtain ⟨-, element, -⟩ := logical_assignment {} .or (target .strict)
    (rfl : Gives .strict (elementAssignment {} {} (some self) [int 0, int 1]) _)
  obtain ⟨-, skipped, -⟩ := logical_assignment {} .or (target .permissive)
    (rfl : Gives .permissive (newline (unplaced (.unsupported (.shell "ls")))) _)
  obtain ⟨-, empty, -⟩ := logical_assignment {} .or (target .strict)
    (rfl : Gives .strict (newline (unplaced (.wrap .newline none))) _)
  obtain ⟨-, -, refused⟩ := logical_assignment {} .or (target .strict)
    (rfl : Gives .strict (newline (orAssign (assignLocal "a" none))) _)
  refine ⟨(wrapped _).2 ⟨_, .value rfl rfl, rfl⟩, (element _).2 ⟨_, .setElement rfl, rfl⟩,
    (skipped _).2 ⟨_, .leftOut rfl, rfl⟩, (empty _).2 ⟨_, .absent, rfl⟩, ?_⟩
  obtain ⟨_, -, model, e, -, failed⟩ := refused fun assigns => by
    obtain h | h := assigns _ rfl <;> cases h
  cases e
  exact failed

end Nested

end Lowering
end RubyModel
