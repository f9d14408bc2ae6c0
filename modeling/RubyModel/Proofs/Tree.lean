/-
# Induction over raw trees

`Shape.All` says that the children of a shape have a property, child by child, so that the
cases of an induction can be taken apart by pattern.  What every node has whose children
have it, all nodes have (`Node.induction`); a step may also use the children of the children
(`Node.deepInduction`), which is needed where a node looks through one of its children.  A
first use is that a tree rebuilt layer by layer is the tree itself (`Node.fold_mk`).
-/

import RubyModel.Raw.Shape

namespace RubyModel
namespace Raw

/-- The children of an unsupported shape have a property. -/
def Unsupported.All {α : Type} (P : α → Prop) : Unsupported α → Prop
  | .unlisted _ | .shell _ | .backReference _ | .redo | .retry => True
  | .dynamicShell pieces | .dynamicSymbol pieces => ∀ x ∈ pieces, P x
  | .matchReceiver receiver value => P receiver ∧ P value
  | .flipFlop lower upper _ => (∀ x ∈ lower, P x) ∧ ∀ x ∈ upper, P x
  | .singletonClass receiver body => P receiver ∧ ∀ x ∈ body, P x
  | .forLoop target iterated body => (∀ x ∈ target, P x) ∧ (∀ x ∈ iterated, P x) ∧ ∀ x ∈ body, P x
  | .beforeProgram body | .afterProgram body => ∀ x ∈ body, P x

/-- The children of a shape have a property. -/
def Shape.All {α : Type} (P : α → Prop) : Shape α → Prop
  | .implicitNil | .leaf _ | .text .. | .var .. | .constant _ | .topConstant _ | .star
  | .variableCall _ | .emptyArray | .param _ | .restParam _ | .blockParam _ => True
  | .block items | .dynamicText _ items | .elements _ items => ∀ x ∈ items, P x
  | .root a | .wrap _ a | .beginBlock a | .localAssign _ _ a | .varAssign _ _ a
  | .constantDecl _ a | .jump _ a | .splat a | .scopedConstant a _ | .yield a | .bareSuper a
  | .hash a => ∀ x ∈ a, P x
  | .undef a | .isDefined a | .negation a | .unaryCall a _ | .optionalParam a => P a
  | .attributeAssign a _ b | .operatorAssign a _ _ b | .loop _ a b | .whenClause a b
  | .ensure a b | .functionCall _ a b | .superCall a b | .range a b _ | .iterator a b
  | .blockPass a b | .define _ a b => (∀ x ∈ a, P x) ∧ ∀ x ∈ b, P x
  | .logicalAssign _ a b | .logical _ a b | .concat _ a b | .aliasName a b | .regexMatch a b =>
    P a ∧ P b
  | .moduleDecl a b => P a ∧ ∀ x ∈ b, P x
  | .classDecl a b c => P a ∧ (∀ x ∈ b, P x) ∧ ∀ x ∈ c, P x
  | .caseOf a items b => (∀ x ∈ a, P x) ∧ (∀ x ∈ items, P x) ∧ ∀ x ∈ b, P x
  | .elementUpdate a b _ c | .ifElse a b c | .rescue a b c | .rescueBody a b c | .call a _ b c
  | .defineOn a _ b c => (∀ x ∈ a, P x) ∧ (∀ x ∈ b, P x) ∧ ∀ x ∈ c, P x
  | .multipleAssign _ a b c d =>
    (∀ x ∈ a, P x) ∧ (∀ x ∈ b, P x) ∧ (∀ x ∈ c, P x) ∧ ∀ x ∈ d, P x
  | .params a b c d e =>
    (∀ x ∈ a, P x) ∧ (∀ x ∈ b, P x) ∧ (∀ x ∈ c, P x) ∧ (∀ x ∈ d, P x) ∧ ∀ x ∈ e, P x
  | .unsupported shape => shape.All P

/-- A property of the children of an unsupported shape can be weakened. -/
theorem Unsupported.All.imp {α : Type} {P Q : α → Prop} (h : ∀ x, P x → Q x)
    {shape : Unsupported α} (all : shape.All P) : shape.All Q := by
  cases shape <;> simp only [Unsupported.All] at all ⊢ <;> grind

/-- A property of the children of a shape can be weakened. -/
theorem Shape.All.imp {α : Type} {P Q : α → Prop} (h : ∀ x, P x → Q x) {shape : Shape α}
    (all : shape.All P) : shape.All Q := by
  cases shape with
  | unsupported shape => exact Unsupported.All.imp h all
  | _ => simp only [Shape.All] at all ⊢ <;> grind

/-- A child that is there is smaller than its place. -/
theorem sizeOf_lt_of_mem_place {x : Node} {place : Option Node} (h : x ∈ place) :
    sizeOf x < sizeOf place := by
  obtain rfl := Option.mem_def.1 h
  simp

variable {P : Node → Prop}

/-- What every smaller node has, the children of an unsupported shape have. -/
theorem Unsupported.all_of_sizeOf_lt {shape : Unsupported Node}
    (h : ∀ node, sizeOf node < sizeOf shape → P node) : shape.All P := by
  cases shape <;> simp only [Unsupported.All] <;>
    grind [→ List.sizeOf_lt_of_mem, → sizeOf_lt_of_mem_place]

/-- What every smaller node has, the children of a shape have. -/
theorem Shape.all_of_sizeOf_lt {shape : Shape Node}
    (h : ∀ node, sizeOf node < sizeOf shape → P node) : shape.All P := by
  cases shape with
  | unsupported shape =>
    exact Unsupported.all_of_sizeOf_lt fun node lt => h node (by simp; omega)
  | _ => simp only [Shape.All] <;> grind [→ List.sizeOf_lt_of_mem, → sizeOf_lt_of_mem_place]

namespace Node

/-- **Induction over trees:** what a node has if its children have it, every node has. -/
theorem induction (step : ∀ position shape, Shape.All P shape → P ⟨position, shape⟩) :
    ∀ node, P node
  | ⟨position, shape⟩ => step position shape
      (Shape.all_of_sizeOf_lt fun node _ => induction step node)
termination_by node => sizeOf node
decreasing_by
  simp only [mk.sizeOf_spec]
  omega

/-- Induction over trees where a step may look two levels down. -/
theorem deepInduction
    (step : ∀ position shape, Shape.All (fun node => P node ∧ node.shape.All P) shape →
      P ⟨position, shape⟩) (node : Node) : P node := by
  have both : P node ∧ node.shape.All P := by
    induction node using induction with
    | step position shape ih => exact ⟨step position shape ih, ih.imp fun _ both => both.1⟩
  exact both.1

/-! ## Rebuilding a tree -/

section Fold

variable {β : Type} (f : Position → Shape β → β)

/-- A child that may be absent is rebuilt if it is there. -/
theorem foldChild_eq (place : Option Node) : foldChild f place = place.map (fold f) := by
  cases place <;> rfl

/-- The nodes of a list are rebuilt one by one. -/
theorem foldList_eq (nodes : List Node) : foldList f nodes = nodes.map (fold f) := by
  induction nodes with
  | nil => rfl
  | cons node nodes ih => exact congrArg (fold f node :: ·) ih

end Fold

/-- A child that is rebuilt as it is stays what it is. -/
theorem foldChild_mk {place : Option Node} (h : ∀ x ∈ place, fold mk x = x) :
    foldChild mk place = place := by
  cases place with
  | none => rfl
  | some node => exact congrArg some (h node rfl)

/-- So do the nodes of a list. -/
theorem foldList_mk : ∀ {nodes : List Node}, (∀ x ∈ nodes, fold mk x = x) →
    foldList mk nodes = nodes
  | [], _ => rfl
  | node :: nodes, h => by
    rw [foldList, h node List.mem_cons_self,
      foldList_mk fun x mem => h x (List.mem_cons_of_mem node mem)]

/-- So do the children of an unsupported shape. -/
theorem foldUnsupported_mk {shape : Unsupported Node}
    (h : shape.All fun node => fold mk node = node) : foldUnsupported mk shape = shape := by
  cases shape <;> simp only [Unsupported.All] at h <;> conv => lhs; whnf
  all_goals grind only [foldChild_mk, foldList_mk]

/-- Rebuilding every layer as it is gives the tree back. -/
theorem fold_mk (node : Node) : fold mk node = node := by
  induction node using induction with
  | step position shape h =>
    refine congrArg (mk position) ?_
    cases shape with
    | unsupported shape => exact congrArg Shape.unsupported (foldUnsupported_mk h)
    | implicitNil | leaf | text | var | constant | topConstant | star | variableCall | emptyArray
    | param | restParam | blockParam => rfl
    | _ =>
      simp only [Shape.All] at h
      conv => lhs; whnf
      grind only [foldChild_mk, foldList_mk]

end Node
end Raw
end RubyModel
