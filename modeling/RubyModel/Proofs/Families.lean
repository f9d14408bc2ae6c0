/-
# Which kind of model a node gives

In value position the shape of a node decides the kind of its model, whatever its children are
(`shapeValue_modelKind?`); only a wrapper gives what the node in it gives, and a few shapes give no
model.  So a proof about models of some kinds needs to look at the shapes that give them only.  The
kinds that several proofs are about are gathered in families:

| shape | family of the model |
| --- | --- |
| text, interpolated text | text |
| the three forms of a call | call |
| the two forms of a method definition | definition |
| `begin`, `ensure` | guarded body |
| statements | block |
| class, module | declaration |
| any other | other |
-/

import RubyModel.Proofs.Positions

namespace RubyModel

/-- The families of models that are told apart. -/
inductive Family where
  | text
  | call
  | definition
  | guarded
  | block
  | declaration
  | other
  deriving DecidableEq

/-- The family of a layer. -/
def Form.family {α : Type} : Form α → Family
  | .text .. => .text
  | .call .. => .call
  | .define .. => .definition
  | .beginEnd .. => .guarded
  | .block _ => .block
  | .classDecl .. | .moduleDecl .. => .declaration
  | _ => .other

/-- The kind of a layer. -/
def Form.kind {α : Type} (form : Form α) : ModelKind := (ModelEntry.ofForm form).kind

/-- The family of the models of a kind. -/
def ModelKind.family : ModelKind → Family
  | .stringLiteral | .regExpLiteral => .text
  | .call => .call
  | .definition => .definition
  | .beginEndBlock => .guarded
  | .block => .block
  | .classDecl | .moduleDecl => .declaration
  | _ => .other

/-- The family of a layer is that of its kind. -/
theorem Form.family_eq {α : Type} (form : Form α) : form.family = form.kind.family := by
  cases form with
  | leaf leaf =>
    cases leaf with
    | localVar scope => cases scope <;> rfl
    | _ => rfl
  | assign target => rcases target with word | word <;> cases word <;> rfl
  | text word | var word | logicalAssign word | loop word | jump word | logical word =>
    cases word <;> rfl
  | _ => rfl

namespace Raw.Shape

variable {α : Type}

/-- The shape only wraps a node. -/
def isWrapper : Shape α → Bool
  | .wrap .. => true
  | _ => false

/-- The family of the model that the shape gives in value position. -/
def family : Shape α → Family
  | .text .. | .dynamicText .. => .text
  | .call .. | .functionCall .. | .variableCall _ => .call
  | .define .. | .defineOn .. => .definition
  | .beginBlock _ | .ensure .. => .guarded
  | .block _ => .block
  | .classDecl .. | .moduleDecl .. => .declaration
  | _ => .other

/-- The kind of the model that the shape gives in value position, if it is no wrapper and gives a
model at all. -/
def modelKind? : Shape α → Option ModelKind
  | .root _ | .wrap .. | .implicitNil | .elements .list _ | .params .. | .unsupported _ => none
  | .block _ => some .block
  | .leaf value => some (Form.leaf value : Form α).kind
  | .text .str _ | .dynamicText .str _ => some .stringLiteral
  | .text .regexp _ | .dynamicText .regexp _ => some .regExpLiteral
  | .var .globals _ => some .globalVarAccess
  | .var .classes _ => some .classVarAccess
  | .var .instances _ => some .instanceVarAccess
  | .localAssign .method .. => some .localVarAssignment
  | .localAssign .block .. => some .blockVarAssignment
  | .varAssign .globals .. => some .globalVarAssignment
  | .varAssign .classes .. | .varAssign .classDeclaration .. => some .classVarAssignment
  | .varAssign .instances .. => some .instanceVarAssignment
  | .constant _ | .scopedConstant .. => some .constant
  | .topConstant _ => some .globalScopeReference
  | .constantDecl .. => some .constantDecl
  | .elementUpdate .. => some .elementOperationAssignment
  | .attributeAssign _ name _ =>
    some (if name = Lowering.elementSetter then .elementAssignment else .attributeAssignment)
  | .logicalAssign .or .. => some .orAssignment
  | .logicalAssign .and .. => some .andAssignment
  | .operatorAssign .. => some .operatorAssignment
  | .multipleAssign .. => some .multipleAssignment
  | .ifElse .. => some .ifStatement
  | .loop .while .. => some .whileStatement
  | .loop .until .. => some .untilStatement
  | .caseOf .. => some .caseStatement
  | .whenClause .. => some .whenClause
  | .beginBlock _ | .ensure .. => some .beginEndBlock
  | .rescue .. => some .rescueStatement
  | .rescueBody .. => some .rescueClause
  | .jump .break _ => some .breakStatement
  | .jump .next _ => some .nextStatement
  | .jump .return _ => some .returnStatement
  | .yield _ => some .yieldStatement
  | .aliasName .. => some .aliasStatement
  | .undef _ => some .undefStatement
  | .isDefined _ => some .isDefined
  | .logical .and .. => some .andOperator
  | .logical .or .. => some .orOperator
  | .negation _ | .unaryCall .. => some .unaryOperation
  | .call .. | .functionCall .. | .variableCall _ => some .call
  | .superCall .. => some .superCall
  | .bareSuper _ => some .callToSuper
  | .regexMatch .. => some .regexMatcher
  | .range .. => some .range
  | .iterator .. => some .codeBlock
  | .define .. | .defineOn .. => some .definition
  | .classDecl .. => some .classDecl
  | .moduleDecl .. => some .moduleDecl
  | .hash _ => some .hashLiteral
  | .elements .array _ | .emptyArray | .concat .. => some .arrayLiteral
  | .splat _ | .star | .restParam _ => some .splat
  | .param _ | .optionalParam _ => some .argument
  | .blockPass .. | .blockParam _ => some .blockReference

/-- The family that a shape gives is that of the kind that it gives. -/
theorem family_of_modelKind? {shape : Shape α} {kind : ModelKind}
    (h : shape.modelKind? = some kind) : shape.family = kind.family := by
  cases shape with
  | leaf leaf =>
    obtain rfl := Option.some.inj h
    exact Form.family_eq (Form.leaf leaf : Form α)
  | attributeAssign _ name =>
    obtain rfl := Option.some.inj h
    split <;> rfl
  | text word | dynamicText word | var word | localAssign word | varAssign word
  | logicalAssign word | loop word | jump word | logical word | elements word =>
    cases word <;> cases h <;> rfl
  | _ => cases h <;> rfl

end Raw.Shape

namespace Outcome.Yields

variable {α β : Type} {Q : β → Prop}

/-- What every result of a second step has, whatever the first step gave. -/
theorem next {first : Outcome α} {next : α → Outcome β} (step : ∀ value, (next value).Yields Q) :
    (first >>= next).Yields Q :=
  bind (P := fun _ => True) (fun _ _ => trivial) fun value _ => step value

/-- A result that is there has a property. -/
theorem some {P : α → Prop} {value : α} (h : P value) :
    (Outcome.ok (Option.some value)).Yields fun found => ∀ x ∈ found, P x
  | _, rfl, _, rfl => h

end Outcome.Yields

namespace Lowering

open Raw (Node Shape)

/-- The kind of a model that may be absent. -/
def kindOf? (model : Option Model) : Option ModelKind := model.map fun x => x.form.kind

/-- A setter gives an assignment to an element or to an attribute, by its name. -/
theorem attributeAssignment_kind (node : Node) (receiver : Option Model) (setter : String)
    (args : List Model) :
    (attributeAssignment node receiver setter args).Yields fun model => kindOf? model =
      some (if setter = elementSetter then .elementAssignment else .attributeAssignment) := by
  unfold attributeAssignment
  split
  · split
    · exact .fail
    · exact .ok rfl
  · exact .ok rfl

/-- A logical assignment gives a model of its own kind, or fails. -/
theorem logicalAssignment_kind (node : Node) (operator : Logical) (first second : Node)
    (assigned right : Option Model) :
    (logicalAssignment node operator assigned right).Yields fun model =>
      kindOf? model = (Shape.logicalAssign operator first second).modelKind? := by
  have named (value : Option Model) : kindOf? (some ⟨.logicalAssign operator assigned value⟩) =
      (Shape.logicalAssign operator first second).modelKind? := by
    cases operator <;> rfl
  unfold logicalAssignment
  split
  · exact .ok (named none)
  · split
    · exact .ok (named _)
    · exact .fail

/-- **The shape decides the kind** of the model in value position, and whether there is one, unless
it is a wrapper. -/
theorem shapeValue_modelKind? (policy : Policy) (position : Position) {shape : Shape Node}
    (notWrapper : shape.isWrapper = false) :
    (shapeValue policy position shape).Yields fun model => kindOf? model = shape.modelKind? := by
  cases shape with
  | wrap => cases notWrapper
  | root | params => exact .fail
  | unsupported shape =>
    cases policy with
    | strict => exact .fail
    | permissive => exact fun _ e => by cases e; rfl
  | implicitNil => exact .ok rfl
  | leaf leaf =>
    refine .ok ?_
    cases leaf with
    | localVar scope => cases scope <;> rfl
    | _ => rfl
  | text word | var word => cases word <;> exact .ok rfl
  | constant | topConstant | star | variableCall | emptyArray | param
  | blockParam => exact .ok rfl
  | restParam name =>
    refine .ok ?_
    cases name with
    | none => rfl
    | some name => rw [restParam]; split <;> rfl
  | block | scopedConstant | constantDecl | bareSuper
  | splat | yield | undef | isDefined | negation | unaryCall | beginBlock | blockPass =>
    exact .next fun _ => .ok rfl
  | dynamicText word | localAssign word | varAssign word | jump word =>
    cases word <;> exact .next fun _ => .ok rfl
  | operatorAssign | whenClause | range | aliasName | regexMatch | iterator
  | rescueBody | ensure | functionCall | superCall | define | moduleDecl =>
    exact .next fun _ => .next fun _ => .ok rfl
  | loop word | logical word => cases word <;> exact .next fun _ => .next fun _ => .ok rfl
  | ifElse | caseOf | classDecl | call | defineOn =>
    exact .next fun _ => .next fun _ => .next fun _ => .ok rfl
  | multipleAssign =>
    exact .next fun _ => .next fun _ => .next fun _ => .next fun _ => .ok rfl
  | elementUpdate =>
    refine .next fun _ => .next fun _ => ?_
    split
    · exact .fail
    · exact .next fun _ => .ok rfl
  | attributeAssign =>
    exact .next fun _ => .next fun _ => attributeAssignment_kind _ _ _ _
  | logicalAssign =>
    exact .next fun _ => .next fun _ => logicalAssignment_kind _ _ _ _ _ _
  | concat form =>
    cases form <;> exact .next fun _ => .next fun _ => .ok rfl
  | elements form =>
    cases form with
    | array => exact .next fun _ => .ok rfl
    | list => exact .fail
  | rescue body clause elseBody =>
    obtain _ | ⟨_, clause⟩ := clause
    · exact .fail
    · cases clause with
      | rescueBody => exact .next fun _ => .next fun _ => .ok rfl
      | _ => exact .fail
  | hash elements =>
    obtain _ | ⟨_, elements⟩ := elements
    · exact .ok rfl
    · cases elements with
      | elements form items =>
        change Outcome.Yields (if items.length % 2 = 0 then _ else _) _
        split
        · exact .next fun _ => .ok rfl
        · exact .fail
      | _ => exact .fail
  | optionalParam assignment =>
    obtain ⟨_, assignment⟩ := assignment
    cases assignment with
    | localAssign => exact .next fun _ => .ok rfl
    | _ => exact .fail

/-- Every model among the results is of the given kind. -/
def OfKind (kind : Option ModelKind) (model : Option Model) : Prop :=
  ∀ x ∈ model, some x.form.kind = kind

/-- A model in value position, if there is one, is of the kind that the shape gives. -/
theorem shapeValue_kind (policy : Policy) (position : Position) {shape : Shape Node}
    (notWrapper : shape.isWrapper = false) :
    (shapeValue policy position shape).Yields (OfKind shape.modelKind?) := by
  intro model found x mem
  obtain rfl := Option.mem_def.1 mem
  exact shapeValue_modelKind? policy position notWrapper _ found

/-- The shape decides the family of the model in value position, unless it is a wrapper. -/
theorem shapeValue_family (policy : Policy) (position : Position) {shape : Shape Node}
    (notWrapper : shape.isWrapper = false) :
    (shapeValue policy position shape).Yields fun model =>
      ∀ x ∈ model, x.form.family = shape.family := by
  intro model found x mem
  have kind := shapeValue_kind policy position notWrapper model found x mem
  rw [Form.family_eq, Shape.family_of_modelKind? kind.symm]

end Lowering
end RubyModel
