/-
# The model of a Ruby program

A closed vocabulary that tools traverse instead of the parser's tree.  A model node is a
form over its children: an optional child is absent as `none`, and lists keep the order
of the source.

The forms are the model nodes of `SPEC_FULL.md`, §3 and §12 (`ModelNode`).  `Model.intoSplat` and
`Model.assignedValue?` are `into_splat` and `into_assigned_value`; `Model.contents` is what the
flattener of §4.3 (`body_node_to_contents`) adds to a container.
-/

import RubyModel.Vocabulary

namespace RubyModel

/-- The variables that can be assigned to. -/
inductive Target where
  | plain (scope : LocalScope)
  | sigil (scope : Scope)
  deriving DecidableEq

/-- One layer of a model, over a type of children. -/
inductive Form (α : Type) where
  | leaf (leaf : Leaf)
  /-- A string or regular expression: its value, or the pieces of an interpolated one. -/
  | text (form : TextForm) (value : Option String) (dynamic : Bool) (pieces : List α)
  | var (scope : Scope) (name : String)
  | assign (target : Target) (name : String) (value : Option α)
  | constantDecl (name : String) (value : Option α)
  /-- An assignment to an element, `container[element] = value`. -/
  | elementAssign (container element value : Option α)
  /-- An update of an element, `container[element] op= value`. -/
  | elementUpdate (container element value : Option α) (operator : String)
  /-- An assignment to an attribute, `receiver.name = value`. -/
  | attributeAssign (receiver : Option α) (name : String) (value : Option α)
  /-- An assignment `assigned ||= value` or `assigned &&= value`. -/
  | logicalAssign (operator : Logical) (assigned value : Option α)
  /-- An update of an attribute, `container.name op= value`. -/
  | operatorAssign (container : Option α) (name operator : String) (value : Option α)
  /-- An assignment to several targets, `a, *b, c = values`; a rest target is a splat. -/
  | multipleAssign (targets values : List α)
  | ifElse (condition thenBody elseBody : Option α)
  | loop (form : Loop) (condition body : Option α)
  | caseOf (subject : Option α) (clauses : List α) (elseBody : Option α)
  | whenClause (condition body : Option α)
  | beginEnd (body : Option α) (clauses : List α) (elseBody ensureBody : Option α)
  | rescueClause (exceptions : List α) (body : Option α)
  /-- The statement `body rescue value`. -/
  | rescueStatement (body value : Option α)
  | aliasName (oldName newName : Option α)
  | undef (name : Option α)
  | jump (form : Jump) (value : Option α)
  | yield (args : List α)
  | isDefined (value : Option α)
  | logical (operator : Logical) (left right : Option α)
  | unary (value : Option α) (operator : String)
  /-- A method call; the receiver is implicit in a call by name with arguments or
  parentheses only. -/
  | call (name : String) (receiver : Option α) (args : List α) (blockArg : Option α)
      (implicitReceiver : Bool)
  | superCall (args : List α) (blockArg : Option α)
  /-- A bare `super`, which passes the arguments on. -/
  | callToSuper (blockArg : Option α)
  | codeBlock (args : List α) (body : Option α)
  /-- A method definition, `onself` if it is made on an object. -/
  | define (name : String) (receiver : Option α) (onself : Bool) (args : List α)
      (body : Option α) (clauses : List α) (elseBody ensureBody : Option α)
  | block (contents : List α)
  | classDecl (name superClass : Option α) (contents : List α)
  | moduleDecl (name : Option α) (contents : List α)
  | constant (name : String) (container : Option α)
  | topConstant (name : String)
  | range (lower upper : Option α) (exclusive : Bool)
  | regexMatch (checked regex : Option α)
  | hash (pairs : List α)
  | hashPair (key value : Option α)
  | array (values : List α)
  /-- A splat, `*value` or a bare `*`. -/
  | splat (value : Option α)
  | param (name : String) (default : Option α)
  /-- A block `&value`, passed to a call or declared as a parameter. -/
  | blockReference (value : Option α)

/-- A node of the model. -/
inductive Model where
  | mk (form : Form Model)

namespace Model

/-- The layer of the model at the node. -/
def form : Model → Form Model
  | ⟨form⟩ => form

/-- A splat of the model, which is left as it is if it is one already. -/
def intoSplat : Model → Model
  | ⟨.splat value⟩ => ⟨.splat value⟩
  | other => ⟨.splat (some other)⟩

/-- The value that an assignment gives to its target; `none` if the model is no assignment. -/
def assignedValue? : Model → Option (Option Model)
  | ⟨.assign _ _ value⟩ => some value
  | ⟨.constantDecl _ value⟩ => some value
  | ⟨.elementAssign _ _ value⟩ => some value
  | ⟨.attributeAssign _ _ value⟩ => some value
  | _ => none

/-- The contents that a body adds to a container: those of a block one by one, any other
model as it is, and nothing for an absent one. -/
def contents : Option Model → List Model
  | none => []
  | some ⟨.block contents⟩ => contents
  | some model => [model]

/-- A splat is not wrapped twice. -/
@[simp] theorem intoSplat_intoSplat (model : Model) :
    model.intoSplat.intoSplat = model.intoSplat := by
  obtain ⟨form⟩ := model
  cases form <;> rfl

mutual
/-- Rebuilds a model from the leaves up: `f` gives the result of a node from its form with
the results of its children. -/
def fold {β : Type} (f : Form β → β) : Model → β
  | ⟨form⟩ => f (foldForm f form)

/-- The form with the results of the children. -/
def foldForm {β : Type} (f : Form β → β) : Form Model → Form β
  | .leaf leaf => .leaf leaf
  | .text form value dynamic pieces => .text form value dynamic (foldList f pieces)
  | .var scope name => .var scope name
  | .assign target name value => .assign target name (foldChild f value)
  | .constantDecl name value => .constantDecl name (foldChild f value)
  | .elementAssign container element value =>
    .elementAssign (foldChild f container) (foldChild f element) (foldChild f value)
  | .elementUpdate container element value operator =>
    .elementUpdate (foldChild f container) (foldChild f element) (foldChild f value) operator
  | .attributeAssign receiver name value =>
    .attributeAssign (foldChild f receiver) name (foldChild f value)
  | .logicalAssign operator assigned value =>
    .logicalAssign operator (foldChild f assigned) (foldChild f value)
  | .operatorAssign container name operator value =>
    .operatorAssign (foldChild f container) name operator (foldChild f value)
  | .multipleAssign targets values => .multipleAssign (foldList f targets) (foldList f values)
  | .ifElse condition thenBody elseBody =>
    .ifElse (foldChild f condition) (foldChild f thenBody) (foldChild f elseBody)
  | .loop form condition body => .loop form (foldChild f condition) (foldChild f body)
  | .caseOf subject clauses elseBody =>
    .caseOf (foldChild f subject) (foldList f clauses) (foldChild f elseBody)
  | .whenClause condition body => .whenClause (foldChild f condition) (foldChild f body)
  | .beginEnd body clauses elseBody ensureBody =>
    .beginEnd (foldChild f body) (foldList f clauses) (foldChild f elseBody)
      (foldChild f ensureBody)
  | .rescueClause exceptions body => .rescueClause (foldList f exceptions) (foldChild f body)
  | .rescueStatement body value => .rescueStatement (foldChild f body) (foldChild f value)
  | .aliasName oldName newName => .aliasName (foldChild f oldName) (foldChild f newName)
  | .undef name => .undef (foldChild f name)
  | .jump form value => .jump form (foldChild f value)
  | .yield args => .yield (foldList f args)
  | .isDefined value => .isDefined (foldChild f value)
  | .logical operator left right => .logical operator (foldChild f left) (foldChild f right)
  | .unary value operator => .unary (foldChild f value) operator
  | .call name receiver args blockArg implicitReceiver =>
    .call name (foldChild f receiver) (foldList f args) (foldChild f blockArg) implicitReceiver
  | .superCall args blockArg => .superCall (foldList f args) (foldChild f blockArg)
  | .callToSuper blockArg => .callToSuper (foldChild f blockArg)
  | .codeBlock args body => .codeBlock (foldList f args) (foldChild f body)
  | .define name receiver onself args body clauses elseBody ensureBody =>
    .define name (foldChild f receiver) onself (foldList f args) (foldChild f body)
      (foldList f clauses) (foldChild f elseBody) (foldChild f ensureBody)
  | .block contents => .block (foldList f contents)
  | .classDecl name superClass contents =>
    .classDecl (foldChild f name) (foldChild f superClass) (foldList f contents)
  | .moduleDecl name contents => .moduleDecl (foldChild f name) (foldList f contents)
  | .constant name container => .constant name (foldChild f container)
  | .topConstant name => .topConstant name
  | .range lower upper exclusive => .range (foldChild f lower) (foldChild f upper) exclusive
  | .regexMatch checked regex => .regexMatch (foldChild f checked) (foldChild f regex)
  | .hash pairs => .hash (foldList f pairs)
  | .hashPair key value => .hashPair (foldChild f key) (foldChild f value)
  | .array values => .array (foldList f values)
  | .splat value => .splat (foldChild f value)
  | .param name default => .param name (foldChild f default)
  | .blockReference value => .blockReference (foldChild f value)

/-- The result of a child that may be absent. -/
def foldChild {β : Type} (f : Form β → β) : Option Model → Option β
  | none => none
  | some model => some (fold f model)

/-- The results of a list of children. -/
def foldList {β : Type} (f : Form β → β) : List Model → List β
  | [] => []
  | model :: models => fold f model :: foldList f models
end

end Model
end RubyModel
