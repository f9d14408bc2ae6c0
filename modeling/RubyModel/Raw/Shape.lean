/-
# Raw trees

The tree of a Ruby program as the parser shapes it.  A node is a position and a shape; a
shape over a type of children is one layer of the tree.  Kinds that differ in a word
only share a shape: `WHILENODE` and `UNTILNODE` are both loops.

The kinds that have no counterpart in the model are gathered in `Unsupported`; their
contents are kept, but never looked at when a tree is turned into a model.

The tree is the `CstNode` of `SPEC_FULL.md`, §11; the kinds in `Unsupported` are the ones that §11
says are deliberately not transformed.
-/

import RubyModel.Position
import RubyModel.Vocabulary

namespace RubyModel
namespace Raw

/-- The name of a variable with a sigil.  A newer parser gives the bare name and a lexical
name beside it, an older one only the name with its sigil. -/
structure VarName where
  name : String
  lexicalName : Option String
  deriving DecidableEq

/-- Nodes that only wrap another one. -/
inductive Wrapper where
  /-- A statement on a line of its own. -/
  | newline
  /-- An expression inside an interpolated text. -/
  | interpolation
  deriving DecidableEq

/-- Assignments to variables with a sigil. -/
inductive VarAssign where
  | globals
  | classes
  /-- An assignment to a class variable in the body of its class. -/
  | classDeclaration
  | instances
  deriving DecidableEq

/-- The scope of the variable that is assigned to. -/
def VarAssign.scope : VarAssign → Scope
  | .globals => .globals
  | .classes => .classes
  | .classDeclaration => .classes
  | .instances => .instances

/-- The two node types of multiple assignments. -/
inductive MultipleAssign where
  | plain
  | nineteen
  deriving DecidableEq

/-- Lists of nodes. -/
inductive ListForm where
  /-- An array, which is also a value. -/
  | array
  /-- A list, which only groups what stands in it. -/
  | list
  deriving DecidableEq

/-- Two ways to extend a list of arguments. -/
inductive Concat where
  /-- By all elements of a splatted value. -/
  | cat
  /-- By one more argument. -/
  | push
  deriving DecidableEq

/-- Shapes without a counterpart in the model, over a type of children. -/
inductive Unsupported (α : Type) where
  /-- A node type that is not listed, kept by its name. -/
  | unlisted (typeName : String)
  | shell (value : String)
  | dynamicShell (pieces : List α)
  | dynamicSymbol (pieces : List α)
  | backReference (kind : String)
  | matchReceiver (receiver value : α)
  | flipFlop (lower upper : Option α) (exclusive : Bool)
  | redo
  | retry
  | singletonClass (receiver : α) (body : Option α)
  | forLoop (target iterated body : Option α)
  | beforeProgram (body : Option α)
  | afterProgram (body : Option α)

/-- One layer of a raw tree, over a type of children. -/
inductive Shape (α : Type) where
  | root (body : Option α)
  | wrap (wrapper : Wrapper) (inner : Option α)
  | block (statements : List α)
  | implicitNil
  | leaf (leaf : Leaf)
  | text (form : TextForm) (value : String)
  | dynamicText (form : TextForm) (pieces : List α)
  | var (scope : Scope) (name : VarName)
  | localAssign (scope : LocalScope) (name : String) (value : Option α)
  | varAssign (form : VarAssign) (name : VarName) (value : Option α)
  | constant (name : String)
  | scopedConstant (container : Option α) (name : String)
  | topConstant (name : String)
  | constantDecl (name : String) (value : Option α)
  /-- An update of an element, `receiver[args] op= value`. -/
  | elementUpdate (receiver args : Option α) (operator : String) (value : Option α)
  /-- An assignment `receiver.name = value` or `receiver[index] = value`; the value is the
  last argument. -/
  | attributeAssign (receiver : Option α) (name : String) (args : Option α)
  /-- An assignment `first ||= value` or `first &&= value`; `second` assigns the value to the
  target. -/
  | logicalAssign (operator : Logical) (first second : α)
  /-- An update of an attribute, `receiver.name op= value`. -/
  | operatorAssign (receiver : Option α) (name operator : String) (value : Option α)
  | multipleAssign (form : MultipleAssign) (pre rest post value : Option α)
  /-- A rest target without a name. -/
  | star
  | ifElse (condition thenBody elseBody : Option α)
  | loop (form : Loop) (condition body : Option α)
  | caseOf (subject : Option α) (clauses : List α) (elseBody : Option α)
  | whenClause (condition body : Option α)
  | beginBlock (body : Option α)
  /-- A body with its rescue clauses, chained from the first one on. -/
  | rescue (body clause elseBody : Option α)
  | rescueBody (exceptions body next : Option α)
  | ensure (body ensureBody : Option α)
  | jump (form : Jump) (value : Option α)
  | yield (args : Option α)
  | aliasName (oldName newName : α)
  | undef (name : α)
  | isDefined (expression : α)
  | logical (operator : Logical) (first second : α)
  | negation (condition : α)
  | call (receiver : Option α) (name : String) (args iterator : Option α)
  | functionCall (name : String) (args iterator : Option α)
  /-- A bare name that may be a call. -/
  | variableCall (name : String)
  | superCall (args iterator : Option α)
  | bareSuper (iterator : Option α)
  | unaryCall (receiver : α) (operator : String)
  /-- A regular expression, the receiver, matched against a value. -/
  | regexMatch (receiver value : α)
  | range (lower upper : Option α) (exclusive : Bool)
  | iterator (params body : Option α)
  | blockPass (body args : Option α)
  | define (name : String) (params body : Option α)
  | defineOn (receiver : Option α) (name : String) (params body : Option α)
  | classDecl (path : α) (superClass body : Option α)
  | moduleDecl (path : α) (body : Option α)
  | hash (elements : Option α)
  | elements (form : ListForm) (items : List α)
  | emptyArray
  | splat (value : Option α)
  | params (pre optional rest post block : Option α)
  | param (name : String)
  /-- A parameter with a default, kept as an assignment. -/
  | optionalParam (assignment : α)
  | restParam (name : Option String)
  | blockParam (name : String)
  | concat (form : Concat) (first second : α)
  | unsupported (shape : Unsupported α)

/-- A node of a raw tree. -/
inductive Node where
  | mk (position : Position) (shape : Shape Node)

namespace Node

/-- Where the node stands. -/
def position : Node → Position
  | ⟨position, _⟩ => position

/-- The layer of the tree at the node. -/
def shape : Node → Shape Node
  | ⟨_, shape⟩ => shape

/-- The line on which the node starts. -/
def line (node : Node) : UInt64 := node.position.startLine

/-- The node moved to a line of its own. -/
def atLine (line : UInt64) : Node → Node
  | ⟨_, shape⟩ => ⟨.onLine line, shape⟩

/-- The node extends a list of arguments. -/
def isConcatenation : Node → Bool
  | ⟨_, .concat ..⟩ => true
  | _ => false

/-- The elements of an array or list. -/
def listElements? : Node → Option (List Node)
  | ⟨_, .elements _ items⟩ => some items
  | _ => none

mutual
/-- Rebuilds a tree from the leaves up: `f` gives the result of a node from its position
and its shape with the results of its children. -/
def fold {β : Type} (f : Position → Shape β → β) : Node → β
  | ⟨position, shape⟩ => f position (foldShape f shape)

/-- The shape with the results of the children. -/
def foldShape {β : Type} (f : Position → Shape β → β) : Shape Node → Shape β
  | .root body => .root (foldChild f body)
  | .wrap wrapper inner => .wrap wrapper (foldChild f inner)
  | .block statements => .block (foldList f statements)
  | .implicitNil => .implicitNil
  | .leaf leaf => .leaf leaf
  | .text form value => .text form value
  | .dynamicText form pieces => .dynamicText form (foldList f pieces)
  | .var scope name => .var scope name
  | .localAssign scope name value => .localAssign scope name (foldChild f value)
  | .varAssign form name value => .varAssign form name (foldChild f value)
  | .constant name => .constant name
  | .scopedConstant container name => .scopedConstant (foldChild f container) name
  | .topConstant name => .topConstant name
  | .constantDecl name value => .constantDecl name (foldChild f value)
  | .elementUpdate receiver args operator value =>
    .elementUpdate (foldChild f receiver) (foldChild f args) operator (foldChild f value)
  | .attributeAssign receiver name args =>
    .attributeAssign (foldChild f receiver) name (foldChild f args)
  | .logicalAssign operator first second =>
    .logicalAssign operator (fold f first) (fold f second)
  | .operatorAssign receiver name operator value =>
    .operatorAssign (foldChild f receiver) name operator (foldChild f value)
  | .multipleAssign form pre rest post value =>
    .multipleAssign form (foldChild f pre) (foldChild f rest) (foldChild f post)
      (foldChild f value)
  | .star => .star
  | .ifElse condition thenBody elseBody =>
    .ifElse (foldChild f condition) (foldChild f thenBody) (foldChild f elseBody)
  | .loop form condition body => .loop form (foldChild f condition) (foldChild f body)
  | .caseOf subject clauses elseBody =>
    .caseOf (foldChild f subject) (foldList f clauses) (foldChild f elseBody)
  | .whenClause condition body => .whenClause (foldChild f condition) (foldChild f body)
  | .beginBlock body => .beginBlock (foldChild f body)
  | .rescue body clause elseBody =>
    .rescue (foldChild f body) (foldChild f clause) (foldChild f elseBody)
  | .rescueBody exceptions body next =>
    .rescueBody (foldChild f exceptions) (foldChild f body) (foldChild f next)
  | .ensure body ensureBody => .ensure (foldChild f body) (foldChild f ensureBody)
  | .jump form value => .jump form (foldChild f value)
  | .yield args => .yield (foldChild f args)
  | .aliasName oldName newName => .aliasName (fold f oldName) (fold f newName)
  | .undef name => .undef (fold f name)
  | .isDefined expression => .isDefined (fold f expression)
  | .logical operator first second => .logical operator (fold f first) (fold f second)
  | .negation condition => .negation (fold f condition)
  | .call receiver name args iterator =>
    .call (foldChild f receiver) name (foldChild f args) (foldChild f iterator)
  | .functionCall name args iterator =>
    .functionCall name (foldChild f args) (foldChild f iterator)
  | .variableCall name => .variableCall name
  | .superCall args iterator => .superCall (foldChild f args) (foldChild f iterator)
  | .bareSuper iterator => .bareSuper (foldChild f iterator)
  | .unaryCall receiver operator => .unaryCall (fold f receiver) operator
  | .regexMatch receiver value => .regexMatch (fold f receiver) (fold f value)
  | .range lower upper exclusive => .range (foldChild f lower) (foldChild f upper) exclusive
  | .iterator params body => .iterator (foldChild f params) (foldChild f body)
  | .blockPass body args => .blockPass (foldChild f body) (foldChild f args)
  | .define name params body => .define name (foldChild f params) (foldChild f body)
  | .defineOn receiver name params body =>
    .defineOn (foldChild f receiver) name (foldChild f params) (foldChild f body)
  | .classDecl path superClass body =>
    .classDecl (fold f path) (foldChild f superClass) (foldChild f body)
  | .moduleDecl path body => .moduleDecl (fold f path) (foldChild f body)
  | .hash elements => .hash (foldChild f elements)
  | .elements form items => .elements form (foldList f items)
  | .emptyArray => .emptyArray
  | .splat value => .splat (foldChild f value)
  | .params pre optional rest post block =>
    .params (foldChild f pre) (foldChild f optional) (foldChild f rest) (foldChild f post)
      (foldChild f block)
  | .param name => .param name
  | .optionalParam assignment => .optionalParam (fold f assignment)
  | .restParam name => .restParam name
  | .blockParam name => .blockParam name
  | .concat form first second => .concat form (fold f first) (fold f second)
  | .unsupported shape => .unsupported (foldUnsupported f shape)

/-- The unsupported shape with the results of the children. -/
def foldUnsupported {β : Type} (f : Position → Shape β → β) : Unsupported Node → Unsupported β
  | .unlisted typeName => .unlisted typeName
  | .shell value => .shell value
  | .dynamicShell pieces => .dynamicShell (foldList f pieces)
  | .dynamicSymbol pieces => .dynamicSymbol (foldList f pieces)
  | .backReference kind => .backReference kind
  | .matchReceiver receiver value => .matchReceiver (fold f receiver) (fold f value)
  | .flipFlop lower upper exclusive =>
    .flipFlop (foldChild f lower) (foldChild f upper) exclusive
  | .redo => .redo
  | .retry => .retry
  | .singletonClass receiver body => .singletonClass (fold f receiver) (foldChild f body)
  | .forLoop target iterated body =>
    .forLoop (foldChild f target) (foldChild f iterated) (foldChild f body)
  | .beforeProgram body => .beforeProgram (foldChild f body)
  | .afterProgram body => .afterProgram (foldChild f body)

/-- The result of a child that may be absent. -/
def foldChild {β : Type} (f : Position → Shape β → β) : Option Node → Option β
  | none => none
  | some node => some (fold f node)

/-- The results of a list of children. -/
def foldList {β : Type} (f : Position → Shape β → β) : List Node → List β
  | [] => []
  | node :: nodes => fold f node :: foldList f nodes
end

end Node
end Raw
end RubyModel
