/-
# From raw trees to models

A raw node stands either in value position, where it gives at most one model, or in
argument position, where it gives a list of models.

| in argument position | gives |
| --- | --- |
| array, list | its elements |
| parameters | required, optional, rest, further required ones, then the block |
| concatenation | the arguments before, then the spread value or the one more argument |
| program root, `when` clause, rescue clause | a failure |
| any other node | its value |

A concatenation stands for a list of arguments with a splat in it: `f(1, *xs, 2)` arrives
as `push (cat [1] xs) 2` and gives `1, *xs, 2`.  Its first part is again a list of
arguments (`group`), where a nested concatenation goes on with the list; the value it
spreads is a splat, unless it is a literal list (`spread`).

The bodies of methods, `begin` blocks and `ensure` nodes are protected: an `ensure` node and
a rescue node that is the body itself become fields of the model around them; behind a
wrapper, a rescue node stays the statement `body rescue value`.

In value position absent results are dropped from lists, except that the keys and values
of a hash stay in pairs.

The rules are those of `SPEC_FULL.md`:

| here | there |
| --- | --- |
| `value`, `child`, `list` | §4.1 and §13: `transform_node`, `transform`, `transform_list` |
| `leaveOut` | §4.5: `unknown_node` |
| `args`, `optionalArgs` | §4.2: `normalize_args`, `normalize_optional_args` |
| `group`, `item`, `itemList`, `spread` | §4.2: `normalize_concatenation`, `normalize_group` |
| `callArgs`, `attachedBlock` | §14: `call_args` |
| `protectedBody`, `rescued`, `rescueClauses` | §14: `protected_body`, `rescue_clauses` |
| `hashPairs` | §13: `hash_literal` |
| `attributeAssignment` | §13: `attribute_assignment` |
| `assignedValues` | §15: `multiple_assignment` |
| `logicalAssignment` | §15: `logical_assignment` |
| `resolveName` | §4.4: `resolve_name` |
-/

import RubyModel.Lowering.Outcome
import RubyModel.Model.Entry
import RubyModel.Policy

namespace RubyModel
namespace Lowering

open Raw (Node Shape VarName)

/-- The logical name of a variable: the bare name of a newer parser, or else the name
without the first `sigilLength` characters. -/
def resolveName (name : VarName) (sigilLength : Nat) : String :=
  match name.lexicalName with
  | some _ => name.name
  | none => String.ofList (name.name.toList.drop sigilLength)

/-- The logical name of a variable of the given scope. -/
def varName (scope : Scope) (name : VarName) : String := resolveName name scope.sigilLength

/-- The name of the method that assigns to an element. -/
def elementSetter : String := "[]="

/-- The attribute that a setter sets: the name without one final `=`. -/
def attributeName (setter : String) : String :=
  if setter.toList.getLast? = some '=' then String.ofList setter.toList.dropLast else setter

/-- A body with its rescue and ensure parts. -/
structure Protected where
  body : Option Model := none
  clauses : List Model := []
  elseBody : Option Model := none
  ensureBody : Option Model := none

/-- The protected body as a `begin` block. -/
def Protected.block (body : Protected) : Model :=
  ⟨.beginEnd body.body body.clauses body.elseBody body.ensureBody⟩

/-- A node without a counterpart is refused or left out. -/
def leaveOut (policy : Policy) (node : Node) : Outcome (Option Model) :=
  match policy with
  | .strict => .fail (.unrecognized node)
  | .permissive => .warn (.leftOut node) none

/-- A method call by name. -/
def nameCall (name : String) : Model := ⟨.call name none [] none false⟩

/-- A parameter without a default. -/
def plainParam (name : String) : Model := ⟨.param name none⟩

/-- A rest parameter; without a name it is a bare splat. -/
def restParam (name : Option String) : Model :=
  match name with
  | none => ⟨.splat none⟩
  | some name => if name.isEmpty then ⟨.splat none⟩ else ⟨.splat (some (plainParam name))⟩

/-- The values on the right of a multiple assignment: an array gives its elements. -/
def assignedValues : Option Model → List Model
  | none => []
  | some ⟨.array values⟩ => values
  | some model => [model]

/-- The assignment to an attribute or an element, from the arguments of its setter. -/
def attributeAssignment (node : Node) (receiver : Option Model) (setter : String)
    (args : List Model) : Outcome (Option Model) :=
  if setter = elementSetter then
    if 2 < args.length then .fail (.violated (.severalIndices (args.length - 1)) node)
    else .ok (some ⟨.elementAssign receiver args[0]? args[1]?⟩)
  else .ok (some ⟨.attributeAssign receiver (attributeName setter) args[0]?⟩)

/-- A logical assignment takes its value out of the assignment on its right. -/
def logicalAssignment (node : Node) (operator : Logical) (assigned right : Option Model) :
    Outcome (Option Model) :=
  match right with
  | none => .ok (some ⟨.logicalAssign operator assigned none⟩)
  | some model =>
    match model.assignedValue? with
    | some value => .ok (some ⟨.logicalAssign operator assigned value⟩)
    | none => .fail (.violated (.assignmentExpected model.kindName) node)

mutual
/-- The model of a node in value position. -/
def value (policy : Policy) : Node → Outcome (Option Model)
  | ⟨position, shape⟩ => shapeValue policy position shape

/-- The model of a shape in value position. -/
def shapeValue (policy : Policy) (position : Position) : Shape Node → Outcome (Option Model)
  | .root body => .fail (.violated .notAValue ⟨position, .root body⟩)
  | .wrap _ inner => child policy inner
  | .block statements => do
    let contents ← list policy statements
    return some ⟨.block contents⟩
  | .implicitNil => .ok none
  | .leaf leaf => .ok (some ⟨.leaf leaf⟩)
  | .text form value => .ok (some ⟨.text form (some value) false []⟩)
  | .dynamicText form pieces => do
    let pieces ← list policy pieces
    return some ⟨.text form none true pieces⟩
  | .var scope name => .ok (some ⟨.var scope (varName scope name)⟩)
  | .localAssign scope name value => do
    let value ← child policy value
    return some ⟨.assign (.plain scope) name value⟩
  | .varAssign form name value => do
    let value ← child policy value
    return some ⟨.assign (.sigil form.scope) (varName form.scope name) value⟩
  | .constant name => .ok (some ⟨.constant name none⟩)
  | .scopedConstant container name => do
    let container ← child policy container
    return some ⟨.constant name container⟩
  | .topConstant name => .ok (some ⟨.topConstant name⟩)
  | .constantDecl name value => do
    let value ← child policy value
    return some ⟨.constantDecl name value⟩
  | .elementUpdate receiver args operator value => do
    let container ← child policy receiver
    let indices ← optionalArgs policy args
    if 1 < indices.length then
      .fail (.violated (.severalIndices indices.length)
        ⟨position, .elementUpdate receiver args operator value⟩)
    else do
      let value ← child policy value
      return some ⟨.elementUpdate container indices[0]? value operator⟩
  | .attributeAssign receiver name args => do
    let object ← child policy receiver
    let values ← optionalArgs policy args
    attributeAssignment ⟨position, .attributeAssign receiver name args⟩ object name values
  | .logicalAssign operator first second => do
    let assigned ← value policy first
    let right ← value policy second
    logicalAssignment ⟨position, .logicalAssign operator first second⟩ operator assigned right
  | .operatorAssign receiver name operator value => do
    let container ← child policy receiver
    let value ← child policy value
    return some ⟨.operatorAssign container name operator value⟩
  | .multipleAssign _ pre rest post value => do
    let pre ← optionalArgs policy pre
    let rest ← child policy rest
    let post ← optionalArgs policy post
    let value ← child policy value
    return some ⟨.multipleAssign (pre ++ (rest.map Model.intoSplat).toList ++ post)
      (assignedValues value)⟩
  | .star => .ok (some ⟨.splat none⟩)
  | .ifElse condition thenBody elseBody => do
    let condition ← child policy condition
    let thenBody ← child policy thenBody
    let elseBody ← child policy elseBody
    return some ⟨.ifElse condition thenBody elseBody⟩
  | .loop form condition body => do
    let condition ← child policy condition
    let body ← child policy body
    return some ⟨.loop form condition body⟩
  | .caseOf subject clauses elseBody => do
    let subject ← child policy subject
    let clauses ← list policy clauses
    let elseBody ← child policy elseBody
    return some ⟨.caseOf subject clauses elseBody⟩
  | .whenClause condition body => do
    let condition ← child policy condition
    let body ← child policy body
    return some ⟨.whenClause condition body⟩
  | .beginBlock body => do
    let body ← protectedBody policy body
    return some body.block
  | .rescue body clause elseBody =>
    match clause with
    | none => .fail (.violated .clauseMissing ⟨position, .rescue body clause elseBody⟩)
    | some ⟨_, .rescueBody _ rescued _⟩ => do
      let body ← child policy body
      let rescued ← child policy rescued
      return some ⟨.rescueStatement body rescued⟩
    | some other => .fail (.violated (.kindExpected .rescueBody) other)
  | .rescueBody exceptions body _ => do
    let exceptions ← optionalArgs policy exceptions
    let body ← child policy body
    return some ⟨.rescueClause exceptions body⟩
  | .ensure body ensureBody => do
    let ensureBody ← child policy ensureBody
    let body ← rescuedChild policy body
    return some { body with ensureBody }.block
  | .jump form value => do
    let value ← child policy value
    return some ⟨.jump form value⟩
  | .yield args => do
    let args ← optionalArgs policy args
    return some ⟨.yield args⟩
  | .aliasName oldName newName => do
    let oldName ← value policy oldName
    let newName ← value policy newName
    return some ⟨.aliasName oldName newName⟩
  | .undef name => do
    let name ← value policy name
    return some ⟨.undef name⟩
  | .isDefined expression => do
    let expression ← value policy expression
    return some ⟨.isDefined expression⟩
  | .logical operator first second => do
    let left ← value policy first
    let right ← value policy second
    return some ⟨.logical operator left right⟩
  | .negation condition => do
    let condition ← value policy condition
    return some ⟨.unary condition "!"⟩
  | .call receiver name args iterator => do
    let receiver ← child policy receiver
    let (args, passed) ← callArgs policy args
    let blockArg ← attachedBlock policy passed iterator
    return some ⟨.call name receiver args blockArg false⟩
  | .functionCall name args iterator => do
    let (args, passed) ← callArgs policy args
    let blockArg ← attachedBlock policy passed iterator
    return some ⟨.call name none args blockArg true⟩
  | .variableCall name => .ok (some (nameCall name))
  | .superCall args iterator => do
    let (args, passed) ← callArgs policy args
    let blockArg ← attachedBlock policy passed iterator
    return some ⟨.superCall args blockArg⟩
  | .bareSuper iterator => do
    let blockArg ← child policy iterator
    return some ⟨.callToSuper blockArg⟩
  | .unaryCall receiver operator => do
    let receiver ← value policy receiver
    return some ⟨.unary receiver operator⟩
  | .regexMatch receiver checked => do
    let checked ← value policy checked
    let regex ← value policy receiver
    return some ⟨.regexMatch checked regex⟩
  | .range lower upper exclusive => do
    let lower ← child policy lower
    let upper ← child policy upper
    return some ⟨.range lower upper exclusive⟩
  | .iterator params body => do
    let args ← optionalArgs policy params
    let body ← child policy body
    return some ⟨.codeBlock args body⟩
  | .blockPass body _ => do
    let body ← child policy body
    return some ⟨.blockReference body⟩
  | .define name params body => do
    let args ← optionalArgs policy params
    let body ← protectedBody policy body
    return some ⟨.define name none false args body.body body.clauses body.elseBody
      body.ensureBody⟩
  | .defineOn receiver name params body => do
    let receiver ← child policy receiver
    let args ← optionalArgs policy params
    let body ← protectedBody policy body
    return some ⟨.define name receiver true args body.body body.clauses body.elseBody
      body.ensureBody⟩
  | .classDecl path superClass body => do
    let name ← value policy path
    let superClass ← child policy superClass
    let body ← child policy body
    return some ⟨.classDecl name superClass (Model.contents body)⟩
  | .moduleDecl path body => do
    let name ← value policy path
    let body ← child policy body
    return some ⟨.moduleDecl name (Model.contents body)⟩
  | .hash elements =>
    match elements with
    | none => .ok (some ⟨.hash []⟩)
    | some ⟨_, .elements _ items⟩ =>
      if items.length % 2 = 0 then do
        let pairs ← hashPairs policy items
        return some ⟨.hash pairs⟩
      else .fail (.violated (.oddHash items.length) ⟨position, .hash elements⟩)
    | some other => .fail (.violated (.kindExpected .list) other)
  | .elements .array items => do
    let values ← list policy items
    return some ⟨.array values⟩
  | .elements .list items => .fail (.violated .notAValue ⟨position, .elements .list items⟩)
  | .emptyArray => .ok (some ⟨.array []⟩)
  | .splat value => do
    let value ← child policy value
    return some ⟨.splat value⟩
  | .params pre optional rest post block =>
    .fail (.violated .notAValue ⟨position, .params pre optional rest post block⟩)
  | .param name => .ok (some (plainParam name))
  | .optionalParam assignment =>
    match assignment with
    | ⟨_, .localAssign _ name default⟩ => do
      let default ← child policy default
      return some ⟨.param name default⟩
    | other => .fail (.violated (.kindExpected .localAsgn) other)
  | .restParam name => .ok (some (restParam name))
  | .blockParam name => .ok (some ⟨.blockReference (some (plainParam name))⟩)
  | .concat .cat first second => do
    let before ← group policy first
    let spread ← spread policy second
    return some ⟨.array (before ++ spread)⟩
  | .concat .push first second => do
    let before ← group policy first
    let last ← item policy second
    return some ⟨.array (before ++ last)⟩
  | .unsupported shape => leaveOut policy ⟨position, .unsupported shape⟩

/-- The model of a child that may be absent. -/
def child (policy : Policy) : Option Node → Outcome (Option Model)
  | none => .ok none
  | some node => value policy node

/-- The models of a list of nodes; absent ones are dropped. -/
def list (policy : Policy) : List Node → Outcome (List Model)
  | [] => .ok []
  | node :: nodes => do
    let first ← value policy node
    let others ← list policy nodes
    return first.toList ++ others

/-- The models of a node in argument position. -/
def args (policy : Policy) : Node → Outcome (List Model)
  | ⟨position, shape⟩ =>
    match shape with
    | .elements _ items => list policy items
    | .params pre optional rest post block => do
      let pre ← optionalArgs policy pre
      let optional ← optionalArgs policy optional
      let rest ← optionalArgs policy rest
      let post ← optionalArgs policy post
      let block ← optionalArgs policy block
      return pre ++ optional ++ rest ++ post ++ block
    | .concat .cat first second => do
      let before ← group policy first
      let spread ← spread policy second
      return before ++ spread
    | .concat .push first second => do
      let before ← group policy first
      let last ← item policy second
      return before ++ last
    | .root body => .fail (.argumentShape ⟨position, .root body⟩)
    | .whenClause condition body => .fail (.argumentShape ⟨position, .whenClause condition body⟩)
    | .rescueBody exceptions body next =>
      .fail (.argumentShape ⟨position, .rescueBody exceptions body next⟩)
    | other => do
      let model ← shapeValue policy position other
      return model.toList

/-- The models of arguments that may be absent. -/
def optionalArgs (policy : Policy) : Option Node → Outcome (List Model)
  | none => .ok []
  | some node => args policy node

/-- One argument; a concatenation stands for the arguments it is made of. -/
def item (policy : Policy) : Node → Outcome (List Model)
  | ⟨position, shape⟩ =>
    match shape with
    | .concat .cat first second => do
      let before ← group policy first
      let spread ← spread policy second
      return before ++ spread
    | .concat .push first second => do
      let before ← group policy first
      let last ← item policy second
      return before ++ last
    | other => do
      let model ← shapeValue policy position other
      return model.toList

/-- The arguments before the last part of a concatenation. -/
def group (policy : Policy) : Node → Outcome (List Model)
  | ⟨position, shape⟩ =>
    match shape with
    | .elements _ items => itemList policy items
    | .concat .cat first second => do
      let before ← group policy first
      let spread ← spread policy second
      return before ++ spread
    | .concat .push first second => do
      let before ← group policy first
      let last ← item policy second
      return before ++ last
    | other => do
      let model ← shapeValue policy position other
      return model.toList

/-- The arguments of a list, one after the other. -/
def itemList (policy : Policy) : List Node → Outcome (List Model)
  | [] => .ok []
  | node :: nodes => do
    let first ← item policy node
    let others ← itemList policy nodes
    return first ++ others

/-- The arguments that a spread value stands for: a literal list gives its elements, any
other value a splat. -/
def spread (policy : Policy) : Node → Outcome (List Model)
  | ⟨position, shape⟩ =>
    match shape with
    | .elements _ items => list policy items
    | other => do
      let model ← shapeValue policy position other
      return (model.map Model.intoSplat).toList

/-- The arguments of a call, and the block that is passed among them. -/
def callArgs (policy : Policy) : Option Node → Outcome (List Model × Option Model)
  | none => .ok ([], none)
  | some node =>
    match node with
    | ⟨_, .blockPass body inner⟩ => do
      let body ← child policy body
      let args ← optionalArgs policy inner
      return (args, some ⟨.blockReference body⟩)
    | other => do
      let args ← args policy other
      return (args, none)

/-- The block of a call: an attached iterator takes the place of a block that is passed. -/
def attachedBlock (policy : Policy) (passed : Option Model) :
    Option Node → Outcome (Option Model)
  | none => .ok passed
  | some iterator => value policy iterator

/-- The key-value pairs of a hash; an absent key or value leaves its pair incomplete. -/
def hashPairs (policy : Policy) : List Node → Outcome (List Model)
  | key :: val :: rest => do
    let key ← value policy key
    let val ← value policy val
    let pairs ← hashPairs policy rest
    return ⟨.hashPair key val⟩ :: pairs
  | _ => .ok []

/-- A body with its rescue and ensure parts. -/
def protectedBody (policy : Policy) : Option Node → Outcome Protected
  | none => .ok {}
  | some node =>
    match node with
    | ⟨_, .ensure body ensureBody⟩ => do
      let ensureBody ← child policy ensureBody
      let body ← rescuedChild policy body
      return { body with ensureBody }
    | other => rescued policy other

/-- A body with its rescue clauses. -/
def rescued (policy : Policy) : Node → Outcome Protected
  | ⟨position, shape⟩ =>
    match shape with
    | .rescue body clause elseBody => do
      let model ← child policy body
      let clauses ← firstClause policy ⟨position, .rescue body clause elseBody⟩ clause
      let elseModel ← child policy elseBody
      return { body := model, clauses, elseBody := elseModel }
    | other => do
      let body ← shapeValue policy position other
      return { body }

/-- A body that may be absent, with its rescue clauses. -/
def rescuedChild (policy : Policy) : Option Node → Outcome Protected
  | none => .ok {}
  | some node => rescued policy node

/-- The rescue clauses of a rescue node, which has at least one. -/
def firstClause (policy : Policy) (owner : Node) : Option Node → Outcome (List Model)
  | none => .fail (.violated .clauseMissing owner)
  | some node => rescueClauses policy node

/-- The rescue clauses of a chain. -/
def rescueClauses (policy : Policy) : Node → Outcome (List Model)
  | ⟨position, shape⟩ =>
    match shape with
    | .rescueBody exceptions body next => do
      let exceptions ← optionalArgs policy exceptions
      let body ← child policy body
      let others ← nextClauses policy next
      return ⟨.rescueClause exceptions body⟩ :: others
    | other => .fail (.violated (.kindExpected .rescueBody) ⟨position, other⟩)

/-- The rescue clauses after the first. -/
def nextClauses (policy : Policy) : Option Node → Outcome (List Model)
  | none => .ok []
  | some node => rescueClauses policy node
end

end Lowering
end RubyModel
