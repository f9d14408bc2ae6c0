/-
# Model nodes as records

Every model node is a record with the fields of its kind.  `ModelEntry.ofForm` and
`ModelEntry.form` go from one form to the other and back.

The fields are those of `SPEC_FULL.md`, §12.
-/

import RubyModel.Model.Form
import RubyModel.Model.Kind

namespace RubyModel

open Record (Slots)

/-- A form as a record, over a type of children. -/
structure ModelEntry (α : Type) where
  kind : ModelKind
  slots : Slots α kind.fields

namespace ModelEntry

/-- The record of a form. -/
def ofForm {α : Type} : Form α → ModelEntry α
  | .leaf (.float value) => ⟨.floatLiteral, (value, ())⟩
  | .leaf (.int value) => ⟨.intLiteral, (value, ())⟩
  | .text .str value dynamic pieces => ⟨.stringLiteral, (value, dynamic, pieces, ())⟩
  | .text .regexp value dynamic pieces => ⟨.regExpLiteral, (value, dynamic, pieces, ())⟩
  | .leaf (.bool value) => ⟨.booleanLiteral, (value, ())⟩
  | .leaf .nil => ⟨.nilLiteral, ()⟩
  | .leaf (.symbol name) => ⟨.symbol, (name, ())⟩
  | .leaf (.localVar .method name) => ⟨.localVarAccess, (name, ())⟩
  | .leaf (.localVar .block name) => ⟨.blockVarAccess, (name, ())⟩
  | .var .globals name => ⟨.globalVarAccess, (name, ())⟩
  | .var .classes name => ⟨.classVarAccess, (name, ())⟩
  | .var .instances name => ⟨.instanceVarAccess, (name, ())⟩
  | .assign (.plain .method) name value => ⟨.localVarAssignment, (name, value, ())⟩
  | .assign (.plain .block) name value => ⟨.blockVarAssignment, (name, value, ())⟩
  | .assign (.sigil .globals) name value => ⟨.globalVarAssignment, (name, value, ())⟩
  | .assign (.sigil .classes) name value => ⟨.classVarAssignment, (name, value, ())⟩
  | .assign (.sigil .instances) name value => ⟨.instanceVarAssignment, (name, value, ())⟩
  | .constantDecl name value => ⟨.constantDecl, (name, value, ())⟩
  | .elementAssign container element value => ⟨.elementAssignment, (container, element, value, ())⟩
  | .elementUpdate container element value operator =>
    ⟨.elementOperationAssignment, (container, element, value, operator, ())⟩
  | .attributeAssign receiver name value => ⟨.attributeAssignment, (receiver, name, value, ())⟩
  | .logicalAssign .or assigned value => ⟨.orAssignment, (assigned, value, ())⟩
  | .logicalAssign .and assigned value => ⟨.andAssignment, (assigned, value, ())⟩
  | .operatorAssign container name operator value =>
    ⟨.operatorAssignment, (container, name, operator, value, ())⟩
  | .multipleAssign targets values => ⟨.multipleAssignment, (targets, values, ())⟩
  | .ifElse condition thenBody elseBody => ⟨.ifStatement, (condition, thenBody, elseBody, ())⟩
  | .loop .while condition body => ⟨.whileStatement, (condition, body, ())⟩
  | .loop .until condition body => ⟨.untilStatement, (condition, body, ())⟩
  | .caseOf subject clauses elseBody => ⟨.caseStatement, (subject, clauses, elseBody, ())⟩
  | .whenClause condition body => ⟨.whenClause, (condition, body, ())⟩
  | .beginEnd body clauses elseBody ensureBody =>
    ⟨.beginEndBlock, (body, clauses, elseBody, ensureBody, ())⟩
  | .rescueClause exceptions body => ⟨.rescueClause, (exceptions, body, ())⟩
  | .rescueStatement body value => ⟨.rescueStatement, (body, value, ())⟩
  | .aliasName oldName newName => ⟨.aliasStatement, (oldName, newName, ())⟩
  | .undef name => ⟨.undefStatement, (name, ())⟩
  | .jump .break value => ⟨.breakStatement, (value, ())⟩
  | .jump .next value => ⟨.nextStatement, (value, ())⟩
  | .jump .return value => ⟨.returnStatement, (value, ())⟩
  | .yield args => ⟨.yieldStatement, (args, ())⟩
  | .isDefined value => ⟨.isDefined, (value, ())⟩
  | .logical .and left right => ⟨.andOperator, (left, right, ())⟩
  | .logical .or left right => ⟨.orOperator, (left, right, ())⟩
  | .unary value operator => ⟨.unaryOperation, (value, operator, ())⟩
  | .call name receiver args blockArg implicitReceiver =>
    ⟨.call, (name, receiver, args, blockArg, implicitReceiver, ())⟩
  | .superCall args blockArg => ⟨.superCall, (args, blockArg, ())⟩
  | .callToSuper blockArg => ⟨.callToSuper, (blockArg, ())⟩
  | .codeBlock args body => ⟨.codeBlock, (args, body, ())⟩
  | .define name receiver onself args body clauses elseBody ensureBody =>
    ⟨.definition, (name, receiver, onself, args, body, clauses, elseBody, ensureBody, ())⟩
  | .block contents => ⟨.block, (contents, ())⟩
  | .classDecl name superClass contents => ⟨.classDecl, (name, superClass, contents, ())⟩
  | .moduleDecl name contents => ⟨.moduleDecl, (name, contents, ())⟩
  | .constant name container => ⟨.constant, (name, container, ())⟩
  | .topConstant name => ⟨.globalScopeReference, (name, ())⟩
  | .leaf (.group number) => ⟨.nthGroupReference, (number, ())⟩
  | .leaf .self => ⟨.selfReference, ()⟩
  | .leaf (.word name) => ⟨.literalReference, (name, ())⟩
  | .range lower upper exclusive => ⟨.range, (lower, upper, exclusive, ())⟩
  | .regexMatch checked regex => ⟨.regexMatcher, (checked, regex, ())⟩
  | .hash pairs => ⟨.hashLiteral, (pairs, ())⟩
  | .hashPair key value => ⟨.hashPair, (key, value, ())⟩
  | .array values => ⟨.arrayLiteral, (values, ())⟩
  | .splat value => ⟨.splat, (value, ())⟩
  | .param name default => ⟨.argument, (name, default, ())⟩
  | .blockReference value => ⟨.blockReference, (value, ())⟩

/-- The form of a record. -/
def form {α : Type} : ModelEntry α → Form α
  | ⟨.floatLiteral, (value, ())⟩ => .leaf (.float value)
  | ⟨.intLiteral, (value, ())⟩ => .leaf (.int value)
  | ⟨.stringLiteral, (value, dynamic, pieces, ())⟩ => .text .str value dynamic pieces
  | ⟨.regExpLiteral, (value, dynamic, pieces, ())⟩ => .text .regexp value dynamic pieces
  | ⟨.booleanLiteral, (value, ())⟩ => .leaf (.bool value)
  | ⟨.nilLiteral, ()⟩ => .leaf .nil
  | ⟨.symbol, (name, ())⟩ => .leaf (.symbol name)
  | ⟨.localVarAccess, (name, ())⟩ => .leaf (.localVar .method name)
  | ⟨.blockVarAccess, (name, ())⟩ => .leaf (.localVar .block name)
  | ⟨.globalVarAccess, (name, ())⟩ => .var .globals name
  | ⟨.classVarAccess, (name, ())⟩ => .var .classes name
  | ⟨.instanceVarAccess, (name, ())⟩ => .var .instances name
  | ⟨.localVarAssignment, (name, value, ())⟩ => .assign (.plain .method) name value
  | ⟨.blockVarAssignment, (name, value, ())⟩ => .assign (.plain .block) name value
  | ⟨.globalVarAssignment, (name, value, ())⟩ => .assign (.sigil .globals) name value
  | ⟨.classVarAssignment, (name, value, ())⟩ => .assign (.sigil .classes) name value
  | ⟨.instanceVarAssignment, (name, value, ())⟩ => .assign (.sigil .instances) name value
  | ⟨.constantDecl, (name, value, ())⟩ => .constantDecl name value
  | ⟨.elementAssignment, (container, element, value, ())⟩ => .elementAssign container element value
  | ⟨.elementOperationAssignment, (container, element, value, operator, ())⟩ =>
    .elementUpdate container element value operator
  | ⟨.attributeAssignment, (receiver, name, value, ())⟩ => .attributeAssign receiver name value
  | ⟨.orAssignment, (assigned, value, ())⟩ => .logicalAssign .or assigned value
  | ⟨.andAssignment, (assigned, value, ())⟩ => .logicalAssign .and assigned value
  | ⟨.operatorAssignment, (container, name, operator, value, ())⟩ =>
    .operatorAssign container name operator value
  | ⟨.multipleAssignment, (targets, values, ())⟩ => .multipleAssign targets values
  | ⟨.ifStatement, (condition, thenBody, elseBody, ())⟩ => .ifElse condition thenBody elseBody
  | ⟨.whileStatement, (condition, body, ())⟩ => .loop .while condition body
  | ⟨.untilStatement, (condition, body, ())⟩ => .loop .until condition body
  | ⟨.caseStatement, (subject, clauses, elseBody, ())⟩ => .caseOf subject clauses elseBody
  | ⟨.whenClause, (condition, body, ())⟩ => .whenClause condition body
  | ⟨.beginEndBlock, (body, clauses, elseBody, ensureBody, ())⟩ =>
    .beginEnd body clauses elseBody ensureBody
  | ⟨.rescueClause, (exceptions, body, ())⟩ => .rescueClause exceptions body
  | ⟨.rescueStatement, (body, value, ())⟩ => .rescueStatement body value
  | ⟨.aliasStatement, (oldName, newName, ())⟩ => .aliasName oldName newName
  | ⟨.undefStatement, (name, ())⟩ => .undef name
  | ⟨.breakStatement, (value, ())⟩ => .jump .break value
  | ⟨.nextStatement, (value, ())⟩ => .jump .next value
  | ⟨.returnStatement, (value, ())⟩ => .jump .return value
  | ⟨.yieldStatement, (args, ())⟩ => .yield args
  | ⟨.isDefined, (value, ())⟩ => .isDefined value
  | ⟨.andOperator, (left, right, ())⟩ => .logical .and left right
  | ⟨.orOperator, (left, right, ())⟩ => .logical .or left right
  | ⟨.unaryOperation, (value, operator, ())⟩ => .unary value operator
  | ⟨.call, (name, receiver, args, blockArg, implicitReceiver, ())⟩ =>
    .call name receiver args blockArg implicitReceiver
  | ⟨.superCall, (args, blockArg, ())⟩ => .superCall args blockArg
  | ⟨.callToSuper, (blockArg, ())⟩ => .callToSuper blockArg
  | ⟨.codeBlock, (args, body, ())⟩ => .codeBlock args body
  | ⟨.definition, (name, receiver, onself, args, body, clauses, elseBody, ensureBody, ())⟩ =>
    .define name receiver onself args body clauses elseBody ensureBody
  | ⟨.block, (contents, ())⟩ => .block contents
  | ⟨.classDecl, (name, superClass, contents, ())⟩ => .classDecl name superClass contents
  | ⟨.moduleDecl, (name, contents, ())⟩ => .moduleDecl name contents
  | ⟨.constant, (name, container, ())⟩ => .constant name container
  | ⟨.globalScopeReference, (name, ())⟩ => .topConstant name
  | ⟨.nthGroupReference, (number, ())⟩ => .leaf (.group number)
  | ⟨.selfReference, ()⟩ => .leaf .self
  | ⟨.literalReference, (name, ())⟩ => .leaf (.word name)
  | ⟨.range, (lower, upper, exclusive, ())⟩ => .range lower upper exclusive
  | ⟨.regexMatcher, (checked, regex, ())⟩ => .regexMatch checked regex
  | ⟨.hashLiteral, (pairs, ())⟩ => .hash pairs
  | ⟨.hashPair, (key, value, ())⟩ => .hashPair key value
  | ⟨.arrayLiteral, (values, ())⟩ => .array values
  | ⟨.splat, (value, ())⟩ => .splat value
  | ⟨.argument, (name, default, ())⟩ => .param name default
  | ⟨.blockReference, (value, ())⟩ => .blockReference value

/-- A form is the form of its record. -/
@[simp] theorem form_ofForm {α : Type} (form : Form α) : (ofForm form).form = form := by
  cases form with
  | leaf leaf =>
    cases leaf with
    | localVar scope => cases scope <;> rfl
    | _ => rfl
  | text form => cases form <;> rfl
  | var scope => cases scope <;> rfl
  | assign target =>
    cases target with
    | plain scope => cases scope <;> rfl
    | sigil scope => cases scope <;> rfl
  | logicalAssign operator => cases operator <;> rfl
  | loop form => cases form <;> rfl
  | jump form => cases form <;> rfl
  | logical operator => cases operator <;> rfl
  | _ => rfl

/-- The record with its children replaced. -/
def map {α β : Type} (f : α → β) (entry : ModelEntry α) : ModelEntry β :=
  ⟨entry.kind, Record.mapSlots f entry.kind.fields entry.slots⟩

end ModelEntry

/-- The name of the model node's kind. -/
def Model.kindName (model : Model) : String := (ModelEntry.ofForm model.form).kind.typeName

end RubyModel
