/-
# Raw nodes as records

A node of a listed kind is a record with the fields of its kind; of a node whose type is
not listed only the type name is known.  `Entry.ofShape` and `Entry.shape` go from one
form to the other and back.

The fields are those of `SPEC_FULL.md`, §11, with the variable names of `VarName`.
-/

import RubyModel.Raw.Kind
import RubyModel.Raw.Shape

namespace RubyModel
namespace Raw

open Record (Slots)

/-- A shape as a record, over a type of children. -/
inductive Entry (α : Type) where
  | listed (kind : Kind) (slots : Slots α kind.fields)
  | unlisted (typeName : String)

/-- The record form of a shape. -/
def Entry.ofShape {α : Type} : Shape α → Entry α
  | .root body => .listed .root (body, ())
  | .wrap .newline inner => .listed .newline (inner, ())
  | .block statements => .listed .block (statements, ())
  | .wrap .interpolation inner => .listed .evStr (inner, ())
  | .implicitNil => .listed .nilImplicit ()
  | .leaf (.float value) => .listed .float (value, ())
  | .leaf (.int value) => .listed .fixnum (value, ())
  | .text .str value => .listed .str (value, ())
  | .dynamicText .str pieces => .listed .dStr (pieces, ())
  | .text .regexp value => .listed .regexp (value, ())
  | .dynamicText .regexp pieces => .listed .dRegexp (pieces, ())
  | .leaf .nil => .listed .nilWord ()
  | .leaf (.bool true) => .listed .trueWord ()
  | .leaf (.bool false) => .listed .falseWord ()
  | .leaf (.symbol name) => .listed .symbol (name, ())
  | .leaf (.localVar .method name) => .listed .localVar (name, ())
  | .leaf (.localVar .block name) => .listed .dVar (name, ())
  | .var .globals ⟨name, lexicalName⟩ => .listed .globalVar (name, lexicalName, ())
  | .var .classes ⟨name, lexicalName⟩ => .listed .classVar (name, lexicalName, ())
  | .var .instances ⟨name, lexicalName⟩ => .listed .instVar (name, lexicalName, ())
  | .leaf (.group number) => .listed .nthRef (number, ())
  | .localAssign .method name value => .listed .localAsgn (name, value, ())
  | .localAssign .block name value => .listed .dAsgn (name, value, ())
  | .varAssign .globals ⟨name, lexicalName⟩ value =>
    .listed .globalAsgn (name, lexicalName, value, ())
  | .varAssign .classes ⟨name, lexicalName⟩ value =>
    .listed .classVarAsgn (name, lexicalName, value, ())
  | .varAssign .classDeclaration ⟨name, lexicalName⟩ value =>
    .listed .classVarDecl (name, lexicalName, value, ())
  | .varAssign .instances ⟨name, lexicalName⟩ value =>
    .listed .instAsgn (name, lexicalName, value, ())
  | .constant name => .listed .const (name, ())
  | .scopedConstant container name => .listed .colon2 (container, name, ())
  | .topConstant name => .listed .colon3 (name, ())
  | .constantDecl name value => .listed .constDecl (name, value, ())
  | .elementUpdate receiver args operator value =>
    .listed .opElementAsgn (receiver, args, operator, value, ())
  | .attributeAssign receiver name args => .listed .attrAssign (receiver, name, args, ())
  | .logicalAssign .or first second => .listed .opAsgnOr (first, second, ())
  | .logicalAssign .and first second => .listed .opAsgnAnd (first, second, ())
  | .operatorAssign receiver name operator value =>
    .listed .opAsgn (receiver, name, operator, value, ())
  | .multipleAssign .plain pre rest post value => .listed .multipleAsgn (pre, rest, post, value, ())
  | .multipleAssign .nineteen pre rest post value =>
    .listed .multipleAsgn19 (pre, rest, post, value, ())
  | .star => .listed .star ()
  | .ifElse condition thenBody elseBody => .listed .ifWord (condition, thenBody, elseBody, ())
  | .loop .while condition body => .listed .whileWord (condition, body, ())
  | .loop .until condition body => .listed .untilWord (condition, body, ())
  | .caseOf subject clauses elseBody => .listed .caseWord (subject, clauses, elseBody, ())
  | .whenClause condition body => .listed .whenWord (condition, body, ())
  | .beginBlock body => .listed .beginWord (body, ())
  | .rescue body clause elseBody => .listed .rescue (body, clause, elseBody, ())
  | .rescueBody exceptions body next => .listed .rescueBody (exceptions, body, next, ())
  | .ensure body ensureBody => .listed .ensure (body, ensureBody, ())
  | .jump .break value => .listed .breakWord (value, ())
  | .jump .next value => .listed .nextWord (value, ())
  | .jump .return value => .listed .returnWord (value, ())
  | .yield args => .listed .yieldWord (args, ())
  | .aliasName oldName newName => .listed .aliasWord (oldName, newName, ())
  | .undef name => .listed .undef (name, ())
  | .isDefined expression => .listed .defined (expression, ())
  | .logical .and first second => .listed .andWord (first, second, ())
  | .logical .or first second => .listed .orWord (first, second, ())
  | .negation condition => .listed .notWord (condition, ())
  | .call receiver name args iterator => .listed .call (receiver, name, args, iterator, ())
  | .functionCall name args iterator => .listed .fCall (name, args, iterator, ())
  | .variableCall name => .listed .vCall (name, ())
  | .superCall args iterator => .listed .super (args, iterator, ())
  | .bareSuper iterator => .listed .zSuper (iterator, ())
  | .unaryCall receiver operator => .listed .unaryCall (receiver, operator, ())
  | .regexMatch receiver value => .listed .match3 (receiver, value, ())
  | .leaf .self => .listed .selfWord ()
  | .range lower upper exclusive => .listed .dot (lower, upper, exclusive, ())
  | .leaf (.word name) => .listed .literal (name, ())
  | .iterator params body => .listed .iter (params, body, ())
  | .blockPass body args => .listed .blockPass (body, args, ())
  | .define name params body => .listed .defn (name, params, body, ())
  | .defineOn receiver name params body => .listed .defs (receiver, name, params, body, ())
  | .classDecl path superClass body => .listed .classWord (path, superClass, body, ())
  | .moduleDecl path body => .listed .moduleWord (path, body, ())
  | .hash elements => .listed .hash (elements, ())
  | .elements .array items => .listed .array (items, ())
  | .emptyArray => .listed .zArray ()
  | .elements .list items => .listed .list (items, ())
  | .splat value => .listed .splat (value, ())
  | .params pre optional rest post block => .listed .args (pre, optional, rest, post, block, ())
  | .param name => .listed .argument (name, ())
  | .optionalParam assignment => .listed .optArg (assignment, ())
  | .restParam name => .listed .restArg (name, ())
  | .blockParam name => .listed .blockArg (name, ())
  | .concat .cat first second => .listed .argsCat (first, second, ())
  | .concat .push first second => .listed .argsPush (first, second, ())
  | .unsupported (.shell value) => .listed .xStr (value, ())
  | .unsupported (.dynamicShell pieces) => .listed .dXStr (pieces, ())
  | .unsupported (.dynamicSymbol pieces) => .listed .dSym (pieces, ())
  | .unsupported (.backReference kind) => .listed .backRef (kind, ())
  | .unsupported (.matchReceiver receiver value) => .listed .match2 (receiver, value, ())
  | .unsupported (.flipFlop lower upper exclusive) => .listed .flip (lower, upper, exclusive, ())
  | .unsupported .redo => .listed .redo ()
  | .unsupported .retry => .listed .retry ()
  | .unsupported (.singletonClass receiver body) => .listed .sClass (receiver, body, ())
  | .unsupported (.forLoop target iterated body) => .listed .forWord (target, iterated, body, ())
  | .unsupported (.beforeProgram body) => .listed .preExe (body, ())
  | .unsupported (.afterProgram body) => .listed .postExe (body, ())
  | .unsupported (.unlisted typeName) => .unlisted typeName

/-- The shape of a record. -/
def Entry.shape {α : Type} : Entry α → Shape α
  | .listed .root (body, ()) => .root body
  | .listed .newline (inner, ()) => .wrap .newline inner
  | .listed .block (statements, ()) => .block statements
  | .listed .evStr (inner, ()) => .wrap .interpolation inner
  | .listed .nilImplicit () => .implicitNil
  | .listed .float (value, ()) => .leaf (.float value)
  | .listed .fixnum (value, ()) => .leaf (.int value)
  | .listed .str (value, ()) => .text .str value
  | .listed .dStr (pieces, ()) => .dynamicText .str pieces
  | .listed .regexp (value, ()) => .text .regexp value
  | .listed .dRegexp (pieces, ()) => .dynamicText .regexp pieces
  | .listed .nilWord () => .leaf .nil
  | .listed .trueWord () => .leaf (.bool true)
  | .listed .falseWord () => .leaf (.bool false)
  | .listed .symbol (name, ()) => .leaf (.symbol name)
  | .listed .localVar (name, ()) => .leaf (.localVar .method name)
  | .listed .dVar (name, ()) => .leaf (.localVar .block name)
  | .listed .globalVar (name, lexicalName, ()) => .var .globals ⟨name, lexicalName⟩
  | .listed .classVar (name, lexicalName, ()) => .var .classes ⟨name, lexicalName⟩
  | .listed .instVar (name, lexicalName, ()) => .var .instances ⟨name, lexicalName⟩
  | .listed .nthRef (number, ()) => .leaf (.group number)
  | .listed .localAsgn (name, value, ()) => .localAssign .method name value
  | .listed .dAsgn (name, value, ()) => .localAssign .block name value
  | .listed .globalAsgn (name, lexicalName, value, ()) =>
    .varAssign .globals ⟨name, lexicalName⟩ value
  | .listed .classVarAsgn (name, lexicalName, value, ()) =>
    .varAssign .classes ⟨name, lexicalName⟩ value
  | .listed .classVarDecl (name, lexicalName, value, ()) =>
    .varAssign .classDeclaration ⟨name, lexicalName⟩ value
  | .listed .instAsgn (name, lexicalName, value, ()) =>
    .varAssign .instances ⟨name, lexicalName⟩ value
  | .listed .const (name, ()) => .constant name
  | .listed .colon2 (container, name, ()) => .scopedConstant container name
  | .listed .colon3 (name, ()) => .topConstant name
  | .listed .constDecl (name, value, ()) => .constantDecl name value
  | .listed .opElementAsgn (receiver, args, operator, value, ()) =>
    .elementUpdate receiver args operator value
  | .listed .attrAssign (receiver, name, args, ()) => .attributeAssign receiver name args
  | .listed .opAsgnOr (first, second, ()) => .logicalAssign .or first second
  | .listed .opAsgnAnd (first, second, ()) => .logicalAssign .and first second
  | .listed .opAsgn (receiver, name, operator, value, ()) =>
    .operatorAssign receiver name operator value
  | .listed .multipleAsgn (pre, rest, post, value, ()) => .multipleAssign .plain pre rest post value
  | .listed .multipleAsgn19 (pre, rest, post, value, ()) =>
    .multipleAssign .nineteen pre rest post value
  | .listed .star () => .star
  | .listed .ifWord (condition, thenBody, elseBody, ()) => .ifElse condition thenBody elseBody
  | .listed .whileWord (condition, body, ()) => .loop .while condition body
  | .listed .untilWord (condition, body, ()) => .loop .until condition body
  | .listed .caseWord (subject, clauses, elseBody, ()) => .caseOf subject clauses elseBody
  | .listed .whenWord (condition, body, ()) => .whenClause condition body
  | .listed .beginWord (body, ()) => .beginBlock body
  | .listed .rescue (body, clause, elseBody, ()) => .rescue body clause elseBody
  | .listed .rescueBody (exceptions, body, next, ()) => .rescueBody exceptions body next
  | .listed .ensure (body, ensureBody, ()) => .ensure body ensureBody
  | .listed .breakWord (value, ()) => .jump .break value
  | .listed .nextWord (value, ()) => .jump .next value
  | .listed .returnWord (value, ()) => .jump .return value
  | .listed .yieldWord (args, ()) => .yield args
  | .listed .aliasWord (oldName, newName, ()) => .aliasName oldName newName
  | .listed .undef (name, ()) => .undef name
  | .listed .defined (expression, ()) => .isDefined expression
  | .listed .andWord (first, second, ()) => .logical .and first second
  | .listed .orWord (first, second, ()) => .logical .or first second
  | .listed .notWord (condition, ()) => .negation condition
  | .listed .call (receiver, name, args, iterator, ()) => .call receiver name args iterator
  | .listed .fCall (name, args, iterator, ()) => .functionCall name args iterator
  | .listed .vCall (name, ()) => .variableCall name
  | .listed .super (args, iterator, ()) => .superCall args iterator
  | .listed .zSuper (iterator, ()) => .bareSuper iterator
  | .listed .unaryCall (receiver, operator, ()) => .unaryCall receiver operator
  | .listed .match3 (receiver, value, ()) => .regexMatch receiver value
  | .listed .selfWord () => .leaf .self
  | .listed .dot (lower, upper, exclusive, ()) => .range lower upper exclusive
  | .listed .literal (name, ()) => .leaf (.word name)
  | .listed .iter (params, body, ()) => .iterator params body
  | .listed .blockPass (body, args, ()) => .blockPass body args
  | .listed .defn (name, params, body, ()) => .define name params body
  | .listed .defs (receiver, name, params, body, ()) => .defineOn receiver name params body
  | .listed .classWord (path, superClass, body, ()) => .classDecl path superClass body
  | .listed .moduleWord (path, body, ()) => .moduleDecl path body
  | .listed .hash (elements, ()) => .hash elements
  | .listed .array (items, ()) => .elements .array items
  | .listed .zArray () => .emptyArray
  | .listed .list (items, ()) => .elements .list items
  | .listed .splat (value, ()) => .splat value
  | .listed .args (pre, optional, rest, post, block, ()) => .params pre optional rest post block
  | .listed .argument (name, ()) => .param name
  | .listed .optArg (assignment, ()) => .optionalParam assignment
  | .listed .restArg (name, ()) => .restParam name
  | .listed .blockArg (name, ()) => .blockParam name
  | .listed .argsCat (first, second, ()) => .concat .cat first second
  | .listed .argsPush (first, second, ()) => .concat .push first second
  | .listed .xStr (value, ()) => .unsupported (.shell value)
  | .listed .dXStr (pieces, ()) => .unsupported (.dynamicShell pieces)
  | .listed .dSym (pieces, ()) => .unsupported (.dynamicSymbol pieces)
  | .listed .backRef (kind, ()) => .unsupported (.backReference kind)
  | .listed .match2 (receiver, value, ()) => .unsupported (.matchReceiver receiver value)
  | .listed .flip (lower, upper, exclusive, ()) => .unsupported (.flipFlop lower upper exclusive)
  | .listed .redo () => .unsupported .redo
  | .listed .retry () => .unsupported .retry
  | .listed .sClass (receiver, body, ()) => .unsupported (.singletonClass receiver body)
  | .listed .forWord (target, iterated, body, ()) => .unsupported (.forLoop target iterated body)
  | .listed .preExe (body, ()) => .unsupported (.beforeProgram body)
  | .listed .postExe (body, ()) => .unsupported (.afterProgram body)
  | .unlisted typeName => .unsupported (.unlisted typeName)

namespace Entry

/-- The type name of a record. -/
def typeName {α : Type} : Entry α → String
  | .listed kind _ => kind.typeName
  | .unlisted typeName => typeName

/-- The record with its children replaced. -/
def map {α β : Type} (f : α → β) : Entry α → Entry β
  | .listed kind slots => .listed kind (Record.mapSlots f kind.fields slots)
  | .unlisted typeName => .unlisted typeName

end Entry

/-- A shape is the shape of its record. -/
@[simp] theorem Entry.shape_ofShape {α : Type} (shape : Shape α) :
    (Entry.ofShape shape).shape = shape := by
  cases shape with
  | wrap wrapper => cases wrapper <;> rfl
  | leaf leaf =>
    cases leaf with
    | bool value => cases value <;> rfl
    | localVar scope => cases scope <;> rfl
    | _ => rfl
  | text form => cases form <;> rfl
  | dynamicText form => cases form <;> rfl
  | var scope => cases scope <;> rfl
  | localAssign scope => cases scope <;> rfl
  | varAssign form => cases form <;> rfl
  | logicalAssign operator => cases operator <;> rfl
  | multipleAssign form => cases form <;> rfl
  | loop form => cases form <;> rfl
  | jump form => cases form <;> rfl
  | logical operator => cases operator <;> rfl
  | elements form => cases form <;> rfl
  | concat form => cases form <;> rfl
  | unsupported shape => cases shape <;> rfl
  | _ => rfl

/-- The node type name. -/
def Node.typeName (node : Node) : String := (Entry.ofShape node.shape).typeName

end Raw
end RubyModel
