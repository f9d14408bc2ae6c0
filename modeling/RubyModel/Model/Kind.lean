/-
# The kinds of model nodes

The vocabulary of the model, each kind with its fields.  The order of the kinds and of
their fields is the order in which they are written and listed in messages.

They are the variants of `SPEC_FULL.md`, §12 (`kind_name`).
-/

import RubyModel.Record.Slots

namespace RubyModel

open Record (Field)
open Record.Field (child nodes text optionalText flag int double word needed)

/-- The kinds of model nodes. -/
inductive ModelKind where
  | floatLiteral
  | intLiteral
  | stringLiteral
  | regExpLiteral
  | booleanLiteral
  | nilLiteral
  | symbol
  | localVarAccess
  | blockVarAccess
  | globalVarAccess
  | classVarAccess
  | instanceVarAccess
  | localVarAssignment
  | blockVarAssignment
  | globalVarAssignment
  | classVarAssignment
  | instanceVarAssignment
  | constantDecl
  | elementAssignment
  | elementOperationAssignment
  | attributeAssignment
  | orAssignment
  | andAssignment
  | operatorAssignment
  | multipleAssignment
  | ifStatement
  | whileStatement
  | untilStatement
  | caseStatement
  | whenClause
  | beginEndBlock
  | rescueClause
  | rescueStatement
  | aliasStatement
  | undefStatement
  | breakStatement
  | nextStatement
  | returnStatement
  | yieldStatement
  | isDefined
  | andOperator
  | orOperator
  | unaryOperation
  | call
  | superCall
  | callToSuper
  | codeBlock
  | definition
  | block
  | classDecl
  | moduleDecl
  | constant
  | globalScopeReference
  | nthGroupReference
  | selfReference
  | literalReference
  | range
  | regexMatcher
  | hashLiteral
  | hashPair
  | arrayLiteral
  | splat
  | argument
  | blockReference
  deriving DecidableEq

namespace ModelKind

/-- The name of the kind. -/
def typeName : ModelKind → String
  | .floatLiteral => "FloatLiteral"
  | .intLiteral => "IntLiteral"
  | .stringLiteral => "StringLiteral"
  | .regExpLiteral => "RegExpLiteral"
  | .booleanLiteral => "BooleanLiteral"
  | .nilLiteral => "NilLiteral"
  | .symbol => "Symbol"
  | .localVarAccess => "LocalVarAccess"
  | .blockVarAccess => "BlockVarAccess"
  | .globalVarAccess => "GlobalVarAccess"
  | .classVarAccess => "ClassVarAccess"
  | .instanceVarAccess => "InstanceVarAccess"
  | .localVarAssignment => "LocalVarAssignment"
  | .blockVarAssignment => "BlockVarAssignment"
  | .globalVarAssignment => "GlobalVarAssignment"
  | .classVarAssignment => "ClassVarAssignment"
  | .instanceVarAssignment => "InstanceVarAssignment"
  | .constantDecl => "ConstantDecl"
  | .elementAssignment => "ElementAssignment"
  | .elementOperationAssignment => "ElementOperationAssignment"
  | .attributeAssignment => "AttributeAssignment"
  | .orAssignment => "OrAssignment"
  | .andAssignment => "AndAssignment"
  | .operatorAssignment => "OperatorAssignment"
  | .multipleAssignment => "MultipleAssignment"
  | .ifStatement => "IfStatement"
  | .whileStatement => "WhileStatement"
  | .untilStatement => "UntilStatement"
  | .caseStatement => "CaseStatement"
  | .whenClause => "WhenClause"
  | .beginEndBlock => "BeginEndBlock"
  | .rescueClause => "RescueClause"
  | .rescueStatement => "RescueStatement"
  | .aliasStatement => "AliasStatement"
  | .undefStatement => "UndefStatement"
  | .breakStatement => "BreakStatement"
  | .nextStatement => "NextStatement"
  | .returnStatement => "Return"
  | .yieldStatement => "YieldStatement"
  | .isDefined => "IsDefined"
  | .andOperator => "AndOperator"
  | .orOperator => "OrOperator"
  | .unaryOperation => "UnaryOperation"
  | .call => "Call"
  | .superCall => "SuperCall"
  | .callToSuper => "CallToSuper"
  | .codeBlock => "CodeBlock"
  | .definition => "Def"
  | .block => "Block"
  | .classDecl => "ClassDecl"
  | .moduleDecl => "ModuleDecl"
  | .constant => "Constant"
  | .globalScopeReference => "GlobalScopeReference"
  | .nthGroupReference => "NthGroupReference"
  | .selfReference => "SelfReference"
  | .literalReference => "LiteralReference"
  | .range => "Range"
  | .regexMatcher => "RegexMatcher"
  | .hashLiteral => "HashLiteral"
  | .hashPair => "HashPair"
  | .arrayLiteral => "ArrayLiteral"
  | .splat => "Splat"
  | .argument => "Argument"
  | .blockReference => "BlockReference"

/-- All kinds, in the order of their declaration. -/
def all : List ModelKind := [
  .floatLiteral, .intLiteral, .stringLiteral, .regExpLiteral, .booleanLiteral, .nilLiteral,
  .symbol, .localVarAccess, .blockVarAccess, .globalVarAccess, .classVarAccess,
  .instanceVarAccess, .localVarAssignment, .blockVarAssignment, .globalVarAssignment,
  .classVarAssignment, .instanceVarAssignment, .constantDecl, .elementAssignment,
  .elementOperationAssignment, .attributeAssignment, .orAssignment, .andAssignment,
  .operatorAssignment, .multipleAssignment, .ifStatement, .whileStatement, .untilStatement,
  .caseStatement, .whenClause, .beginEndBlock, .rescueClause, .rescueStatement, .aliasStatement,
  .undefStatement, .breakStatement, .nextStatement, .returnStatement, .yieldStatement,
  .isDefined, .andOperator, .orOperator, .unaryOperation, .call, .superCall, .callToSuper,
  .codeBlock, .definition, .block, .classDecl, .moduleDecl, .constant, .globalScopeReference,
  .nthGroupReference, .selfReference, .literalReference, .range, .regexMatcher, .hashLiteral,
  .hashPair, .arrayLiteral, .splat, .argument, .blockReference]

/-- The kind with the given name. -/
def ofTypeName? (name : String) : Option ModelKind :=
  all.find? fun kind => kind.typeName == name

/-- The fields of a kind, in the order of their declaration. -/
@[reducible] def fields : ModelKind → List Field
  | .floatLiteral => [double "value"]
  | .intLiteral => [int "value"]
  | .stringLiteral => [optionalText "value", needed (flag "dynamic"), needed (nodes "pieces")]
  | .regExpLiteral => [optionalText "value", needed (flag "dynamic"), needed (nodes "pieces")]
  | .booleanLiteral => [needed (flag "value")]
  | .nilLiteral => []
  | .symbol => [text "name"]
  | .localVarAccess => [text "name"]
  | .blockVarAccess => [text "name"]
  | .globalVarAccess => [text "name"]
  | .classVarAccess => [text "name"]
  | .instanceVarAccess => [text "name"]
  | .localVarAssignment => [text "name_assigned", child "value"]
  | .blockVarAssignment => [text "name_assigned", child "value"]
  | .globalVarAssignment => [text "name_assigned", child "value"]
  | .classVarAssignment => [text "name_assigned", child "value"]
  | .instanceVarAssignment => [text "name_assigned", child "value"]
  | .constantDecl => [text "name", child "value"]
  | .elementAssignment => [child "container", child "element", child "value"]
  | .elementOperationAssignment => [
      child "container", child "element", child "value", text "operator"]
  | .attributeAssignment => [child "receiver", text "name_assigned", child "value"]
  | .orAssignment => [child "assigned", child "value"]
  | .andAssignment => [child "assigned", child "value"]
  | .operatorAssignment => [
      child "container", text "element_name", text "operator_name", child "value"]
  | .multipleAssignment => [needed (nodes "assignments"), needed (nodes "values")]
  | .ifStatement => [child "condition", child "then_body", child "else_body"]
  | .whileStatement => [child "condition", child "body"]
  | .untilStatement => [child "condition", child "body"]
  | .caseStatement => [child "subject", needed (nodes "when_clauses"), child "else_body"]
  | .whenClause => [child "condition", child "body"]
  | .beginEndBlock => [
      child "body", needed (nodes "rescue_clauses"), child "else_body", child "ensure_body"]
  | .rescueClause => [needed (nodes "exceptions"), child "body"]
  | .rescueStatement => [child "body", child "value"]
  | .aliasStatement => [child "old_name", child "new_name"]
  | .undefStatement => [child "name"]
  | .breakStatement => [child "value"]
  | .nextStatement => [child "value"]
  | .returnStatement => [child "value"]
  | .yieldStatement => [needed (nodes "args")]
  | .isDefined => [child "value"]
  | .andOperator => [child "left", child "right"]
  | .orOperator => [child "left", child "right"]
  | .unaryOperation => [child "value", text "operator_name"]
  | .call => [
      text "name", child "receiver", needed (nodes "args"), child "block_arg",
      needed (flag "implicit_receiver")]
  | .superCall => [needed (nodes "args"), child "block_arg"]
  | .callToSuper => [child "block_arg"]
  | .codeBlock => [needed (nodes "args"), child "body"]
  | .definition => [
      text "name", child "receiver", needed (flag "onself"), needed (nodes "args"), child "body",
      needed (nodes "rescue_clauses"), child "else_body", child "ensure_body"]
  | .block => [needed (nodes "contents")]
  | .classDecl => [child "defname", child "super_class", needed (nodes "contents")]
  | .moduleDecl => [child "defname", needed (nodes "contents")]
  | .constant => [text "name", child "container"]
  | .globalScopeReference => [text "name"]
  | .nthGroupReference => [word "number"]
  | .selfReference => []
  | .literalReference => [text "value"]
  | .range => [child "lower", child "upper", needed (flag "exclusive")]
  | .regexMatcher => [child "checked_value", child "regex"]
  | .hashLiteral => [needed (nodes "pairs")]
  | .hashPair => [child "key", child "value"]
  | .arrayLiteral => [needed (nodes "values")]
  | .splat => [child "splatted"]
  | .argument => [text "name", child "default_value"]
  | .blockReference => [child "value"]

end ModelKind
end RubyModel
