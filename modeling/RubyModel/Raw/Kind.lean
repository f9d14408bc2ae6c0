/-
# The kinds of raw nodes

The node types a Ruby parser writes, each with its fields.  The order of the kinds and
of their fields is the order in which they are listed in messages.

They are the node-type names of `SPEC_FULL.md`, §11 (`CstKind`, `node_type`).
-/

import RubyModel.Record.Slots

namespace RubyModel
namespace Raw

open Record (Field)
open Record.Field (child node nodes text textOrEmpty optionalText flag int double word first)

/-- The listed kinds of raw nodes. -/
inductive Kind where
  | root
  | newline
  | block
  | evStr
  | nilImplicit
  | float
  | fixnum
  | str
  | dStr
  | regexp
  | dRegexp
  | nilWord
  | trueWord
  | falseWord
  | symbol
  | localVar
  | dVar
  | globalVar
  | classVar
  | instVar
  | nthRef
  | localAsgn
  | dAsgn
  | globalAsgn
  | classVarAsgn
  | classVarDecl
  | instAsgn
  | const
  | colon2
  | colon3
  | constDecl
  | opElementAsgn
  | attrAssign
  | opAsgnOr
  | opAsgnAnd
  | opAsgn
  | multipleAsgn
  | multipleAsgn19
  | star
  | ifWord
  | whileWord
  | untilWord
  | caseWord
  | whenWord
  | beginWord
  | rescue
  | rescueBody
  | ensure
  | breakWord
  | nextWord
  | returnWord
  | yieldWord
  | aliasWord
  | undef
  | defined
  | andWord
  | orWord
  | notWord
  | call
  | fCall
  | vCall
  | super
  | zSuper
  | unaryCall
  | match3
  | selfWord
  | dot
  | literal
  | iter
  | blockPass
  | defn
  | defs
  | classWord
  | moduleWord
  | hash
  | array
  | zArray
  | list
  | splat
  | args
  | argument
  | optArg
  | restArg
  | blockArg
  | argsCat
  | argsPush
  | xStr
  | dXStr
  | dSym
  | backRef
  | match2
  | flip
  | redo
  | retry
  | sClass
  | forWord
  | preExe
  | postExe
  deriving DecidableEq

namespace Kind

/-- The type name that the parser writes. -/
def typeName : Kind → String
  | .root => "ROOTNODE"
  | .newline => "NEWLINENODE"
  | .block => "BLOCKNODE"
  | .evStr => "EVSTRNODE"
  | .nilImplicit => "NILIMPLICITNODE"
  | .float => "FLOATNODE"
  | .fixnum => "FIXNUMNODE"
  | .str => "STRNODE"
  | .dStr => "DSTRNODE"
  | .regexp => "REGEXPNODE"
  | .dRegexp => "DREGEXPNODE"
  | .nilWord => "NILNODE"
  | .trueWord => "TRUENODE"
  | .falseWord => "FALSENODE"
  | .symbol => "SYMBOLNODE"
  | .localVar => "LOCALVARNODE"
  | .dVar => "DVARNODE"
  | .globalVar => "GLOBALVARNODE"
  | .classVar => "CLASSVARNODE"
  | .instVar => "INSTVARNODE"
  | .nthRef => "NTHREFNODE"
  | .localAsgn => "LOCALASGNNODE"
  | .dAsgn => "DASGNNODE"
  | .globalAsgn => "GLOBALASGNNODE"
  | .classVarAsgn => "CLASSVARASGNNODE"
  | .classVarDecl => "CLASSVARDECLNODE"
  | .instAsgn => "INSTASGNNODE"
  | .const => "CONSTNODE"
  | .colon2 => "COLON2NODE"
  | .colon3 => "COLON3NODE"
  | .constDecl => "CONSTDECLNODE"
  | .opElementAsgn => "OPELEMENTASGNNODE"
  | .attrAssign => "ATTRASSIGNNODE"
  | .opAsgnOr => "OPASGNORNODE"
  | .opAsgnAnd => "OPASGNANDNODE"
  | .opAsgn => "OPASGNNODE"
  | .multipleAsgn => "MULTIPLEASGNNODE"
  | .multipleAsgn19 => "MULTIPLEASGN19NODE"
  | .star => "STARNODE"
  | .ifWord => "IFNODE"
  | .whileWord => "WHILENODE"
  | .untilWord => "UNTILNODE"
  | .caseWord => "CASENODE"
  | .whenWord => "WHENNODE"
  | .beginWord => "BEGINNODE"
  | .rescue => "RESCUENODE"
  | .rescueBody => "RESCUEBODYNODE"
  | .ensure => "ENSURENODE"
  | .breakWord => "BREAKNODE"
  | .nextWord => "NEXTNODE"
  | .returnWord => "RETURNNODE"
  | .yieldWord => "YIELDNODE"
  | .aliasWord => "ALIASNODE"
  | .undef => "UNDEFNODE"
  | .defined => "DEFINEDNODE"
  | .andWord => "ANDNODE"
  | .orWord => "ORNODE"
  | .notWord => "NOTNODE"
  | .call => "CALLNODE"
  | .fCall => "FCALLNODE"
  | .vCall => "VCALLNODE"
  | .super => "SUPERNODE"
  | .zSuper => "ZSUPERNODE"
  | .unaryCall => "UNARYCALLNODE"
  | .match3 => "MATCH3NODE"
  | .selfWord => "SELFNODE"
  | .dot => "DOTNODE"
  | .literal => "LITERALNODE"
  | .iter => "ITERNODE"
  | .blockPass => "BLOCKPASSNODE"
  | .defn => "DEFNNODE"
  | .defs => "DEFSNODE"
  | .classWord => "CLASSNODE"
  | .moduleWord => "MODULENODE"
  | .hash => "HASHNODE"
  | .array => "ARRAYNODE"
  | .zArray => "ZARRAYNODE"
  | .list => "LISTNODE"
  | .splat => "SPLATNODE"
  | .args => "ARGSNODE"
  | .argument => "ARGUMENTNODE"
  | .optArg => "OPTARGNODE"
  | .restArg => "RESTARGNODE"
  | .blockArg => "BLOCKARGNODE"
  | .argsCat => "ARGSCATNODE"
  | .argsPush => "ARGSPUSHNODE"
  | .xStr => "XSTRNODE"
  | .dXStr => "DXSTRNODE"
  | .dSym => "DSYMNODE"
  | .backRef => "BACKREFNODE"
  | .match2 => "MATCH2NODE"
  | .flip => "FLIPNODE"
  | .redo => "REDONODE"
  | .retry => "RETRYNODE"
  | .sClass => "SCLASSNODE"
  | .forWord => "FORNODE"
  | .preExe => "PREEXENODE"
  | .postExe => "POSTEXENODE"

/-- All kinds, in the order of their declaration. -/
def all : List Kind := [
  .root, .newline, .block, .evStr, .nilImplicit, .float, .fixnum, .str, .dStr, .regexp, .dRegexp,
  .nilWord, .trueWord, .falseWord, .symbol, .localVar, .dVar, .globalVar, .classVar, .instVar,
  .nthRef, .localAsgn, .dAsgn, .globalAsgn, .classVarAsgn, .classVarDecl, .instAsgn, .const,
  .colon2, .colon3, .constDecl, .opElementAsgn, .attrAssign, .opAsgnOr, .opAsgnAnd, .opAsgn,
  .multipleAsgn, .multipleAsgn19, .star, .ifWord, .whileWord, .untilWord, .caseWord, .whenWord,
  .beginWord, .rescue, .rescueBody, .ensure, .breakWord, .nextWord, .returnWord, .yieldWord,
  .aliasWord, .undef, .defined, .andWord, .orWord, .notWord, .call, .fCall, .vCall, .super,
  .zSuper, .unaryCall, .match3, .selfWord, .dot, .literal, .iter, .blockPass, .defn, .defs,
  .classWord, .moduleWord, .hash, .array, .zArray, .list, .splat, .args, .argument, .optArg,
  .restArg, .blockArg, .argsCat, .argsPush, .xStr, .dXStr, .dSym, .backRef, .match2, .flip,
  .redo, .retry, .sClass, .forWord, .preExe, .postExe]

/-- The kind with the given type name. -/
def ofTypeName? (name : String) : Option Kind := all.find? fun kind => kind.typeName == name

/-- The fields of a kind, in the order of their declaration.  An assignment to a variable
with a sigil reads its value before the name. -/
@[reducible] def fields : Kind → List Field
  | .root => [child "body"]
  | .newline => [child "next_node"]
  | .block => [nodes "statements"]
  | .evStr => [child "body"]
  | .nilImplicit => []
  | .float => [double "value"]
  | .fixnum => [int "value"]
  | .str => [text "value"]
  | .dStr => [nodes "pieces"]
  | .regexp => [text "value"]
  | .dRegexp => [nodes "pieces"]
  | .nilWord => []
  | .trueWord => []
  | .falseWord => []
  | .symbol => [text "name"]
  | .localVar => [text "name"]
  | .dVar => [text "name"]
  | .globalVar => [text "name", optionalText "lexical_name"]
  | .classVar => [text "name", optionalText "lexical_name"]
  | .instVar => [text "name", optionalText "lexical_name"]
  | .nthRef => [word "match_number"]
  | .localAsgn => [text "name", child "value"]
  | .dAsgn => [text "name", child "value"]
  | .globalAsgn => [text "name", optionalText "lexical_name", first (child "value")]
  | .classVarAsgn => [text "name", optionalText "lexical_name", first (child "value")]
  | .classVarDecl => [text "name", optionalText "lexical_name", first (child "value")]
  | .instAsgn => [text "name", optionalText "lexical_name", first (child "value")]
  | .const => [text "name"]
  | .colon2 => [child "left_node", text "name"]
  | .colon3 => [text "name"]
  | .constDecl => [text "name", child "value"]
  | .opElementAsgn => [child "receiver", child "args", text "operator_name", child "value"]
  | .attrAssign => [child "receiver", text "name", child "args"]
  | .opAsgnOr => [node "first", node "second"]
  | .opAsgnAnd => [node "first", node "second"]
  | .opAsgn => [child "receiver", text "variable_name", text "operator_name", child "value"]
  | .multipleAsgn => [child "pre", child "rest", child "post", child "value"]
  | .multipleAsgn19 => [child "pre", child "rest", child "post", child "value"]
  | .star => []
  | .ifWord => [child "condition", child "then_body", child "else_body"]
  | .whileWord => [child "condition", child "body"]
  | .untilWord => [child "condition", child "body"]
  | .caseWord => [child "case_node", nodes "cases", child "else_node"]
  | .whenWord => [child "expression", child "body"]
  | .beginWord => [child "body"]
  | .rescue => [child "body", child "rescue_node", child "else_node"]
  | .rescueBody => [child "exception_nodes", child "body", child "opt_rescue"]
  | .ensure => [child "body", child "ensure"]
  | .breakWord => [child "value"]
  | .nextWord => [child "value"]
  | .returnWord => [child "value"]
  | .yieldWord => [child "args"]
  | .aliasWord => [node "old_name", node "new_name"]
  | .undef => [node "name"]
  | .defined => [node "expression"]
  | .andWord => [node "first", node "second"]
  | .orWord => [node "first", node "second"]
  | .notWord => [node "condition"]
  | .call => [child "receiver", text "name", child "args", child "iter"]
  | .fCall => [text "name", child "args", child "iter"]
  | .vCall => [text "name"]
  | .super => [child "args", child "iter"]
  | .zSuper => [child "iter"]
  | .unaryCall => [node "receiver", text "lexical_name"]
  | .match3 => [node "receiver", node "value"]
  | .selfWord => []
  | .dot => [child "begin_node", child "end_node", flag "exclusive"]
  | .literal => [text "name"]
  | .iter => [child "var_node", child "body"]
  | .blockPass => [child "body", child "args"]
  | .defn => [text "name", child "args_node", child "body"]
  | .defs => [child "receiver", text "name", child "args_node", child "body"]
  | .classWord => [node "cpath", child "super_node", child "body_node"]
  | .moduleWord => [node "cpath", child "body_node"]
  | .hash => [child "list_node"]
  | .array => [nodes "elements"]
  | .zArray => []
  | .list => [nodes "elements"]
  | .splat => [child "value"]
  | .args => [child "pre", child "optional", child "rest", child "post", child "block"]
  | .argument => [text "name"]
  | .optArg => [node "value"]
  | .restArg => [optionalText "name"]
  | .blockArg => [text "name"]
  | .argsCat => [node "first", node "second"]
  | .argsPush => [node "first", node "second"]
  | .xStr => [text "value"]
  | .dXStr => [nodes "pieces"]
  | .dSym => [nodes "pieces"]
  | .backRef => [textOrEmpty "kind"]
  | .match2 => [node "receiver", node "value"]
  | .flip => [child "begin_node", child "end_node", flag "exclusive"]
  | .redo => []
  | .retry => []
  | .sClass => [node "receiver", child "body_node"]
  | .forWord => [child "var_node", child "iter_node", child "body"]
  | .preExe => [child "body"]
  | .postExe => [child "body"]

end Kind
end Raw
end RubyModel
