/-
# Terminals of trees and models

A terminal stands for itself and holds no other node: a literal, a symbol, a plain variable, a
reference to a group, to `self` or to a bare word.  The terminals of a raw tree and of a model
are read from left to right, the children of a node in the order in which they are declared.
Two kinds of raw node are declared in another order than they are written and are read as
written: the value of a regular expression match comes before the expression, and the arguments
of a call before a block that is passed with them.
-/

import RubyModel.Model.Form
import RubyModel.Raw.Shape

namespace RubyModel

/-- What stands for itself and holds no other node. -/
inductive Terminal where
  | leaf (leaf : Leaf)
  | text (form : TextForm) (value : String)

namespace Raw

/-- The terminals of an unsupported shape from those of its children. -/
def Unsupported.terminals : Unsupported (List Terminal) → List Terminal
  | .unlisted _ | .shell _ | .backReference _ | .redo | .retry => []
  | .dynamicShell pieces | .dynamicSymbol pieces => pieces.flatten
  | .matchReceiver receiver value => receiver ++ value
  | .flipFlop lower upper _ => lower.getD [] ++ upper.getD []
  | .singletonClass receiver body => receiver ++ body.getD []
  | .forLoop target iterated body => target.getD [] ++ iterated.getD [] ++ body.getD []
  | .beforeProgram body | .afterProgram body => body.getD []

/-- The terminals of a shape from those of its children. -/
def Shape.terminals : Shape (List Terminal) → List Terminal
  | .leaf found => [.leaf found]
  | .text form value => [.text form value]
  | .implicitNil | .var .. | .constant _ | .topConstant _ | .star | .variableCall _ | .emptyArray
  | .param _ | .restParam _ | .blockParam _ => []
  | .block items | .dynamicText _ items | .elements _ items => items.flatten
  | .root a | .wrap _ a | .beginBlock a | .localAssign _ _ a | .varAssign _ _ a
  | .constantDecl _ a | .jump _ a | .splat a | .scopedConstant a _ | .yield a | .bareSuper a
  | .hash a => a.getD []
  | .undef a | .isDefined a | .negation a | .unaryCall a _ | .optionalParam a => a
  | .attributeAssign a _ b | .operatorAssign a _ _ b | .loop _ a b | .whenClause a b
  | .ensure a b | .functionCall _ a b | .superCall a b | .range a b _ | .iterator a b
  | .define _ a b => a.getD [] ++ b.getD []
  | .logicalAssign _ a b | .logical _ a b | .concat _ a b | .aliasName a b => a ++ b
  | .moduleDecl a b => a ++ b.getD []
  | .classDecl a b c => a ++ b.getD [] ++ c.getD []
  | .caseOf a items b => a.getD [] ++ items.flatten ++ b.getD []
  | .elementUpdate a b _ c | .ifElse a b c | .rescue a b c | .rescueBody a b c | .call a _ b c
  | .defineOn a _ b c => a.getD [] ++ b.getD [] ++ c.getD []
  | .multipleAssign _ a b c d => a.getD [] ++ b.getD [] ++ c.getD [] ++ d.getD []
  | .params a b c d e => a.getD [] ++ b.getD [] ++ c.getD [] ++ d.getD [] ++ e.getD []
  | .regexMatch receiver value => value ++ receiver
  | .blockPass body args => args.getD [] ++ body.getD []
  | .unsupported shape => shape.terminals

/-- The terminal that a shape stands for itself. -/
def Shape.own {α : Type} : Shape α → List Terminal
  | .leaf found => [.leaf found]
  | .text form value => [.text form value]
  | _ => []

namespace Node

/-- The terminals of a tree from left to right. -/
def terminals : Node → List Terminal := fold fun _ shape => shape.terminals

/-- The terminals of a child that may be absent. -/
def childTerminals (place : Option Node) : List Terminal :=
  (foldChild (fun _ shape => shape.terminals) place).getD []

/-- The terminals of a list of children. -/
def listTerminals (nodes : List Node) : List Terminal :=
  (foldList (fun _ shape => shape.terminals) nodes).flatten

end Node
end Raw

/-- The terminals of a form from those of its children. -/
def Form.terminals : Form (List Terminal) → List Terminal
  | .leaf found => [.leaf found]
  | .text form (some value) false pieces => .text form value :: pieces.flatten
  | .text _ _ _ pieces => pieces.flatten
  | .var .. | .topConstant _ => []
  | .assign _ _ a | .constantDecl _ a | .undef a | .jump _ a | .isDefined a | .unary a _
  | .callToSuper a | .constant _ a | .splat a | .param _ a | .blockReference a => a.getD []
  | .attributeAssign a _ b | .logicalAssign _ a b | .operatorAssign a _ _ b | .loop _ a b
  | .whenClause a b | .rescueStatement a b | .aliasName a b | .logical _ a b | .range a b _
  | .regexMatch a b | .hashPair a b => a.getD [] ++ b.getD []
  | .elementAssign a b c | .elementUpdate a b c _ | .ifElse a b c =>
    a.getD [] ++ b.getD [] ++ c.getD []
  | .yield items | .block items | .hash items | .array items => items.flatten
  | .multipleAssign targets values => targets.flatten ++ values.flatten
  | .caseOf a clauses b => a.getD [] ++ clauses.flatten ++ b.getD []
  | .beginEnd a clauses b c => a.getD [] ++ clauses.flatten ++ b.getD [] ++ c.getD []
  | .rescueClause items a | .superCall items a | .codeBlock items a => items.flatten ++ a.getD []
  | .call _ receiver args blockArg _ => receiver.getD [] ++ args.flatten ++ blockArg.getD []
  | .define _ receiver _ args body clauses elseBody ensureBody =>
    receiver.getD [] ++ args.flatten ++ body.getD [] ++ clauses.flatten ++ elseBody.getD [] ++
      ensureBody.getD []
  | .classDecl name superClass contents =>
    name.getD [] ++ superClass.getD [] ++ contents.flatten
  | .moduleDecl name contents => name.getD [] ++ contents.flatten

/-- The terminal that a form stands for itself. -/
def Form.own {α : Type} : Form α → List Terminal
  | .leaf found => [.leaf found]
  | .text form (some value) false _ => [.text form value]
  | _ => []

namespace Model

/-- The terminals of a model from left to right. -/
def terminals : Model → List Terminal := fold Form.terminals

/-- The terminals of a model that may be absent. -/
def childTerminals (model : Option Model) : List Terminal :=
  (foldChild Form.terminals model).getD []

/-- The terminals of a list of models. -/
def listTerminals (models : List Model) : List Terminal :=
  (foldList Form.terminals models).flatten

@[simp] theorem listTerminals_nil : listTerminals [] = [] := rfl

@[simp] theorem listTerminals_cons (model : Model) (models : List Model) :
    listTerminals (model :: models) = model.terminals ++ listTerminals models := rfl

@[simp] theorem childTerminals_none : childTerminals none = [] := rfl

@[simp] theorem childTerminals_some (model : Model) :
    childTerminals (some model) = model.terminals := rfl

/-- The terminals of one list after another. -/
@[simp] theorem listTerminals_append (before after : List Model) :
    listTerminals (before ++ after) = listTerminals before ++ listTerminals after := by
  induction before with
  | nil => rfl
  | cons model models ih =>
    rw [List.cons_append, listTerminals_cons, listTerminals_cons, ih, List.append_assoc]

/-- A list with at most one model. -/
@[simp] theorem listTerminals_toList (model : Option Model) :
    listTerminals model.toList = childTerminals model := by
  cases model with
  | none => rfl
  | some model => simp

/-- A splat has the terminals of what it spreads. -/
@[simp] theorem terminals_intoSplat (model : Model) :
    model.intoSplat.terminals = model.terminals := by
  obtain ⟨form⟩ := model
  cases form <;> rfl

/-- A splat around a model that may be absent. -/
@[simp] theorem childTerminals_map_intoSplat (model : Option Model) :
    childTerminals (model.map intoSplat) = childTerminals model := by
  cases model with
  | none => rfl
  | some model => exact terminals_intoSplat model

/-- Taking a block apart keeps its terminals. -/
@[simp] theorem listTerminals_contents (body : Option Model) :
    listTerminals (contents body) = childTerminals body := by
  cases body with
  | none => rfl
  | some model =>
    obtain ⟨form⟩ := model
    cases form with
    | block contents => rfl
    | _ => exact List.append_nil _

/-- The first of a list, and the others. -/
theorem listTerminals_eq_first (models : List Model) :
    listTerminals models = childTerminals models[0]? ++ listTerminals (models.drop 1) := by
  cases models <;> rfl

end Model
end RubyModel
