/-
# The written form of models

A model node is written as an object with the name of its kind and its fields in the
order of their declaration.  When a model is read, members that the kind does not declare
are ignored and absent children may be left out; lists and truth values may not.  A child
may also name its kind by the kind's number.

A model tree is a model together with the warnings of the run that produced it.

This is the form of `SPEC_FULL.md`, §12 and §16.4 (`ModelNode`, `ModelTree`).  When a model or a
model tree is read, two sorts of values are left out that are never written: arrays that stand
for a record by the order of its fields, which are refused here, and objects in which a key is
repeated, of which the last member counts here.
-/

import RubyModel.Diagnostic
import RubyModel.Model.Entry

namespace RubyModel

open Record (Fault Members Rule)

/-- The written form of a model node whose children are written already. -/
def ModelEntry.written (form : Form Json) : Json :=
  let entry := ofForm form
  .object (("type", .string entry.kind.typeName) ::
    Record.members entry.kind.fields entry.slots)

/-- The written form of a model. -/
def Model.toJson (model : Model) : Json := model.fold ModelEntry.written

/-- The kind that a member `type` names. -/
def ModelKind.ofJson (nested : Bool) : Json → Except Fault ModelKind
  | .string name =>
    match ofTypeName? name with
    | some kind => .ok kind
    | none => .error (.unknownVariant name (all.map typeName))
  | .int value =>
    if nested ∧ 0 ≤ value then
      match all[value.toNat]? with
      | some kind => .ok kind
      | none => .error (.outOfRange value (.variantIndex all.length))
    else .error (.wrongType (.int value) .variantName)
  | other => .error (.wrongType other .variantName)

/-- Why a value that is no object is no model: an array would have to start with a type. -/
def Model.notObject (nested : Bool) : Json → Fault
  | .array [] => .missing "type"
  | .array (first :: rest) =>
    match ModelKind.ofJson nested first with
    | .error fault => fault
    | .ok _ => .wrongType (.array (first :: rest)) .model
  | other => .wrongType other .model

/-- How models are read. -/
def Model.rule : Rule Model where
  ofMembers nested members :=
    match members.value "type" with
    | none => .error (.missing "type")
    | some found => do
      let kind ← ModelKind.ofJson nested found
      let slots ← Record.readSlots kind.fields members
      return ⟨ModelEntry.form ⟨kind, slots⟩⟩
  ofOther := Model.notObject

/-- Reads a model from its written form. -/
def Model.ofJson (value : Json) : Except Fault Model := Record.decode Model.rule false value

/-- The outcome of a run: the model, which is absent for an empty program, and the warnings. -/
structure ModelTree where
  root : Option Model
  diagnostics : List Diagnostic

namespace ModelTree

/-- An absent model is written as `null`. -/
def rootJson (root : Option Model) : Json :=
  match root with
  | none => .null
  | some model => model.toJson

/-- The JSON form of a model tree. -/
def toJson (tree : ModelTree) : Json :=
  .object [
    ("root", rootJson tree.root),
    ("diagnostics", .array (tree.diagnostics.map Diagnostic.toJson))]

/-- Reads the warnings of a model tree. -/
def readDiagnostics : Option Json → Except Fault (Option (List Diagnostic))
  | none => .ok none
  | some (.array items) => (items.mapM Diagnostic.ofJson).map some
  | some other => .error (.wrongType other .sequence)

/-- Reads the root of a model tree; it may be left out. -/
def readRoot : Option Json → Except Fault (Option Model)
  | none | some .null => .ok none
  | some found => (Model.ofJson found).map some

/-- Reads a model tree. -/
def ofJson : Json → Except Fault ModelTree
  | .object members => do
    let diagnostics ← readDiagnostics (Json.member? "diagnostics" members)
    let root ← readRoot (Json.member? "root" members)
    let diagnostics ← Diagnostic.require "diagnostics" diagnostics
    return { root, diagnostics }
  | other => .error (.wrongType other .modelTree)

end ModelTree
end RubyModel
