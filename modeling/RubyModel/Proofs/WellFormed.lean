/-
# Models are well formed

What tools may rely on in every model, whatever the tree and the policy were (`SPEC_FULL.md`, §3,
§4.1 and §12):

| layer | has |
| --- | --- |
| text | a value and no pieces, or is dynamic and has no value |
| call with an implicit receiver | no receiver |
| method definition that is not on an object | no receiver |
| method definition, `begin` block | only rescue clauses as clauses, an `else` part only with some |
| hash | pairs only |
| any other | no pair |

The conditions on single layers (`Form.Sound`) hold of the top layer of what every node gives, by a
look at the shapes of four families; `Growth` takes them to all layers and keeps pairs in hashes.
-/

import RubyModel.Proofs.Growth
import RubyModel.Raw.Build

namespace RubyModel

namespace Model

/-- The model is a rescue clause. -/
def isClause : Model → Bool
  | ⟨.rescueClause ..⟩ => true
  | _ => false

/-- The model is a pair of a hash. -/
def isPair : Model → Bool
  | ⟨.hashPair ..⟩ => true
  | _ => false

end Model

namespace Form

/-- The layer is a hash. -/
def isHash : Form Model → Bool
  | .hash _ => true
  | _ => false

/-- The clauses of a body are rescue clauses, and an `else` part comes with some. -/
def Guards (clauses : List Model) (elseBody : Option Model) : Prop :=
  (∀ clause ∈ clauses, clause.isClause = true) ∧ (elseBody ≠ none → clauses ≠ [])

/-- The fields of a layer fit together. -/
def Sound : Form Model → Prop
  | .text _ value dynamic pieces =>
    (dynamic = false ∧ value ≠ none ∧ pieces = []) ∨ (dynamic = true ∧ value = none)
  | .call _ receiver _ _ implicitReceiver => implicitReceiver = true → receiver = none
  | .define _ receiver onself _ _ clauses elseBody _ =>
    (onself = false → receiver = none) ∧ Guards clauses elseBody
  | .beginEnd _ clauses elseBody _ => Guards clauses elseBody
  | _ => True

/-- The children of a hash are pairs, and no other layer has a pair as a child. -/
def Paired (form : Form Model) : Prop := ∀ child ∈ form.children, child.isPair = form.isHash

end Form

/-- The layers of the family have fields that must fit together. -/
def Family.isLinked : Family → Bool
  | .text | .call | .definition | .guarded => true
  | .block | .declaration | .other => false

/-- A layer of a family that no condition is about is sound. -/
theorem Form.sound_of_family {form : Form Model} (h : form.family.isLinked = false) :
    form.Sound := by
  cases form with
  | text | call | define | beginEnd => cases h
  | _ => trivial

namespace Grown

variable {V : Form Model → Prop} {model : Model}

/-- No node gives a pair. -/
theorem isPair_eq_false (h : Grown V model) : model.isPair = false := by
  obtain ⟨form⟩ := model
  cases form with
  | hashPair =>
    cases h with
    | layer outside => cases outside
  | _ => rfl

/-- A layer outside hashes is no hash. -/
theorem isHash_eq_false {form : Form Model} (outside : form.inHash = false) :
    form.isHash = false := by
  cases form with
  | hash => cases outside
  | _ => rfl

/-- Pairs stand in hashes, and nowhere else. -/
theorem Piece.paired (h : Piece V model) : model.form.Paired := by
  obtain grown | ⟨parts, rfl, key, value⟩ := h
  · cases grown with
    | layer outside _ children =>
      intro child mem
      rw [(children child mem).isPair_eq_false]
      exact (isHash_eq_false outside).symm
    | @hash pairs =>
      have each : (Form.hash (pairs.map Model.pair)).All (·.isPair = true) :=
        List.forall_mem_map.2 fun _ _ => rfl
      exact Form.all_iff.1 each
  · have each : (Form.hashPair parts.1 parts.2).All (·.isPair = false) :=
      ⟨fun x mem => (key x mem).isPair_eq_false, fun x mem => (value x mem).isPair_eq_false⟩
    exact Form.all_iff.1 each

end Grown

namespace Lowering

open Raw (Node Shape)

/-! ## Protected bodies -/

section Guards

variable (policy : Policy)

/-- A chain of rescue clauses gives at least one, and nothing else. -/
theorem rescueClauses_clauses (node : Node) :
    (rescueClauses policy node).Yields fun clauses =>
      clauses ≠ [] ∧ ∀ clause ∈ clauses, clause.isClause = true := by
  induction node using Node.induction with
  | step position shape ih =>
    cases shape with
    | rescueBody exceptions body next =>
      have later : (nextClauses policy next).Yields fun clauses =>
          ∀ clause ∈ clauses, clause.isClause = true := by
        cases next with
        | none => exact .ok (List.forall_mem_nil _)
        | some node => exact fun clauses found => (ih.2.2 node rfl clauses found).2
      exact .next fun _ => .next fun _ => .bind later fun _ others =>
        .ok ⟨List.cons_ne_nil _ _, List.forall_mem_cons.2 ⟨rfl, others⟩⟩
    | _ => exact .fail

/-- A body has an `else` part only with rescue clauses. -/
theorem rescued_guards (node : Node) :
    (rescued policy node).Yields fun body => Form.Guards body.clauses body.elseBody := by
  obtain ⟨position, shape⟩ := node
  cases shape with
  | rescue body clause elseBody =>
    refine .next fun _ => ?_
    cases clause with
    -- Without a clause the run fails, so an `else` part never stands alone.
    | none => exact .bind (P := fun _ => False) .fail fun _ no => no.elim
    | some clause =>
      exact .bind (rescueClauses_clauses policy clause) fun _ clauses => .next fun _ =>
        .ok ⟨clauses.2, fun _ => clauses.1⟩
  | _ => exact .next fun _ => .ok ⟨List.forall_mem_nil _, fun h => absurd rfl h⟩

/-- So has a body that may be absent. -/
theorem rescuedChild_guards (place : Option Node) :
    (rescuedChild policy place).Yields fun body => Form.Guards body.clauses body.elseBody := by
  cases place with
  | none => exact .ok ⟨List.forall_mem_nil _, fun h => absurd rfl h⟩
  | some node => exact rescued_guards policy node

/-- So has a body with an `ensure` part. -/
theorem protectedBody_guards (place : Option Node) :
    (protectedBody policy place).Yields fun body => Form.Guards body.clauses body.elseBody := by
  obtain _ | ⟨position, shape⟩ := place
  · exact .ok ⟨List.forall_mem_nil _, fun h => absurd rfl h⟩
  · cases shape with
    | ensure body =>
      exact .next fun _ => .bind (rescuedChild_guards policy body) fun _ guards => .ok guards
    | _ => exact rescued_guards policy _

end Guards

/-! ## Top layers -/

/-- The top layer of what a node gives is sound. -/
theorem value_sound (policy : Policy) (node : Node) : Tops policy Form.Sound node := by
  obtain ⟨position, shape⟩ := node
  intro (notWrapper : shape.isWrapper = false)
  change (shapeValue policy position shape).Yields _
  cases shape with
  | text => exact .some (.inl ⟨rfl, Option.some_ne_none _, rfl⟩)
  | dynamicText => exact .next fun _ => .some (.inr ⟨rfl, rfl⟩)
  | call => exact .next fun _ => .next fun _ => .next fun _ => .some Bool.noConfusion
  | functionCall => exact .next fun _ => .next fun _ => .some fun _ => rfl
  | variableCall => exact .some Bool.noConfusion
  | define =>
    exact .next fun _ => .bind (protectedBody_guards policy _) fun _ guards =>
      .some ⟨fun _ => rfl, guards⟩
  | defineOn =>
    exact .next fun _ => .next fun _ => .bind (protectedBody_guards policy _) fun _ guards =>
      .some ⟨Bool.noConfusion, guards⟩
  | beginBlock => exact .bind (protectedBody_guards policy _) fun _ guards => .some guards
  | ensure =>
    exact .next fun _ => .bind (rescuedChild_guards policy _) fun _ guards => .some guards
  | _ =>
    -- All other shapes give models of families without conditions.
    intro model found x mem
    apply Form.sound_of_family
    rw [shapeValue_family policy position notWrapper model found x mem]
    rfl

/-- The layers that are no node's value are sound. -/
theorem added_sound : Added Form.Sound :=
  .of_other fun other => Form.sound_of_family (congrArg Family.isLinked other)

end Lowering

namespace ModelTree

open Raw (Node)

/-- **Models are well formed.**  In the model of every tree, by itself or as a program, under
either policy, the fields of each layer fit together, and pairs stand in hashes only. -/
theorem well_formed (settings : Settings) (node : Node) (tree : ModelTree)
    (accepted : ofNode settings node = .ok tree ∨ ofProgram settings node = .ok tree) :
    ∀ root ∈ tree.root, root.isPair = false ∧
      ∀ part : Model, part.Within root → part.form.Sound ∧ part.form.Paired := by
  intro root found
  have grown : Grown Form.Sound root :=
    grown Lowering.added_sound (fun part _ => Lowering.value_sound _ part) accepted root found
  refine ⟨grown.isPair_eq_false, fun part within => ?_⟩
  exact ⟨grown.within Lowering.added_sound within, (grown.piece within).paired⟩

section Guarded

open Raw.Build

/-- A method `m` that calls `f("a…", :k => redo)` with an interpolated text, and has a rescue clause
and an `else` part; the `redo` has no counterpart. -/
def guardedProgram : Node :=
  Raw.Build.root (some (define "m" none (some (unplaced (.rescue
    (some (functionCall "f" (some (array [
      dynamicString [string "a", interpolation (localVar "x")],
      hash [(symbol "k", unplaced (.unsupported .redo))]]))))
    (some (rescueClause (some (array [constant "E"])) (some self) none))
    (some nil))))))

/-- The method is well formed with its clause and `else` part, its dynamic text and its hash, whose
pair stays without a value. -/
theorem well_formed_guardedProgram :
    ∃ tree root, ofProgram { unknownNodes := .permissive } guardedProgram = .ok tree ∧
      tree.root = some root ∧ root.isPair = false ∧
      ∀ part : Model, part.Within root → part.form.Sound ∧ part.form.Paired :=
  ⟨_, _, rfl, rfl, well_formed { unknownNodes := .permissive } guardedProgram _ (.inr rfl) _ rfl⟩

end Guarded

end ModelTree
end RubyModel
