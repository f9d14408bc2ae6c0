/-
# Blocks in the contents of declarations

The body of a class or module adds the statements of a sequence one by one to its contents, by the
flattener of `SPEC_FULL.md`, §4.3.  This takes the outermost block apart and no other: where a
sequence stands among the statements, behind any number of wrappers, its block stays among the
contents.

| body, behind wrappers | blocks among the contents |
| --- | --- |
| no sequence | none |
| a sequence without a sequence among its statements | none |
| a sequence with a sequence among its statements (`IsNested`) | one for each |

So a body is flattened exactly if it is not nested (`child_contents`), for the declarations of a
tree as well as for the containers of a session.
-/

import RubyModel.Proofs.Growth
import RubyModel.Raw.Build
import RubyModel.Session

namespace RubyModel

namespace Raw

/-- The node is a sequence of statements, behind any number of wrappers. -/
inductive Node.IsSequence : Node → Prop where
  | block {position : Position} {statements : List Node} :
      IsSequence ⟨position, .block statements⟩
  | wrap {position : Position} {wrapper : Wrapper} {inner : Node} (h : IsSequence inner) :
      IsSequence ⟨position, .wrap wrapper (some inner)⟩

/-- The node is a sequence, behind any number of wrappers, with a sequence among its statements. -/
inductive Node.IsNested : Node → Prop where
  | block {position : Position} {statements : List Node} {statement : Node}
      (mem : statement ∈ statements) (h : statement.IsSequence) :
      IsNested ⟨position, .block statements⟩
  | wrap {position : Position} {wrapper : Wrapper} {inner : Node} (h : IsNested inner) :
      IsNested ⟨position, .wrap wrapper (some inner)⟩

/-- The body of a class or module. -/
def Shape.declaredBody {α : Type} : Shape α → Option α
  | .classDecl _ _ body | .moduleDecl _ body => body
  | _ => none

namespace Node

/-- The node declares no class or module with a nested body. -/
def DeclaresFlat (node : Node) : Prop := ∀ body ∈ node.shape.declaredBody, ¬body.IsNested

/-- No class or module of the tree has a nested body. -/
def AllFlat (node : Node) : Prop := ∀ part : Node, part.Within node → part.DeclaresFlat

/-- A node that is no declaration has nothing to splice. -/
theorem declaresFlat_of_family {position : Position} {shape : Shape Node}
    (h : shape.family ≠ .declaration) : DeclaresFlat ⟨position, shape⟩ := by
  intro body mem
  cases shape with
  | classDecl | moduleDecl => exact absurd rfl h
  | _ => cases mem

/-- A tree declares flat if its root does and all trees below. -/
theorem allFlat_of_children {position : Position} {shape : Shape Node}
    (here : DeclaresFlat ⟨position, shape⟩) (below : shape.All AllFlat) :
    AllFlat ⟨position, shape⟩ := by
  intro part within
  cases within with
  | whole => exact here
  | child mem within => exact Shape.all_iff.1 below _ mem part within

end Node

end Raw

/-- The model is a block. -/
def Model.isBlock : Model → Bool
  | ⟨.block _⟩ => true
  | _ => false

/-- A declaration has no block among its contents. -/
def Form.Flat : Form Model → Prop
  | .classDecl _ _ contents | .moduleDecl _ contents => ∀ x ∈ contents, x.isBlock = false
  | _ => True

/-- Blocks are a family of their own. -/
theorem Model.isBlock_iff {model : Model} :
    model.isBlock = true ↔ model.form.family = .block := by
  obtain ⟨form⟩ := model
  cases form with
  | block => exact iff_of_true rfl rfl
  | _ => exact iff_of_false nofun nofun

/-- A layer that is no declaration is flat. -/
theorem Form.flat_of_family {form : Form Model} (h : form.family ≠ .declaration) : form.Flat := by
  cases form with
  | classDecl | moduleDecl => exact absurd rfl h
  | _ => trivial

namespace Lowering

open Raw (Node Shape)

/-- A model that is no block is added to a container as it is. -/
theorem contents_of_not_isBlock {model : Option Model} (h : ∀ x ∈ model, x.isBlock = false) :
    ∀ x ∈ Model.contents model, x.isBlock = false := by
  cases model with
  | none => exact List.forall_mem_nil _
  | some model =>
    have here := h model rfl
    obtain ⟨form⟩ := model
    cases form with
    | block => cases here
    | _ => exact List.forall_mem_singleton.2 here

section Blocks

variable (policy : Policy)

/-- What is no wrapper and no sequence gives no block. -/
theorem value_not_isBlock (position : Position) {shape : Shape Node}
    (notWrapper : shape.isWrapper = false) (notBlock : shape.family ≠ .block) :
    (shapeValue policy position shape).Yields fun model => ∀ x ∈ model, x.isBlock = false := by
  intro model found x mem
  have family := shapeValue_family policy position notWrapper model found x mem
  refine Bool.eq_false_iff.2 fun isBlock => notBlock ?_
  rw [← family, Model.isBlock_iff.1 isBlock]

/-- A node gives no block exactly if it is no sequence. -/
theorem value_no_block (node : Node) :
    (value policy node).Yields fun model =>
      (∀ x ∈ model, x.isBlock = false) ↔ ¬node.IsSequence := by
  induction node using Node.induction with
  | step position shape ih =>
    cases shape with
    | block => exact .next fun _ => .ok (iff_of_false (fun h => nomatch h _ rfl) (· .block))
    | wrap wrapper inner =>
      cases inner with
      | none => exact .ok (iff_of_true nofun nofun)
      | some inner =>
        intro model found
        refine (ih inner rfl model found).trans (not_congr ⟨.wrap, ?_⟩)
        rintro ⟨⟩
        assumption
    | _ =>
      intro model found
      refine iff_of_true ?_ nofun
      exact value_not_isBlock policy position rfl (by simp [Shape.family]) model found

/-- A list gives no block exactly if no node of it is a sequence. -/
theorem list_no_block (nodes : List Node) :
    (list policy nodes).Yields fun models =>
      (∀ x ∈ models, x.isBlock = false) ↔ ∀ node ∈ nodes, ¬node.IsSequence := by
  induction nodes with
  | nil => exact .ok (iff_of_true (List.forall_mem_nil _) (List.forall_mem_nil _))
  | cons node nodes ih =>
    refine .bind (value_no_block policy node) fun first here => .bind ih fun others later => .ok ?_
    simp only [Option.mem_def] at here
    simp only [List.forall_mem_append, List.forall_mem_cons, Option.mem_toList, here, later]

/-- **Only the outermost block is taken apart:** what a node adds to a container holds no block
exactly if the node is not nested. -/
theorem value_contents (node : Node) :
    (value policy node).Yields fun model =>
      (∀ x ∈ Model.contents model, x.isBlock = false) ↔ ¬node.IsNested := by
  induction node using Node.induction with
  | step position shape ih =>
    cases shape with
    | block statements =>
      refine .bind (list_no_block policy statements) fun contents blocks => .ok (blocks.trans ?_)
      constructor
      · rintro flat ⟨mem, sequence⟩
        exact flat _ mem sequence
      · intro notNested statement mem sequence
        exact notNested (.block mem sequence)
    | wrap wrapper inner =>
      cases inner with
      | none => exact .ok (iff_of_true (List.forall_mem_nil _) nofun)
      | some inner =>
        intro model found
        refine (ih inner rfl model found).trans (not_congr ⟨.wrap, ?_⟩)
        rintro ⟨⟩
        assumption
    | _ =>
      intro model found
      refine iff_of_true (contents_of_not_isBlock ?_) nofun
      exact value_not_isBlock policy position rfl (by simp [Shape.family]) model found

/-- What a body adds to a container holds no block exactly if the body is not nested. -/
theorem child_contents (body : Option Node) :
    (child policy body).Yields fun model =>
      (∀ x ∈ Model.contents model, x.isBlock = false) ↔ ∀ node ∈ body, ¬node.IsNested := by
  cases body with
  | none => exact .ok (iff_of_true (List.forall_mem_nil _) nofun)
  | some node =>
    intro model found
    refine (value_contents policy node model found).trans ?_
    simp only [Option.mem_def, Option.some.injEq, forall_eq']

/-- The top layer of what a node gives is flat exactly if the node declares no nested body. -/
theorem value_flat (node : Node) (notWrapper : node.shape.isWrapper = false) :
    (value policy node).Yields fun model => ∀ x ∈ model, (x.form.Flat ↔ node.DeclaresFlat) := by
  obtain ⟨position, shape⟩ := node
  change (shapeValue policy position shape).Yields _
  cases shape with
  | classDecl path superClass body =>
    exact .next fun _ => .next fun _ => .bind (child_contents policy body) fun _ flat => .some flat
  | moduleDecl path body =>
    exact .next fun _ => .bind (child_contents policy body) fun _ flat => .some flat
  | _ =>
    intro model found x mem
    have family := shapeValue_family policy position notWrapper model found x mem
    refine iff_of_true (Form.flat_of_family ?_) (Node.declaresFlat_of_family ?_)
    · rw [family]
      simp [Raw.Node.shape, Shape.family]
    · simp [Shape.family]

end Blocks

/-- The layers that are no node's value are flat. -/
theorem added_flat : Added Form.Flat :=
  .of_other fun other => Form.flat_of_family (by rw [other]; decide)

end Lowering

namespace ModelTree

open Raw (Node)

/-- **Declarations hold no block, unless their body is nested.**  The contents of a class or module
hold a block exactly if a sequence stands among the statements of its body; without such bodies no
declaration of a model, of a tree or of a program, holds a block; and a container without blocks
stays without them exactly if the body that is put into it fails or is not nested. -/
theorem declarations_flat (settings : Settings) (node : Node) :
    (node.shape.isWrapper = false → ∀ model,
      (Lowering.value settings.unknownNodes node).result = .ok (some model) →
      (model.form.Flat ↔ node.DeclaresFlat)) ∧
    (node.AllFlat → ∀ tree,
      ofNode settings node = .ok tree ∨ ofProgram settings node = .ok tree →
      ∀ root ∈ tree.root, ∀ part : Model, part.Within root → part.form.Flat) ∧
    ∀ (session last : Session) body container reply,
      session.step (.fill body container) = (reply, last) →
      (∀ x ∈ session.contents container, x.isBlock = false) →
      ((∀ x ∈ last.contents container, x.isBlock = false) ↔
        (∃ failure, reply = .failed failure) ∨ ∀ node ∈ body, ¬node.IsNested) := by
  refine ⟨?_, ?_, ?_⟩
  · intro notWrapper model found
    exact Lowering.value_flat _ node notWrapper _ found model rfl
  · intro allFlat tree accepted root found part within
    have tops (part : Node) (within : part.Within node) :
        Lowering.Tops settings.unknownNodes Form.Flat part := by
      intro notWrapper model result x mem
      exact (Lowering.value_flat _ part notWrapper model result x mem).2 (allFlat part within)
    exact (grown Lowering.added_flat tops accepted root found).within Lowering.added_flat within
  · intro session last body container reply step start
    rw [Session.step, Session.record] at step
    split at step
    case h_1 failure _ =>
      obtain ⟨rfl, rfl⟩ := Prod.mk.inj step
      exact iff_of_true start (.inl ⟨failure, rfl⟩)
    case h_2 model found =>
      obtain ⟨rfl, rfl⟩ := Prod.mk.inj step
      have added := Lowering.child_contents _ body model found
      simp only [Session.add, if_true, List.forall_mem_append, and_iff_right start, reduceCtorEq,
        exists_false, false_or]
      exact added

section Nested

open Raw.Build

/-- The class `A` with a sequence in a sequence as its body. -/
def nestedClass : Node := classDecl (constant "A") none (some (block [block [int 1]]))

/-- The class `A` whose body is a sequence behind a line. -/
def flatClass : Node := classDecl (constant "A") none (some (newline (block [int 1])))

/-- The class has statements of its own and no block below them. -/
theorem allFlat_flatClass : flatClass.AllFlat := by
  have flat : ¬(newline (block [int 1])).IsNested := by
    rintro (_ | @⟨_, _, _, ⟨mem, sequence⟩⟩)
    cases List.mem_singleton.1 mem
    cases sequence
  have path : (constant "A").AllFlat := Node.allFlat_of_children nofun trivial
  have statement : (int 1).AllFlat := Node.allFlat_of_children nofun trivial
  have statements : (block [int 1]).AllFlat :=
    Node.allFlat_of_children nofun (List.forall_mem_singleton.2 statement)
  have line : (newline (block [int 1])).AllFlat :=
    Node.allFlat_of_children nofun fun _ e => Option.some.inj e ▸ statements
  exact Node.allFlat_of_children (fun _ e => Option.some.inj e ▸ flat)
    ⟨path, nofun, fun _ e => Option.some.inj e ▸ line⟩

/-- The body of the one class is flattened; the block in the body of the other stays, in the class
and in a container. -/
theorem declarations_flat_classes :
    (∃ tree root, ofNode {} flatClass = .ok tree ∧ tree.root = some root ∧
      ∀ part : Model, part.Within root → part.form.Flat) ∧
    (∃ model, (Lowering.value .strict nestedClass).result = .ok (some model) ∧
      ¬model.form.Flat) ∧
    ∃ reply last, Session.step {} (.fill (some (block [block [int 1]])) .classDecl) =
      (reply, last) ∧ ¬∀ x ∈ last.contents .classDecl, x.isBlock = false := by
  have nested : (block [block [int 1]]).IsNested := .block List.mem_cons_self .block
  obtain ⟨-, tree, -⟩ := declarations_flat {} flatClass
  obtain ⟨top, -, fill⟩ := declarations_flat {} nestedClass
  refine ⟨⟨_, _, rfl, rfl, tree allFlat_flatClass _ (.inl rfl) _ rfl⟩,
    ⟨_, rfl, fun flat => ?_⟩, _, _, rfl, fun flat => ?_⟩
  · exact (top rfl _ rfl).1 flat _ rfl nested
  · obtain ⟨failure, failed⟩ | flat :=
      (fill {} _ (some (block [block [int 1]])) .classDecl _ rfl (List.forall_mem_nil _)).1 flat
    · cases failed
    · exact flat _ rfl nested

end Nested

end ModelTree
end RubyModel
