/-
# Splats around splats

A splat is made in five places:

| made from | what is in it |
| --- | --- |
| splat | its value |
| bare star, rest parameter | nothing, or a parameter |
| value that is spread, rest target | the value, unless it is a splat already |

So a splat stands right inside another one only where the tree has it so: where a splat, a star or
a rest parameter is the value of a splat, behind any number of wrappers (`value_splatsOnce`).  A
tree without such places has a model without splats around splats, and so have its arguments.
-/

import RubyModel.Proofs.Growth
import RubyModel.Raw.Build

namespace RubyModel

namespace Raw

namespace Shape

variable {α : Type}

/-- The shape gives a splat. -/
def isSplat : Shape α → Bool
  | .splat _ | .star | .restParam _ => true
  | _ => false

/-- The value of a splat. -/
def splatted : Shape α → Option α
  | .splat value => value
  | _ => none

/-- No other shapes give a splat. -/
theorem isSplat_of_modelKind? {shape : Shape α} (h : shape.modelKind? = some .splat) :
    shape.isSplat = true := by
  cases shape with
  | splat | star | restParam => rfl
  | leaf leaf =>
    cases leaf with
    | localVar scope => cases scope <;> cases h
    | _ => cases h
  | attributeAssign _ name =>
    rw [modelKind?] at h
    split at h <;> cases h
  | text word | dynamicText word | var word | localAssign word | varAssign word
  | logicalAssign word | loop word | jump word | logical word | elements word =>
    cases word <;> cases h
  | _ => cases h

end Shape

namespace Node

/-- The node is a splat, a star or a rest parameter, behind any number of wrappers. -/
inductive IsSplat : Node → Prop where
  | here {position : Position} {shape : Shape Node} (h : shape.isSplat = true) :
      IsSplat ⟨position, shape⟩
  | wrap {position : Position} {wrapper : Wrapper} {inner : Node} (h : IsSplat inner) :
      IsSplat ⟨position, .wrap wrapper (some inner)⟩

/-- A wrapper around a splat is one. -/
theorem isSplat_wrap {position : Position} {wrapper : Wrapper} {inner : Node} :
    IsSplat ⟨position, .wrap wrapper (some inner)⟩ ↔ inner.IsSplat := by
  refine ⟨?_, .wrap⟩
  rintro (h | h)
  · cases h
  · exact h

/-- A node that is no wrapper is a splat by its kind alone. -/
theorem isSplat_iff {position : Position} {shape : Shape Node}
    (notWrapper : shape.isWrapper = false) : IsSplat ⟨position, shape⟩ ↔ shape.isSplat = true := by
  refine ⟨?_, .here⟩
  rintro (h | h)
  · exact h
  · cases notWrapper

/-- The node is no splat of a splat. -/
def SplatsOnce (node : Node) : Prop := ∀ value ∈ node.shape.splatted, ¬value.IsSplat

/-- A node that spreads nothing is no splat of a splat. -/
theorem splatsOnce_of_splatted {node : Node} (h : node.shape.splatted = none) :
    node.SplatsOnce := by
  intro value mem
  rw [h] at mem
  cases mem

/-- No node of the tree is a splat of a splat. -/
def AllSplatOnce (node : Node) : Prop := ∀ part : Node, part.Within node → part.SplatsOnce

/-- A tree has no splat of a splat if its root is none and no tree below has one. -/
theorem allSplatOnce_of_children {position : Position} {shape : Shape Node}
    (here : SplatsOnce ⟨position, shape⟩) (below : shape.All AllSplatOnce) :
    AllSplatOnce ⟨position, shape⟩ := by
  intro part within
  cases within with
  | whole => exact here
  | child mem within => exact Shape.all_iff.1 below _ mem part within

end Node

end Raw

/-- The model is a splat. -/
def Model.isSplat : Model → Bool
  | ⟨.splat _⟩ => true
  | _ => false

/-- The layer is no splat of a splat. -/
def Form.SplatsOnce : Form Model → Prop
  | .splat value => ∀ x ∈ value, x.isSplat = false
  | _ => True

/-- A splat is of its own kind. -/
theorem Model.kind_of_isSplat {model : Model} (h : model.isSplat = true) :
    model.form.kind = .splat := by
  obtain ⟨form⟩ := model
  cases form with
  | splat => rfl
  | _ => cases h

/-- A layer that is no splat is no splat of a splat. -/
theorem Form.splatsOnce_of_not_isSplat {model : Model} (h : model.isSplat = false) :
    model.form.SplatsOnce := by
  obtain ⟨form⟩ := model
  cases form with
  | splat => cases h
  | _ => trivial

/-- The layers that are no node's value are no splats of splats: a splat is not wrapped again. -/
theorem added_splatsOnce : Added Form.SplatsOnce where
  clause _ _ := trivial
  passed _ := trivial
  param _ := trivial
  splat := by
    rintro ⟨form⟩ h
    cases form with
    | splat => exact h
    | _ => exact fun _ e => Option.some.inj e ▸ rfl
  pair _ _ := trivial

namespace Lowering

open Raw (Node Shape)

variable (policy : Policy)

/-- What is no wrapper and no splat gives no splat. -/
theorem value_not_isSplat (position : Position) {shape : Shape Node}
    (notWrapper : shape.isWrapper = false) (notSplat : shape.isSplat = false) :
    (shapeValue policy position shape).Yields fun model => ∀ x ∈ model, x.isSplat = false := by
  intro model found x mem
  have kind := shapeValue_kind policy position notWrapper model found x mem
  refine Bool.eq_false_iff.2 fun isSplat => ?_
  rw [Model.kind_of_isSplat isSplat] at kind
  exact Bool.eq_false_iff.1 notSplat (Shape.isSplat_of_modelKind? kind.symm)

/-- What is a splat gives one. -/
theorem value_of_isSplat (position : Position) {shape : Shape Node} (h : shape.isSplat = true) :
    (shapeValue policy position shape).Yields fun model => ∃ x ∈ model, x.isSplat = true := by
  cases shape with
  | splat => exact .next fun _ => .ok ⟨_, rfl, rfl⟩
  | star => exact .ok ⟨_, rfl, rfl⟩
  | restParam name =>
    refine .ok ⟨_, rfl, ?_⟩
    cases name with
    | none => rfl
    | some name => rw [restParam]; split <;> rfl
  | _ => cases h

/-- **A node gives a splat exactly if it is one**, behind wrappers. -/
theorem value_isSplat (node : Node) :
    (value policy node).Yields fun model => (∃ x ∈ model, x.isSplat = true) ↔ node.IsSplat := by
  induction node using Node.induction with
  | step position shape ih =>
    intro model found
    cases wrapper : shape.isWrapper with
    | true =>
      cases shape with
      | wrap _ inner =>
        cases inner with
        | none =>
          cases found
          exact iff_of_false nofun nofun
        | some inner => exact (ih inner rfl model found).trans Node.isSplat_wrap.symm
      | _ => cases wrapper
    | false =>
      rw [Node.isSplat_iff wrapper]
      cases isSplat : shape.isSplat with
      | true => exact iff_of_true (value_of_isSplat policy position isSplat model found) rfl
      | false =>
        refine iff_of_false ?_ Bool.false_ne_true
        rintro ⟨x, mem, h⟩
        rw [value_not_isSplat policy position wrapper isSplat model found x mem] at h
        cases h

/-- A child gives a splat exactly if it is one. -/
theorem child_isSplat (place : Option Node) :
    (child policy place).Yields fun model =>
      (∃ x ∈ model, x.isSplat = true) ↔ ∃ node ∈ place, node.IsSplat := by
  cases place with
  | none => exact .ok (iff_of_false nofun nofun)
  | some node =>
    intro model found
    refine (value_isSplat policy node model found).trans ?_
    simp only [Option.mem_def, Option.some.injEq, exists_eq_left']

/-- A rest parameter is a splat of a parameter, or of nothing. -/
theorem restParam_splatsOnce (name : Option String) : (restParam name).form.SplatsOnce := by
  cases name with
  | none =>
    intro _ mem
    cases mem
  | some name =>
    rw [restParam]
    split
    · intro _ mem
      cases mem
    · intro _ mem
      cases mem
      rfl

/-- The top layer of what a node gives is a splat of a splat exactly if the node is one. -/
theorem value_splatsOnce (node : Node) (notWrapper : node.shape.isWrapper = false) :
    (value policy node).Yields fun model =>
      ∀ x ∈ model, (x.form.SplatsOnce ↔ node.SplatsOnce) := by
  obtain ⟨position, shape⟩ := node
  change (shapeValue policy position shape).Yields _
  cases shape with
  | splat inner =>
    refine .bind (child_isSplat policy inner) fun model splats => .some ?_
    have noSplats := not_congr splats
    simp only [not_exists, not_and, Bool.not_eq_true] at noSplats
    exact noSplats
  | star => exact .some (iff_of_true (restParam_splatsOnce none) (Node.splatsOnce_of_splatted rfl))
  | restParam name =>
    exact .some (iff_of_true (restParam_splatsOnce name) (Node.splatsOnce_of_splatted rfl))
  | _ =>
    intro model found x mem
    have noSplat := value_not_isSplat policy position notWrapper rfl model found x mem
    exact iff_of_true (Form.splatsOnce_of_not_isSplat noSplat)
      (Node.splatsOnce_of_splatted rfl)

end Lowering

namespace ModelTree

open Raw (Node)

/-- **No splat is put around a splat.**  The model of a node is a splat of a splat exactly if the
node is one, behind wrappers.  If no node of a tree is, then under either policy no splat in its
model, as a tree or as a program, and none in the list of its arguments has a splat as its value. -/
theorem splats_once (settings : Settings) (node : Node) :
    (node.shape.isWrapper = false → ∀ model,
      (Lowering.value settings.unknownNodes node).result = .ok (some model) →
      (model.form.SplatsOnce ↔ node.SplatsOnce)) ∧
    (node.AllSplatOnce →
      (∀ tree, ofNode settings node = .ok tree ∨ ofProgram settings node = .ok tree →
        ∀ root ∈ tree.root, ∀ part : Model, part.Within root → part.form.SplatsOnce) ∧
      ∀ models, (Lowering.args settings.unknownNodes node).result = .ok models →
        ∀ model ∈ models, ∀ part : Model, part.Within model → part.form.SplatsOnce) := by
  refine ⟨fun notWrapper model found => ?_, fun once => ?_⟩
  · exact Lowering.value_splatsOnce _ node notWrapper _ found model rfl
  · have tops (part : Node) (within : part.Within node) :
        Lowering.Tops settings.unknownNodes Form.SplatsOnce part := by
      intro notWrapper model result x mem
      exact (Lowering.value_splatsOnce _ part notWrapper model result x mem).2 (once part within)
    refine ⟨fun tree accepted root found part within => ?_,
      fun models given model mem part within => ?_⟩
    · exact (grown added_splatsOnce tops accepted root found).within added_splatsOnce within
    · have stems := (Lowering.stemming settings.unknownNodes (some node)).asArgs models given
      have grown := Lowering.grown_of_stems added_splatsOnce stems
        (List.forall_mem_singleton.2 tops)
      exact (grown model mem).within added_splatsOnce within

section Spread

open Raw.Build

/-- The arguments `1, *a`, where a splat on a line of its own is spread. -/
def spreadSplat : Node := cat (array [int 1]) (newline (splat (localVar "a")))

/-- The splat of a splat `**a`, the inner one on a line of its own. -/
def doubleSplat : Node := splat (newline (splat (localVar "a")))

/-- The program spreads each value once. -/
theorem allSplatOnce_spreadSplat : spreadSplat.AllSplatOnce := by
  have var : (localVar "a").AllSplatOnce := Node.allSplatOnce_of_children nofun trivial
  have notSplat : ¬(localVar "a").IsSplat := by
    rintro ⟨h⟩
    cases h
  have inner : (splat (localVar "a")).AllSplatOnce :=
    Node.allSplatOnce_of_children (fun _ e => Option.some.inj e ▸ notSplat)
      fun _ e => Option.some.inj e ▸ var
  have line : (newline (splat (localVar "a"))).AllSplatOnce :=
    Node.allSplatOnce_of_children nofun fun _ e => Option.some.inj e ▸ inner
  have one : (int 1).AllSplatOnce := Node.allSplatOnce_of_children nofun trivial
  have first : (array [int 1]).AllSplatOnce :=
    Node.allSplatOnce_of_children nofun (List.forall_mem_singleton.2 one)
  exact Node.allSplatOnce_of_children nofun ⟨first, line⟩

/-- The splat that is spread is not wrapped again, as a value and as arguments; the splat of a splat
stays one. -/
theorem splats_once_spreadSplat :
    (∃ tree root, ofNode {} spreadSplat = .ok tree ∧ tree.root = some root ∧
      ∀ part : Model, part.Within root → part.form.SplatsOnce) ∧
    (∃ first second, (Lowering.args .permissive spreadSplat).result = .ok [first, second] ∧
      second.isSplat = true ∧ ∀ part : Model, part.Within second → part.form.SplatsOnce) ∧
    ∃ model, (Lowering.value .strict doubleSplat).result = .ok (some model) ∧
      ¬model.form.SplatsOnce := by
  obtain ⟨-, strict⟩ := splats_once {} spreadSplat
  obtain ⟨-, permissive⟩ := splats_once { unknownNodes := .permissive } spreadSplat
  obtain ⟨top, -⟩ := splats_once {} doubleSplat
  refine ⟨⟨_, _, rfl, rfl, (strict allSplatOnce_spreadSplat).1 _ (.inl rfl) _ rfl⟩,
    ⟨_, _, rfl, rfl, ?_⟩, _, rfl, fun once => ?_⟩
  · refine (permissive allSplatOnce_spreadSplat).2 _ rfl _ ?_
    exact List.mem_cons_of_mem _ List.mem_cons_self
  · exact (top rfl _ rfl).1 once _ rfl (.wrap (.here rfl))

end Spread

end ModelTree
end RubyModel
