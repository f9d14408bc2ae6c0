/-
# Models grow layer by layer

Every layer of a model is the top of what some node of the tree gives in value position, apart from
a few layers that other positions add: rescue clauses, blocks that are passed, plain parameters,
splats around values, and the pairs of a hash.  So what the top layers have that the nodes of a tree
give, all layers of its model have, if the added layers have it (`Added`); the pairs of a hash are
told apart, since they are the one sort of model that no node gives.

`Grown V` is a model whose layers have `V` and whose pairs stand in hashes only.  What stems from
nodes (`Stems`) has grown if the layers that these nodes and all nodes below them give have `V`, by
induction over the rules (`grown_of_stems`).
-/

import RubyModel.Proofs.Origins
import RubyModel.Program

namespace RubyModel

open Record (Content slotChildren)

/-! ## Models that have grown -/

/-- A model whose layers have a property and whose pairs stand in hashes only. -/
inductive Grown (V : Form Model → Prop) : Model → Prop where
  | layer {form : Form Model} (outside : form.inHash = false) (here : V form)
      (children : ∀ child ∈ form.children, Grown V child) : Grown V ⟨form⟩
  | hash {pairs : List (Option Model × Option Model)} (here : V (.hash (pairs.map Model.pair)))
      (keys : ∀ pair ∈ pairs, ∀ key ∈ pair.1, Grown V key)
      (values : ∀ pair ∈ pairs, ∀ value ∈ pair.2, Grown V value) :
      Grown V ⟨.hash (pairs.map Model.pair)⟩

/-- The layers that are no node's value have the property. -/
structure Added (V : Form Model → Prop) : Prop where
  clause (exceptions : List Model) (body : Option Model) : V (.rescueClause exceptions body)
  passed (body : Option Model) : V (.blockReference body)
  param (name : String) : V (.param name none)
  splat {model : Model} : V model.form → V model.intoSplat.form
  pair (key value : Option Model) : V (.hashPair key value)

/-- A property of all layers of the last family is one of the layers that are no node's value. -/
theorem Added.of_other {V : Form Model → Prop}
    (other : ∀ {form : Form Model}, form.family = .other → V form) : Added V where
  clause _ _ := other rfl
  passed _ := other rfl
  param _ := other rfl
  splat := by
    rintro ⟨form⟩ -
    cases form <;> exact other rfl
  pair _ _ := other rfl

namespace Grown

variable {V : Form Model → Prop} {model : Model}

/-- The top layer of a model that has grown has the property. -/
theorem top (h : Grown V model) : V model.form := by
  cases h with
  | layer _ here _ => exact here
  | hash here _ _ => exact here

/-- The children of a layer that is no hash have grown. -/
theorem all {form : Form Model} (h : Grown V ⟨form⟩) (outside : form.inHash = false) :
    form.All (Grown V) := by
  cases h with
  | layer _ _ children => exact Form.all_iff.2 children
  | hash => cases outside

/-- A layer with the property over children that have grown. -/
theorem of_all {form : Form Model} (outside : form.inHash = false) (here : V form)
    (children : form.All (Grown V)) : Grown V ⟨form⟩ :=
  .layer outside here (Form.all_iff.1 children)

/-- A splat around a model that has grown has grown. -/
theorem intoSplat (added : Added V) (h : Grown V model) : Grown V model.intoSplat := by
  have here := added.splat h.top
  obtain ⟨form⟩ := model
  cases form with
  | splat => exact h
  | _ => exact .of_all rfl here fun _ e => Option.some.inj e ▸ h

/-- So has a splat that may be absent. -/
theorem splats (added : Added V) {model : Option Model} (h : ∀ x ∈ model, Grown V x) :
    ∀ x ∈ (model.map Model.intoSplat).toList, Grown V x := by
  intro x mem
  obtain ⟨inner, found, rfl⟩ := Option.map_eq_some_iff.1 (Option.mem_toList.1 mem)
  exact (h inner found).intoSplat added

/-- A plain parameter is an added layer without children. -/
theorem plainParam (added : Added V) (name : String) : Grown V (Lowering.plainParam name) :=
  .of_all rfl (added.param name) nofun

/-- What a model adds to a container has grown with it. -/
theorem contents {model : Option Model} (h : ∀ x ∈ model, Grown V x) :
    ∀ x ∈ Model.contents model, Grown V x := by
  cases model with
  | none => exact List.forall_mem_nil _
  | some model =>
    have grown := h model rfl
    obtain ⟨form⟩ := model
    cases form with
    | block => exact grown.all rfl
    | _ => exact List.forall_mem_singleton.2 grown

/-- The values that an assignment spreads have grown. -/
theorem assignedValues {model : Option Model} (h : ∀ x ∈ model, Grown V x) :
    ∀ x ∈ Lowering.assignedValues model, Grown V x := by
  cases model with
  | none => exact List.forall_mem_nil _
  | some model =>
    have grown := h model rfl
    obtain ⟨form⟩ := model
    cases form with
    | array => exact grown.all rfl
    | _ => exact List.forall_mem_singleton.2 grown

/-- The value that an assignment gives to its target has grown with it. -/
theorem assignedValue? {value : Option Model} (h : Grown V model)
    (e : model.assignedValue? = some value) : ∀ x ∈ value, Grown V x := by
  obtain ⟨form⟩ := model
  cases form with
  | assign | constantDecl =>
    cases e
    exact h.all rfl
  | elementAssign =>
    cases e
    exact (h.all rfl).2.2
  | attributeAssign =>
    cases e
    exact (h.all rfl).2
  | _ => cases e

/-- A part of a model that has grown: a model that has grown, or a pair of such models. -/
def Piece (V : Form Model → Prop) (part : Model) : Prop :=
  Grown V part ∨ ∃ parts, part = Model.pair parts ∧
    (∀ key ∈ parts.1, Grown V key) ∧ ∀ value ∈ parts.2, Grown V value

/-- The children of a part are parts. -/
theorem Piece.child (h : Piece V model) {inner : Model} (mem : inner ∈ model.form.children) :
    Piece V inner := by
  obtain grown | ⟨parts, rfl, key, value⟩ := h
  · cases grown with
    | layer _ _ children => exact .inl (children inner mem)
    | @hash pairs _ keys values =>
      have paired : (Form.hash (pairs.map Model.pair)).All (Piece V) :=
        List.forall_mem_map.2 fun parts mem => .inr ⟨parts, rfl, keys parts mem, values parts mem⟩
      exact Form.all_iff.1 paired inner mem
  · have below : (Form.hashPair parts.1 parts.2).All (Grown V) := ⟨key, value⟩
    exact .inl (Form.all_iff.1 below inner mem)

/-- The parts of a model that has grown are such models and pairs of them. -/
theorem piece (h : Grown V model) {part : Model} (within : part.Within model) : Piece V part := by
  -- The invariant is `Piece`, since the way down may lead through the pair of a hash.
  suffices ∀ model, part.Within model → Piece V model → Piece V part from this model within (.inl h)
  intro model within whole
  induction within with
  | whole => exact whole
  | child mem _ ih => exact ih (whole.child mem)

/-- All layers of a model that has grown have the property. -/
theorem within (added : Added V) (h : Grown V model) {part : Model} (within : part.Within model) :
    V part.form := by
  obtain grown | ⟨parts, rfl, -⟩ := h.piece within
  · exact grown.top
  · exact added.pair parts.1 parts.2

end Grown

namespace Lowering

open Raw (Node Shape Place askedIn)

/-! ## The run -/

/-- The top layers of what a node gives have a property, unless the node is a wrapper. -/
def Tops (policy : Policy) (V : Form Model → Prop) (node : Node) : Prop :=
  node.shape.isWrapper = false → (value policy node).Yields fun model => ∀ x ∈ model, V x.form

section Run

variable {policy : Policy} {V : Form Model → Prop}

/-- All nodes of the trees that are asked for have top layers with the property. -/
def AllTops (policy : Policy) (V : Form Model → Prop) (asked : List (Place × Node)) : Prop :=
  ∀ x ∈ asked, ∀ part : Node, part.Within x.2 → Tops policy V part

/-- What is asked for below a node are trees in its tree. -/
theorem AllTops.below {place : Place} {position : Position} {shape : Shape Node}
    (tops : AllTops policy V [(place, ⟨position, shape⟩)]) (way : Place) :
    AllTops policy V (askedIn (shape.sources way)) := by
  have inside := List.forall_mem_singleton.1 tops
  refine Shape.All.sources (P := fun x => ∀ part : Node, part.Within x → Tops policy V part)
    (Shape.all_iff.2 fun child mem => ?_) way
  refine ⟨fun part within => inside part (.child mem within), Shape.all_iff.2 ?_⟩
  exact fun grandchild mem' part within => inside part (.child mem (.child mem' within))

/-- **What the top layers have that the nodes of a tree give, all layers have.** -/
theorem grown_of_stems (added : Added V) {loose : Bool} {asked : List (Place × Node)}
    {models : List Model} (stems : Stems policy loose asked models)
    (tops : AllTops policy V asked) : ∀ x ∈ models, Grown V x := by
  induction stems with
  | nothing | leftOut => exact List.forall_mem_nil _
  | append _ _ ih ih' =>
    obtain ⟨before, after⟩ := List.forall_mem_append.1 tops
    exact List.forall_mem_append.2 ⟨ih before, ih' after⟩
  | loosen _ ih => exact ih tops
  | splat _ ih => exact Grown.splats added (forall_mem_toList.1 (ih tops))
  | settled _ _ ih => exact ih (List.forall_mem_singleton.2 (List.forall_mem_singleton.1 tops))
  | enter place _ _ ih => exact ih (tops.below _)
  | layer covers given _ ih =>
    have here := List.forall_mem_singleton.1 tops _ .whole covers.notWrapper _ given _ rfl
    exact List.forall_mem_singleton.2 (.layer covers.outside here (ih (tops.below _)))
  | @declared _ _ _ name covers given _ param =>
    have here := List.forall_mem_singleton.1 tops _ .whole covers.notWrapper _ given _ rfl
    have child : ∀ x ∈ some (plainParam name), Grown V x :=
      fun _ found => Option.some.inj found ▸ Grown.plainParam added name
    refine List.forall_mem_singleton.2 ?_
    obtain rfl | rfl := param <;> exact .of_all rfl here child
  | setter _ _ given _ _ ih ih' =>
    have here := List.forall_mem_singleton.1 tops _ .whole rfl _ given _ rfl
    obtain ⟨first, rest⟩ := List.forall_mem_append.1 (tops.below .value)
    have object := forall_mem_toList.1 (ih first)
    have arguments := ih' (List.forall_mem_append.1 rest).1
    exact List.forall_mem_singleton.2
      (.of_all rfl here ⟨object, fun x found => arguments x (List.mem_of_getElem? found)⟩)
  | assignment _ taken given _ _ ih ih' =>
    have here := List.forall_mem_singleton.1 tops _ .whole rfl _ given _ rfl
    obtain ⟨first, rest⟩ := List.forall_mem_append.1 (tops.below .value)
    have assigned := forall_mem_toList.1 (ih first)
    have model := List.forall_mem_singleton.1 (ih' (List.forall_mem_append.1 rest).1)
    exact List.forall_mem_singleton.2 (.of_all rfl here ⟨assigned, model.assignedValue? taken⟩)
  | hash _ given _ ih =>
    have here := List.forall_mem_singleton.1 tops _ .whole rfl _ given _ rfl
    have parts := forall_pairedModels.1 (ih (List.forall_mem_append.1 (tops.below .value)).1)
    exact List.forall_mem_singleton.2
      (.hash here (fun pair mem => (parts pair mem).1) fun pair mem => (parts pair mem).2)
  | @clause _ _ _ _ models _ model _ _ _ ih ih' ih'' =>
    obtain ⟨first, rest⟩ := List.forall_mem_append.1 (tops.below .clause)
    obtain ⟨second, third⟩ := List.forall_mem_append.1 rest
    have body := forall_mem_toList.1 (ih' second)
    have others := ih'' (List.forall_mem_append.1 third).1
    exact List.forall_mem_cons.2
      ⟨.of_all rfl (added.clause models model) ⟨ih first, body⟩, others⟩
  | @passed _ _ _ _ model _ _ ih ih' =>
    obtain ⟨first, rest⟩ := List.forall_mem_append.1 (tops.below .callArguments)
    have body := forall_mem_toList.1 (ih' (List.forall_mem_append.1 rest).1)
    have block := List.forall_mem_singleton.2 (Grown.of_all rfl (added.passed model) body)
    exact List.forall_mem_append.2 ⟨ih first, block⟩
  | contents _ ih => exact Grown.contents (forall_mem_toList.1 (ih tops))
  | assignedValues _ ih => exact Grown.assignedValues (forall_mem_toList.1 (ih tops))

end Run

end Lowering

/-- The model of a tree has grown, if the top layers have the property that the nodes of the tree
give. -/
theorem ModelTree.grown {V : Form Model → Prop} (added : Added V) {settings : Settings}
    {node : Raw.Node}
    (tops : ∀ part : Raw.Node, part.Within node → Lowering.Tops settings.unknownNodes V part)
    {tree : ModelTree}
    (accepted : ofNode settings node = .ok tree ∨ ofProgram settings node = .ok tree) :
    ∀ root ∈ tree.root, Grown V root := by
  obtain accepted | accepted := accepted
  · have stems := (Lowering.stemming settings.unknownNodes (some node)).asValue tree.root
      (ofOutcome_eq_ok.1 accepted).1
    have grown := Lowering.grown_of_stems added stems (List.forall_mem_singleton.2 tops)
    exact Lowering.forall_mem_toList.1 grown
  · obtain ⟨position, shape⟩ := node
    cases shape with
    | root body =>
      have stems := (Lowering.stemming settings.unknownNodes body).asValue tree.root
        (ofOutcome_eq_ok.1 accepted).1
      have inside : Lowering.AllTops settings.unknownNodes V
          [(Raw.Place.program, ⟨position, .root body⟩)] := List.forall_mem_singleton.2 tops
      have grown := Lowering.grown_of_stems added stems
        (List.forall_mem_append.1 (inside.below .program)).1
      exact Lowering.forall_mem_toList.1 grown
    | _ => cases accepted

end RubyModel
