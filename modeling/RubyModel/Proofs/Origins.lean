/-
# Where models come from

Every model of a run stems from nodes of its tree, each asked for in one of a few ways
(`Place`).  `Stems` is this relation between nodes that are asked for and models, one rule
for each way in which a run makes models:

| rule | models |
| --- | --- |
| `layer` | one layer over what the children of a node give |
| `declared`, `setter`, `assignment` | a layer that adds a parameter, or leaves something out |
| `hash` | a layer over pairs |
| `enter` | what the children of a node give |
| `clause` | a rescue clause, and the clauses after it |
| `passed` | the arguments of a call and the block that is passed with them |
| `splat` | a splat around a value |
| `contents`, `assignedValues` | a block or an array taken apart |

What a node gives stems from it in each position in which it is read (`stemming`).  That is the
one place where the kinds of nodes are gone through: what all models of a run have is then shown by
induction over the rules.
-/

import RubyModel.Model.Entry
import RubyModel.Proofs.Positions
import RubyModel.Proofs.Families
import RubyModel.Proofs.Records
import RubyModel.Proofs.Terminals
import RubyModel.Proofs.Visits

namespace RubyModel

open Record (Content slotChildren)

/-! ## Parts of models -/

namespace Form

variable {α : Type} {P : α → Prop}

/-- The children of a layer, in the order of the fields of its record. -/
def children (form : Form α) : List α :=
  slotChildren (ModelEntry.ofForm form).kind.fields (ModelEntry.ofForm form).slots

/-- The children of a layer have a property. -/
def All (P : α → Prop) : Form α → Prop
  | .leaf _ | .var .. | .topConstant _ => True
  | .text _ _ _ items | .yield items | .block items | .hash items | .array items => ∀ x ∈ items, P x
  | .assign _ _ a | .constantDecl _ a | .undef a | .jump _ a | .isDefined a | .unary a _
  | .callToSuper a | .constant _ a | .splat a | .param _ a | .blockReference a => ∀ x ∈ a, P x
  | .attributeAssign a _ b | .logicalAssign _ a b | .operatorAssign a _ _ b | .loop _ a b
  | .whenClause a b | .rescueStatement a b | .aliasName a b | .logical _ a b | .range a b _
  | .regexMatch a b | .hashPair a b => (∀ x ∈ a, P x) ∧ ∀ x ∈ b, P x
  | .elementAssign a b c | .elementUpdate a b c _ | .ifElse a b c =>
    (∀ x ∈ a, P x) ∧ (∀ x ∈ b, P x) ∧ ∀ x ∈ c, P x
  | .multipleAssign targets values => (∀ x ∈ targets, P x) ∧ ∀ x ∈ values, P x
  | .caseOf a items b => (∀ x ∈ a, P x) ∧ (∀ x ∈ items, P x) ∧ ∀ x ∈ b, P x
  | .beginEnd a items b c =>
    (∀ x ∈ a, P x) ∧ (∀ x ∈ items, P x) ∧ (∀ x ∈ b, P x) ∧ ∀ x ∈ c, P x
  | .rescueClause items a | .superCall items a | .codeBlock items a =>
    (∀ x ∈ items, P x) ∧ ∀ x ∈ a, P x
  | .call _ a items b _ => (∀ x ∈ a, P x) ∧ (∀ x ∈ items, P x) ∧ ∀ x ∈ b, P x
  | .define _ a _ items b clauses c d =>
    (∀ x ∈ a, P x) ∧ (∀ x ∈ items, P x) ∧ (∀ x ∈ b, P x) ∧ (∀ x ∈ clauses, P x) ∧
      (∀ x ∈ c, P x) ∧ ∀ x ∈ d, P x
  | .classDecl a b items => (∀ x ∈ a, P x) ∧ (∀ x ∈ b, P x) ∧ ∀ x ∈ items, P x
  | .moduleDecl a items => (∀ x ∈ a, P x) ∧ ∀ x ∈ items, P x

/-- The children of a layer, field by field. -/
theorem all_iff {form : Form α} : form.All P ↔ ∀ x ∈ form.children, P x := by
  cases form with
  | leaf leaf =>
    cases leaf with
    | localVar scope => cases scope <;> exact iff_of_true trivial (List.forall_mem_nil _)
    | _ => exact iff_of_true trivial (List.forall_mem_nil _)
  | var scope => cases scope <;> exact iff_of_true trivial (List.forall_mem_nil _)
  | assign target =>
    rcases target with word | word <;> cases word <;>
      simp [All, children, ModelEntry.ofForm, slotChildren, Content.children]
  | text word | logicalAssign word | loop word | jump word | logical word =>
    cases word <;>
      simp [All, children, ModelEntry.ofForm, slotChildren, Content.children, or_imp, forall_and]
  | _ =>
    simp [All, children, ModelEntry.ofForm, slotChildren, Content.children, or_imp, forall_and]

/-- The layer belongs to a hash: it is one, or a pair of one. -/
def inHash : Form α → Bool
  | .hash _ | .hashPair .. => true
  | _ => false

end Form

namespace Model

/-- The model is a part of another one. -/
inductive Within (part : Model) : Model → Prop where
  | whole : Within part part
  | child {model inner : Model} (mem : inner ∈ model.form.children) (within : Within part inner) :
      Within part model

/-- A key and a value as a pair of a hash. -/
def pair (parts : Option Model × Option Model) : Model := ⟨.hashPair parts.1 parts.2⟩

end Model

/-! ## What is asked for below a node -/

namespace Raw

/-- The arguments of a call without a block that is passed with them. -/
def besideBlock : Option Node → Option Node
  | some ⟨_, .blockPass _ args⟩ => args
  | place => place

/-- The slots of the arguments and the block of a call: the block takes the place of one that is
passed. -/
def callSlots (args : Option Node) : Option Node → List (Slot Node)
  | none => [⟨.callArguments, args.toList⟩, ⟨.value, []⟩]
  | some own => [⟨.arguments, (besideBlock args).toList⟩, ⟨.value, [own]⟩]

/-- The slots from which the results of a node come that is read in the given way, in the order in
which the results stand in the model: a passed block stands after the arguments, and the `ensure`
part after the body. -/
def Shape.sources : Shape Node → Place → List (Slot Node)
  | .call receiver _ args own, _ => ⟨.value, receiver.toList⟩ :: callSlots args own
  | .functionCall _ args own, _ | .superCall args own, _ => callSlots args own
  | .blockPass body args, .callArguments => [⟨.arguments, args.toList⟩, ⟨.value, body.toList⟩]
  | .ensure body ensureBody, _ => [⟨.body, body.toList⟩, ⟨.value, ensureBody.toList⟩]
  | shape, way => shape.visited way

section Asked

variable {P : Node → Prop}

/-- What all nodes in the slots have, all that is asked for has. -/
theorem forall_askedIn {slots : List (Slot Node)} :
    (∀ asked ∈ askedIn slots, P asked.2) ↔ ∀ slot ∈ slots, ∀ node ∈ slot.nodes, P node := by
  induction slots with
  | nil => exact iff_of_true (List.forall_mem_nil _) (List.forall_mem_nil _)
  | cons slot slots ih => rw [forall_askedIn_cons, ih, List.forall_mem_cons]

/-- The arguments beside a block stand in the node that passes it. -/
theorem forall_besideBlock {args : Option Node} (h : ∀ x ∈ args, P x ∧ x.shape.All P) :
    ∀ x ∈ besideBlock args, P x := by
  unfold besideBlock
  split
  · exact (h _ rfl).2.2
  · exact fun x mem => (h x mem).1

/-- The arguments of a call and its block. -/
theorem forall_callSlots {args own : Option Node} (hargs : ∀ x ∈ args, P x ∧ x.shape.All P)
    (hown : ∀ x ∈ own, P x) : ∀ asked ∈ askedIn (callSlots args own), P asked.2 := by
  cases own with
  | none =>
    simp only [callSlots, forall_askedIn_cons, Option.mem_toList]
    exact ⟨fun x mem => (hargs x mem).1, List.forall_mem_nil _, List.forall_mem_nil _⟩
  | some node =>
    simp only [callSlots, forall_askedIn_cons, Option.mem_toList, List.forall_mem_singleton]
    exact ⟨forall_besideBlock hargs, hown node rfl, List.forall_mem_nil _⟩

/-- What the children of a shape and their children have, all have that is asked for below it. -/
theorem Shape.All.sources {shape : Shape Node} (near : shape.All fun x => P x ∧ x.shape.All P)
    (way : Place) : ∀ asked ∈ askedIn (shape.sources way), P asked.2 := by
  have all : shape.All P := near.imp fun _ both => both.1
  have visited := forall_askedIn.2 (all.visited way)
  cases shape with
  | call =>
    simp only [Shape.sources, forall_askedIn_cons, Option.mem_toList]
    exact ⟨all.1, forall_callSlots near.2.1 all.2.2⟩
  | functionCall | superCall => exact forall_callSlots near.1 all.2
  | blockPass =>
    cases way with
    | callArguments =>
      simp only [Shape.sources, forall_askedIn_cons, Option.mem_toList]
      exact ⟨all.2, all.1, List.forall_mem_nil _⟩
    | _ => exact visited
  | ensure =>
    simp only [Shape.sources, forall_askedIn_cons, Option.mem_toList]
    exact ⟨all.1, all.2, List.forall_mem_nil _⟩
  | _ => exact visited

end Asked

/-- A node in this place gives what its children give, without a layer of its own. -/
def Place.opens {α : Type} : Place → Shape α → Bool
  | .value, .implicitNil | .value, .wrap .. | .arguments, .elements .. | .arguments, .params ..
  | .arguments, .concat .. | .part, .elements .. | .body, .rescue .. | .body, .ensure ..
  | .handler, .rescueBody .. | .pairs, .elements .. | .default, .localAssign .. => true
  | _, _ => false

end Raw

namespace Lowering

open Raw (Node Shape Place Slot besideBlock callSlots askedIn)

/-! ## The relation -/

/-- The layer of a model over the children of a node: no part of a hash, with the literal of the
node, and from no wrapper. -/
structure Covers (shape : Shape Node) (form : Form Model) : Prop where
  outside : form.inHash = false
  own : form.own = shape.own
  notWrapper : shape.isWrapper = false

theorem forall_mem_toList {α : Type} {P : α → Prop} {place : Option α} :
    (∀ x ∈ place.toList, P x) ↔ ∀ x ∈ place, P x := by
  simp only [Option.mem_toList, Option.mem_def]

/-- The models that pairs of a hash are made of. -/
def pairedModels (pairs : List (Option Model × Option Model)) : List Model :=
  pairs.flatMap fun pair => pair.1.toList ++ pair.2.toList

/-- The keys and values of all pairs. -/
theorem forall_pairedModels {pairs : List (Option Model × Option Model)} {P : Model → Prop} :
    (∀ x ∈ pairedModels pairs, P x) ↔
      ∀ pair ∈ pairs, (∀ key ∈ pair.1, P key) ∧ ∀ value ∈ pair.2, P value := by
  simp only [pairedModels, List.forall_mem_flatMap, List.forall_mem_append, Option.mem_toList,
    Option.mem_def]

/-- The models stem from nodes that are asked for; if `loose`, there may be a splat more around
each of them. -/
inductive Stems (policy : Policy) : Bool → List (Place × Node) → List Model → Prop where
  | nothing : Stems policy false [] []
  | append {loose : Bool} {asked more : List (Place × Node)} {models others : List Model}
      (first : Stems policy loose asked models) (rest : Stems policy loose more others) :
      Stems policy loose (asked ++ more) (models ++ others)
  | loosen {asked : List (Place × Node)} {models : List Model}
      (stems : Stems policy false asked models) : Stems policy true asked models
  | splat {asked : List (Place × Node)} {model : Option Model}
      (stems : Stems policy false asked model.toList) :
      Stems policy true asked (model.map Model.intoSplat).toList
  /-- Two ways of asking for a node may be answered alike. -/
  | settled {loose : Bool} {place other : Place} {position : Position} {shape : Shape Node}
      {models : List Model} (stems : Stems policy loose [(other, ⟨position, shape⟩)] models)
      (same : place.settle shape = other.settle shape) :
      Stems policy loose [(place, ⟨position, shape⟩)] models
  /-- A node without a counterpart is left out. -/
  | leftOut (permissive : policy = .permissive) (place : Place) (position : Position)
      (shape : Raw.Unsupported Node) :
      Stems policy false [(place, ⟨position, .unsupported shape⟩)] []
  | enter {loose : Bool} (place : Place) {position : Position} {shape : Shape Node}
      {models : List Model} (opens : place.opens shape = true)
      (stems : Stems policy loose (askedIn (shape.sources (place.settle shape))) models) :
      Stems policy false [(place, ⟨position, shape⟩)] models
  | layer {loose : Bool} {position : Position} {shape : Shape Node} {form : Form Model}
      (covers : Covers shape form)
      (given : (value policy ⟨position, shape⟩).result = .ok (some ⟨form⟩))
      (stems : Stems policy loose (askedIn (shape.sources .value)) form.children) :
      Stems policy false [(.value, ⟨position, shape⟩)] [⟨form⟩]
  /-- A parameter is declared with its name alone. -/
  | declared {position : Position} {shape : Shape Node} {form : Form Model} {name : String}
      (covers : Covers shape form)
      (given : (value policy ⟨position, shape⟩).result = .ok (some ⟨form⟩))
      (bare : shape.sources .value = [])
      (param : form = .splat (some (plainParam name)) ∨
        form = .blockReference (some (plainParam name))) :
      Stems policy false [(.value, ⟨position, shape⟩)] [⟨form⟩]
  /-- Of the arguments of a setter, only the first is assigned. -/
  | setter {position : Position} {receiver args : Option Node} {name : String}
      {object : Option Model} {models : List Model} (plain : name ≠ elementSetter)
      (found : (optionalArgs policy args).result = .ok models)
      (given : (value policy ⟨position, .attributeAssign receiver name args⟩).result =
        .ok (some ⟨.attributeAssign object (attributeName name) models[0]?⟩))
      (first : Stems policy false (Place.value.asks receiver.toList) object.toList)
      (rest : Stems policy false (Place.arguments.asks args.toList) models) :
      Stems policy false [(.value, ⟨position, .attributeAssign receiver name args⟩)]
        [⟨.attributeAssign object (attributeName name) models[0]?⟩]
  /-- Of the right operand of a logical assignment, only the value is assigned. -/
  | assignment {position : Position} {operator : Logical} {left right : Node}
      {assigned value : Option Model} {model : Model}
      (found : (Lowering.value policy right).result = .ok (some model))
      (taken : model.assignedValue? = some value)
      (given : (Lowering.value policy ⟨position, .logicalAssign operator left right⟩).result =
        .ok (some ⟨.logicalAssign operator assigned value⟩))
      (first : Stems policy false [(.value, left)] assigned.toList)
      (second : Stems policy false [(.value, right)] [model]) :
      Stems policy false [(.value, ⟨position, .logicalAssign operator left right⟩)]
        [⟨.logicalAssign operator assigned value⟩]
  | hash {position : Position} {elements : Option Node}
      {pairs : List (Option Model × Option Model)} (empty : elements = none → pairs = [])
      (given : (value policy ⟨position, .hash elements⟩).result =
        .ok (some ⟨.hash (pairs.map Model.pair)⟩))
      (stems : Stems policy false (Place.pairs.asks elements.toList) (pairedModels pairs)) :
      Stems policy false [(.value, ⟨position, .hash elements⟩)] [⟨.hash (pairs.map Model.pair)⟩]
  | clause {position : Position} {exceptions body next : Option Node} {models others : List Model}
      {model : Option Model}
      (first : Stems policy false (Place.arguments.asks exceptions.toList) models)
      (second : Stems policy false (Place.value.asks body.toList) model.toList)
      (rest : Stems policy false (Place.clause.asks next.toList) others) :
      Stems policy false [(.clause, ⟨position, .rescueBody exceptions body next⟩)]
        (⟨.rescueClause models model⟩ :: others)
  | passed {position : Position} {body args : Option Node} {models : List Model}
      {model : Option Model}
      (first : Stems policy false (Place.arguments.asks args.toList) models)
      (rest : Stems policy false (Place.value.asks body.toList) model.toList) :
      Stems policy false [(.callArguments, ⟨position, .blockPass body args⟩)]
        (models ++ [⟨.blockReference model⟩])
  | contents {asked : List (Place × Node)} {model : Option Model}
      (stems : Stems policy false asked model.toList) :
      Stems policy false asked (Model.contents model)
  | assignedValues {asked : List (Place × Node)} {model : Option Model}
      (stems : Stems policy false asked model.toList) :
      Stems policy false asked (assignedValues model)

/-- The parts of a protected body, in the order in which a layer holds them. -/
def Protected.models (body : Protected) : List Model :=
  body.body.toList ++ (body.clauses ++ (body.elseBody.toList ++ (body.ensureBody.toList ++ [])))

/-- **What a node gives stems from it,** in each position in which a place that may be absent is
read. -/
structure Stemming (policy : Policy) (place : Option Node) : Prop where
  asValue : (child policy place).Yields fun model =>
    Stems policy false (Place.value.asks place.toList) model.toList
  asArgs : (optionalArgs policy place).Yields fun models =>
    Stems policy false (Place.arguments.asks place.toList) models
  asGroup : ∀ node ∈ place, (group policy node).Yields fun models =>
    Stems policy false [(.part, node)] models
  asSpread : ∀ node ∈ place, (spread policy node).Yields fun models =>
    Stems policy true [(.part, node)] models
  /-- A block of the call takes the place of the one that is passed. -/
  asCallArgs : (callArgs policy place).Yields fun found =>
    Stems policy false (Place.callArguments.asks place.toList) (found.1 ++ found.2.toList) ∧
      Stems policy false (Place.arguments.asks (besideBlock place).toList) found.1
  asBody : (protectedBody policy place).Yields fun body =>
    Stems policy false (Place.body.asks place.toList) body.models
  asRescued : (rescuedChild policy place).Yields fun body =>
    body.ensureBody = none ∧ Stems policy false (Place.body.asks place.toList) body.models
  asClauses : (nextClauses policy place).Yields fun clauses =>
    Stems policy false (Place.clause.asks place.toList) clauses

namespace Stems

variable {policy : Policy} {loose : Bool} {asked : List (Place × Node)} {models : List Model}

/-- The last of several places. -/
theorem last (stems : Stems policy loose asked models) : Stems policy loose (asked ++ []) models :=
  (List.append_nil asked).symm ▸ stems

/-- The last of several places, and the last children of a layer. -/
theorem lasts (stems : Stems policy loose asked models) :
    Stems policy loose (asked ++ []) (models ++ []) :=
  (List.append_nil models).symm ▸ stems.last

/-- The `ensure` part comes after the other parts of a body. -/
theorem ensured {place ensurePlace : Option Node} {body : Protected} {ensureBody : Option Model}
    (alone : body.ensureBody = none)
    (stems : Stems policy false (Place.body.asks place.toList) body.models)
    (ensured : Stems policy false (Place.value.asks ensurePlace.toList) ensureBody.toList) :
    Stems policy false (askedIn [⟨.body, place.toList⟩, ⟨.value, ensurePlace.toList⟩])
      { body with ensureBody }.models := by
  have models : { body with ensureBody }.models = body.models ++ ensureBody.toList := by
    simp [Protected.models, alone]
  exact models ▸ .append stems (.last ensured)

end Stems

/-! ## Children that may be absent, and lists -/

section Children

variable {policy : Policy}

/-- Nothing stems from an absent node. -/
theorem Stemming.none : Stemming policy none where
  asValue := .ok .nothing
  asArgs := .ok .nothing
  asGroup := nofun
  asSpread := nofun
  asCallArgs := .ok ⟨.nothing, .nothing⟩
  asBody := .ok .nothing
  asRescued := .ok ⟨rfl, .nothing⟩
  asClauses := .ok .nothing

/-- What a child that may be absent gives stems from it, if it is there. -/
theorem Stemming.of_forall {place : Option Node} (h : ∀ x ∈ place, Stemming policy (some x)) :
    Stemming policy place := by
  cases place with
  | none => exact .none
  | some node => exact h node rfl

/-- The arguments of a call, and the block that comes with them. -/
theorem Stemming.callParts {args block : Option Node} (hargs : Stemming policy args)
    (hblock : Stemming policy block) :
    (callArgs policy args).Yields fun found =>
      (attachedBlock policy found.2 block).Yields fun model =>
        Stems policy false (askedIn (callSlots args block)) (found.1 ++ (model.toList ++ [])) := by
  intro found given
  obtain ⟨withBlock, without⟩ := hargs.asCallArgs found given
  cases block with
  | none =>
    refine .ok ?_
    rw [List.append_nil]
    exact .last withBlock
  | some node =>
    intro model attached
    exact .append without (.lasts (hblock.asValue model attached))

variable {nodes : List Node}

/-- The models of a list stem from its nodes. -/
theorem list_stems (h : ∀ x ∈ nodes, Stemming policy (some x)) :
    (list policy nodes).Yields fun models =>
      Stems policy false (Place.value.asks nodes) models := by
  induction nodes with
  | nil => exact .ok .nothing
  | cons node nodes ih =>
    obtain ⟨here, later⟩ := List.forall_mem_cons.1 h
    exact .bind here.asValue fun _ first => .bind (ih later) fun _ rest => .ok (.append first rest)

/-- A concatenation among the items of a list is asked for as a value, and gives arguments. -/
theorem item_stems {node : Node}
    (asValue : (value policy node).Yields fun model =>
      Stems policy false [(.value, node)] model.toList)
    (asArgs : (args policy node).Yields fun models =>
      Stems policy false [(.arguments, node)] models) :
    (item policy node).Yields fun models => Stems policy false [(.value, node)] models := by
  rw [item_eq]
  obtain ⟨position, shape⟩ := node
  cases shape with
  | concat => exact fun models found => .settled (asArgs models found) rfl
  | _ => exact .bind asValue fun _ stems => .ok stems

/-- The arguments that the items of a list give stem from them. -/
theorem itemList_stems (h : ∀ x ∈ nodes, Stemming policy (some x)) :
    (itemList policy nodes).Yields fun models =>
      Stems policy false (Place.value.asks nodes) models := by
  induction nodes with
  | nil => exact .ok .nothing
  | cons node nodes ih =>
    obtain ⟨here, later⟩ := List.forall_mem_cons.1 h
    exact .bind (item_stems here.asValue here.asArgs) fun _ first => .bind (ih later)
      fun _ rest => .ok (.append first rest)

/-- The keys and values of a hash are paired up. -/
theorem hashPairs_stems : ∀ {nodes : List Node}, nodes.length % 2 = 0 →
    (∀ x ∈ nodes, Stemming policy (some x)) → (hashPairs policy nodes).Yields fun models =>
      ∃ pairs, models = pairs.map Model.pair ∧
        Stems policy false (Place.value.asks nodes) (pairedModels pairs)
  | [], _, _ => .ok ⟨[], rfl, .nothing⟩
  | [_], even, _ => by contradiction
  | key :: val :: rest, even, h => by
    obtain ⟨hkey, hval, hrest⟩ := List.forall_mem_cons.1 h |>.imp_right List.forall_mem_cons.1
    have evenRest : rest.length % 2 = 0 := by
      simp only [List.length_cons] at even
      omega
    refine .bind hkey.asValue fun first stems => .bind hval.asValue fun second stems' =>
      .bind (hashPairs_stems evenRest hrest) ?_
    rintro _ ⟨pairs, rfl, others⟩
    exact .ok ⟨(first, second) :: pairs, rfl, .append (.append stems stems') others⟩

end Children

/-! ## One step in value position -/

section Step

variable {policy : Policy} {position : Position}

/-- The model stems from the node that gives it. -/
def Raised (policy : Policy) (position : Position) (shape : Shape Node)
    (model : Option Model) : Prop :=
  (value policy ⟨position, shape⟩).result = .ok model →
    Stems policy false [(.value, ⟨position, shape⟩)] model.toList

/-- A layer over what the slots of the node give. -/
theorem Raised.some {loose : Bool} {shape : Shape Node} {form : Form Model}
    (covers : Covers shape form)
    (stems : Stems policy loose (askedIn (shape.sources .value)) form.children) :
    Raised policy position shape (some ⟨form⟩) :=
  fun given => .layer covers given stems

/-- A node and its children. -/
def StemmingNear (policy : Policy) (node : Node) : Prop :=
  Stemming policy (some node) ∧ node.shape.All fun child => Stemming policy (some child)

/-- The statement `body rescue value` looks through the clause at its body. -/
theorem rescue_raised {body clause elseBody : Option Node} (hbody : Stemming policy body)
    (hclause : ∀ x ∈ clause, StemmingNear policy x) :
    (shapeValue policy position (.rescue body clause elseBody)).Yields
      (Raised policy position (.rescue body clause elseBody)) := by
  cases clause with
  | none => exact .fail
  | some clause =>
    obtain ⟨_, inner⟩ := hclause clause rfl
    obtain ⟨place, shape⟩ := clause
    cases shape with
    | rescueBody exceptions rescued next =>
      refine .bind hbody.asValue fun _ first =>
        .bind (Stemming.of_forall inner.2.1).asValue fun _ second => .ok ?_
      have handler : Stems policy false
          [(.handler, ⟨place, .rescueBody exceptions rescued next⟩)] _ :=
        .enter .handler rfl (.last second)
      exact .some ⟨rfl, rfl, rfl⟩ (.append first (.lasts handler))
    | _ => exact .fail

/-- A hash looks through its list at the keys and values. -/
theorem hash_raised {elements : Option Node} (h : ∀ x ∈ elements, StemmingNear policy x) :
    (shapeValue policy position (.hash elements)).Yields
      (Raised policy position (.hash elements)) := by
  cases elements with
  | none => exact .ok fun given => @Stems.hash policy position none [] (fun _ => rfl) given .nothing
  | some elements =>
    obtain ⟨_, inner⟩ := h elements rfl
    obtain ⟨place, shape⟩ := elements
    cases shape with
    | elements form items =>
      change Outcome.Yields (if items.length % 2 = 0 then _ else _) _
      split
      case isTrue even =>
        refine .bind (hashPairs_stems even inner) ?_
        rintro _ ⟨pairs, rfl, stems⟩
        exact .ok fun given => .hash nofun given (.enter .pairs rfl (.last stems))
      case isFalse => exact .fail
    | _ => exact .fail

/-- A parameter with a default looks through the assignment at its value. -/
theorem optionalParam_raised {assignment : Node} (h : StemmingNear policy assignment) :
    (shapeValue policy position (.optionalParam assignment)).Yields
      (Raised policy position (.optionalParam assignment)) := by
  obtain ⟨_, inner⟩ := h
  obtain ⟨place, shape⟩ := assignment
  cases shape with
  | localAssign scope name default =>
    refine .bind (Stemming.of_forall inner).asValue fun _ stems => .ok ?_
    exact .some ⟨rfl, rfl, rfl⟩ (.lasts (.enter .default rfl (.last stems)))
  | _ => exact .fail

/-- The two parts of a concatenation; around the second there may be a splat. -/
theorem concat_stems (form : Raw.Concat) {first second : Node}
    (hfirst : Stemming policy (some first)) (hsecond : Stemming policy (some second)) :
    (args policy ⟨position, .concat form first second⟩).Yields fun models =>
      Stems policy true (askedIn (Shape.sources (.concat form first second) .value)) models := by
  cases form with
  | cat =>
    exact .bind (hfirst.asGroup first rfl) fun _ before => .bind (hsecond.asSpread second rfl)
      fun _ after => .ok (.append (.loosen before) (.last after))
  | push =>
    exact .bind (hfirst.asGroup first rfl) fun _ before =>
      .bind (item_stems hsecond.asValue hsecond.asArgs) fun _ after =>
        .ok (.loosen (.append before (.last after)))

/-- At most one model in a list. -/
theorem toList_of_length_le_one {models : List Model} (h : models.length ≤ 1) :
    models[0]?.toList = models := by
  match models, h with
  | [], _ | [_], _ => rfl

/-- At most two models in a list. -/
theorem toList_of_length_le_two {models : List Model} (h : models.length ≤ 2) :
    models[0]?.toList ++ (models[1]?.toList ++ []) = models := by
  match models, h with
  | [], _ | [_], _ | [_, _], _ => rfl

/-- The arguments of a setter. -/
theorem attributeAssignment_raised {receiver args : Option Node} {name : String}
    {object : Option Model} {models : List Model}
    (first : Stems policy false (Place.value.asks receiver.toList) object.toList)
    (rest : Stems policy false (Place.arguments.asks args.toList) models)
    (found : (optionalArgs policy args).result = .ok models) :
    (attributeAssignment ⟨position, .attributeAssign receiver name args⟩ object name models).Yields
      (Raised policy position (.attributeAssign receiver name args)) := by
  unfold attributeAssignment
  split
  · split
    · exact .fail
    · next few =>
      rw [← toList_of_length_le_two (Nat.le_of_not_lt few)] at rest
      exact .ok (.some ⟨rfl, rfl, rfl⟩ (.append first (.last rest)))
  · next plain => exact .ok fun given => .setter plain found given first rest

/-- The value that the right operand of a logical assignment assigns. -/
theorem logicalAssignment_raised {operator : Logical} {left right : Node}
    {assigned model : Option Model}
    (first : Stems policy false [(.value, left)] assigned.toList)
    (second : Stems policy false [(.value, right)] model.toList)
    (found : (value policy right).result = .ok model) :
    (logicalAssignment ⟨position, .logicalAssign operator left right⟩ operator assigned
      model).Yields (Raised policy position (.logicalAssign operator left right)) := by
  cases model with
  | none => cases operator <;> exact .ok (.some ⟨rfl, rfl, rfl⟩ (.append first (.lasts second)))
  | some model =>
    unfold logicalAssignment
    dsimp only
    split
    case h_1 value taken => exact .ok fun given => .assignment found taken given first second
    case h_2 => exact .fail

/-- A rest parameter declares its name, if it has one. -/
theorem restParam_raised (name : Option String) :
    Raised policy position (.restParam name) (some (restParam name)) := by
  intro given
  cases name with
  | none => exact .layer ⟨rfl, rfl, rfl⟩ given .nothing
  | some name =>
    rw [restParam] at given ⊢
    split at given
    · next unnamed =>
      rw [if_pos unnamed]
      exact .layer ⟨rfl, rfl, rfl⟩ given .nothing
    · next named =>
      rw [if_neg named]
      exact .declared ⟨rfl, rfl, rfl⟩ given rfl (.inl rfl)

/-- **One step in value position:** the model of a node stems from it, if what its children give
stems from them. -/
theorem value_raised (shape : Shape Node) (near : shape.All (StemmingNear policy))
    (notWrapper : shape.isWrapper = false) :
    (shapeValue policy position shape).Yields (Raised policy position shape) := by
  have h : shape.All fun node => Stemming policy (some node) := near.imp fun _ near => near.1
  cases shape with
  | wrap => cases notWrapper
  | root | params => exact .fail
  | unsupported shape =>
    cases policy with
    | strict => exact .fail
    | permissive => exact fun _ found _ => by cases found; exact .leftOut rfl _ _ _
  | rescue => exact rescue_raised (.of_forall h.1) near.2.1
  | hash => exact hash_raised near
  | optionalParam => exact optionalParam_raised near
  | implicitNil => exact .ok fun _ => .enter .value rfl .nothing
  | leaf leaf =>
    cases leaf with
    | localVar scope => cases scope <;> exact .ok (.some ⟨rfl, rfl, rfl⟩ .nothing)
    | _ => exact .ok (.some ⟨rfl, rfl, rfl⟩ .nothing)
  | var scope => cases scope <;> exact .ok (.some ⟨rfl, rfl, rfl⟩ .nothing)
  | text form => cases form <;> exact .ok (.some ⟨rfl, rfl, rfl⟩ .nothing)
  | topConstant | emptyArray | constant | star | param | variableCall =>
    exact .ok (.some ⟨rfl, rfl, rfl⟩ .nothing)
  | blockParam name => exact .ok fun given => .declared ⟨rfl, rfl, rfl⟩ given rfl (.inr rfl)
  | restParam name => exact .ok (restParam_raised name)
  | block => exact .bind (list_stems h) fun _ stems => .ok (.some ⟨rfl, rfl, rfl⟩ (.lasts stems))
  | dynamicText form =>
    refine .bind (list_stems h) fun _ stems => ?_
    cases form <;> exact .ok (.some ⟨rfl, rfl, rfl⟩ (.lasts stems))
  | elements form =>
    cases form with
    | array => exact .bind (list_stems h) fun _ stems => .ok (.some ⟨rfl, rfl, rfl⟩ (.lasts stems))
    | list => exact .fail
  | scopedConstant | constantDecl | bareSuper | splat =>
    exact .bind (Stemming.of_forall h).asValue fun _ stems =>
      .ok (.some ⟨rfl, rfl, rfl⟩ (.lasts stems))
  | localAssign word | varAssign word | jump word =>
    refine .bind (Stemming.of_forall h).asValue fun _ stems => ?_
    cases word <;> exact .ok (.some ⟨rfl, rfl, rfl⟩ (.lasts stems))
  | blockPass =>
    exact .bind (Stemming.of_forall h.1).asValue fun _ stems =>
      .ok (.some ⟨rfl, rfl, rfl⟩ (.lasts stems))
  | yield =>
    exact .bind (Stemming.of_forall h).asArgs fun _ stems =>
      .ok (.some ⟨rfl, rfl, rfl⟩ (.lasts stems))
  | undef | isDefined | negation | unaryCall =>
    exact .bind h.asValue fun _ stems => .ok (.some ⟨rfl, rfl, rfl⟩ (.lasts stems))
  | aliasName =>
    exact .bind h.1.asValue fun _ first => .bind h.2.asValue fun _ second =>
      .ok (.some ⟨rfl, rfl, rfl⟩ (.append first (.lasts second)))
  | logical operator =>
    refine .bind h.1.asValue fun _ first => .bind h.2.asValue fun _ second => ?_
    cases operator <;> exact .ok (.some ⟨rfl, rfl, rfl⟩ (.append first (.lasts second)))
  | regexMatch =>
    exact .bind h.2.asValue fun _ first => .bind h.1.asValue fun _ second =>
      .ok (.some ⟨rfl, rfl, rfl⟩ (.append first (.lasts second)))
  | operatorAssign | whenClause | range =>
    exact .bind (Stemming.of_forall h.1).asValue fun _ first =>
      .bind (Stemming.of_forall h.2).asValue fun _ second =>
        .ok (.some ⟨rfl, rfl, rfl⟩ (.append first (.lasts second)))
  | loop form =>
    refine .bind (Stemming.of_forall h.1).asValue fun _ first =>
      .bind (Stemming.of_forall h.2).asValue fun _ second => ?_
    cases form <;> exact .ok (.some ⟨rfl, rfl, rfl⟩ (.append first (.lasts second)))
  | iterator =>
    exact .bind (Stemming.of_forall h.1).asArgs fun _ first =>
      .bind (Stemming.of_forall h.2).asValue fun _ second =>
        .ok (.some ⟨rfl, rfl, rfl⟩ (.append first (.lasts second)))
  | rescueBody =>
    exact .bind (Stemming.of_forall h.1).asArgs fun _ first =>
      .bind (Stemming.of_forall h.2.1).asValue fun _ second =>
        .ok (.some ⟨rfl, rfl, rfl⟩ (.append first (.lasts second)))
  | ifElse =>
    exact .bind (Stemming.of_forall h.1).asValue fun _ first =>
      .bind (Stemming.of_forall h.2.1).asValue fun _ second =>
        .bind (Stemming.of_forall h.2.2).asValue fun _ third =>
          .ok (.some ⟨rfl, rfl, rfl⟩ (.append first (.append second (.lasts third))))
  | caseOf =>
    exact .bind (Stemming.of_forall h.1).asValue fun _ first => .bind (list_stems h.2.1)
      fun _ second => .bind (Stemming.of_forall h.2.2).asValue fun _ third =>
        .ok (.some ⟨rfl, rfl, rfl⟩ (.append first (.append second (.lasts third))))
  | classDecl =>
    exact .bind h.1.asValue fun _ first => .bind (Stemming.of_forall h.2.1).asValue
      fun _ second => .bind (Stemming.of_forall h.2.2).asValue fun _ third =>
        .ok (.some ⟨rfl, rfl, rfl⟩ (.append first (.append second (.lasts (.contents third)))))
  | moduleDecl =>
    exact .bind h.1.asValue fun _ first => .bind (Stemming.of_forall h.2).asValue
      fun _ second => .ok (.some ⟨rfl, rfl, rfl⟩ (.append first (.lasts (.contents second))))
  | concat form first second =>
    have array := value_of_isConcatenation policy
      (show (⟨position, .concat form first second⟩ : Node).isConcatenation = true from rfl)
    change (value policy ⟨position, .concat form first second⟩).Yields _
    rw [array]
    refine .bind (concat_stems form h.1 h.2) fun models stems => ?_
    rw [← List.append_nil models] at stems
    exact .ok (.some ⟨rfl, rfl, rfl⟩ stems)
  | elementUpdate =>
    refine .bind (Stemming.of_forall h.1).asValue fun _ first =>
      .bind (Stemming.of_forall h.2.1).asArgs fun indices second => ?_
    split
    · exact .fail
    · next single =>
      rw [← toList_of_length_le_one (Nat.le_of_not_lt single)] at second
      exact .bind (Stemming.of_forall h.2.2).asValue fun _ third =>
        .ok (.some ⟨rfl, rfl, rfl⟩ (.append first (.append second (.lasts third))))
  | attributeAssign =>
    exact .bind (Stemming.of_forall h.1).asValue fun _ first =>
      .bind ((Stemming.of_forall h.2).asArgs.and fun _ found => found) fun _ ⟨rest, found⟩ =>
        attributeAssignment_raised first rest found
  | logicalAssign =>
    exact .bind h.1.asValue fun _ first => .bind (h.2.asValue.and fun _ found => found)
      fun _ ⟨second, found⟩ => logicalAssignment_raised first second found
  | multipleAssign =>
    refine .bind (Stemming.of_forall h.1).asArgs fun pre first =>
      .bind (Stemming.of_forall h.2.1).asValue fun rest second =>
        .bind (Stemming.of_forall h.2.2.1).asArgs fun post third =>
          .bind (Stemming.of_forall h.2.2.2).asValue fun _ fourth => ?_
    have parts := Stems.append (.loosen first) (.append (.splat second) (.append (.loosen third)
      (.lasts (.loosen (.assignedValues fourth)))))
    rw [← List.append_assoc pre, ← List.append_assoc (pre ++ _)] at parts
    exact .ok (.some ⟨rfl, rfl, rfl⟩ parts)
  | beginBlock =>
    exact .bind (Stemming.of_forall h).asBody fun _ stems =>
      .ok (.some ⟨rfl, rfl, rfl⟩ (.last stems))
  | ensure =>
    exact .bind (Stemming.of_forall h.2).asValue fun _ ensured =>
      .bind (Stemming.of_forall h.1).asRescued fun _ ⟨alone, stems⟩ =>
        .ok (.some ⟨rfl, rfl, rfl⟩ (.ensured alone stems ensured))
  | define =>
    refine .bind (Stemming.of_forall h.1).asArgs fun _ first =>
      .bind (Stemming.of_forall h.2).asBody fun _ body => ?_
    have parts := first.append body.last
    exact .ok (.some ⟨rfl, rfl, rfl⟩ parts)
  | defineOn =>
    refine .bind (Stemming.of_forall h.1).asValue fun _ first =>
      .bind (Stemming.of_forall h.2.1).asArgs fun _ second =>
        .bind (Stemming.of_forall h.2.2).asBody fun _ body => ?_
    have parts := first.append (second.append body.last)
    exact .ok (.some ⟨rfl, rfl, rfl⟩ parts)
  | functionCall | superCall =>
    exact .bind ((Stemming.of_forall h.1).callParts (.of_forall h.2)) fun _ parts =>
      .bind parts fun _ stems => .ok (.some ⟨rfl, rfl, rfl⟩ stems)
  | call =>
    refine .bind (Stemming.of_forall h.1).asValue fun _ first =>
      .bind ((Stemming.of_forall h.2.1).callParts (.of_forall h.2.2)) fun _ parts =>
        .bind parts fun _ stems => ?_
    have parts := first.append stems
    exact .ok (.some ⟨rfl, rfl, rfl⟩ parts)

/-! ## The other positions -/

section Positions

variable {shape : Shape Node} (h : shape.All fun node => Stemming policy (some node))
  (asValue : (value policy ⟨position, shape⟩).Yields fun model =>
    Stems policy false [(.value, ⟨position, shape⟩)] model.toList)

include h asValue

/-- One step in argument position. -/
theorem args_stems : (args policy ⟨position, shape⟩).Yields fun models =>
    Stems policy false [(.arguments, ⟨position, shape⟩)] models := by
  cases shape with
  | root | whenClause | rescueBody => exact .fail
  | elements => exact fun models found => .enter .arguments rfl (.last (list_stems h models found))
  | params =>
    refine .bind (Stemming.of_forall h.1).asArgs fun _ pre =>
      .bind (Stemming.of_forall h.2.1).asArgs fun _ optional =>
        .bind (Stemming.of_forall h.2.2.1).asArgs fun _ rest =>
          .bind (Stemming.of_forall h.2.2.2.1).asArgs fun _ post =>
            .bind (Stemming.of_forall h.2.2.2.2).asArgs fun _ block => .ok ?_
    simp only [List.append_assoc]
    exact .enter .arguments rfl
      (.append pre (.append optional (.append rest (.append post (.last block)))))
  | concat form =>
    exact fun models found => .enter .arguments rfl (concat_stems form h.1 h.2 models found)
  | _ => exact .bind asValue fun _ stems => .ok (.settled stems rfl)

/-- One step before the last part of a concatenation. -/
theorem group_stems : (group policy ⟨position, shape⟩).Yields fun models =>
    Stems policy false [(.part, ⟨position, shape⟩)] models := by
  have asItem : (item policy ⟨position, shape⟩).Yields fun models =>
      Stems policy false [(.value, ⟨position, shape⟩)] models :=
    item_stems asValue (args_stems h asValue)
  rw [group_eq]
  cases shape with
  | elements => exact fun models found => .enter .part rfl (.last (itemList_stems h models found))
  | _ => exact fun models found => .settled (asItem models found) rfl

/-- One step for a value that is spread. -/
theorem spread_stems : (spread policy ⟨position, shape⟩).Yields fun models =>
    Stems policy true [(.part, ⟨position, shape⟩)] models := by
  rw [spread_eq]
  cases shape with
  | elements =>
    exact fun models found => .loosen (.enter .part rfl (.last (list_stems h models found)))
  | _ => exact .bind asValue fun _ stems => .ok (.splat (.settled stems rfl))

/-- One step for the arguments of a call. -/
theorem callArgs_stems : (callArgs policy (some ⟨position, shape⟩)).Yields fun found =>
    Stems policy false [(.callArguments, ⟨position, shape⟩)] (found.1 ++ found.2.toList) ∧
      Stems policy false (Place.arguments.asks (besideBlock (some ⟨position, shape⟩)).toList)
        found.1 := by
  have asArgs := args_stems h asValue
  cases shape with
  | blockPass =>
    exact .bind (Stemming.of_forall h.1).asValue fun _ body =>
      .bind (Stemming.of_forall h.2).asArgs fun _ args => .ok ⟨.passed args body, args⟩
  | _ =>
    refine .bind asArgs fun models stems => .ok ⟨?_, stems⟩
    exact (List.append_nil models).symm ▸ .settled stems rfl

/-- One step for a body with rescue clauses. -/
theorem rescued_stems : (rescued policy ⟨position, shape⟩).Yields fun body =>
    body.ensureBody = none ∧ Stems policy false [(.body, ⟨position, shape⟩)] body.models := by
  cases shape with
  | rescue body clause elseBody =>
    have firstClause : (firstClause policy ⟨position, .rescue body clause elseBody⟩ clause).Yields
        fun clauses => Stems policy false (Place.clause.asks clause.toList) clauses := by
      cases clause with
      | none => exact .fail
      | some clause => exact (h.2.1 clause rfl).asClauses
    exact .bind (Stemming.of_forall h.1).asValue fun _ first => .bind firstClause fun _ second =>
      .bind (Stemming.of_forall h.2.2).asValue fun _ third =>
        .ok ⟨rfl, .enter .body rfl (.append first (.append second (.lasts third)))⟩
  | _ => exact .bind asValue fun _ stems => .ok ⟨rfl, .settled (.lasts stems) rfl⟩

/-- One step for a body with rescue and ensure parts. -/
theorem protectedBody_stems : (protectedBody policy (some ⟨position, shape⟩)).Yields fun body =>
    Stems policy false [(.body, ⟨position, shape⟩)] body.models := by
  have asRescued := rescued_stems h asValue
  cases shape with
  | ensure =>
    exact .bind (Stemming.of_forall h.2).asValue fun _ ensured =>
      .bind (Stemming.of_forall h.1).asRescued fun _ ⟨alone, stems⟩ =>
        .ok (.enter .body rfl (.ensured alone stems ensured))
  | _ => exact fun body found => (asRescued body found).2

omit asValue in
/-- One step along a chain of rescue clauses. -/
theorem rescueClauses_stems : (rescueClauses policy ⟨position, shape⟩).Yields fun clauses =>
    Stems policy false [(.clause, ⟨position, shape⟩)] clauses := by
  cases shape with
  | rescueBody =>
    exact .bind (Stemming.of_forall h.1).asArgs fun _ first =>
      .bind (Stemming.of_forall h.2.1).asValue fun _ second =>
        .bind (Stemming.of_forall h.2.2).asClauses fun _ rest => .ok (.clause first second rest)
  | _ => exact .fail

end Positions

end Step

/-! ## The run -/

/-- What a node gives stems from it in each position, by induction over the tree. -/
theorem stemming_some (policy : Policy) (node : Node) : Stemming policy (some node) := by
  -- A rescue statement, a hash and a parameter with a default look through a child, so the
  -- induction also gives the children of the children.
  induction node using Node.deepInduction with
  | step position shape near =>
    have h : shape.All fun node => Stemming policy (some node) := near.imp fun _ near => near.1
    have asValue : (value policy ⟨position, shape⟩).Yields fun model =>
        Stems policy false [(.value, ⟨position, shape⟩)] model.toList := by
      cases wrapper : shape.isWrapper with
      | false => exact fun model found => value_raised shape near wrapper model found found
      | true =>
        cases shape with
        | wrap =>
          exact fun model found =>
            .enter .value rfl (.last ((Stemming.of_forall h).asValue model found))
        | _ => cases wrapper
    exact {
      asValue
      asArgs := args_stems h asValue
      asGroup := fun _ found => Option.some.inj found ▸ group_stems h asValue
      asSpread := fun _ found => Option.some.inj found ▸ spread_stems h asValue
      asCallArgs := callArgs_stems h asValue
      asBody := protectedBody_stems h asValue
      asRescued := rescued_stems h asValue
      asClauses := rescueClauses_stems h }

/-- **All that a run gives stems from the nodes that are asked for.** -/
theorem stemming (policy : Policy) (place : Option Node) : Stemming policy place :=
  .of_forall fun node _ => stemming_some policy node

end Lowering
end RubyModel
