/-
# The nodes that a run looks at

A run goes through a tree from the root down.  Each node stands in a slot of the node above it,
and the slot asks for it to be read in a certain way (`Place`).  Most nodes are read as values
wherever they stand; `Place.settle` names the exceptions.

| slot asks for | read in a way of its own |
| --- | --- |
| arguments | lists, parameters; program roots and clauses are refused |
| arguments of a call | as arguments, and a block that is passed |
| part of a concatenation | lists |
| protected body | rescue nodes |
| clause, pairs of a hash, default of a parameter | all nodes |

`Shape.slots` gives the slots of a node in the order of declaration.  A run looks at the children
in this order, with two exceptions, and does not look at all of them (`Shape.visited`):

| node | looked at |
| --- | --- |
| body with an `ensure` part | the `ensure` part first |
| regular expression match | the value first |
| `body rescue value` | not the `else` part, and of the clause only its body |
| rescue clause as a value | not the next clause |
| `&block` outside the arguments of a call | not the arguments with it |
| unsupported node | nothing |

`Node.visits` lists the nodes that are looked at, in order, each with the way in which it is read.
-/

import RubyModel.Proofs.Tree

namespace RubyModel
namespace Raw

/-- How a slot asks for the node in it to be read. -/
inductive Place where
  /-- As one value. -/
  | value
  /-- As a list of arguments or parameters. -/
  | arguments
  /-- As the arguments of a call, perhaps with a block that is passed. -/
  | callArguments
  /-- As a part of a concatenation. -/
  | part
  /-- As a body with its rescue clauses. -/
  | body
  /-- As a clause of such a body. -/
  | clause
  /-- As the clause of the statement `body rescue value`. -/
  | handler
  /-- As the keys and values of a hash. -/
  | pairs
  /-- As the assignment of a default to a parameter. -/
  | default
  /-- As the root of a program. -/
  | program
  deriving DecidableEq

/-- The way in which a node is read in a place: a value, unless the place has a way of its own
for it. -/
def Place.settle {α : Type} : Place → Shape α → Place
  | .callArguments, .blockPass .. => .callArguments
  | .arguments, .elements .. | .arguments, .params .. | .arguments, .root _
  | .arguments, .whenClause .. | .arguments, .rescueBody .. => .arguments
  | .callArguments, .elements .. | .callArguments, .params .. | .callArguments, .root _
  | .callArguments, .whenClause .. | .callArguments, .rescueBody .. => .arguments
  | .part, .elements .. => .part
  | .body, .rescue .. => .body
  | .clause, _ => .clause
  | .handler, _ => .handler
  | .pairs, _ => .pairs
  | .default, _ => .default
  | .program, _ => .program
  | _, _ => .value

/-- The children in one slot of a node. -/
structure Slot (α : Type) where
  place : Place
  nodes : List α

/-- The children in a slot, each with the way in which it is to be read. -/
def Slot.placed {α : Type} (slot : Slot α) : List (Place × α) := slot.nodes.map (slot.place, ·)

/-- Nodes that are asked for in one way. -/
abbrev Place.asks {α : Type} (place : Place) (nodes : List α) : List (Place × α) :=
  nodes.map (place, ·)

/-- The slots of an unsupported shape. -/
def Unsupported.slots {α : Type} : Unsupported α → List (Slot α)
  | .unlisted _ | .shell _ | .backReference _ | .redo | .retry => []
  | .dynamicShell pieces | .dynamicSymbol pieces => [⟨.value, pieces⟩]
  | .matchReceiver receiver value => [⟨.value, [receiver]⟩, ⟨.value, [value]⟩]
  | .flipFlop lower upper _ => [⟨.value, lower.toList⟩, ⟨.value, upper.toList⟩]
  | .singletonClass receiver body => [⟨.value, [receiver]⟩, ⟨.value, body.toList⟩]
  | .forLoop target iterated body =>
    [⟨.value, target.toList⟩, ⟨.value, iterated.toList⟩, ⟨.value, body.toList⟩]
  | .beforeProgram body | .afterProgram body => [⟨.value, body.toList⟩]

/-- The slots of a shape, in the order of declaration. -/
def Shape.slots {α : Type} : Shape α → List (Slot α)
  | .implicitNil | .leaf _ | .text .. | .var .. | .constant _ | .topConstant _ | .star
  | .variableCall _ | .emptyArray | .param _ | .restParam _ | .blockParam _ => []
  | .block items | .dynamicText _ items | .elements _ items => [⟨.value, items⟩]
  | .root a | .wrap _ a | .localAssign _ _ a | .varAssign _ _ a | .constantDecl _ a | .jump _ a
  | .splat a | .scopedConstant a _ | .bareSuper a => [⟨.value, a.toList⟩]
  | .undef a | .isDefined a | .negation a | .unaryCall a _ => [⟨.value, [a]⟩]
  | .operatorAssign a _ _ b | .loop _ a b | .whenClause a b | .range a b _ =>
    [⟨.value, a.toList⟩, ⟨.value, b.toList⟩]
  | .logicalAssign _ a b | .logical _ a b | .aliasName a b | .regexMatch a b =>
    [⟨.value, [a]⟩, ⟨.value, [b]⟩]
  | .ifElse a b c => [⟨.value, a.toList⟩, ⟨.value, b.toList⟩, ⟨.value, c.toList⟩]
  | .caseOf a items b => [⟨.value, a.toList⟩, ⟨.value, items⟩, ⟨.value, b.toList⟩]
  | .classDecl a b c => [⟨.value, [a]⟩, ⟨.value, b.toList⟩, ⟨.value, c.toList⟩]
  | .moduleDecl a b => [⟨.value, [a]⟩, ⟨.value, b.toList⟩]
  | .yield a => [⟨.arguments, a.toList⟩]
  | .elementUpdate a b _ c => [⟨.value, a.toList⟩, ⟨.arguments, b.toList⟩, ⟨.value, c.toList⟩]
  | .attributeAssign a _ b => [⟨.value, a.toList⟩, ⟨.arguments, b.toList⟩]
  | .multipleAssign _ a b c d =>
    [⟨.arguments, a.toList⟩, ⟨.value, b.toList⟩, ⟨.arguments, c.toList⟩, ⟨.value, d.toList⟩]
  | .iterator a b => [⟨.arguments, a.toList⟩, ⟨.value, b.toList⟩]
  | .blockPass a b => [⟨.value, a.toList⟩, ⟨.arguments, b.toList⟩]
  | .params a b c d e =>
    [⟨.arguments, a.toList⟩, ⟨.arguments, b.toList⟩, ⟨.arguments, c.toList⟩,
      ⟨.arguments, d.toList⟩, ⟨.arguments, e.toList⟩]
  | .call a _ b c => [⟨.value, a.toList⟩, ⟨.callArguments, b.toList⟩, ⟨.value, c.toList⟩]
  | .functionCall _ a b | .superCall a b => [⟨.callArguments, a.toList⟩, ⟨.value, b.toList⟩]
  | .concat .cat a b => [⟨.part, [a]⟩, ⟨.part, [b]⟩]
  | .concat .push a b => [⟨.part, [a]⟩, ⟨.value, [b]⟩]
  | .beginBlock a => [⟨.body, a.toList⟩]
  | .define _ a b => [⟨.arguments, a.toList⟩, ⟨.body, b.toList⟩]
  | .defineOn a _ b c => [⟨.value, a.toList⟩, ⟨.arguments, b.toList⟩, ⟨.body, c.toList⟩]
  | .ensure a b => [⟨.body, a.toList⟩, ⟨.value, b.toList⟩]
  | .rescue a b c => [⟨.value, a.toList⟩, ⟨.clause, b.toList⟩, ⟨.value, c.toList⟩]
  | .rescueBody a b c => [⟨.arguments, a.toList⟩, ⟨.value, b.toList⟩, ⟨.clause, c.toList⟩]
  | .hash a => [⟨.pairs, a.toList⟩]
  | .optionalParam a => [⟨.default, [a]⟩]
  | .unsupported shape => shape.slots

/-- The slots that are looked at, in order, if a node is read in the given way. -/
def Shape.visited {α : Type} : Shape α → Place → List (Slot α)
  | .ensure a b, _ => [⟨.value, b.toList⟩, ⟨.body, a.toList⟩]
  | .regexMatch a b, _ => [⟨.value, [b]⟩, ⟨.value, [a]⟩]
  | .rescue a b _, .value => [⟨.value, a.toList⟩, ⟨.handler, b.toList⟩]
  | .rescueBody _ b _, .handler => [⟨.value, b.toList⟩]
  | .rescueBody a b _, .value => [⟨.arguments, a.toList⟩, ⟨.value, b.toList⟩]
  | .blockPass a _, .value => [⟨.value, a.toList⟩]
  | .unsupported _, _ => []
  | shape, _ => shape.slots

/-- The children of a shape, in the order of declaration. -/
def Shape.children {α : Type} (shape : Shape α) : List α := shape.slots.flatMap Slot.nodes

section Children

variable {α : Type} {P : α → Prop}

/-- The children of an unsupported shape are those that stand in its slots. -/
theorem Unsupported.all_iff {shape : Unsupported α} :
    shape.All P ↔ ∀ x ∈ shape.slots.flatMap Slot.nodes, P x := by
  cases shape <;> simp only [Unsupported.All, Unsupported.slots, List.flatMap_cons,
    List.flatMap_nil, List.append_nil, List.forall_mem_append, List.forall_mem_singleton,
    List.not_mem_nil, false_implies, implies_true, Option.mem_toList, Option.mem_def]

/-- The children of a shape are those that stand in its slots. -/
theorem Shape.all_iff {shape : Shape α} : shape.All P ↔ ∀ x ∈ shape.children, P x := by
  cases shape with
  | unsupported shape => exact Unsupported.all_iff
  | concat form =>
    cases form <;> simp only [Shape.All, Shape.children, Shape.slots, List.flatMap_cons,
      List.flatMap_nil, List.append_nil, List.forall_mem_append, List.forall_mem_singleton]
  | _ =>
    simp only [Shape.All, Shape.children, Shape.slots, List.flatMap_cons, List.flatMap_nil,
      List.append_nil, List.forall_mem_append, List.forall_mem_singleton, List.not_mem_nil,
      false_implies, implies_true, Option.mem_toList, Option.mem_def]

/-- What the children of a shape have, the nodes that are looked at have. -/
theorem Shape.All.visited {shape : Shape α} (all : shape.All P) (way : Place) :
    ∀ slot ∈ shape.visited way, ∀ x ∈ slot.nodes, P x := by
  have inSlots : ∀ slot ∈ shape.slots, ∀ x ∈ slot.nodes, P x := fun slot mem x inSlot =>
    Shape.all_iff.1 all x (List.mem_flatMap.2 ⟨slot, mem, inSlot⟩)
  cases shape with
  | unsupported => exact List.forall_mem_nil _
  | ensure body ensureBody =>
    obtain ⟨first, second⟩ := all
    simp only [Shape.visited, List.forall_mem_cons, Option.mem_toList]
    exact ⟨second, first, List.forall_mem_nil _⟩
  | regexMatch receiver value =>
    obtain ⟨first, second⟩ := all
    simp only [Shape.visited, List.forall_mem_cons]
    exact ⟨⟨second, List.forall_mem_nil _⟩, ⟨first, List.forall_mem_nil _⟩, List.forall_mem_nil _⟩
  | rescue body clause elseBody =>
    obtain ⟨first, second, -⟩ := all
    cases way with
    | value =>
      simp only [Shape.visited, List.forall_mem_cons, Option.mem_toList]
      exact ⟨first, second, List.forall_mem_nil _⟩
    | _ => exact inSlots
  | rescueBody exceptions body next =>
    obtain ⟨first, second, -⟩ := all
    cases way with
    | value =>
      simp only [Shape.visited, List.forall_mem_cons, Option.mem_toList]
      exact ⟨first, second, List.forall_mem_nil _⟩
    | handler =>
      simp only [Shape.visited, List.forall_mem_cons, Option.mem_toList]
      exact ⟨second, List.forall_mem_nil _⟩
    | _ => exact inSlots
  | blockPass body args =>
    cases way with
    | value =>
      simp only [Shape.visited, List.forall_mem_cons, Option.mem_toList]
      exact ⟨all.1, List.forall_mem_nil _⟩
    | _ => exact inSlots
  | _ => exact inSlots

end Children

/-- What is asked for in slots, one slot after the other. -/
def askedIn (slots : List (Slot Node)) : List (Place × Node) := slots.flatMap Slot.placed

/-- What is asked for in the first slot, and in the others. -/
theorem forall_askedIn_cons {Q : Place × Node → Prop} {slot : Slot Node}
    {slots : List (Slot Node)} :
    (∀ asked ∈ askedIn (slot :: slots), Q asked) ↔
      (∀ node ∈ slot.nodes, Q (slot.place, node)) ∧ ∀ asked ∈ askedIn slots, Q asked := by
  simp only [askedIn, List.flatMap_cons, List.forall_mem_append, Slot.placed, List.forall_mem_map]

/-- A node that is looked at is smaller than the one above it. -/
theorem sizeOf_lt_of_mem_visited {way : Place} {shape : Shape Node} {child : Place × Node}
    (looked : child ∈ (shape.visited way).flatMap Slot.placed) : sizeOf child.2 < sizeOf shape := by
  have smaller : shape.All fun node => sizeOf node < sizeOf shape :=
    Shape.all_of_sizeOf_lt fun _ lt => lt
  obtain ⟨slot, mem, placed⟩ := List.mem_flatMap.1 looked
  obtain ⟨node, found, rfl⟩ := List.mem_map.1 placed
  exact smaller.visited way slot mem node found

namespace Node

/-- The node is of an unsupported kind. -/
def isUnsupported : Node → Bool
  | ⟨_, .unsupported _⟩ => true
  | _ => false

/-- The nodes that are looked at from a node in a place on, in order, each with the way in which
it is read. -/
def visits (place : Place) : Node → List (Place × Node)
  | ⟨position, shape⟩ =>
    (place.settle shape, ⟨position, shape⟩) ::
      ((shape.visited (place.settle shape)).flatMap Slot.placed).attach.flatMap fun child =>
        visits child.1.1 child.1.2
termination_by node => sizeOf node
decreasing_by
  have := sizeOf_lt_of_mem_visited child.2
  simp only [mk.sizeOf_spec]
  omega

/-- The unsupported nodes among those that are looked at. -/
def gaps (place : Place) (node : Node) : List Node :=
  ((node.visits place).map Prod.snd).filter isUnsupported

end Node

/-- The nodes that are looked at from the nodes that are asked for on. -/
def visitsOf (asked : List (Place × Node)) : List (Place × Node) :=
  asked.flatMap fun child => child.2.visits child.1

/-- What is asked for later is looked at later. -/
theorem visitsOf_append (asked more : List (Place × Node)) :
    visitsOf (asked ++ more) = visitsOf asked ++ visitsOf more :=
  List.flatMap_append

theorem visitsOf_single (place : Place) (node : Node) :
    visitsOf [(place, node)] = node.visits place :=
  List.append_nil _

/-- A node is looked at before its children. -/
theorem Node.visits_eq (place : Place) (position : Position) (shape : Shape Node) :
    visits place ⟨position, shape⟩ =
      (place.settle shape, ⟨position, shape⟩) ::
        visitsOf (askedIn (shape.visited (place.settle shape))) := by
  rw [visits, visitsOf, askedIn]
  refine congrArg _ ?_
  generalize (shape.visited (place.settle shape)).flatMap Slot.placed = children
  let below (child : Place × Node) : List (Place × Node) := child.2.visits child.1
  rw [← List.flatMap_map (f := Subtype.val) (g := below), List.attach_map_subtype_val]

namespace Node

/-! ## Where the nodes stand that are looked at -/

/-- The node occurs in a tree. -/
inductive Within (part : Node) : Node → Prop where
  | whole : Within part part
  | child {node inner : Node} (mem : inner ∈ node.shape.children) (within : Within part inner) :
      Within part node

/-- Only children of a node are looked at from it. -/
theorem visited_mem_children {way : Place} {shape : Shape Node} {slot : Slot Node}
    (looked : slot ∈ shape.visited way) {node : Node} (mem : node ∈ slot.nodes) :
    node ∈ shape.children :=
  (Shape.all_iff.2 fun _ child => child : shape.All (· ∈ shape.children)).visited way slot looked
    node mem

/-- Only nodes of the tree are looked at. -/
theorem within_of_mem_visits {place way : Place} {node part : Node}
    (h : (way, part) ∈ node.visits place) : Within part node := by
  induction node using induction generalizing place way part with
  | step position shape ih =>
    rw [visits_eq] at h
    rcases List.mem_cons.1 h with e | h
    · obtain ⟨-, rfl⟩ := Prod.mk.inj e
      exact .whole
    · obtain ⟨child, placed, below⟩ := List.mem_flatMap.1 h
      obtain ⟨slot, looked, placed⟩ := List.mem_flatMap.1 placed
      obtain ⟨inner, mem, rfl⟩ := List.mem_map.1 placed
      exact .child (visited_mem_children looked mem) (ih.visited _ slot looked inner mem below)

/-- A node that is looked at is the one at the top, or stands in a slot of another one that is
looked at. -/
theorem parent_of_mem_visits {place way : Place} {node part : Node}
    (h : (way, part) ∈ node.visits place) :
    way = place.settle part.shape ∧ part = node ∨
      ∃ outer parent, (outer, parent) ∈ node.visits place ∧
        ∃ slot ∈ parent.shape.visited outer, part ∈ slot.nodes ∧
          way = slot.place.settle part.shape := by
  induction node using induction generalizing place way part with
  | step position shape ih =>
    rw [visits_eq] at h
    rcases List.mem_cons.1 h with e | h
    · obtain ⟨rfl, rfl⟩ := Prod.mk.inj e
      exact .inl ⟨rfl, rfl⟩
    · obtain ⟨child, placed, below⟩ := List.mem_flatMap.1 h
      obtain ⟨slot, looked, inSlot⟩ := List.mem_flatMap.1 placed
      obtain ⟨inner, mem, rfl⟩ := List.mem_map.1 inSlot
      refine .inr ?_
      rcases ih.visited _ slot looked inner mem below with ⟨rfl, rfl⟩ | ⟨outer, parent, seen, found⟩
      · refine ⟨_, ⟨position, shape⟩, ?_, slot, looked, mem, rfl⟩
        rw [visits_eq]
        exact List.mem_cons_self
      · refine ⟨outer, parent, ?_, found⟩
        rw [visits_eq]
        exact List.mem_cons_of_mem _ (List.mem_flatMap.2 ⟨_, placed, seen⟩)

end Node
end Raw
end RubyModel
