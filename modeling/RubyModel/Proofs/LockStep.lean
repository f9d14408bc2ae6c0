/-
# Two runs in step

Turning a tree into a model asks for the children of a node in a fixed order (`Shape.visited`) and
goes on with their results alone.  So two runs over trees that differ little, or over one tree
under two policies, stay in step.  A `LockStep` is a relation between their outcomes, and what the
first run has asked for to get there, that holds on along the rules of a run:

| rule | the run |
| --- | --- |
| `ok` | gives a result without asking for anything |
| `bind` | goes on with a result |
| `enter` | asks for a node, and below it for what is visited |
| `settled` | asks for a node in a way that is answered like another one |
| `unsupported` | refuses a node without a counterpart or leaves it out |
| `violated`, `argumentShape` | fails about a node that it has reached |

Both trees are gone through at once: a layer of both is a layer of pairs, up to the data that a run
does not depend on (`Twin`).  A pair of values has related outcomes as values (`Values`); where the
kind of a node is looked at, it takes a pair with related outcomes in every position (`InStep`).
A layer of such pairs is again a pair in step (`Below.inStep`).  That is the one place where two
runs are followed through the kinds of nodes; a comparison is an instance of `LockStep`, and so is
what a single run reports, which is a relation of the run to itself.
-/

import Mathlib.Data.List.Basic
import RubyModel.Proofs.Layers

namespace RubyModel

/-! ## What can be wrong with a node -/

open Raw (Node Shape Place askedIn)

/-- The shape is never a value. -/
def Raw.Shape.isNoValue {α : Type} : Shape α → Bool
  | .root _ | .params .. | .elements .list _ => true
  | _ => false

/-- The shape is never an argument. -/
def Raw.Shape.isNoArgument {α : Type} : Shape α → Bool
  | .root _ | .whenClause .. | .rescueBody .. => true
  | _ => false

/-- The shape is a rescue clause. -/
def Raw.Shape.isClause {α : Type} : Shape α → Bool
  | .rescueBody .. => true
  | _ => false

/-- The shape assigns to a plain variable. -/
def Raw.Shape.isLocalAssign {α : Type} : Shape α → Bool
  | .localAssign .. => true
  | _ => false

/-- The nodes in which something can be wrong in the given way, and how they are read. -/
def Violation.Fits (way : Place) (node : Node) : Violation → Prop
  | .notAValue => way = .value ∧ node.shape.isNoValue = true
  | .kindExpected kind =>
    (way = .clause ∨ way = .handler) ∧ kind = .rescueBody ∧ node.shape.isClause = false ∨
    way = .pairs ∧ kind = .list ∧ node.listElements? = none ∨
    way = .default ∧ kind = .localAsgn ∧ node.shape.isLocalAssign = false
  | .clauseMissing => ∃ body elseBody, node.shape = .rescue body none elseBody
  | .oddHash count => ∃ position form items,
    node.shape = .hash (some ⟨position, .elements form items⟩) ∧ items.length = count ∧
      count % 2 = 1
  | .severalIndices _ =>
    (∃ receiver args operator value, node.shape = .elementUpdate receiver args operator value) ∨
    ∃ receiver args, node.shape = .attributeAssign receiver Lowering.elementSetter args
  | .assignmentExpected _ => ∃ operator first second,
    node.shape = .logicalAssign operator first second

namespace Lowering

open Raw (Slot Unsupported)

/-! ## The relation -/

/-- A node is reached if it is the one that is gone through, or is asked for below it. -/
inductive Reached (above : Option (Place × Node)) (asked : List (Place × Node)) :
    Place → Node → Prop where
  | above {way : Place} {node : Node} (e : above = some (way, node)) : Reached above asked way node
  | asked {place : Place} {node : Node} (mem : (place, node) ∈ asked) :
      Reached above asked (place.settle node.shape) node

/-- A relation between the outcomes of two runs that stay in step.  `Rel above asked x y` says that
the first run gives `x` after it has asked for the given nodes, below the node `above` that it goes
through, and that the second run gives `y`. -/
structure LockStep (p q : Policy) where
  twin : Twin
  /-- Failures about the two nodes are related. -/
  Match : Node → Node → Prop
  Rel : {α : Type} → Option (Place × Node) → List (Place × Node) → Outcome α → Outcome α → Prop
  ok {α : Type} {above : Option (Place × Node)} (result : α) :
    Rel above [] (.ok result) (.ok result)
  bind {α β : Type} {above : Option (Place × Node)} {asked more : List (Place × Node)}
    {x y : Outcome α} {f g : α → Outcome β} :
    Rel above asked x y → (∀ result, Rel above more (f result) (g result)) →
      Rel above (asked ++ more) (x >>= f) (y >>= g)
  enter {α : Type} {above : Option (Place × Node)} (place : Place) {position : Position}
    {shape : Shape Node} {x y : Outcome α} :
    Node.isUnsupported ⟨position, shape⟩ = false →
      Rel (some (place.settle shape, ⟨position, shape⟩))
        (askedIn (shape.visited (place.settle shape))) x y →
      Rel above [(place, ⟨position, shape⟩)] x y
  settled {α : Type} {above : Option (Place × Node)} {place other : Place} {position : Position}
    {shape : Shape Node} {x y : Outcome α} :
    Rel above [(other, ⟨position, shape⟩)] x y → place.settle shape = other.settle shape →
      Rel above [(place, ⟨position, shape⟩)] x y
  unsupported {above : Option (Place × Node)} (position : Position)
    (pairs : Unsupported (Node × Node)) :
    Match ⟨position, Prod.fst <$> Shape.unsupported pairs⟩
        (twin.layer position (Prod.snd <$> Shape.unsupported pairs)) →
      Rel above [(.value, ⟨position, Prod.fst <$> Shape.unsupported pairs⟩)]
        (leaveOut p ⟨position, Prod.fst <$> Shape.unsupported pairs⟩)
        (value q (twin.layer position (Prod.snd <$> Shape.unsupported pairs)))
  violated {α : Type} {above : Option (Place × Node)} {asked : List (Place × Node)} {way : Place}
    {node other : Node} {violation : Violation} :
    Reached above asked way node → violation.Fits way node → Match node other →
      Rel above asked (.fail (.violated violation node) : Outcome α)
        (.fail (.violated violation other))
  argumentShape {α : Type} {above : Option (Place × Node)} {asked : List (Place × Node)}
    {node other : Node} :
    Reached above asked .arguments node → node.shape.isNoArgument = true → Match node other →
      Rel above asked (.fail (.argumentShape node) : Outcome α) (.fail (.argumentShape other))

namespace LockStep

variable {p q : Policy} (L : LockStep p q)

/-- The two nodes that a layer of pairs stands for. -/
abbrev nodes (position : Position) (pairs : Shape (Node × Node)) : Node × Node :=
  (⟨position, Prod.fst <$> pairs⟩, L.twin.layer position (Prod.snd <$> pairs))

/-- Where the first tree has an unsupported node, the second one has another one or an absent
value. -/
theorem nodes_unsupported (position : Position) (pairs : Unsupported (Node × Node)) :
    (∃ other, (L.nodes position (.unsupported pairs)).2 =
      ⟨L.twin.move position, .unsupported other⟩) ∨
      (L.nodes position (.unsupported pairs)).2 = ⟨L.twin.move position, .implicitNil⟩ :=
  L.twin.layer_unsupported position (Prod.snd <$> pairs)

/-- Two nodes that may be absent have related outcomes as values. -/
structure Values (place : Option (Node × Node)) : Prop where
  asValue {above : Option (Place × Node)} :
    L.Rel above (Place.value.asks (Prod.fst <$> place).toList) (child p (Prod.fst <$> place))
      (child q (Prod.snd <$> place))

/-- All pairs below a layer have related outcomes as values. -/
abbrev AllValues (pairs : Shape (Node × Node)) : Prop :=
  pairs.slots.Forall fun slot => ∀ pair ∈ slot.nodes, L.Values (some pair)

/-- Two nodes that may be absent have related outcomes in every position. -/
structure InStep (place : Option (Node × Node)) : Prop extends L.Values place where
  asArgs {above : Option (Place × Node)} :
    L.Rel above (Place.arguments.asks (Prod.fst <$> place).toList)
      (optionalArgs p (Prod.fst <$> place)) (optionalArgs q (Prod.snd <$> place))
  asGroup {above : Option (Place × Node)} : ∀ pair ∈ place,
    L.Rel above [(.part, pair.1)] (group p pair.1) (group q pair.2)
  asSpread {above : Option (Place × Node)} : ∀ pair ∈ place,
    L.Rel above [(.part, pair.1)] (spread p pair.1) (spread q pair.2)
  asCallArgs {above : Option (Place × Node)} :
    L.Rel above (Place.callArguments.asks (Prod.fst <$> place).toList)
      (callArgs p (Prod.fst <$> place)) (callArgs q (Prod.snd <$> place))
  asBody {above : Option (Place × Node)} :
    L.Rel above (Place.body.asks (Prod.fst <$> place).toList)
      (protectedBody p (Prod.fst <$> place)) (protectedBody q (Prod.snd <$> place))
  asRescued {above : Option (Place × Node)} :
    L.Rel above (Place.body.asks (Prod.fst <$> place).toList)
      (rescuedChild p (Prod.fst <$> place)) (rescuedChild q (Prod.snd <$> place))
  asClauses {above : Option (Place × Node)} :
    L.Rel above (Place.clause.asks (Prod.fst <$> place).toList)
      (nextClauses p (Prod.fst <$> place)) (nextClauses q (Prod.snd <$> place))
  /-- A node that looks through the pair finds pairs of values. -/
  layer : ∀ pair ∈ place, ∃ position pairs, pair = L.nodes position pairs ∧
    L.Match (L.nodes position pairs).1 (L.nodes position pairs).2 ∧ L.AllValues pairs

/-- What is known of the pairs below a layer: they have related outcomes as values, and in every
position if their kind is looked at. -/
structure Below (position : Position) (pairs : Shape (Node × Node)) : Prop where
  matched : L.Match (L.nodes position pairs).1 (L.nodes position pairs).2
  values : L.AllValues pairs
  kept : pairs.slots.Forall fun slot =>
    slot.place ≠ .value → ∀ pair ∈ slot.nodes, L.InStep (some pair)
  items : ∀ pair ∈ pairs.items, pair.2.isConcatenation = pair.1.isConcatenation ∧
    (pair.2.isConcatenation = true → L.InStep (some pair))

variable {L}

/-! ## Children that may be absent, and lists -/

section Children

variable {above : Option (Place × Node)} {place : Option (Node × Node)}
  {pairs : List (Node × Node)}

/-- Children that may be absent are values in step if those that are there are. -/
theorem Values.of_forall (h : ∀ pair ∈ place.toList, L.Values (some pair)) : L.Values place := by
  cases place with
  | none => exact ⟨L.ok none⟩
  | some pair => exact h pair List.mem_cons_self

/-- A block of its own is the value of a call, or else the one that is passed. -/
theorem Values.attached (h : L.Values place) (passed : Option Model) :
    L.Rel above (Place.value.asks (Prod.fst <$> place).toList)
      (attachedBlock p passed (Prod.fst <$> place))
      (attachedBlock q passed (Prod.snd <$> place)) := by
  cases place with
  | none => exact L.ok passed
  | some pair => exact h.asValue

/-- Children that may be absent are in step if those that are there are. -/
theorem InStep.of_forall (h : ∀ pair ∈ place.toList, L.InStep (some pair)) : L.InStep place := by
  cases place with
  | none =>
    exact {
      asValue := L.ok none
      asArgs := L.ok []
      asGroup := nofun
      asSpread := nofun
      asCallArgs := L.ok _
      asBody := L.ok _
      asRescued := L.ok _
      asClauses := L.ok []
      layer := nofun }
  | some pair => exact h pair List.mem_cons_self

/-- The last of several slots. -/
theorem last {α : Type} {asked : List (Place × Node)} {x y : Outcome α}
    (h : L.Rel above asked x y) : L.Rel above (asked ++ []) x y :=
  (List.append_nil asked).symm ▸ h

/-- A result may be changed without asking for more. -/
theorem map {α β : Type} {asked : List (Place × Node)} {x y : Outcome α} (f : α → β)
    (h : L.Rel above asked x y) :
    L.Rel above asked (x >>= fun result => pure (f result))
      (y >>= fun result => pure (f result)) :=
  List.append_nil asked ▸ L.bind h fun result => L.ok (f result)

/-- The nodes of a list are asked for one after the other. -/
theorem list_rel (h : ∀ pair ∈ pairs, L.Values (some pair)) :
    L.Rel above (Place.value.asks (Prod.fst <$> pairs)) (list p (Prod.fst <$> pairs))
      (list q (Prod.snd <$> pairs)) := by
  induction pairs with
  | nil => exact L.ok []
  | cons pair pairs ih =>
    obtain ⟨first, others⟩ := List.forall_mem_cons.1 h
    exact L.bind first.asValue fun _ => L.map _ (ih others)

/-- Keys and values that pair up are asked for one after the other. -/
theorem hashPairs_rel : ∀ {pairs : List (Node × Node)}, pairs.length % 2 = 0 →
    (∀ pair ∈ pairs, L.Values (some pair)) →
    L.Rel above (Place.value.asks (Prod.fst <$> pairs)) (hashPairs p (Prod.fst <$> pairs))
      (hashPairs q (Prod.snd <$> pairs))
  | [], _, _ => L.ok []
  | [_], even, _ => by contradiction
  | key :: val :: rest, even, h => by
    obtain ⟨hkey, h⟩ := List.forall_mem_cons.1 h
    obtain ⟨hval, h⟩ := List.forall_mem_cons.1 h
    have evenRest : rest.length % 2 = 0 := by
      simp only [List.length_cons] at even
      omega
    exact L.bind hkey.asValue fun _ => L.bind hval.asValue fun _ =>
      L.map _ (hashPairs_rel evenRest h)

/-- A node is an item by its arguments if it is a concatenation, and by its value if not. -/
theorem item_rel {pair : Node × Node} (asValue : L.Values (some pair))
    (form : pair.2.isConcatenation = pair.1.isConcatenation)
    (asArgs : pair.2.isConcatenation = true →
      L.Rel above [(.arguments, pair.1)] (args p pair.1) (args q pair.2)) :
    L.Rel above [(.value, pair.1)] (item p pair.1) (item q pair.2) := by
  obtain ⟨⟨position, shape⟩, other⟩ := pair
  rw [item_eq, item_eq, form]
  cases shape with
  | concat => exact L.settled (asArgs form) rfl
  | _ => exact L.map _ asValue.asValue

/-- So are the items of a list. -/
theorem itemList_rel (h : ∀ pair ∈ pairs,
    L.Rel above [(.value, pair.1)] (item p pair.1) (item q pair.2)) :
    L.Rel above (Place.value.asks (Prod.fst <$> pairs)) (itemList p (Prod.fst <$> pairs))
      (itemList q (Prod.snd <$> pairs)) := by
  induction pairs with
  | nil => exact L.ok []
  | cons pair pairs ih =>
    obtain ⟨first, others⟩ := List.forall_mem_cons.1 h
    exact L.bind first fun _ => L.map _ (ih others)

end Children

/-! ## One layer in each position -/

section Steps

variable {above : Option (Place × Node)} {position : Position}

/-- A failure about the node that is gone through. -/
theorem refused {α : Type} {asked : List (Place × Node)} {way : Place} {node other : Node}
    {violation : Violation} (fits : violation.Fits way node) (matched : L.Match node other) :
    L.Rel (some (way, node)) asked (.fail (.violated violation node) : Outcome α)
      (.fail (.violated violation other)) :=
  L.violated (.above rfl) fits matched

/-- The check of a setter's arguments looks at models only. -/
theorem attributeAssignment_rel {receiver args : Option Node} {setter : String} {other : Node}
    (matched : L.Match ⟨position, .attributeAssign receiver setter args⟩ other)
    (object : Option Model) (models : List Model) :
    L.Rel (some (.value, ⟨position, .attributeAssign receiver setter args⟩)) []
      (attributeAssignment ⟨position, .attributeAssign receiver setter args⟩ object setter models)
      (attributeAssignment other object setter models) := by
  unfold attributeAssignment
  split
  · next isElement =>
    split
    · exact L.refused (.inr ⟨receiver, args, isElement ▸ rfl⟩) matched
    · exact L.ok _
  · exact L.ok _

/-- The check of a logical assignment looks at models only. -/
theorem logicalAssignment_rel {operator : Logical} {first second other : Node}
    (matched : L.Match ⟨position, .logicalAssign operator first second⟩ other)
    (assigned right : Option Model) :
    L.Rel (some (.value, ⟨position, .logicalAssign operator first second⟩)) []
      (logicalAssignment ⟨position, .logicalAssign operator first second⟩ operator assigned right)
      (logicalAssignment other operator assigned right) := by
  unfold logicalAssignment
  split
  · exact L.ok _
  · split
    · exact L.ok _
    · exact L.refused ⟨operator, first, second, rfl⟩ matched

/-- A node of another kind than its slot calls for. -/
theorem mismatched {α : Type} {asked : List (Place × Node)} {place : Place} {kind : Raw.Kind}
    {node other : Node} (mem : (place, node) ∈ asked)
    (fits : (Violation.kindExpected kind).Fits (place.settle node.shape) node)
    (matched : L.Match node other) :
    L.Rel above asked (.fail (.violated (.kindExpected kind) node) : Outcome α)
      (.fail (.violated (.kindExpected kind) other)) :=
  L.violated (.asked mem) fits matched

/-- The statement `body rescue value` looks through its clause at the value. -/
theorem rescue_rel {body clause elseBody : Option (Node × Node)}
    (h : L.Below position (.rescue body clause elseBody)) :
    L.Values (some (L.nodes position (.rescue body clause elseBody))) := by
  obtain ⟨matched, values, kept, -⟩ := h
  refine ⟨L.enter .value rfl ?_⟩
  cases clause with
  | none => exact L.refused ⟨_, _, rfl⟩ matched
  | some clause =>
    obtain ⟨place, pairs, rfl, matched, inner⟩ :=
      (kept.2.1 nofun clause List.mem_cons_self).layer clause rfl
    change L.Rel _ _ _ (value q ⟨L.twin.move position, .rescue (Prod.snd <$> body)
      (some (L.nodes place pairs).2) (Prod.snd <$> elseBody)⟩)
    cases pairs with
    | rescueBody exceptions rescued next =>
      -- The clause is asked for as a handler, and below it only its body as a value.
      have handler {above : Option (Place × Node)} : L.Rel above
          [(.handler, (L.nodes place (.rescueBody exceptions rescued next)).1)]
          (child p (Prod.fst <$> rescued)) (child q (Prod.snd <$> rescued)) :=
        L.enter .handler rfl (L.last (Values.of_forall inner.2.1).asValue)
      exact L.bind (Values.of_forall values.1).asValue fun _ => L.bind handler fun _ => L.ok _
    | unsupported pairs =>
      obtain ⟨_, e⟩ | e := L.nodes_unsupported place pairs <;> rw [e] at matched ⊢ <;>
        exact L.mismatched (List.mem_append_right _ List.mem_cons_self)
          (.inl ⟨.inr rfl, rfl, rfl⟩) matched
    | _ =>
      exact L.mismatched (List.mem_append_right _ List.mem_cons_self) (.inl ⟨.inr rfl, rfl, rfl⟩)
        matched

/-- A hash looks through its list at the keys and values. -/
theorem hash_rel {elements : Option (Node × Node)} (h : L.Below position (.hash elements)) :
    L.Values (some (L.nodes position (.hash elements))) := by
  obtain ⟨whole, -, kept, -⟩ := h
  refine ⟨L.enter .value rfl ?_⟩
  cases elements with
  | none => exact L.ok _
  | some elements =>
    obtain ⟨place, pairs, rfl, matched, inner⟩ :=
      (kept nofun elements List.mem_cons_self).layer elements rfl
    change L.Rel _ _ _
      (value q ⟨L.twin.move position, .hash (some (L.nodes place pairs).2)⟩)
    cases pairs with
    | elements form items =>
      have length : (Prod.fst <$> items).length = items.length := List.length_map _
      have length' : (Prod.snd <$> items).length = items.length := List.length_map _
      change L.Rel _ _ (if (Prod.fst <$> items).length % 2 = 0 then _ else _)
        (if (Prod.snd <$> items).length % 2 = 0 then _ else _)
      rw [length, length']
      by_cases even : items.length % 2 = 0
      · rw [if_pos even, if_pos even]
        have pairs {above : Option (Place × Node)} : L.Rel above
            [(.pairs, (L.nodes place (.elements form items)).1)] _ _ :=
          L.enter .pairs rfl (L.last (hashPairs_rel even inner))
        exact L.bind pairs fun _ => L.ok _
      · rw [if_neg even, if_neg even]
        have odd : (Violation.oddHash items.length).Fits .value
            (L.nodes position (.hash (some (L.nodes place (.elements form items))))).1 :=
          ⟨place, form, _, rfl, length, Nat.mod_two_ne_zero.1 even⟩
        exact L.refused odd whole
    | unsupported pairs =>
      obtain ⟨_, e⟩ | e := L.nodes_unsupported place pairs <;> rw [e] at matched ⊢ <;>
        exact L.mismatched List.mem_cons_self (.inr (.inl ⟨rfl, rfl, rfl⟩)) matched
    | _ => exact L.mismatched List.mem_cons_self (.inr (.inl ⟨rfl, rfl, rfl⟩)) matched

/-- A parameter with a default looks through the assignment at its value. -/
theorem optionalParam_rel {assignment : Node × Node}
    (h : L.Below position (.optionalParam assignment)) :
    L.Values (some (L.nodes position (.optionalParam assignment))) := by
  refine ⟨L.enter .value rfl ?_⟩
  obtain ⟨place, pairs, rfl, matched, inner⟩ :=
    (h.kept nofun assignment List.mem_cons_self).layer assignment rfl
  change L.Rel _ _ _
    (value q ⟨L.twin.move position, .optionalParam (L.nodes place pairs).2⟩)
  cases pairs with
  | localAssign scope name default =>
    have assigned {above : Option (Place × Node)} : L.Rel above
        [(.default, (L.nodes place (.localAssign scope name default)).1)] _ _ :=
      L.enter .default rfl (L.last (Values.of_forall inner).asValue)
    exact L.bind assigned fun _ => L.ok _
  | unsupported pairs =>
    obtain ⟨_, e⟩ | e := L.nodes_unsupported place pairs <;> rw [e] at matched ⊢ <;>
      exact L.mismatched List.mem_cons_self (.inr (.inr ⟨rfl, rfl, rfl⟩)) matched
  | _ => exact L.mismatched List.mem_cons_self (.inr (.inr ⟨rfl, rfl, rfl⟩)) matched

/-- The two parts of a concatenation are asked for one after the other. -/
theorem concat_rel {form : Raw.Concat} {first second : Node × Node}
    (h : L.Below position (.concat form first second)) :
    L.Rel above [(.arguments, (L.nodes position (.concat form first second)).1)]
      (args p (L.nodes position (.concat form first second)).1)
      (args q (L.nodes position (.concat form first second)).2) := by
  refine L.enter .arguments rfl ?_
  cases form with
  | cat =>
    have hfirst := h.kept.1 nofun first List.mem_cons_self
    have hsecond := h.kept.2 nofun second List.mem_cons_self
    exact L.bind (hfirst.asGroup first rfl) fun _ =>
      L.bind (hsecond.asSpread second rfl) fun _ => L.ok _
  | push =>
    have hfirst := h.kept.1 nofun first List.mem_cons_self
    obtain ⟨form, step⟩ := h.items second List.mem_cons_self
    have hsecond {above : Option (Place × Node)} :
        L.Rel above [(.value, second.1)] (item p second.1) (item q second.2) :=
      item_rel (h.values.2 second List.mem_cons_self) form fun isList => (step isList).asArgs
    exact L.bind (hfirst.asGroup first rfl) fun _ => L.bind hsecond fun _ => L.ok _

/-- **One layer in value position:** the children are asked for in the same order. -/
theorem value_rel {pairs : Shape (Node × Node)} (h : L.Below position pairs) :
    L.Values (some (L.nodes position pairs)) := by
  obtain ⟨matched, values, kept, -⟩ := id h
  refine ⟨?_⟩
  intro above
  cases pairs with
  | unsupported pairs => exact L.unsupported position pairs matched
  | rescue => exact (rescue_rel h).asValue
  | hash => exact (hash_rel h).asValue
  | optionalParam => exact (optionalParam_rel h).asValue
  | var scope name =>
    change L.Rel above _ (.ok (some (Model.mk (.var scope (varName scope name)))))
      (.ok (some (Model.mk (.var scope (varName scope (L.twin.rename scope name))))))
    rw [L.twin.varName_rename]
    exact L.enter .value rfl (L.ok _)
  | varAssign form name value =>
    refine L.enter .value rfl (L.bind (Values.of_forall values).asValue fun value => ?_)
    rw [L.twin.varName_rename]
    exact L.ok _
  | elementUpdate receiver args operator value =>
    refine L.enter .value rfl (L.bind (Values.of_forall values.1).asValue fun _ =>
      L.bind (InStep.of_forall (kept.2.1 nofun)).asArgs fun indices => ?_)
    -- The indices are counted before the value is looked at.
    by_cases several : 1 < indices.length
    · rw [if_pos several, if_pos several]
      exact L.refused (.inl ⟨_, _, _, _, rfl⟩) matched
    · rw [if_neg several, if_neg several]
      exact L.bind (Values.of_forall values.2.2).asValue fun _ => L.ok _
  | attributeAssign =>
    exact L.enter .value rfl (L.bind (Values.of_forall values.1).asValue fun _ =>
      L.bind (InStep.of_forall (kept.2 nofun)).asArgs fun _ => attributeAssignment_rel matched _ _)
  | logicalAssign operator first second =>
    exact L.enter .value rfl (L.bind (values.1 first List.mem_cons_self).asValue fun _ =>
      L.bind (values.2 second List.mem_cons_self).asValue fun _ =>
        logicalAssignment_rel matched _ _)
  | root | params => exact L.violated (.asked List.mem_cons_self) ⟨rfl, rfl⟩ matched
  | elements form items =>
    cases form with
    | array => exact L.enter .value rfl (L.bind (list_rel values) fun _ => L.ok _)
    | list => exact L.violated (.asked List.mem_cons_self) ⟨rfl, rfl⟩ matched
  | concat form first second =>
    change L.Rel above _ (value p ⟨position, .concat form first.1 second.1⟩)
      (value q ⟨L.twin.move position, .concat form first.2 second.2⟩)
    rw [value_of_isConcatenation p rfl, value_of_isConcatenation q rfl]
    exact L.map _ (L.settled (concat_rel h) rfl)
  | wrap => exact L.enter .value rfl (L.last (Values.of_forall values).asValue)
  | block | dynamicText => exact L.enter .value rfl (L.bind (list_rel values) fun _ => L.ok _)
  | implicitNil | leaf | text | constant | topConstant | star | variableCall | emptyArray | param
  | restParam | blockParam => exact L.enter .value rfl (L.ok _)
  | localAssign | scopedConstant | constantDecl | jump | bareSuper | splat =>
    exact L.enter .value rfl (L.bind (Values.of_forall values).asValue fun _ => L.ok _)
  | yield =>
    exact L.enter .value rfl (L.bind (InStep.of_forall (kept nofun)).asArgs fun _ => L.ok _)
  | beginBlock =>
    exact L.enter .value rfl (L.bind (InStep.of_forall (kept nofun)).asBody fun _ => L.ok _)
  | undef child | isDefined child | negation child | unaryCall child =>
    exact L.enter .value rfl (L.bind (values child List.mem_cons_self).asValue fun _ => L.ok _)
  | aliasName first second | logical _ first second =>
    exact L.enter .value rfl (L.bind (values.1 first List.mem_cons_self).asValue fun _ =>
      L.bind (values.2 second List.mem_cons_self).asValue fun _ => L.ok _)
  | regexMatch receiver value =>
    exact L.enter .value rfl (L.bind (values.2 value List.mem_cons_self).asValue fun _ =>
      L.bind (values.1 receiver List.mem_cons_self).asValue fun _ => L.ok _)
  | operatorAssign | loop | whenClause | range =>
    exact L.enter .value rfl (L.bind (Values.of_forall values.1).asValue fun _ =>
      L.bind (Values.of_forall values.2).asValue fun _ => L.ok _)
  | blockPass =>
    exact L.enter .value rfl (L.bind (Values.of_forall values.1).asValue fun _ => L.ok _)
  | iterator =>
    exact L.enter .value rfl (L.bind (InStep.of_forall (kept.1 nofun)).asArgs fun _ =>
      L.bind (Values.of_forall values.2).asValue fun _ => L.ok _)
  | rescueBody =>
    exact L.enter .value rfl (L.bind (InStep.of_forall (kept.1 nofun)).asArgs fun _ =>
      L.bind (Values.of_forall values.2.1).asValue fun _ => L.ok _)
  | ensure =>
    exact L.enter .value rfl (L.bind (Values.of_forall values.2).asValue fun _ =>
      L.bind (InStep.of_forall (kept.1 nofun)).asRescued fun _ => L.ok _)
  | define =>
    exact L.enter .value rfl (L.bind (InStep.of_forall (kept.1 nofun)).asArgs fun _ =>
      L.bind (InStep.of_forall (kept.2 nofun)).asBody fun _ => L.ok _)
  | defineOn =>
    exact L.enter .value rfl (L.bind (Values.of_forall values.1).asValue fun _ =>
      L.bind (InStep.of_forall (kept.2.1 nofun)).asArgs fun _ =>
        L.bind (InStep.of_forall (kept.2.2 nofun)).asBody fun _ => L.ok _)
  | functionCall | superCall =>
    exact L.enter .value rfl (L.bind (InStep.of_forall (kept.1 nofun)).asCallArgs fun _ =>
      L.bind ((Values.of_forall values.2).attached _) fun _ => L.ok _)
  | call =>
    exact L.enter .value rfl (L.bind (Values.of_forall values.1).asValue fun _ =>
      L.bind (InStep.of_forall (kept.2.1 nofun)).asCallArgs fun _ =>
        L.bind ((Values.of_forall values.2.2).attached _) fun _ => L.ok _)
  | classDecl path =>
    exact L.enter .value rfl (L.bind (values.1 path List.mem_cons_self).asValue fun _ =>
      L.bind (Values.of_forall values.2.1).asValue fun _ =>
        L.bind (Values.of_forall values.2.2).asValue fun _ => L.ok _)
  | moduleDecl path =>
    exact L.enter .value rfl (L.bind (values.1 path List.mem_cons_self).asValue fun _ =>
      L.bind (Values.of_forall values.2).asValue fun _ => L.ok _)
  | ifElse =>
    exact L.enter .value rfl (L.bind (Values.of_forall values.1).asValue fun _ =>
      L.bind (Values.of_forall values.2.1).asValue fun _ =>
        L.bind (Values.of_forall values.2.2).asValue fun _ => L.ok _)
  | caseOf =>
    exact L.enter .value rfl (L.bind (Values.of_forall values.1).asValue fun _ =>
      L.bind (list_rel values.2.1) fun _ =>
        L.bind (Values.of_forall values.2.2).asValue fun _ => L.ok _)
  | multipleAssign =>
    exact L.enter .value rfl (L.bind (InStep.of_forall (kept.1 nofun)).asArgs fun _ =>
      L.bind (Values.of_forall values.2.1).asValue fun _ =>
        L.bind (InStep.of_forall (kept.2.2.1 nofun)).asArgs fun _ =>
          L.bind (Values.of_forall values.2.2.2).asValue fun _ => L.ok _)

/-- One layer in argument position. -/
theorem args_rel {pairs : Shape (Node × Node)} (h : L.Below position pairs) :
    L.Rel above [(.arguments, (L.nodes position pairs).1)] (args p (L.nodes position pairs).1)
      (args q (L.nodes position pairs).2) := by
  have asValue : L.Rel above _ (value p (L.nodes position pairs).1)
    (value q (L.nodes position pairs).2) := (value_rel h).asValue
  obtain ⟨matched, values, kept, -⟩ := id h
  cases pairs with
  | elements => exact L.enter .arguments rfl (L.last (list_rel values))
  | params =>
    exact L.enter .arguments rfl (L.bind (InStep.of_forall (kept.1 nofun)).asArgs fun _ =>
      L.bind (InStep.of_forall (kept.2.1 nofun)).asArgs fun _ =>
        L.bind (InStep.of_forall (kept.2.2.1 nofun)).asArgs fun _ =>
          L.bind (InStep.of_forall (kept.2.2.2.1 nofun)).asArgs fun _ =>
            L.bind (InStep.of_forall (kept.2.2.2.2 nofun)).asArgs fun _ => L.ok _)
  | concat => exact concat_rel h
  | root | whenClause | rescueBody =>
    exact L.argumentShape (.asked List.mem_cons_self) rfl matched
  | unsupported pairs =>
    obtain ⟨_, e⟩ | e := L.nodes_unsupported position pairs <;> rw [e] at asValue ⊢ <;>
      exact L.settled (L.map _ asValue) rfl
  | _ => exact L.settled (L.map _ asValue) rfl

/-- One layer before the last part of a concatenation. -/
theorem group_rel {pairs : Shape (Node × Node)} (h : L.Below position pairs) :
    L.Rel above [(.part, (L.nodes position pairs).1)] (group p (L.nodes position pairs).1)
      (group q (L.nodes position pairs).2) := by
  have asItem (form : (L.nodes position pairs).2.isConcatenation =
      (L.nodes position pairs).1.isConcatenation) : L.Rel above _
    (item p (L.nodes position pairs).1) (item q (L.nodes position pairs).2) :=
    item_rel (value_rel h) form fun _ => args_rel h
  rw [group_eq, group_eq]
  cases pairs with
  | elements form items =>
    refine L.enter .part rfl (L.last (itemList_rel fun pair mem => ?_))
    obtain ⟨form, step⟩ := h.items pair mem
    exact item_rel (h.values pair mem) form fun isList => (step isList).asArgs
  | unsupported pairs =>
    obtain ⟨_, e⟩ | e := L.nodes_unsupported position pairs <;> rw [e] at asItem ⊢ <;>
      exact L.settled (asItem rfl) rfl
  | _ => exact L.settled (asItem rfl) rfl

/-- One layer of a value that is spread. -/
theorem spread_rel {pairs : Shape (Node × Node)} (h : L.Below position pairs) :
    L.Rel above [(.part, (L.nodes position pairs).1)] (spread p (L.nodes position pairs).1)
      (spread q (L.nodes position pairs).2) := by
  have asValue : L.Rel above _ (value p (L.nodes position pairs).1)
    (value q (L.nodes position pairs).2) := (value_rel h).asValue
  rw [spread_eq, spread_eq]
  cases pairs with
  | elements => exact L.enter .part rfl (L.last (list_rel h.values))
  | unsupported pairs =>
    obtain ⟨_, e⟩ | e := L.nodes_unsupported position pairs <;> rw [e] at asValue ⊢ <;>
      exact L.settled (L.map _ asValue) rfl
  | _ => exact L.settled (L.map _ asValue) rfl

/-- One layer of the arguments of a call. -/
theorem callArgs_rel {pairs : Shape (Node × Node)} (h : L.Below position pairs) :
    L.Rel above [(.callArguments, (L.nodes position pairs).1)]
      (callArgs p (some (L.nodes position pairs).1))
      (callArgs q (some (L.nodes position pairs).2)) := by
  have asArgs : L.Rel above _ (args p (L.nodes position pairs).1)
    (args q (L.nodes position pairs).2) := args_rel h
  cases pairs with
  | blockPass =>
    exact L.enter .callArguments rfl (L.bind (Values.of_forall h.values.1).asValue fun _ =>
      L.bind (InStep.of_forall (h.kept.2 nofun)).asArgs fun _ => L.ok _)
  | unsupported pairs =>
    obtain ⟨_, e⟩ | e := L.nodes_unsupported position pairs <;> rw [e] at asArgs ⊢ <;>
      exact L.settled (L.map _ asArgs) rfl
  | _ => exact L.settled (L.map _ asArgs) rfl

/-- One layer of a body with rescue clauses. -/
theorem rescued_rel {pairs : Shape (Node × Node)} (h : L.Below position pairs) :
    L.Rel above [(.body, (L.nodes position pairs).1)] (rescued p (L.nodes position pairs).1)
      (rescued q (L.nodes position pairs).2) := by
  have asValue : L.Rel above _ (value p (L.nodes position pairs).1)
    (value q (L.nodes position pairs).2) := (value_rel h).asValue
  obtain ⟨matched, values, kept, -⟩ := h
  cases pairs with
  | rescue body clause elseBody =>
    refine L.enter .body rfl (L.bind (Values.of_forall values.1).asValue fun _ => ?_)
    cases clause with
    | none => exact L.refused ⟨_, _, rfl⟩ matched
    | some clause =>
      exact L.bind (kept.2.1 nofun clause List.mem_cons_self).asClauses fun _ =>
        L.bind (Values.of_forall values.2.2).asValue fun _ => L.ok _
  | unsupported pairs =>
    obtain ⟨_, e⟩ | e := L.nodes_unsupported position pairs <;> rw [e] at asValue ⊢ <;>
      exact L.settled (L.map _ asValue) rfl
  | _ => exact L.settled (L.map _ asValue) rfl

/-- One layer of a body with rescue and ensure parts. -/
theorem protectedBody_rel {pairs : Shape (Node × Node)} (h : L.Below position pairs) :
    L.Rel above [(.body, (L.nodes position pairs).1)]
      (protectedBody p (some (L.nodes position pairs).1))
      (protectedBody q (some (L.nodes position pairs).2)) := by
  have asRescued : L.Rel above _ (rescued p (L.nodes position pairs).1)
    (rescued q (L.nodes position pairs).2) := rescued_rel h
  cases pairs with
  | ensure =>
    exact L.enter .body rfl (L.bind (Values.of_forall h.values.2).asValue fun _ =>
      L.bind (InStep.of_forall (h.kept.1 nofun)).asRescued fun _ => L.ok _)
  | unsupported pairs =>
    obtain ⟨_, e⟩ | e := L.nodes_unsupported position pairs <;> rw [e] at asRescued ⊢ <;>
      exact asRescued
  | _ => exact asRescued

/-- One layer of a chain of rescue clauses. -/
theorem rescueClauses_rel {pairs : Shape (Node × Node)} (h : L.Below position pairs) :
    L.Rel above [(.clause, (L.nodes position pairs).1)]
      (rescueClauses p (L.nodes position pairs).1)
      (rescueClauses q (L.nodes position pairs).2) := by
  have matched := h.matched
  cases pairs with
  | rescueBody =>
    exact L.enter .clause rfl (L.bind (InStep.of_forall (h.kept.1 nofun)).asArgs fun _ =>
      L.bind (Values.of_forall h.values.2.1).asValue fun _ =>
        L.bind (InStep.of_forall (h.kept.2.2 nofun)).asClauses fun _ => L.ok _)
  | unsupported pairs =>
    obtain ⟨_, e⟩ | e := L.nodes_unsupported position pairs <;> rw [e] at matched ⊢ <;>
      exact L.mismatched List.mem_cons_self (.inl ⟨.inl rfl, rfl, rfl⟩) matched
  | _ => exact L.mismatched List.mem_cons_self (.inl ⟨.inl rfl, rfl, rfl⟩) matched

end Steps

/-- **One layer in every position:** a layer of pairs is a pair in step, if the pairs are values in
step, and in step where their kind is looked at. -/
theorem Below.inStep {position : Position} {pairs : Shape (Node × Node)}
    (h : L.Below position pairs) : L.InStep (some (L.nodes position pairs)) where
  asValue := (value_rel h).asValue
  asArgs := args_rel h
  asGroup _ found := Option.some.inj found ▸ group_rel h
  asSpread _ found := Option.some.inj found ▸ spread_rel h
  asCallArgs := callArgs_rel h
  asBody := protectedBody_rel h
  asRescued := rescued_rel h
  asClauses := rescueClauses_rel h
  layer _ found := ⟨position, pairs, (Option.some.inj found).symm, h.matched, h.values⟩

/-- **A tree and its twin are in step,** in every position. -/
theorem inStep_twin (matched : ∀ node, L.Match node (L.twin.of node)) (node : Node) :
    L.InStep (some (node, L.twin.of node)) := by
  induction node using Node.induction with
  | step position shape all =>
    have step (child : Node) (mem : child ∈ shape.children) :
        L.InStep (some (child, L.twin.of child)) := Shape.all_iff.1 all child mem
    -- A node and its twin are the two nodes of one layer of pairs.
    have layer : L.nodes position (shape.beside L.twin.of) =
        (⟨position, shape⟩, L.twin.of ⟨position, shape⟩) := by
      rw [nodes, shape.fst_beside, shape.snd_beside, L.twin.of_mk]
    have slots (slot : Slot (Node × Node)) (mem : slot ∈ (shape.beside L.twin.of).slots)
        (pair : Node × Node) (inSlot : pair ∈ slot.nodes) : L.InStep (some pair) := by
      rw [Shape.beside, Shape.slots_map] at mem
      obtain ⟨slot, inShape, rfl⟩ := List.mem_map.1 mem
      obtain ⟨child, among, rfl⟩ := List.mem_map.1 inSlot
      exact step child (List.mem_flatMap.2 ⟨slot, inShape, among⟩)
    rw [← layer]
    refine Below.inStep {
      matched := by rw [layer]; exact matched _
      values := List.forall_iff_forall_mem.2 fun slot mem pair inSlot =>
        (slots slot mem pair inSlot).toValues
      kept := List.forall_iff_forall_mem.2 fun slot mem _ => slots slot mem
      items := fun pair mem => ?_ }
    obtain ⟨slot, inShape, inSlot⟩ := Shape.mem_slots_of_mem_items mem
    rw [Shape.beside, Shape.items_map] at mem
    obtain ⟨child, -, rfl⟩ := List.mem_map.1 mem
    exact ⟨L.twin.isConcatenation_of child, fun _ => slots slot inShape _ inSlot⟩

end LockStep
end Lowering
end RubyModel
