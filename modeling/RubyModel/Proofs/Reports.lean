/-
# What a run reports

A run reports warnings and at most one failure (`SPEC_FULL.md`, §7 and §16.2).  Both are told by the
nodes that it looks at (`Node.visits`):

| the run | then |
| --- | --- |
| succeeds | the warnings are those about the unsupported nodes it looks at, in order |
| fails | the failure is about a node it looks at, and fits the way in which that node is read |

`Stops` says which failures fit a node, and `Traces` is the table for an outcome and the nodes that
are asked for to get it.  It goes on along the rules of a run (`Traces.bind`, `Traces.enter`), so a
run is in step with itself (`looking`) and traces the nodes that it looks at (`child_traces`).
-/

import RubyModel.Program
import RubyModel.Proofs.LockStep
import RubyModel.Raw.Build

namespace RubyModel

open Raw (Node Shape Place Slot askedIn visitsOf)

namespace Lowering

/-- The failures about a node that is read in the given way. -/
def Stops (policy : Policy) (way : Place) (node : Node) : Failure → Prop
  | .unrecognized found => found = node ∧ node.isUnsupported = true ∧ policy = .strict
  | .argumentShape found => found = node ∧ way = .arguments ∧ node.shape.isNoArgument = true
  | .violated violation found => found = node ∧ violation.Fits way node
  | .rootExpected _ => False

/-- The unsupported nodes that are looked at from nodes that are asked for on. -/
def gapsOf (asked : List (Place × Node)) : List Node :=
  ((visitsOf asked).map Prod.snd).filter Node.isUnsupported

/-- The unsupported nodes that are looked at from one node on. -/
theorem gapsOf_single (place : Place) (node : Node) : gapsOf [(place, node)] = node.gaps place := by
  rw [gapsOf, Raw.visitsOf_single, Node.gaps]

/-- The outcome of asking for the given nodes below the node that is gone through. -/
structure Traces (policy : Policy) (above : Option (Place × Node)) (asked : List (Place × Node))
    {α : Type} (outcome : Outcome α) : Prop where
  finished (result : α) : outcome.result = .ok result →
    outcome.diagnostics = (gapsOf asked).map .leftOut
  stopped (failure : Failure) : outcome.result = .error failure →
    ∃ way node, (above = some (way, node) ∨ (way, node) ∈ visitsOf asked) ∧
      Stops policy way node failure

namespace Traces

variable {policy : Policy} {above : Option (Place × Node)} {asked more : List (Place × Node)}
  {α β : Type}

theorem ok (result : α) : Traces policy above [] (.ok result) where
  finished _ _ := rfl
  stopped _ e := nomatch e

/-- A failure about a node that is reached. -/
theorem fail {failure : Failure} {way : Place} {node : Node}
    (reached : Reached above asked way node) (stops : Stops policy way node failure) :
    Traces policy above asked (.fail failure : Outcome α) := by
  refine ⟨fun _ e => (nomatch e), fun other e => ?_⟩
  obtain rfl := Except.error.inj e
  cases reached with
  | above e => exact ⟨way, node, .inl e, stops⟩
  | asked mem =>
    refine ⟨_, node, .inr (List.mem_flatMap.2 ⟨_, mem, ?_⟩), stops⟩
    obtain ⟨position, shape⟩ := node
    rw [Node.visits_eq]
    exact List.mem_cons_self

/-- **One part after the other:** what comes of an outcome traces what is asked for next. -/
theorem bind {x : Outcome α} {f : α → Outcome β} (first : Traces policy above asked x)
    (next : ∀ result, Traces policy above more (f result)) :
    Traces policy above (asked ++ more) (x >>= f) := by
  have gaps : gapsOf (asked ++ more) = gapsOf asked ++ gapsOf more := by
    rw [gapsOf, Raw.visitsOf_append, List.map_append, List.filter_append, gapsOf, gapsOf]
  obtain ⟨failure | result, diagnostics⟩ := x
  · refine ⟨fun _ e => (nomatch e), fun other e => ?_⟩
    obtain rfl : failure = other := Except.error.inj e
    obtain ⟨way, node, seen, stops⟩ := first.stopped failure rfl
    rw [Raw.visitsOf_append]
    exact ⟨way, node, seen.imp_right (List.mem_append_left _), stops⟩
  · refine ⟨fun final e => ?_, fun failure e => ?_⟩
    · have noted := first.finished result rfl
      have later := (next result).finished final e
      rw [gaps, List.map_append, ← noted, ← later]
      rfl
    · obtain ⟨way, node, seen, stops⟩ := (next result).stopped failure e
      rw [Raw.visitsOf_append]
      exact ⟨way, node, seen.imp_right (List.mem_append_right _), stops⟩

/-- A node that is asked for, and then what is asked for below it. -/
theorem enter {x : Outcome α} (place : Place) {position : Position} {shape : Shape Node}
    (supported : Node.isUnsupported ⟨position, shape⟩ = false)
    (below : Traces policy (some (place.settle shape, ⟨position, shape⟩))
      (askedIn (shape.visited (place.settle shape))) x) :
    Traces policy above [(place, ⟨position, shape⟩)] x := by
  have visits := (Raw.visitsOf_single place ⟨position, shape⟩).trans
    (Node.visits_eq place position shape)
  refine ⟨fun result e => ?_, fun failure e => ?_⟩
  · rw [below.finished result e, gapsOf, gapsOf, visits, List.map_cons,
      List.filter_cons_of_neg (Bool.eq_false_iff.1 supported)]
  · rw [visits]
    obtain ⟨way, node, here | seen, stops⟩ := below.stopped failure e
    · exact ⟨way, node, .inr (Option.some.inj here ▸ List.mem_cons_self), stops⟩
    · exact ⟨way, node, .inr (List.mem_cons_of_mem _ seen), stops⟩

/-- An unsupported node is refused or left out. -/
theorem unsupported (place : Place) (position : Position) (shape : Raw.Unsupported Node) :
    Traces policy above [(place, ⟨position, .unsupported shape⟩)]
      (leaveOut policy ⟨position, .unsupported shape⟩) := by
  cases policy with
  | strict => exact fail (.asked List.mem_cons_self) ⟨rfl, rfl, rfl⟩
  | permissive =>
    refine ⟨fun result e => ?_, fun _ e => (nomatch e)⟩
    rw [gapsOf, Raw.visitsOf_single, Node.visits_eq]
    rfl

/-- Places that settle on the same way of reading a node look at the same nodes. -/
theorem settled {x : Outcome α} {place other : Place} {position : Position} {shape : Shape Node}
    (traces : Traces policy above [(other, ⟨position, shape⟩)] x)
    (same : place.settle shape = other.settle shape) :
    Traces policy above [(place, ⟨position, shape⟩)] x := by
  have visits : visitsOf [(place, ⟨position, shape⟩)] = visitsOf [(other, ⟨position, shape⟩)] := by
    rw [Raw.visitsOf_single, Raw.visitsOf_single, Node.visits_eq, Node.visits_eq, same]
  refine ⟨fun result e => ?_, fun failure e => ?_⟩
  · rw [traces.finished result e, gapsOf, gapsOf, visits]
  · rw [visits]
    exact traces.stopped failure e

end Traces

/-- A run beside itself: what is asked for is traced. -/
def looking (policy : Policy) : LockStep policy policy where
  twin := .unchanged
  Match node other := node = other
  Rel above asked x _ := Traces policy above asked x
  ok := .ok
  bind := .bind
  enter place _ _ _ _ supported below := .enter place supported below
  settled := .settled
  unsupported position pairs _ := .unsupported .value position (Prod.fst <$> pairs)
  violated reached fits _ := .fail reached ⟨rfl, fits⟩
  argumentShape reached noArgument _ := .fail reached ⟨rfl, rfl, noArgument⟩

/-- **Every outcome traces the nodes that are looked at.** -/
theorem child_traces (policy : Policy) (place : Option Node) :
    Traces policy none (Place.value.asks place.toList) (child policy place) := by
  cases place with
  | none => exact .ok none
  | some node =>
    have self (node : Node) : node = (looking policy).twin.of node := (Twin.of_unchanged node).symm
    have step : (looking policy).Rel none _ _ _ := (LockStep.inStep_twin self node).asValue
    exact step

end Lowering

namespace ModelTree

open Lowering (Stops gapsOf gapsOf_single child_traces)

/-! ## Warnings -/

/-- The warnings of a run over what a program holds. -/
theorem gaps_root (position : Position) (body : Option Node) :
    Node.gaps .program ⟨position, .root body⟩ = gapsOf (Place.value.asks body.toList) := by
  rw [Node.gaps, Node.visits_eq, ← List.append_nil (Place.value.asks body.toList)]
  rfl

section Reported

open Raw.Build

/-- A shell command. -/
def command (text : String) : Node := unplaced (.unsupported (.shell text))

/-- The statement `f(x, &b) { c rescue d } ensure e` in a method, with a command in the place of
each name, and one more among the exceptions that the `rescue` handles. -/
def protectedCall : Node :=
  define "m" none (some (ensure
    (some (call self "f"
      (some (blockPass (command "b") (some (array [command "x"]))))
      (some (iterator none (some (rescue (some (command "c"))
        (some (rescueClause (some (command "dropped")) (some (command "d")) none))))))))
    (some (command "e"))))

/-- The `ensure` part comes first, the passed block before the arguments, and the exceptions of
an inline `rescue` are not looked at. -/
theorem gaps_protectedCall :
    protectedCall.gaps .value = ["e", "b", "x", "c", "d"].map command := by
  simp only [protectedCall, command, define, ensure, call, self, blockPass, array, iterator,
    rescue, rescueClause, unplaced, Node.gaps, Node.visits_eq, visitsOf, askedIn, Slot.placed,
    Place.settle, Shape.visited, Shape.slots, Option.toList, List.flatMap_cons, List.flatMap_nil,
    List.map_cons, List.map_nil, List.append_nil, List.cons_append, List.nil_append]
  rfl

end Reported

/-! ## Failures -/

/-- A node calls for a child of a certain kind. -/
inductive CallsFor : Raw.Kind → Shape Node → Node → Prop where
  /-- The keys and values of a hash stand in a list. -/
  | pairs (node : Node) : CallsFor .list (.hash (some node)) node
  | firstClause (node : Node) (body elseBody : Option Node) :
      CallsFor .rescueBody (.rescue body (some node) elseBody) node
  | nextClause (node : Node) (exceptions body : Option Node) :
      CallsFor .rescueBody (.rescueBody exceptions body (some node)) node
  /-- The default of a parameter is an assignment to it. -/
  | default (node : Node) : CallsFor .localAsgn (.optionalParam node) node

/-- The kind that a slot calls for. -/
def wantedIn : Place → Option Raw.Kind
  | .pairs => some .list
  | .clause | .handler => some .rescueBody
  | .default => some .localAsgn
  | _ => none

/-- The slots that call for a kind are those of hashes, bodies with clauses, clauses and
parameters with a default. -/
theorem callsFor_of_mem_visited {outer : Place} {shape : Shape Node} {slot : Slot Node}
    {node : Node} {kind : Raw.Kind} (looked : slot ∈ shape.visited outer)
    (mem : node ∈ slot.nodes) (wanted : wantedIn slot.place = some kind) :
    CallsFor kind shape node := by
  cases shape with
  | hash =>
    obtain rfl := List.mem_singleton.1 looked
    cases wanted
    obtain rfl := Option.mem_toList.1 mem
    exact .pairs node
  | optionalParam =>
    obtain rfl := List.mem_singleton.1 looked
    cases wanted
    obtain rfl := List.mem_singleton.1 mem
    exact .default node
  | rescue body clause elseBody =>
    have inClause : slot.nodes = clause.toList ∧ kind = .rescueBody := by
      cases outer <;> simp only [Shape.visited, Shape.slots, List.mem_cons] at looked <;>
        grind [wantedIn]
    obtain ⟨nodes, rfl⟩ := inClause
    obtain rfl := Option.mem_toList.1 (nodes ▸ mem)
    exact .firstClause node body elseBody
  | rescueBody exceptions body next =>
    have inClause : slot.nodes = next.toList ∧ kind = .rescueBody := by
      cases outer <;> simp only [Shape.visited, Shape.slots, List.mem_cons] at looked <;>
        grind [wantedIn]
    obtain ⟨nodes, rfl⟩ := inClause
    obtain rfl := Option.mem_toList.1 (nodes ▸ mem)
    exact .nextClause node exceptions body
  -- No other slot calls for a kind.
  | unsupported => cases looked
  | concat form =>
    cases form <;> simp only [Shape.visited, Shape.slots, List.mem_cons, List.not_mem_nil,
      or_false] at looked <;> rcases looked with rfl | rfl <;> cases wanted
  | blockPass body args =>
    cases outer <;> simp only [Shape.visited, Shape.slots, List.mem_cons, List.not_mem_nil,
      or_false] at looked <;> rcases looked with rfl | rfl <;> cases wanted
  | _ =>
    simp only [Shape.visited, Shape.slots, List.mem_cons, List.not_mem_nil, or_false] at looked <;>
      rcases looked with rfl | rfl | rfl | rfl | rfl <;> cases wanted

/-- A failure that points into a tree, at a node that is read in the given way. -/
structure PointsInto (policy : Policy) (tree : Node) (failure : Failure) (way : Place)
    (bad : Node) : Prop where
  about : failure.node? = some bad
  line : failure.line? = some bad.line
  within : bad.Within tree
  looked : (way, bad) ∈ tree.visits .value
  /-- Only a strict run refuses a node for its kind, and the kind is unsupported. -/
  unrecognized : failure.cause = .unrecognized →
    bad.isUnsupported = true ∧ policy = .strict ∧
      failure.message = "Unknown node type: type=" ++ bad.typeName ++ Failure.lineNote bad
  /-- A node that is never an argument stands in a slot for arguments. -/
  argumentShape : failure.cause = .argumentShape →
    bad.shape.isNoArgument = true ∧
      (∃ outer parent, (outer, parent) ∈ tree.visits .value ∧
        ∃ slot ∈ parent.shape.visited outer, bad ∈ slot.nodes ∧
          (slot.place = .arguments ∨ slot.place = .callArguments)) ∧
      failure.message = "Unknown node type in args: type=" ++ bad.typeName ++ Failure.lineNote bad
  /-- What is wrong fits the node and the way in which it is read. -/
  violated (violation : Violation) : failure = .violated violation bad → violation.Fits way bad
  /-- A node of another kind is called for by the node above. -/
  kindExpected (kind : Raw.Kind) : failure = .violated (.kindExpected kind) bad →
    ∃ parent : Node, parent.Within tree ∧ CallsFor kind parent.shape bad

/-- Only slots for arguments read a node as arguments. -/
theorem place_of_settle_arguments {place : Place} {shape : Shape Node}
    (h : place.settle shape = .arguments) : place = .arguments ∨ place = .callArguments := by
  fun_cases Place.settle place shape <;> simp_all [Place.settle]

/-- A node that is read as one of a certain kind stands in a slot that calls for it. -/
theorem wantedIn_settle (place : Place) (shape : Shape Node) :
    wantedIn (place.settle shape) = wantedIn place := by
  fun_cases Place.settle place shape <;> simp_all [wantedIn]

/-- The kind that is missed is the one that the way of reading calls for. -/
theorem wantedIn_of_fits {way : Place} {node : Node} {kind : Raw.Kind}
    (fits : (Violation.kindExpected kind).Fits way node) : wantedIn way = some kind := by
  obtain ⟨rfl | rfl, rfl, -⟩ | ⟨rfl, rfl, -⟩ | ⟨rfl, rfl, -⟩ := fits <;> rfl

/-- A failure that stops a run at a node points to it. -/
theorem PointsInto.of_stops {policy : Policy} {tree bad : Node} {failure : Failure} {way : Place}
    (looked : (way, bad) ∈ tree.visits .value) (stops : Stops policy way bad failure) :
    PointsInto policy tree failure way bad := by
  have within := Node.within_of_mem_visits looked
  have above := Node.parent_of_mem_visits looked
  cases failure with
  | unrecognized found =>
    obtain ⟨rfl, unsupported, strict⟩ := stops
    exact ⟨rfl, rfl, within, looked, fun _ => ⟨unsupported, strict, rfl⟩, nofun, nofun, nofun⟩
  | argumentShape found =>
    obtain ⟨rfl, rfl, noArgument⟩ := stops
    refine ⟨rfl, rfl, within, looked, nofun, fun _ => ⟨noArgument, ?_, rfl⟩, nofun, nofun⟩
    obtain ⟨e, -⟩ | ⟨outer, parent, seen, slot, mem, inSlot, e⟩ := above
    · cases e
    · exact ⟨outer, parent, seen, slot, mem, inSlot, place_of_settle_arguments e.symm⟩
  | violated violation found =>
    obtain ⟨rfl, fits⟩ := stops
    refine ⟨rfl, rfl, within, looked, nofun, nofun, ?_, ?_⟩
    · rintro _ ⟨⟩
      exact fits
    · rintro kind ⟨⟩
      have wanted := wantedIn_of_fits fits
      obtain ⟨e, -⟩ | ⟨outer, parent, seen, slot, mem, inSlot, e⟩ := above
      · rw [e, wantedIn_settle] at wanted
        cases wanted
      · rw [e, wantedIn_settle] at wanted
        exact ⟨parent, Node.within_of_mem_visits seen, callsFor_of_mem_visited mem inSlot wanted⟩
  | rootExpected => exact stops.elim

/-- **Every failure points into the input.**  A run over a node fails only about a node that
occurs in it, with the line of that node, and for a reason that fits it; a run over a program
misses the root exactly if there is none. -/
theorem failures_within (settings : Settings) (node : Node) :
    (∀ failure, ofNode settings node = .error failure →
      ∃ way bad, PointsInto settings.unknownNodes node failure way bad) ∧
    ((∃ typeName, ofProgram settings node = .error (.rootExpected typeName)) ↔
      node.isRoot = false) := by
  constructor
  · intro failure refused
    have traces := child_traces settings.unknownNodes (some node)
    obtain ⟨way, bad, none | looked, stops⟩ := traces.stopped _ (ofOutcome_eq_error.1 refused)
    · cases none
    · exact ⟨way, bad, .of_stops (Raw.visitsOf_single .value node ▸ looked) stops⟩
  · constructor
    · rintro ⟨typeName, refused⟩
      cases isRoot : node.isRoot with
      | false => rfl
      | true =>
        obtain ⟨position, body, rfl⟩ := Node.exists_of_isRoot isRoot
        obtain ⟨_, _, _, stops⟩ := (child_traces settings.unknownNodes body).stopped _
          (ofOutcome_eq_error.1 refused)
        exact False.elim stops
    · intro isRoot
      exact ⟨_, ofProgram_of_not_isRoot settings isRoot⟩

section Refused

open Raw.Build

/-- The clause of a `case` on the seventh line, as an argument of a `yield`. -/
def yieldedClause : Node := unplaced (.yield (some ⟨.onLine 7, .whenClause none none⟩))

/-- The clause is refused as an argument, with its line. -/
theorem failure_yieldedClause :
    ∃ failure way bad, ofNode {} yieldedClause = .error failure ∧
      failure.cause = .argumentShape ∧ failure.line? = some 7 ∧
      PointsInto .strict yieldedClause failure way bad := by
  obtain ⟨way, bad, points⟩ := (failures_within {} yieldedClause).1 _ rfl
  exact ⟨_, way, bad, rfl, rfl, rfl, points⟩

end Refused

end ModelTree
end RubyModel
