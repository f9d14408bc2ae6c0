/-
# Protected bodies

Methods, methods on an object and `begin` blocks own a protected body (`SPEC_FULL.md`, §14).  What
the body gives does not depend on its owner (`owners_agree`), and an `ensure` node that stands for
itself is its own `begin` block (`value_ensure`).

A rescue node that is the body, or right under the `ensure` node that is, has its clauses in a chain
of markers.  Each marker gives one clause, in the order of the chain:

| chain | gives |
| --- | --- |
| all markers are rescue clauses | as many clauses, each with its own exceptions and body |
| none | a failure at the rescue node |
| a marker that is no rescue clause | a failure at that marker |

The parts are visited in the order `ensure` part, body, clauses, `else` part; a failure in one of
them comes before those of the later ones.
-/

import Mathlib.Data.List.Forall2
import RubyModel.Lowering.Value
import RubyModel.Proofs.Reports
import RubyModel.Raw.Build

namespace RubyModel

namespace Raw

namespace Node

mutual
/-- The markers of a chain: the node and those after it. -/
def chain : Node → List Node
  | ⟨position, shape⟩ => ⟨position, shape⟩ :: chainAfter shape

/-- The markers after a shape: a rescue clause goes on with the next one. -/
def chainAfter : Shape Node → List Node
  | .rescueBody _ _ next => chainFrom next
  | _ => []

/-- The markers from a place on. -/
def chainFrom : Option Node → List Node
  | none => []
  | some node => chain node
end

theorem chain_eq (position : Position) (shape : Shape Node) :
    chain ⟨position, shape⟩ = ⟨position, shape⟩ :: chainAfter shape := rfl

/-- The body is a rescue node, or the `ensure` node around it. -/
inductive Guarded (rescue : Node) : (ensureBody : Option Node) → Node → Prop where
  | bare : Guarded rescue none rescue
  | ensured (position : Position) (ensureBody : Option Node) :
      Guarded rescue ensureBody ⟨position, .ensure (some rescue) ensureBody⟩

end Node
end Raw

namespace Lowering

open Raw (Node Shape)

variable {policy : Policy}

/-! ## Owners -/

/-- What owns a protected body: a method without parameters, one on an object, or a block. -/
inductive Owner where
  | method (position : Position) (name : String)
  | onObject (position : Position) (name : String)
  | block (position : Position)

namespace Owner

/-- The owner with its body. -/
def node (body : Option Node) : Owner → Node
  | method position name => ⟨position, .define name none body⟩
  | onObject position name => ⟨position, .defineOn none name none body⟩
  | block position => ⟨position, .beginBlock body⟩

/-- The model of the owner, from the parts of its body. -/
def model (parts : Protected) : Owner → Model
  | method _ name =>
    ⟨.define name none false [] parts.body parts.clauses parts.elseBody parts.ensureBody⟩
  | onObject _ name =>
    ⟨.define name none true [] parts.body parts.clauses parts.elseBody parts.ensureBody⟩
  | block _ => ⟨.beginEnd parts.body parts.clauses parts.elseBody parts.ensureBody⟩

/-- The parts of a body can be told from the model of its owner. -/
theorem model_injective (owner : Owner) {parts parts' : Protected}
    (h : owner.model parts = owner.model parts') : parts = parts' := by
  cases owner <;> cases parts <;> cases parts' <;> cases h <;> rfl

/-- The owner puts the parts of the body into its model, and does nothing else. -/
theorem value_node (owner : Owner) (body : Option Node) :
    value policy (owner.node body) =
      protectedBody policy body >>= fun parts => pure (some (owner.model parts)) := by
  cases owner <;> rfl

/-- An owner succeeds with the parts that its body succeeds with. -/
theorem value_eq_ok {owner : Owner} {body : Option Node} {parts : Protected} :
    (value policy (owner.node body)).result = .ok (some (owner.model parts)) ↔
      (protectedBody policy body).result = .ok parts := by
  rw [value_node, Outcome.result_bind_eq_ok]
  constructor
  · rintro ⟨found, result, e⟩
    cases owner.model_injective (Option.some.inj (Except.ok.inj e))
    exact result
  · exact fun result => ⟨parts, result, rfl⟩

/-- An owner fails as its body fails. -/
theorem value_of_error {owner : Owner} {body : Option Node} {failure : Failure}
    (h : (protectedBody policy body).result = .error failure) :
    (value policy (owner.node body)).result = .error failure := by
  rw [value_node]
  exact Outcome.result_bind_of_error h

end Owner

/-- All owners of a body fail alike, or have the same parts. -/
theorem owners_agree (policy : Policy) (body : Option Node) :
    (∃ failure warnings, ∀ owner : Owner,
      value policy (owner.node body) = ⟨.error failure, warnings⟩) ∨
    ∃ parts warnings, ∀ owner : Owner,
      value policy (owner.node body) = ⟨.ok (some (owner.model parts)), warnings⟩ := by
  rcases h : protectedBody policy body with ⟨failure | parts, warnings⟩
  · refine .inl ⟨failure, warnings, fun owner => ?_⟩
    rw [owner.value_node, h, Outcome.bind_error]
  · refine .inr ⟨parts, warnings, fun owner => ?_⟩
    rw [owner.value_node, h, Outcome.bind_ok]
    simp only [Outcome.pure_eq, List.append_nil]

/-- An `ensure` node is the block around it. -/
theorem value_ensure (position place : Position) (body ensureBody : Option Node) :
    value policy ⟨place, .ensure body ensureBody⟩ =
      value policy ⟨position, .beginBlock (some ⟨place, .ensure body ensureBody⟩)⟩ := by
  change (child policy ensureBody >>= fun _ => rescuedChild policy body >>= fun _ => _) =
    (child policy ensureBody >>= fun _ => rescuedChild policy body >>= fun _ => _) >>= _
  simp only [bind_assoc]
  rfl

/-! ## Chains of rescue clauses -/

/-- A marker is a rescue clause, and its exceptions and its body give those of the model. -/
inductive GivesClause (policy : Policy) : Node → Model → Prop where
  | clause {position : Position} {exceptions body next : Option Node} {caught : List Model}
      {rescued : Option Model}
      (exceptions_ok : (optionalArgs policy exceptions).result = .ok caught)
      (body_ok : (child policy body).result = .ok rescued) :
      GivesClause policy ⟨position, .rescueBody exceptions body next⟩ ⟨.rescueClause caught rescued⟩

/-- **A chain gives one clause for each marker**, or none at all. -/
theorem rescueClauses_eq_ok {marker : Node} {clauses : List Model} :
    (rescueClauses policy marker).result = .ok clauses ↔
      List.Forall₂ (GivesClause policy) marker.chain clauses := by
  induction marker using Node.induction generalizing clauses with
  | step position shape ih =>
    cases shape with
    | rescueBody exceptions body next =>
      have later (others : List Model) : (nextClauses policy next).result = .ok others ↔
          List.Forall₂ (GivesClause policy) (Node.chainFrom next) others := by
        cases next with
        | none =>
          refine Iff.trans ?_ List.forall₂_nil_left_iff.symm
          exact ⟨fun e => (Except.ok.inj e).symm, fun e => e ▸ rfl⟩
        | some node => exact ih.2.2 node rfl
      constructor
      · intro given
        obtain ⟨caught, exceptionsOk, given⟩ := Outcome.result_bind_eq_ok.1 given
        obtain ⟨rescued, bodyOk, given⟩ := Outcome.result_bind_eq_ok.1 given
        obtain ⟨others, othersOk, e⟩ := Outcome.result_bind_eq_ok.1 given
        cases e
        exact .cons (.clause exceptionsOk bodyOk) ((later others).1 othersOk)
      · intro given
        obtain ⟨_, others, ⟨exceptionsOk, bodyOk⟩, rest, rfl⟩ :=
          List.forall₂_cons_left_iff.1 given
        refine Outcome.result_bind_eq_ok.2 ⟨_, exceptionsOk, ?_⟩
        refine Outcome.result_bind_eq_ok.2 ⟨_, bodyOk, ?_⟩
        exact Outcome.result_bind_eq_ok.2 ⟨_, (later others).2 rest, rfl⟩
    | _ => exact ⟨nofun, nofun⟩

/-- A marker that is no rescue clause ends a chain in a failure, if those before it give theirs. -/
theorem rescueClauses_of_other {marker wrong : Node} {before after : List Node}
    {clauses : List Model} (chain : marker.chain = before ++ wrong :: after)
    (gives : List.Forall₂ (GivesClause policy) before clauses)
    (other : wrong.shape.isClause = false) :
    (rescueClauses policy marker).result =
      .error (.violated (.kindExpected .rescueBody) wrong) := by
  -- Each marker that gives its clause hands the failure of the rest of the chain on.
  induction gives generalizing marker with
  | nil =>
    obtain ⟨position, shape⟩ := marker
    rw [Node.chain_eq, List.nil_append] at chain
    obtain ⟨rfl, -⟩ := List.cons.inj chain
    cases shape with
    | rescueBody => cases other
    | _ => rfl
  | cons here _ ih =>
    obtain ⟨position, shape⟩ := marker
    rw [Node.chain_eq, List.cons_append] at chain
    obtain ⟨rfl, rest⟩ := List.cons.inj chain
    cases here with
    | @clause _ _ _ next _ _ exceptionsOk bodyOk =>
      have later : (nextClauses policy next).result =
          .error (.violated (.kindExpected .rescueBody) wrong) := by
        cases next with
        | none => cases (List.append_eq_nil_iff.1 rest.symm).2
        | some next => exact ih rest
      refine (Outcome.result_bind_of_ok exceptionsOk).trans ?_
      refine (Outcome.result_bind_of_ok bodyOk).trans ?_
      exact Outcome.result_bind_of_error later

/-! ## Bodies with rescue clauses -/

section Guarded

variable {place : Position} {body clause elseBody ensureBody : Option Node} {whole : Node}

/-- The parts of a guarded body, in the order in which they are visited. -/
theorem protectedBody_of_guarded
    (guarded : Node.Guarded ⟨place, .rescue body clause elseBody⟩ ensureBody whole) :
    protectedBody policy (some whole) = do
      let ensureBody ← child policy ensureBody
      let bodyModel ← child policy body
      let clauses ← firstClause policy ⟨place, .rescue body clause elseBody⟩ clause
      let elseBody ← child policy elseBody
      return { body := bodyModel, clauses, elseBody, ensureBody } := by
  cases guarded with
  | bare => rfl
  | ensured position ensureBody =>
    change (child policy ensureBody >>= fun _ => (child policy body >>= fun _ => _) >>= _) = _
    simp only [bind_assoc, pure_bind]

/-- The parts of a guarded body give those of the model, the clauses one for each marker. -/
structure GivesParts (policy : Policy) (ensureBody body clause elseBody : Option Node)
    (parts : Protected) : Prop where
  ensure_ok : (child policy ensureBody).result = .ok parts.ensureBody
  body_ok : (child policy body).result = .ok parts.body
  clauses_ok : ∃ marker ∈ clause, List.Forall₂ (GivesClause policy) marker.chain parts.clauses
  else_ok : (child policy elseBody).result = .ok parts.elseBody

/-- A guarded body succeeds exactly if all its parts do. -/
theorem protectedBody_eq_ok {parts : Protected}
    (guarded : Node.Guarded ⟨place, .rescue body clause elseBody⟩ ensureBody whole) :
    (protectedBody policy (some whole)).result = .ok parts ↔
      GivesParts policy ensureBody body clause elseBody parts := by
  rw [protectedBody_of_guarded guarded]
  simp only [Outcome.result_bind_eq_ok]
  constructor
  · rintro ⟨ensureModel, ensureOk, bodyModel, bodyOk, clauses, clausesOk, elseModel, elseOk, e⟩
    cases e
    cases clause with
    | none => cases clausesOk
    | some marker =>
      exact ⟨ensureOk, bodyOk, ⟨marker, rfl, rescueClauses_eq_ok.1 clausesOk⟩, elseOk⟩
  · rintro ⟨ensureOk, bodyOk, ⟨marker, rfl, clausesOk⟩, elseOk⟩
    exact ⟨_, ensureOk, _, bodyOk, _, rescueClauses_eq_ok.2 clausesOk, _, elseOk, rfl⟩

/-- A failure of the clauses is that of the whole, if the parts before them give theirs. -/
theorem protectedBody_of_clause_error {ensureModel bodyModel : Option Model} {failure : Failure}
    (guarded : Node.Guarded ⟨place, .rescue body clause elseBody⟩ ensureBody whole)
    (ensureOk : (child policy ensureBody).result = .ok ensureModel)
    (bodyOk : (child policy body).result = .ok bodyModel)
    (failed : (firstClause policy ⟨place, .rescue body clause elseBody⟩ clause).result =
      .error failure) :
    (protectedBody policy (some whole)).result = .error failure := by
  rw [protectedBody_of_guarded guarded]
  refine (Outcome.result_bind_of_ok ensureOk).trans ?_
  refine (Outcome.result_bind_of_ok bodyOk).trans ?_
  exact Outcome.result_bind_of_error failed

end Guarded

/-- **Protected bodies are lifted whole, and alike for all owners.**  All owners of a body fail with
the same failure or have the same parts, and the same warnings; an `ensure` node is the block around
it.  A body with a rescue node, bare or under an `ensure` node, has parts exactly if there is a
marker, all markers of its chain are rescue clauses and all parts give theirs; then there is one
clause for each marker.  Without a marker, or with one that is no rescue clause, it fails right
there, if all that is visited before gives its part. -/
theorem protected_bodies (policy : Policy) :
    (∀ body : Option Node,
      (∃ failure warnings, ∀ owner : Owner,
        value policy (owner.node body) = ⟨.error failure, warnings⟩) ∨
      ∃ parts warnings, ∀ owner : Owner,
        value policy (owner.node body) = ⟨.ok (some (owner.model parts)), warnings⟩) ∧
    (∀ (position place : Position) (body ensureBody : Option Node),
      value policy ⟨place, .ensure body ensureBody⟩ =
        value policy ⟨position, .beginBlock (some ⟨place, .ensure body ensureBody⟩)⟩) ∧
    ∀ (place : Position) (body clause elseBody ensureBody : Option Node) (whole : Node),
      Node.Guarded ⟨place, .rescue body clause elseBody⟩ ensureBody whole → ∀ owner : Owner,
        (∀ parts,
          (value policy (owner.node (some whole))).result = .ok (some (owner.model parts)) ↔
            GivesParts policy ensureBody body clause elseBody parts) ∧
        ∀ ensureModel bodyModel, (child policy ensureBody).result = .ok ensureModel →
          (child policy body).result = .ok bodyModel →
          (clause = none → (value policy (owner.node (some whole))).result =
            .error (.violated .clauseMissing ⟨place, .rescue body clause elseBody⟩)) ∧
          ∀ marker before wrong after clauses, clause = some marker →
            marker.chain = before ++ wrong :: after →
            List.Forall₂ (GivesClause policy) before clauses →
            wrong.shape.isClause = false →
            (value policy (owner.node (some whole))).result =
              .error (.violated (.kindExpected .rescueBody) wrong) := by
  refine ⟨owners_agree policy, value_ensure, ?_⟩
  intro place body clause elseBody ensureBody whole guarded owner
  refine ⟨fun parts => Owner.value_eq_ok.trans (protectedBody_eq_ok guarded), ?_⟩
  intro ensureModel bodyModel ensureOk bodyOk
  constructor
  · rintro rfl
    exact Owner.value_of_error (protectedBody_of_clause_error guarded ensureOk bodyOk rfl)
  · rintro marker before wrong after clauses rfl chain gives other
    have failed := rescueClauses_of_other chain gives other
    exact Owner.value_of_error (protectedBody_of_clause_error guarded ensureOk bodyOk failed)

section Handlers

open Raw.Build

/-- The clause `rescue name`, with a number as its body. -/
def handler (name : String) (result : Int64) (next : Option Node) : Node :=
  rescueClause (some (array [constant name])) (some (int result)) next

/-- What `handler` gives. -/
def handlerModel (name : String) (result : Int64) : Model :=
  ⟨.rescueClause [⟨.constant name none⟩] (some ⟨.leaf (.int result)⟩)⟩

/-- The clauses for `A`, `B`, and what comes after them. -/
def handlers (next : Option Node) : Node := handler "A" 1 (some (handler "B" 2 next))

/-- The body `self` with its clauses, under an `ensure` node. -/
def handled (clause : Option Node) : Node := ensure (some (rescue (some self) clause)) (some nil)

/-- The body has an `ensure` part around its rescue clauses. -/
theorem guarded_handled (clause : Option Node) :
    Node.Guarded (rescue (some self) clause) (some nil) (handled clause) := .ensured _ _

/-- A clause for one exception and with one result. -/
theorem givesClause_handler (name : String) (result : Int64) (next : Option Node) :
    GivesClause .strict (handler name result next) (handlerModel name result) := .clause rfl rfl

/-- Three clauses give three; a `nil` in place of the third, or no clause, makes any owner fail. -/
theorem protected_bodies_handlers :
    (value .strict ((Owner.method {} "m").node
      (some (handled (some (handlers (some (handler "C" 3 none)))))))).result =
        .ok (some ⟨.define "m" none false [] (some ⟨.leaf .self⟩)
          [handlerModel "A" 1, handlerModel "B" 2, handlerModel "C" 3] none
          (some ⟨.leaf .nil⟩)⟩) ∧
    (∀ owner : Owner,
      (value .strict (owner.node (some (handled (some (handlers (some nil))))))).result =
        .error (.violated (.kindExpected .rescueBody) nil)) ∧
    ∀ owner : Owner, (value .strict (owner.node (some (handled none)))).result =
      .error (.violated .clauseMissing (rescue (some self) none)) := by
  obtain ⟨-, -, bodies⟩ := protected_bodies .strict
  have two (next : Option Node) : List.Forall₂ (GivesClause .strict)
      [handlers next, handler "B" 2 next] [handlerModel "A" 1, handlerModel "B" 2] :=
    .cons (givesClause_handler ..) (.cons (givesClause_handler ..) .nil)
  refine ⟨?_, fun owner => ?_, fun owner => ?_⟩
  · obtain ⟨lifted, -⟩ := bodies _ _ _ _ _ _ (guarded_handled _) (.method {} "m")
    have three := List.rel_append (two (some (handler "C" 3 none)))
      (.cons (givesClause_handler "C" 3 none) .nil)
    exact (lifted ⟨_, _, _, _⟩).2 ⟨rfl, rfl, ⟨_, rfl, three⟩, rfl⟩
  · obtain ⟨-, refused⟩ := bodies _ _ _ _ _ _ (guarded_handled _) owner
    exact (refused _ _ rfl rfl).2 _ _ _ [] _ rfl rfl (two (some nil)) rfl
  · obtain ⟨-, refused⟩ := bodies _ _ _ _ _ _ (guarded_handled none) owner
    exact (refused _ _ rfl rfl).1 rfl

end Handlers

end Lowering
end RubyModel
