/-
# The two policies compared

A strict run stops at the first node without a counterpart; a permissive run notes it and
goes on.  Up to that node the two do the same, so they can be told apart by what the
permissive run has noted (`SPEC_FULL.md`, §4.5).

| strict run | permissive run |
| --- | --- |
| a result | the same result, nothing noted |
| refuses a node | that node is the first one noted |
| another failure | the same failure, nothing noted |

`Agree` is this table as a relation between outcomes.  Going on after two outcomes that agree
keeps it (`Agree.bind`): if the strict run has stopped, whatever the permissive run meets later
is noted after the first node.  So it is a simulation of a tree by itself, and holds of the
steps of a session.
-/

import RubyModel.Proofs.Simulation
import RubyModel.Raw.Build
import RubyModel.Session

namespace RubyModel
namespace Lowering

open Raw (Node)

/-- Not the refusal of a node without a counterpart. -/
def Known {α : Type} (result : Except Failure α) : Prop :=
  ∀ node, result ≠ .error (.unrecognized node)

/-- A strict and a permissive outcome over the same tree. -/
inductive Agree {α : Type} : Outcome α → Outcome α → Prop where
  /-- Every node up to here has a counterpart. -/
  | same (result : Except Failure α) (known : Known result) : Agree ⟨result, []⟩ ⟨result, []⟩
  /-- The strict run has stopped at a node that the permissive run has left out. -/
  | stopped (node : Node) (result : Except Failure α) (later : List Diagnostic)
      (known : Known result) :
      Agree ⟨.error (.unrecognized node), []⟩ ⟨result, .leftOut node :: later⟩

namespace Agree

variable {α β : Type}

/-- The permissive run refuses no node. -/
theorem known_right {x y : Outcome α} : Agree x y → Known y.result
  | same _ known => known
  | stopped _ _ _ known => known

/-- **One step more:** outcomes that agree go on to outcomes that agree. -/
theorem bind {x y : Outcome α} {f g : α → Outcome β} (first : Agree x y)
    (next : ∀ result, Agree (f result) (g result)) : Agree (x >>= f) (y >>= g) := by
  cases first with
  | same result known =>
    cases result with
    | error failure =>
      exact .same (.error failure) fun node e => known node (congrArg _ (Except.error.inj e))
    | ok result =>
      have goesOn := next result
      rw [Outcome.bind_ok, Outcome.bind_ok, List.nil_append, List.nil_append]
      exact goesOn
  | stopped node result later known =>
    cases result with
    | error failure =>
      exact .stopped node (.error failure) later
        fun other e => known other (congrArg _ (Except.error.inj e))
    | ok result =>
      -- what the permissive run notes from here on comes after the node
      exact .stopped node (g result).result (later ++ (g result).diagnostics)
        (next result).known_right

end Agree

/-- A strict and a permissive run over the same tree. -/
def policies : Simulation .strict .permissive where
  twin := .unchanged
  Rel := Agree
  ok result := .same (.ok result) nofun
  bind := Agree.bind
  unsupported position shape := by
    rw [Twin.of_unchanged]
    exact .stopped ⟨position, .unsupported shape⟩ (.ok none) [] nofun
  violated violation node := by
    rw [Twin.of_unchanged]
    exact .same _ nofun
  argumentShape node := by
    rw [Twin.of_unchanged]
    exact .same _ nofun

/-- The two policies agree on the arguments of a node. -/
theorem args_agree (node : Node) : Agree (args .strict node) (args .permissive node) := by
  have agree := policies.args_rel node
  rwa [show policies.twin.of node = node from Twin.of_unchanged node] at agree

/-- The two policies agree on the value of a child. -/
theorem child_agree (place : Option Node) :
    Agree (child .strict place) (child .permissive place) := by
  cases place with
  | none => exact .same (.ok none) nofun
  | some node =>
    have agree := policies.value_rel node
    rwa [show policies.twin.of node = node from Twin.of_unchanged node] at agree

end Lowering

namespace Session

open Raw (Node)
open Lowering (Agree Known)

/-- A session at its start: nothing is noted yet, the containers hold what they are given. -/
def start (policy : Policy) (contents : Container → List Model) : Session where
  settings := { unknownNodes := policy }
  contents := contents

/-- The step succeeds. -/
def Reply.Succeeds (reply : Reply) : Prop := ∀ failure, reply ≠ .failed failure

/-- The first step of a strict session and of a permissive one. -/
inductive StepsAgree : Reply × Session → Reply × Session → Prop where
  | succeeded (reply : Reply) (contents : Container → List Model) (ok : reply.Succeeds) :
      StepsAgree (reply, start .strict contents) (reply, start .permissive contents)
  | failed (failure : Failure) (contents : Container → List Model)
      (known : ∀ node, failure ≠ .unrecognized node) :
      StepsAgree (.failed failure, start .strict contents)
        (.failed failure, start .permissive contents)
  | stopped (node : Node) (contents : Container → List Model) (reply : Reply)
      (session : Session) (later : List Diagnostic)
      (noted : session.diagnostics = .leftOut node :: later)
      (known : ∀ other, reply ≠ .failed (.unrecognized other)) :
      StepsAgree (.failed (.unrecognized node), start .strict contents) (reply, session)

/-- Recording outcomes that agree gives steps that agree, if what comes after them succeeds
and notes nothing more. -/
theorem record_agree {α : Type} {x y : Outcome α} (agree : Agree x y)
    (contents : Container → List Model) (reply : α → Reply) (fill : α → Container → List Model)
    (next : Session → α → Reply × Session) (ok : ∀ result, (reply result).Succeeds)
    (next_eq : ∀ (session : Session) result, session.contents = contents →
      next session result = (reply result, { session with contents := fill result })) :
    StepsAgree ((start .strict contents).record x next)
      ((start .permissive contents).record y next) := by
  cases agree with
  | same result known =>
    cases result with
    | error failure =>
      exact .failed failure contents fun node e => known node (congrArg _ e)
    | ok result =>
      have strict : (start .strict contents).record ⟨.ok result, []⟩ next =
        (reply result, start .strict (fill result)) := next_eq _ result rfl
      have permissive : (start .permissive contents).record ⟨.ok result, []⟩ next =
        (reply result, start .permissive (fill result)) := next_eq _ result rfl
      rw [strict, permissive]
      exact .succeeded (reply result) (fill result) (ok result)
  | stopped node result later known =>
    cases result with
    | error failure =>
      exact .stopped node contents (.failed failure) _ later rfl
        fun other e => known other (congrArg _ (Reply.failed.inj e))
    | ok result =>
      have permissive : (start .permissive contents).record
          ⟨.ok result, .leftOut node :: later⟩ next = (reply result,
        { start .permissive contents with
          diagnostics := .leftOut node :: later, contents := fill result }) := next_eq _ result rfl
      rw [permissive]
      exact .stopped node contents (reply result) _ later rfl fun other => ok result _

/-- The first steps agree, whatever is asked. -/
theorem step_agree (contents : Container → List Model) (step : Step) :
    StepsAgree ((start .strict contents).step step) ((start .permissive contents).step step) := by
  cases step with
  | transform node =>
    exact record_agree (Lowering.child_agree node) contents .model (fun _ => contents) _
      (fun _ => nofun) fun session result e => by rw [← e]
  | arguments node =>
    exact record_agree (Lowering.args_agree node) contents .arguments (fun _ => contents) _
      (fun _ => nofun) fun session result e => by rw [← e]
  | fill body container =>
    refine record_agree (Lowering.child_agree body) contents
      (fun model => .contents (contents container ++ Model.contents model))
      (fun model other => if other = container then contents container ++ Model.contents model
        else contents other)
      (fun session model => (.contents ((session.add container (Model.contents model)).contents
        container), session.add container (Model.contents model)))
      (fun _ => nofun) fun session result e => ?_
    subst e
    simp only [add, if_true]
  | clear => exact .succeeded .cleared _ nofun
  | warnings => exact .succeeded (.warnings []) contents nofun

/-- **Strict and permissive runs agree.**  Asked the same at its start, a strict session
succeeds exactly if a permissive one does and has noted nothing, with the same reply and the
same contents; the node that it refuses is the first one that the permissive session notes,
whether this then succeeds or fails; and if it fails for another reason, so does the permissive
one, before anything is noted.  A permissive session refuses no node, and a strict one notes
none. -/
theorem strict_permissive (contents : Container → List Model) (step : Step) :
    let strict := (start .strict contents).step step
    let permissive := (start .permissive contents).step step
    (∀ (reply : Reply) (after : Container → List Model), reply.Succeeds →
      (strict.1 = reply ∧ strict.2.contents = after ↔
        permissive.1 = reply ∧ permissive.2.contents = after ∧
          permissive.2.diagnostics = [])) ∧
    (∀ node, strict.1 = .failed (.unrecognized node) →
      ∃ first later, permissive.2.diagnostics = first :: later ∧ first = .leftOut node ∧
        first.nodeType = node.typeName ∧ first.line = node.line) ∧
    (∀ failure, strict.1 = .failed failure → (∀ node, failure ≠ .unrecognized node) →
      permissive.1 = .failed failure ∧ permissive.2.diagnostics = []) ∧
    (∀ node, permissive.1 ≠ .failed (.unrecognized node)) ∧
    strict.2.diagnostics = [] := by
  intro strict permissive
  have agree : StepsAgree strict permissive := step_agree contents step
  clear_value strict permissive
  cases agree with
  | succeeded found contents ok =>
    refine ⟨?_, ?_, ?_, ?_, rfl⟩
    · intro reply after _
      constructor
      · rintro ⟨e, eq⟩
        exact ⟨e, eq, rfl⟩
      · rintro ⟨e, eq, -⟩
        exact ⟨e, eq⟩
    · intro node e
      exact absurd e (ok _)
    · intro failure e _
      exact absurd e (ok _)
    · exact fun node => ok _
  | failed failure contents known =>
    refine ⟨?_, ?_, ?_, ?_, rfl⟩
    · intro reply after ok
      constructor
      · rintro ⟨rfl, -⟩
        exact absurd rfl (ok failure)
      · rintro ⟨rfl, -, -⟩
        exact absurd rfl (ok failure)
    · intro node e
      exact absurd (Reply.failed.inj e) (known node)
    · intro other e _
      exact ⟨e, rfl⟩
    · intro node e
      exact known node (Reply.failed.inj e)
  | stopped node contents found session later noted known =>
    refine ⟨?_, ?_, ?_, known, rfl⟩
    · intro reply after ok
      constructor
      · rintro ⟨rfl, -⟩
        exact absurd rfl (ok _)
      · rintro ⟨-, -, empty⟩
        exact absurd (noted.symm.trans empty) (List.cons_ne_nil _ _)
    · intro other e
      obtain rfl : node = other := Failure.unrecognized.inj (Reply.failed.inj e)
      exact ⟨.leftOut node, later, noted, rfl, rfl, rfl⟩
    · intro failure e other
      exact absurd (Reply.failed.inj e).symm (other node)

/-- The node that a strict session refuses can be followed by another failure, which ends the
permissive one. -/
example (contents : Container → List Model) :
    let redo : Node := Raw.Build.unplaced (.unsupported .redo)
    let step : Step := .transform (some (Raw.Build.block [redo, Raw.Build.list []]))
    ((start .strict contents).step step).1 = .failed (.unrecognized redo) ∧
    ((start .permissive contents).step step).1 =
      .failed (.violated .notAValue (Raw.Build.list [])) ∧
    ((start .permissive contents).step step).2.diagnostics = [.leftOut redo] :=
  ⟨rfl, rfl, rfl⟩

end Session
end RubyModel
