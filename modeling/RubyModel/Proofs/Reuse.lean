/-
# Sessions that are used again

A session, the `Transformer` of `SPEC_FULL.md`, §17, keeps two things from one call to the next, the
warnings and the containers, and a call only adds to them.  What it adds does not depend on what is
there:

| | after the call |
| --- | --- |
| warnings | those before, then those of the outcome, as on a new session |
| containers | what they held, then what a new session puts into empty ones |

A call that fails adds the warnings up to its failure and nothing to a container.  This is one
equation for a call (`step_of_isCall`), and one for a run of calls (`run_of_isCall`).
-/

import RubyModel.Proofs.Policies

namespace RubyModel
namespace Session

open Raw (Node)

/-- A tree is turned into models: the other steps only empty the containers or show the
warnings. -/
def Step.IsCall : Step → Prop
  | .transform _ | .arguments _ | .fill _ _ => True
  | .clear | .warnings => False

instance : DecidablePred Step.IsCall
  | .transform _ | .arguments _ | .fill _ _ => .isTrue trivial
  | .clear | .warnings => .isFalse id

/-- A session that has not been asked anything, with empty containers. -/
def fresh (policy : Policy) : Session := start policy fun _ => []

/-- The warnings of the outcome that a step asks for, whether it fails or not. -/
def Step.noted (policy : Policy) : Step → List Diagnostic
  | .transform node => (Lowering.child policy node).diagnostics
  | .arguments node => (Lowering.args policy node).diagnostics
  | .fill body _ => (Lowering.child policy body).diagnostics
  | .clear | .warnings => []

/-- What a step puts into the empty containers of a new session. -/
def Step.added (policy : Policy) (step : Step) : Container → List Model :=
  ((fresh policy).step step).2.contents

/-! ## A session that has gathered more -/

/-- The session with further warnings and further models in its containers. -/
def extended (session : Session) (noted : List Diagnostic) (added : Container → List Model) :
    Session :=
  { session with
    diagnostics := session.diagnostics ++ noted
    contents := fun container => session.contents container ++ added container }

@[simp] theorem extended_settings (session : Session) (noted : List Diagnostic)
    (added : Container → List Model) : (session.extended noted added).settings = session.settings :=
  rfl

/-- A session to which nothing is added. -/
@[simp] theorem extended_nil (session : Session) : session.extended [] (fun _ => []) = session := by
  simp [extended]

/-- What is added twice is added once, the later after the earlier. -/
@[simp] theorem extended_extended (session : Session) (noted noted' : List Diagnostic)
    (added added' : Container → List Model) :
    (session.extended noted added).extended noted' added' =
      session.extended (noted ++ noted') fun container => added container ++ added' container := by
  simp [extended]

/-- Adding to one container. -/
theorem add_eq_extended (session : Session) (container : Container) (models : List Model) :
    session.add container models =
      session.extended [] fun other => if other = container then models else [] := by
  have contents_eq : (session.add container models).contents = fun other =>
      session.contents other ++ if other = container then models else [] := by
    funext other
    by_cases h : other = container <;> simp [add, h]
  simpa [extended, add] using contents_eq

/-! ## One call -/

/-- The session and the reply after an outcome: its warnings are kept in any case, the containers
get something only if it is a result. -/
def concluded {α : Type} (session : Session) (outcome : Outcome α) (reply : α → Reply)
    (added : α → Container → List Model) : Reply × Session :=
  match outcome.result with
  | .error failure => (.failed failure, session.extended outcome.diagnostics fun _ => [])
  | .ok result => (reply result, session.extended outcome.diagnostics (added result))

/-- Transforming a node adds warnings and nothing else. -/
theorem step_transform (session : Session) (node : Option Node) :
    session.step (.transform node) =
      session.concluded (Lowering.child session.settings.unknownNodes node) .model
        fun _ _ => [] := by
  rw [step]
  obtain ⟨failure | model, noted⟩ := Lowering.child session.settings.unknownNodes node <;>
    simp [record, concluded, extended]

/-- So does asking for its arguments. -/
theorem step_arguments (session : Session) (node : Node) :
    session.step (.arguments node) =
      session.concluded (Lowering.args session.settings.unknownNodes node) .arguments
        fun _ _ => [] := by
  rw [step]
  obtain ⟨failure | args, noted⟩ := Lowering.args session.settings.unknownNodes node <;>
    simp [record, concluded, extended]

/-- Filling a container adds warnings and the contents of the model. -/
theorem step_fill (session : Session) (body : Option Node) (container : Container) :
    session.step (.fill body container) =
      session.concluded (Lowering.child session.settings.unknownNodes body)
        (fun model => .contents (session.contents container ++ Model.contents model))
        fun model other => if other = container then Model.contents model else [] := by
  rw [step]
  obtain ⟨failure | model, noted⟩ := Lowering.child session.settings.unknownNodes body <;>
    simp [record, concluded, add_eq_extended, extended]

/-- What is gathered from an outcome does not depend on what there is already. -/
theorem concluded_eq_extended {α : Type} (session : Session) (policy : Policy) (outcome : Outcome α)
    (reply reply' : α → Reply) (added : α → Container → List Model) :
    session.concluded outcome reply added =
      (((start policy session.contents).concluded outcome reply added).1,
        session.extended outcome.diagnostics
          ((fresh policy).concluded outcome reply' added).2.contents) := by
  obtain ⟨failure | result, noted⟩ := outcome <;> simp [concluded, extended, fresh, start]

/-- **The frame of a call.**  It replies as on a new session with the same containers, and adds
what it adds to a session that has nothing yet. -/
theorem step_of_isCall (session : Session) {step : Step} (call : step.IsCall) :
    session.step step =
      (((start session.settings.unknownNodes session.contents).step step).1,
        session.extended (step.noted session.settings.unknownNodes)
          (step.added session.settings.unknownNodes)) := by
  cases step with
  | transform node =>
    simp only [Step.noted, Step.added, step_transform]
    exact concluded_eq_extended session session.settings.unknownNodes _ _ _ _
  | arguments node =>
    simp only [Step.noted, Step.added, step_arguments]
    exact concluded_eq_extended session session.settings.unknownNodes _ _ _ _
  | fill body container =>
    simp only [Step.noted, Step.added, step_fill]
    exact concluded_eq_extended session session.settings.unknownNodes _ _ _ _
  | clear => cases call
  | warnings => cases call

/-- A new session has the warnings of its first step, also if this fails. -/
theorem fresh_diagnostics (policy : Policy) (step : Step) :
    ((fresh policy).step step).2.diagnostics = step.noted policy := by
  by_cases call : step.IsCall
  · rw [step_of_isCall (fresh policy) call]
    rfl
  · cases step with
    | clear | warnings => rfl
    | _ => exact absurd trivial call

/-- A container that is filled gets the nodes of the body behind what it holds; a body that fails
leaves all containers as they are. -/
theorem fill_cases (session : Session) (body : Option Node) (container : Container) :
    let filled := session.step (.fill body container)
    let alone := ((fresh session.settings.unknownNodes).step (.transform body)).1
    (∃ model, alone = .model model ∧
      filled.1 = .contents (filled.2.contents container) ∧
      filled.2.contents container = session.contents container ++ Model.contents model ∧
      ∀ other, other ≠ container → filled.2.contents other = session.contents other) ∨
    ∃ failure, alone = .failed failure ∧ filled.1 = .failed failure ∧
      filled.2.contents = session.contents := by
  simp only [step_fill, step_transform, fresh, start]
  obtain ⟨failure | model, noted⟩ := Lowering.child session.settings.unknownNodes body
  · simp [concluded, extended]
  · simp +contextual [concluded, extended]

/-- A call that fills no container leaves them all as they are, and its reply does not depend on
them. -/
theorem step_of_not_fill (session : Session) {step : Step} (call : step.IsCall)
    (noFill : ∀ body container, step ≠ .fill body container) :
    (session.step step).1 = ((fresh session.settings.unknownNodes).step step).1 ∧
    (session.step step).2.contents = session.contents := by
  cases step with
  | transform node =>
    simp only [step_transform, fresh, start]
    obtain ⟨failure | model, noted⟩ := Lowering.child session.settings.unknownNodes node <;>
      simp [concluded, extended]
  | arguments node =>
    simp only [step_arguments, fresh, start]
    obtain ⟨failure | args, noted⟩ := Lowering.args session.settings.unknownNodes node <;>
      simp [concluded, extended]
  | fill body container => exact absurd rfl (noFill body container)
  | clear => cases call
  | warnings => cases call

/-! ## A run of calls -/

/-- A run is cut anywhere: the second part goes on where the first one ends. -/
theorem run_append (session : Session) (before after : List Step) :
    session.run (before ++ after) =
      ((session.run before).1 ++ ((session.run before).2.run after).1,
        ((session.run before).2.run after).2) := by
  induction before generalizing session with
  | nil => rfl
  | cons step before ih => simp [run, ih]

/-- Every step is answered. -/
theorem run_length (session : Session) (steps : List Step) :
    (session.run steps).1.length = steps.length := by
  induction steps generalizing session with
  | nil => rfl
  | cons step steps ih => simp [run, ih]

/-- A run of calls adds what the calls add on new sessions, in order. -/
theorem run_of_isCall (session : Session) {steps : List Step}
    (calls : ∀ step ∈ steps, step.IsCall) :
    (session.run steps).2 =
      session.extended (steps.flatMap (Step.noted session.settings.unknownNodes))
        fun container => steps.flatMap fun step =>
          step.added session.settings.unknownNodes container := by
  induction steps generalizing session with
  | nil => simp [run]
  | cons step steps ih =>
    obtain ⟨call, calls⟩ := List.forall_mem_cons.1 calls
    simp only [run, step_of_isCall session call, ih _ calls, extended_settings, extended_extended,
      List.flatMap_cons]

/-- What has been noted stays, in its place. -/
theorem run_prefix (session : Session) {before after : List Step}
    (calls : ∀ step ∈ before ++ after, step.IsCall) :
    (session.run before).2.diagnostics <+: (session.run (before ++ after)).2.diagnostics := by
  rw [run_append, run_of_isCall _ fun step mem => calls step (List.mem_append_right before mem)]
  exact List.prefix_append _ _

/-- The last step of a run starts from where the others have come to. -/
theorem run_concat (session : Session) (before : List Step) (step : Step) :
    (session.run (before ++ [step])).2 = ((session.run before).2.step step).2 := by
  rw [run_append]
  rfl

/-- The reply to a step in the middle of a run. -/
theorem run_getElem? (session : Session) (before after : List Step) (step : Step) :
    (session.run (before ++ step :: after)).1[before.length]? =
      some (((session.run before).2.step step).1,
        (session.run (before ++ [step])).2.diagnostics.length) := by
  rw [run_append, run_concat, ← run_length session before,
    List.getElem?_append_right (Nat.le_refl _), Nat.sub_self]
  rfl

/-- **A session can be used again.**  After any calls, each call replies as on a new session that
is given the same containers.  The warnings at the end are those that each call leaves on a new
session, in order, which are the warnings of its outcome even if this is a failure; no warning is
changed or taken back.  A container holds what it held at the start and then what the calls put
into an empty one: a body stands behind what was there, if it has a model; if it fails, all
containers are as before.  The other calls leave the containers alone. -/
theorem reused_as_new (policy : Policy) (contents : Container → List Model) (steps : List Step)
    (calls : ∀ step ∈ steps, step.IsCall) :
    let first := start policy contents
    let last := (first.run steps).2
    last.diagnostics = steps.flatMap (fun step => ((fresh policy).step step).2.diagnostics) ∧
    (∀ step, ((fresh policy).step step).2.diagnostics = step.noted policy) ∧
    (∀ container, last.contents container = contents container ++
      steps.flatMap fun step => ((fresh policy).step step).2.contents container) ∧
    ∀ before step after, steps = before ++ step :: after →
      let old := (first.run before).2
      let new := (first.run (before ++ [step])).2
      let reply := ((start policy old.contents).step step).1
      (first.run steps).1[before.length]? = some (reply, new.diagnostics.length) ∧
      old.diagnostics <+: new.diagnostics ∧
      new.diagnostics <+: last.diagnostics ∧
      ((∀ body container, step ≠ .fill body container) →
        reply = ((fresh policy).step step).1 ∧ new.contents = old.contents) ∧
      ∀ body container, step = .fill body container →
        let alone := ((fresh policy).step (.transform body)).1
        (∃ model, alone = .model model ∧
          reply = .contents (new.contents container) ∧
          new.contents container = old.contents container ++ Model.contents model ∧
          ∀ other, other ≠ container → new.contents other = old.contents other) ∨
        ∃ failure, alone = .failed failure ∧ reply = .failed failure ∧
          new.contents = old.contents := by
  intro first last
  have last_eq : last = _ := run_of_isCall first calls
  refine ⟨?_, fresh_diagnostics policy, fun container => by rw [last_eq]; rfl, ?_⟩
  · simp only [fresh_diagnostics, last_eq]
    rfl
  rintro before step after rfl old new reply
  have earlier : ∀ call ∈ before, call.IsCall :=
    fun call mem => calls call (List.mem_append_left _ mem)
  have here : step.IsCall := calls step (by simp)
  have settings_eq : old.settings.unknownNodes = policy := by
    rw [show old = _ from run_of_isCall first earlier]
    rfl
  have reply_eq : (old.step step).1 = reply := by
    rw [step_of_isCall old here, settings_eq]
  have new_eq : new = (old.step step).2 := run_concat first before step
  refine ⟨?_, ?_, ?_, ?_, ?_⟩
  · rw [run_getElem?, reply_eq]
  · refine run_prefix first (List.forall_mem_append.2 ⟨earlier, ?_⟩)
    simpa using here
  · have cut : before ++ step :: after = before ++ [step] ++ after := by simp
    simp only [last, cut]
    exact run_prefix first (cut ▸ calls)
  · rw [new_eq, ← reply_eq, ← settings_eq]
    exact step_of_not_fill old here
  · rintro body container rfl
    rw [new_eq, ← reply_eq, ← settings_eq]
    exact fill_cases old body container

/-- A call that fails behind a node it has noted, then a class body that is filled twice. -/
theorem reused_after_failure :
    let redo : Node := Raw.Build.unplaced (.unsupported .redo)
    let failing : Step := .transform (some (Raw.Build.block [redo, Raw.Build.list []]))
    let filling : Step := .fill (some (Raw.Build.block [Raw.Build.int 1, redo])) .classDecl
    let last := ((start .permissive fun _ => []).run [failing, filling, filling]).2
    (∀ step ∈ [failing, filling, filling], step.IsCall) ∧
    ((fresh .permissive).step failing).1 = .failed (.violated .notAValue (Raw.Build.list [])) ∧
    last.diagnostics = [.leftOut redo, .leftOut redo, .leftOut redo] ∧
    last.contents .classDecl = [⟨.leaf (.int 1)⟩, ⟨.leaf (.int 1)⟩] := by
  intro redo failing filling last
  have calls : ∀ step ∈ [failing, filling, filling], step.IsCall := by decide
  have reused := reused_as_new .permissive (fun _ => []) [failing, filling, filling] calls
  exact ⟨calls, rfl, reused.1, reused.2.2.1 .classDecl⟩

end Session
end RubyModel
