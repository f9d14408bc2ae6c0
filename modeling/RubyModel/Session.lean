/-
# Sessions

A session turns several trees into models one after the other.  The warnings of all steps
are kept in order, also those of a step that fails; three containers collect the bodies
that are put into them.

A session is the `Transformer` of `SPEC_FULL.md`, §17, with the flattener of §4.3: the steps are
`transform`, `normalize_args`, `body_node_to_contents` and `diagnostics`.
-/

import RubyModel.Lowering.Value

namespace RubyModel

open Raw (Node)

/-- The containers of a session. -/
inductive Container where
  | block
  | classDecl
  | moduleDecl
  deriving DecidableEq

/-- A container without a name, as a model. -/
def Container.model (container : Container) (contents : List Model) : Model :=
  match container with
  | .block => ⟨.block contents⟩
  | .classDecl => ⟨.classDecl none none contents⟩
  | .moduleDecl => ⟨.moduleDecl none contents⟩

/-- What a session has gathered so far. -/
structure Session where
  settings : Settings := {}
  diagnostics : List Diagnostic := []
  contents : Container → List Model := fun _ => []

namespace Session

/-- What can be asked of a session. -/
inductive Step where
  /-- The model of a node that may be absent. -/
  | transform (node : Option Node)
  /-- The models of a node in argument position. -/
  | arguments (node : Node)
  /-- Puts a body into a container. -/
  | fill (body : Option Node) (container : Container)
  /-- Empties all containers. -/
  | clear
  /-- The warnings so far. -/
  | warnings

/-- What a step answers. -/
inductive Reply where
  | model (model : Option Model)
  | arguments (args : List Model)
  | contents (contents : List Model)
  | cleared
  | warnings (texts : List String)
  | failed (failure : Failure)

/-- Keeps the warnings of an outcome and goes on with its result. -/
def record {α : Type} (session : Session) (outcome : Outcome α)
    (next : Session → α → Reply × Session) : Reply × Session :=
  let session := { session with diagnostics := session.diagnostics ++ outcome.diagnostics }
  match outcome.result with
  | .error failure => (.failed failure, session)
  | .ok result => next session result

/-- Adds models to a container. -/
def add (session : Session) (container : Container) (models : List Model) : Session :=
  { session with
    contents := fun other =>
      if other = container then session.contents container ++ models else session.contents other }

/-- One step. -/
def step (session : Session) : Step → Reply × Session
  | .transform node =>
    session.record (Lowering.child session.settings.unknownNodes node) fun session model =>
      (.model model, session)
  | .arguments node =>
    session.record (Lowering.args session.settings.unknownNodes node) fun session args =>
      (.arguments args, session)
  | .fill body container =>
    session.record (Lowering.child session.settings.unknownNodes body) fun session model =>
      let session := session.add container (Model.contents model)
      (.contents (session.contents container), session)
  | .clear => (.cleared, { session with contents := fun _ => [] })
  | .warnings => (.warnings (session.diagnostics.map Diagnostic.text), session)

/-- Several steps: each reply with the number of warnings after it, and the session at the
end. -/
def run (session : Session) : List Step → List (Reply × Nat) × Session
  | [] => ([], session)
  | step :: steps =>
    let (reply, next) := session.step step
    let (replies, last) := next.run steps
    ((reply, next.diagnostics.length) :: replies, last)

end Session
end RubyModel
