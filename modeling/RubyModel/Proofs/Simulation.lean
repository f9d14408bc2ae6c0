/-
# Two runs over a tree and its twin

Apart from the failures it reports, turning a tree into a model never looks at a position, at the
spelling of a variable beyond its logical name, or into an unsupported node.  So two runs stay in
step, under any two policies, if one goes over a tree and the other over its twin (`Twin`), in which
such data is changed.

`Simulation` gathers what is needed of a relation between outcomes that does not depend on what has
been asked for, and `inStep` says that a tree and its twin have related outcomes in every position.

| comparison | second run |
| --- | --- |
| of the two policies | over the same tree |
| of a permissive run with a strict one | over the tree with gaps |
| of what is seen of a run (`View`) | over any twin that the view does not tell apart |
-/

import RubyModel.Proofs.LockStep

namespace RubyModel
namespace Lowering

open Raw (Node Unsupported)

/-- Two runs, over trees and their twins, and a relation between their outcomes: related
outcomes go on to related outcomes, an unsupported node and its twin have related outcomes,
and so have failures about a node and its twin. -/
structure Simulation (p q : Policy) where
  twin : Twin
  Rel : {α : Type} → Outcome α → Outcome α → Prop
  ok {α : Type} (result : α) : Rel (.ok result) (.ok result)
  bind {α β : Type} {x y : Outcome α} {f g : α → Outcome β} :
    Rel x y → (∀ result, Rel (f result) (g result)) → Rel (x >>= f) (y >>= g)
  unsupported (position : Position) (shape : Unsupported Node) :
    Rel (leaveOut p ⟨position, .unsupported shape⟩)
      (value q (twin.of ⟨position, .unsupported shape⟩))
  violated {α : Type} (violation : Violation) (node : Node) :
    Rel (.fail (.violated violation node) : Outcome α) (.fail (.violated violation (twin.of node)))
  argumentShape {α : Type} (node : Node) :
    Rel (.fail (.argumentShape node) : Outcome α) (.fail (.argumentShape (twin.of node)))

namespace Simulation

variable {p q : Policy} (S : Simulation p q)

/-- The runs stay in step, whatever has been asked for. -/
def lockStep : LockStep p q where
  twin := S.twin
  Match node other := other = S.twin.of node
  Rel _ _ x y := S.Rel x y
  ok := S.ok
  bind := S.bind
  enter _ _ _ _ _ _ below := below
  settled related _ := related
  unsupported position pairs matched := by
    rw [matched]
    exact S.unsupported position (Prod.fst <$> pairs)
  violated {_ _ _ _ node _ violation} _ _ matched := by
    rw [matched]
    exact S.violated violation node
  argumentShape {_ _ _ node _} _ _ matched := by
    rw [matched]
    exact S.argumentShape node

/-- **A tree and its twin are in step:** their outcomes are related in every position. -/
theorem inStep (node : Node) : S.lockStep.InStep (some (node, S.twin.of node)) :=
  LockStep.inStep_twin (fun _ => rfl) node

/-- The outcomes of a node and its twin in value position. -/
theorem value_rel (node : Node) : S.Rel (value p node) (value q (S.twin.of node)) := by
  have related : S.lockStep.Rel none _ (value p node) (value q (S.twin.of node)) :=
    (S.inStep node).asValue
  exact related

/-- The outcomes of a node and its twin in argument position. -/
theorem args_rel (node : Node) : S.Rel (args p node) (args q (S.twin.of node)) := by
  have related : S.lockStep.Rel none _ (args p node) (args q (S.twin.of node)) :=
    (S.inStep node).asArgs
  exact related

end Simulation
end Lowering
end RubyModel
