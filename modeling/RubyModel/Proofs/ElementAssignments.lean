/-
# Index and value of an element assignment

The setter of `a[i] = v` has the arguments `i` and `v`, in one array.  The models of the elements of
an array come without the absent ones, and the first two that are left are taken as the index and
the value (`ATTRASSIGNNODE` in `SPEC_FULL.md`, §13):

| gives a model | index | value |
| --- | --- | --- |
| `i` and `v` | `i` | `v` |
| `i` | `i` | absent |
| `v` | `v` | absent |
| neither | absent | absent |

So an index that is left out hands its place to the value.  What is counted to refuse `a[i, j] = v`
are the models that are left, too: an index that is left out among several is not counted.
-/

import Mathlib.Data.List.Forall2
import Mathlib.Data.List.ReduceOption
import RubyModel.Lowering.Value
import RubyModel.Raw.Build

namespace RubyModel
namespace Lowering

open Raw (Node)

variable {policy : Policy}

/-- The node gives a model, or an absent one, and does not fail. -/
def Gives (policy : Policy) (node : Node) (model : Option Model) : Prop :=
  (value policy node).result = .ok model

/-- The models of a list are those that its nodes give, without the absent ones. -/
theorem list_of_gives {nodes : List Node} {models : List (Option Model)}
    (gives : List.Forall₂ (Gives policy) nodes models) :
    (list policy nodes).result = .ok models.reduceOption := by
  induction gives with
  | nil => rfl
  | @cons node model nodes models here _ ih =>
    have rest : (list policy (node :: nodes)).result = .ok (model.toList ++ models.reduceOption) :=
      Outcome.result_bind_eq_ok.2 ⟨_, here, Outcome.result_bind_eq_ok.2 ⟨_, ih, rfl⟩⟩
    cases model with
    | none => exact rest
    | some model => exact rest

/-- The assignment `receiver[elements] = …`, where the last element is the value. -/
def elementAssignment (position place : Position) (receiver : Option Node) (elements : List Node) :
    Node :=
  ⟨position, .attributeAssign receiver elementSetter (some ⟨place, .elements .array elements⟩)⟩

/-- The first two models that are left are the index and the value, unless there are more. -/
theorem value_elementAssignment (position place : Position) {receiver : Option Node}
    {container : Option Model} {elements : List Node} {models : List (Option Model)}
    (receives : (child policy receiver).result = .ok container)
    (gives : List.Forall₂ (Gives policy) elements models) :
    (value policy (elementAssignment position place receiver elements)).result =
      if models.reduceOption.length ≤ 2 then
        .ok (some ⟨.elementAssign container models.reduceOption[0]? models.reduceOption[1]?⟩)
      else .error (.violated (.severalIndices (models.reduceOption.length - 1))
        (elementAssignment position place receiver elements)) := by
  have args : (optionalArgs policy (some ⟨place, .elements .array elements⟩)).result =
      .ok models.reduceOption := list_of_gives gives
  refine (Outcome.result_bind_of_ok receives).trans ((Outcome.result_bind_of_ok args).trans ?_)
  rw [attributeAssignment, if_pos rfl]
  by_cases few : models.reduceOption.length ≤ 2
  · rw [if_neg (Nat.not_lt.2 few), if_pos few]
    rfl
  · rw [if_pos (Nat.lt_of_not_le few), if_neg few]
    rfl

/-- **Index and value are the first two models that are left.**  Take an element assignment whose
receiver and elements do not fail.  It is refused exactly if more than two of the elements give a
model, however many elements there are; else the index and the value are the first two of these
models.  With an index and a value as its elements, it keeps them apart exactly if the index gives
a model or the value does not. -/
theorem element_assignment (position place : Position) {receiver : Option Node}
    {container : Option Model} {elements : List Node} {models : List (Option Model)}
    (receives : (child policy receiver).result = .ok container)
    (gives : List.Forall₂ (Gives policy) elements models) :
    ((value policy (elementAssignment position place receiver elements)).result =
      if models.reduceOption.length ≤ 2 then
        .ok (some ⟨.elementAssign container models.reduceOption[0]? models.reduceOption[1]?⟩)
      else .error (.violated (.severalIndices (models.reduceOption.length - 1))
        (elementAssignment position place receiver elements))) ∧
    (∀ index assigned, models = [index, assigned] →
      ((value policy (elementAssignment position place receiver elements)).result =
        .ok (some ⟨.elementAssign container index assigned⟩) ↔ (index = none → assigned = none))) ∧
    ((∃ violation, (value policy (elementAssignment position place receiver elements)).result =
        .error (.violated violation (elementAssignment position place receiver elements))) ↔
      3 ≤ models.reduceOption.length) := by
  have result := value_elementAssignment position place receives gives
  refine ⟨result, ?_, ?_⟩
  · rintro index assigned rfl
    have few : [index, assigned].reduceOption.length ≤ 2 := List.reduceOption_length_le _
    rw [result, if_pos few]
    cases index with
    | some index => cases assigned <;> exact iff_of_true rfl nofun
    | none =>
      cases assigned with
      | none => exact iff_of_true rfl fun _ => rfl
      | some assigned => exact iff_of_false nofun fun kept => nomatch kept rfl
  · rw [result]
    by_cases few : models.reduceOption.length ≤ 2
    · rw [if_pos few]
      exact iff_of_false nofun (by omega)
    · rw [if_neg few]
      exact iff_of_true ⟨_, rfl⟩ (by omega)

section LeftOut

open Raw.Build

/-- The elements of `a[…] = …` that begin with a shell command. -/
def shellElements (others : List Node) : List Node :=
  unplaced (.unsupported (.shell "ls")) :: others

/-- Where the shell command is left out, the value of the first assignment stands in the place of
its index, and the second one passes for an assignment with one index. -/
theorem element_assignment_shellElements :
    (value .permissive
      (elementAssignment {} {} (some (localVar "a")) (shellElements [int 1]))).result =
        .ok (some ⟨.elementAssign (some ⟨.leaf (.localVar .method "a")⟩)
          (some ⟨.leaf (.int 1)⟩) none⟩) ∧
    (value .permissive
      (elementAssignment {} {} (some (localVar "a")) (shellElements [int 1]))).result ≠
        .ok (some ⟨.elementAssign (some ⟨.leaf (.localVar .method "a")⟩)
          none (some ⟨.leaf (.int 1)⟩)⟩) ∧
    ¬∃ violation, (value .permissive
      (elementAssignment {} {} (some (localVar "a")) (shellElements [int 1, int 2]))).result =
        .error (.violated violation
          (elementAssignment {} {} (some (localVar "a")) (shellElements [int 1, int 2]))) := by
  have receives : (child .permissive (some (localVar "a"))).result =
      .ok (some ⟨.leaf (.localVar .method "a")⟩) := rfl
  have one : List.Forall₂ (Gives .permissive) (shellElements [int 1])
      [none, some ⟨.leaf (.int 1)⟩] := .cons rfl (.cons rfl .nil)
  have two : List.Forall₂ (Gives .permissive) (shellElements [int 1, int 2])
      [none, some ⟨.leaf (.int 1)⟩, some ⟨.leaf (.int 2)⟩] := .cons rfl (.cons rfl (.cons rfl .nil))
  obtain ⟨result, apart, -⟩ := element_assignment {} {} receives one
  obtain ⟨-, -, refused⟩ := element_assignment {} {} receives two
  refine ⟨result, fun kept => ?_, fun violated => ?_⟩
  · cases (apart _ _ rfl).1 kept rfl
  · exact absurd (refused.1 violated) (by decide)

end LeftOut

end Lowering
end RubyModel
