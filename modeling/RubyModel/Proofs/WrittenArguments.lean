/-
# Written arguments

A list of arguments, some of them splats, is nested by the parser in one way: plain arguments
are an array; a splat, and every argument after one, is added to what stands before it.

| written | encoded |
| --- | --- |
| `f(a, b)` | `[a, b]` |
| `f(*a)` | `splat a` |
| `f(a, *b)` | `cat [a] b` |
| `f(*a, b)` | `push (splat a) b` |

An array literal with a splat in it, `[1, *b]`, is a concatenation as well.  Where it is an
argument of its own beside a splat, it is not told apart from the nesting of the list and gives
its elements one by one: `f(*a, [1, *b])` gives `*a, 1, *b`.  So the arguments come out as they
were written (`SPEC_FULL.md`, §8) exactly if there is no splat or no such literal among them
(`written_arguments`).
-/

import Mathlib.Data.List.Induction
import RubyModel.Proofs.Positions
import RubyModel.Raw.Build

namespace RubyModel
namespace Lowering

open Raw (Node)

/-- A written argument: its node and the model of this.  What a splat spreads is neither a
literal list nor a splat again. -/
structure Argument (policy : Policy) where
  isSplat : Bool
  node : Node
  model : Model
  gives : (value policy node).result = .ok (some model)
  spreads : isSplat = true → node.listElements? = none ∧ ∀ inner, model ≠ ⟨.splat inner⟩

namespace Argument

variable {policy : Policy}

/-- The argument as it was written. -/
def entry (argument : Argument policy) : Model :=
  if argument.isSplat then ⟨.splat (some argument.model)⟩ else argument.model

/-- The argument is an array literal with a splat in it. -/
def isSplicing (argument : Argument policy) : Bool :=
  !argument.isSplat && argument.node.isConcatenation

/-- What the argument gives beside a splat. -/
def spliced (argument : Argument policy) : List Model :=
  if argument.isSplicing then assignedValues (some argument.model) else [argument.entry]

end Argument

/-- The encodings of a list of arguments. -/
inductive Encodes {policy : Policy} : List (Argument policy) → Node → Prop where
  | plain (position : Position) (arguments : List (Argument policy))
      (noSplat : ∀ argument ∈ arguments, argument.isSplat = false) :
      Encodes arguments ⟨position, .elements .array (arguments.map Argument.node)⟩
  | splat (position : Position) (argument : Argument policy) (isSplat : argument.isSplat = true) :
      Encodes [argument] ⟨position, .splat (some argument.node)⟩
  | cat (position : Position) (before : List (Argument policy)) (first : Node)
      (argument : Argument policy) (encoded : Encodes before first) (nonempty : before ≠ [])
      (isSplat : argument.isSplat = true) :
      Encodes (before ++ [argument]) ⟨position, .concat .cat first argument.node⟩
  | push (position : Position) (before : List (Argument policy)) (first : Node)
      (argument : Argument policy) (encoded : Encodes before first)
      (afterSplat : ∃ earlier ∈ before, earlier.isSplat = true)
      (notSplat : argument.isSplat = false) :
      Encodes (before ++ [argument]) ⟨position, .concat .push first argument.node⟩

variable {policy : Policy}

/-- Every list of arguments can be encoded. -/
theorem exists_encodes (arguments : List (Argument policy)) :
    ∃ node, Encodes arguments node := by
  induction arguments using List.reverseRecOn with
  | nil => exact ⟨_, .plain default [] nofun⟩
  | append_singleton before argument ih =>
    obtain ⟨first, encoded⟩ := ih
    by_cases isSplat : argument.isSplat = true
    · by_cases empty : before = []
      · subst empty
        exact ⟨_, .splat default argument isSplat⟩
      · exact ⟨_, .cat default before first argument encoded empty isSplat⟩
    · have notSplat : argument.isSplat = false := eq_false_of_ne_true isSplat
      by_cases afterSplat : ∃ earlier ∈ before, earlier.isSplat = true
      · exact ⟨_, .push default before first argument encoded afterSplat notSplat⟩
      · refine ⟨_, .plain default (before ++ [argument]) fun other mem => ?_⟩
        rcases List.mem_append.1 mem with mem | mem
        · exact eq_false_of_ne_true fun isSplat => afterSplat ⟨other, mem, isSplat⟩
        · rwa [List.mem_singleton.1 mem]

/-! ## What the arguments give -/

/-- A literal with a splat in it is the array of the arguments it is made of. -/
theorem Argument.args_node (argument : Argument policy)
    (concat : argument.node.isConcatenation = true) :
    ∃ values, (args policy argument.node).result = .ok values ∧
      argument.model = ⟨.array values⟩ := by
  have gives := argument.gives
  rw [value_of_isConcatenation policy concat] at gives
  obtain ⟨values, found, e⟩ := Outcome.result_bind_eq_ok.1 gives
  exact ⟨values, found, (Option.some.inj (Except.ok.inj e)).symm⟩

/-- Among the items of a list, a plain argument gives what it gives beside a splat. -/
theorem Argument.item_node (argument : Argument policy) (notSplat : argument.isSplat = false) :
    (item policy argument.node).result = .ok argument.spliced := by
  rw [item_eq, Argument.spliced, Argument.isSplicing, notSplat, Bool.not_false, Bool.true_and]
  split
  · next concat =>
    obtain ⟨values, found, e⟩ := argument.args_node concat
    rw [found, e]
    rfl
  · rw [Argument.entry, notSplat]
    exact Outcome.result_bind_eq_ok.2 ⟨some argument.model, argument.gives, rfl⟩

/-- A splat gives one entry. -/
theorem Argument.spliced_of_isSplat (argument : Argument policy)
    (isSplat : argument.isSplat = true) :
    argument.spliced = [⟨.splat (some argument.model)⟩] := by
  rw [Argument.spliced, Argument.isSplicing, Argument.entry, isSplat]
  rfl

/-- A splat is put around a model that is none. -/
theorem intoSplat_of_ne {model : Model} (h : ∀ inner, model ≠ ⟨.splat inner⟩) :
    model.intoSplat = ⟨.splat (some model)⟩ := by
  obtain ⟨form⟩ := model
  cases form with
  | splat value => exact absurd rfl (h value)
  | _ => rfl

/-- At the end of a concatenation, a splat gives its entry. -/
theorem Argument.spread_node (argument : Argument policy) (isSplat : argument.isSplat = true) :
    (spread policy argument.node).result = .ok argument.spliced := by
  obtain ⟨single, notSplat⟩ := argument.spreads isSplat
  rw [spread_eq, single, argument.spliced_of_isSplat isSplat, ← intoSplat_of_ne notSplat]
  exact Outcome.result_bind_eq_ok.2 ⟨some argument.model, argument.gives, rfl⟩

/-- A list of plain arguments gives the arguments as they were written. -/
theorem list_arguments (arguments : List (Argument policy))
    (noSplat : ∀ argument ∈ arguments, argument.isSplat = false) :
    (list policy (arguments.map Argument.node)).result = .ok (arguments.map Argument.entry) := by
  induction arguments with
  | nil => rfl
  | cons argument arguments ih =>
    have entry : argument.entry = argument.model := by
      rw [Argument.entry, noSplat argument List.mem_cons_self]
      rfl
    have others := ih fun other mem => noSplat other (List.mem_cons_of_mem _ mem)
    rw [List.map_cons, List.map_cons, entry]
    exact Outcome.result_bind_eq_ok.2 ⟨some argument.model, argument.gives,
      Outcome.result_bind_eq_ok.2 ⟨_, others, rfl⟩⟩

/-- As the first part of a concatenation, a list of plain arguments is taken item by item. -/
theorem itemList_arguments (arguments : List (Argument policy))
    (noSplat : ∀ argument ∈ arguments, argument.isSplat = false) :
    (itemList policy (arguments.map Argument.node)).result =
      .ok (arguments.flatMap Argument.spliced) := by
  induction arguments with
  | nil => rfl
  | cons argument arguments ih =>
    have first := argument.item_node (noSplat argument List.mem_cons_self)
    have others := ih fun other mem => noSplat other (List.mem_cons_of_mem _ mem)
    rw [List.map_cons, List.flatMap_cons]
    exact Outcome.result_bind_eq_ok.2 ⟨_, first, Outcome.result_bind_eq_ok.2 ⟨_, others, rfl⟩⟩

/-- **Beside a splat:** as the first part of a concatenation, a list of arguments gives what each
of them gives beside a splat.  The induction is over the encoding, one more argument at a time. -/
theorem group_encodes {arguments : List (Argument policy)} {node : Node}
    (encoded : Encodes arguments node) :
    (group policy node).result = .ok (arguments.flatMap Argument.spliced) := by
  induction encoded with
  | plain position arguments noSplat => exact itemList_arguments arguments noSplat
  | splat position argument isSplat =>
    rw [List.flatMap_singleton, argument.spliced_of_isSplat isSplat]
    exact Outcome.result_bind_eq_ok.2 ⟨some ⟨.splat (some argument.model)⟩,
      Outcome.result_bind_eq_ok.2 ⟨some argument.model, argument.gives, rfl⟩, rfl⟩
  | cat position before first argument encoded nonempty isSplat ih =>
    rw [List.flatMap_append, List.flatMap_singleton]
    exact Outcome.result_bind_eq_ok.2
      ⟨_, ih, Outcome.result_bind_eq_ok.2 ⟨_, argument.spread_node isSplat, rfl⟩⟩
  | push position before first argument encoded afterSplat notSplat ih =>
    rw [List.flatMap_append, List.flatMap_singleton]
    exact Outcome.result_bind_eq_ok.2
      ⟨_, ih, Outcome.result_bind_eq_ok.2 ⟨_, argument.item_node notSplat, rfl⟩⟩

/-- In argument position, a list with a splat gives the same. -/
theorem args_encodes_of_splat {arguments : List (Argument policy)} {node : Node}
    (encoded : Encodes arguments node)
    (hasSplat : ∃ argument ∈ arguments, argument.isSplat = true) :
    (args policy node).result = .ok (arguments.flatMap Argument.spliced) := by
  have gives := group_encodes encoded
  cases encoded with
  | plain position _ noSplat =>
    obtain ⟨argument, mem, isSplat⟩ := hasSplat
    exact absurd isSplat (Bool.eq_false_iff.1 (noSplat argument mem))
  | splat => exact gives
  | cat => exact gives
  | push => exact gives

/-- In argument position, a list without a splat gives the arguments as they were written. -/
theorem args_encodes_of_not_splat {arguments : List (Argument policy)} {node : Node}
    (encoded : Encodes arguments node)
    (noSplat : ∀ argument ∈ arguments, argument.isSplat = false) :
    (args policy node).result = .ok (arguments.map Argument.entry) := by
  cases encoded with
  | plain position _ _ => exact list_arguments arguments noSplat
  | splat position argument isSplat =>
    exact absurd isSplat (Bool.eq_false_iff.1 (noSplat argument List.mem_cons_self))
  | cat position before first argument encoded nonempty isSplat =>
    exact absurd isSplat (Bool.eq_false_iff.1 (noSplat argument (by simp)))
  | push position before first argument encoded afterSplat notSplat =>
    obtain ⟨earlier, mem, isSplat⟩ := afterSplat
    exact absurd isSplat (Bool.eq_false_iff.1 (noSplat earlier (List.mem_append_left _ mem)))

/-! ## Written and spliced arguments differ -/

/-- The room that models take. -/
noncomputable def room : List Model → Nat
  | [] => 0
  | model :: models => sizeOf model + room models

/-- The room of one list after another. -/
theorem room_append (before after : List Model) :
    room (before ++ after) = room before + room after := by
  induction before with
  | nil => exact (Nat.zero_add _).symm
  | cons model models ih => rw [List.cons_append, room, room, ih, Nat.add_assoc]

/-- A list has less room than its size. -/
theorem room_lt_sizeOf (models : List Model) : room models < sizeOf models := by
  induction models with
  | nil => decide
  | cons model models ih =>
    rw [room, List.cons.sizeOf_spec]
    omega

/-- The elements of an array take less room than the array. -/
theorem Argument.room_spliced_lt (argument : Argument policy) (h : argument.isSplicing = true) :
    room argument.spliced < sizeOf argument.entry := by
  obtain ⟨notSplat, concat⟩ := Bool.and_eq_true_iff.1 h
  obtain ⟨values, -, e⟩ := argument.args_node concat
  have entry : argument.entry = ⟨.array values⟩ := by
    rw [Argument.entry, (Bool.not_eq_true' _).mp notSplat, e]
    rfl
  have spliced : argument.spliced = values := by
    rw [Argument.spliced, if_pos h, e]
    rfl
  have := room_lt_sizeOf values
  rw [entry, spliced, Model.mk.sizeOf_spec, Form.array.sizeOf_spec]
  omega

/-- An argument that splices nothing is one entry. -/
theorem Argument.spliced_eq (argument : Argument policy) (h : argument.isSplicing = false) :
    argument.spliced = [argument.entry] := by
  rw [Argument.spliced, h]
  rfl

/-- What an argument splices has no more room than its entry. -/
theorem Argument.room_spliced_le (argument : Argument policy) :
    room argument.spliced ≤ sizeOf argument.entry := by
  by_cases h : argument.isSplicing = true
  · exact Nat.le_of_lt (argument.room_spliced_lt h)
  · rw [argument.spliced_eq (eq_false_of_ne_true h)]
    exact Nat.le_refl _

/-- Splicing never takes more room. -/
theorem room_flatMap_le (arguments : List (Argument policy)) :
    room (arguments.flatMap Argument.spliced) ≤ room (arguments.map Argument.entry) := by
  induction arguments with
  | nil => exact Nat.le_refl _
  | cons argument arguments ih =>
    have := argument.room_spliced_le
    rw [List.flatMap_cons, room_append, List.map_cons, room]
    omega

/-- Taking one argument apart loses room that no other argument gains. -/
theorem room_flatMap_lt {arguments : List (Argument policy)} {argument : Argument policy}
    (mem : argument ∈ arguments) (splicing : argument.isSplicing = true) :
    room (arguments.flatMap Argument.spliced) < room (arguments.map Argument.entry) := by
  induction arguments with
  | nil => cases mem
  | cons first arguments ih =>
    rw [List.flatMap_cons, room_append, List.map_cons, room]
    have le := first.room_spliced_le
    rcases List.mem_cons.1 mem with rfl | mem
    · have lt := argument.room_spliced_lt splicing
      have others := room_flatMap_le arguments
      omega
    · have lt := ih mem
      omega

/-- Arguments are spliced to what was written exactly if nothing is taken apart. -/
theorem flatMap_spliced_eq_iff (arguments : List (Argument policy)) :
    arguments.flatMap Argument.spliced = arguments.map Argument.entry ↔
      ∀ argument ∈ arguments, argument.isSplicing = false := by
  constructor
  · intro same argument mem
    by_contra splicing
    have less := room_flatMap_lt mem (eq_true_of_ne_false splicing)
    rw [same] at less
    exact Nat.lt_irrefl _ less
  · intro none
    induction arguments with
    | nil => rfl
    | cons argument arguments ih =>
      rw [List.flatMap_cons, List.map_cons, argument.spliced_eq (none argument List.mem_cons_self),
        ih fun other mem => none other (List.mem_cons_of_mem _ mem), List.singleton_append]

/-- **Arguments as they were written.**  Every list of arguments has an encoding, and in
argument position this gives one entry for each argument, in order, exactly if there is no
splat or no array literal with a splat in it among them.  Beside a splat, such a literal gives
its elements in its place. -/
theorem written_arguments (policy : Policy) (arguments : List (Argument policy)) :
    (∃ node, Encodes arguments node) ∧
    ∀ node, Encodes arguments node →
      ((args policy node).result = .ok (arguments.map Argument.entry) ↔
        (∀ argument ∈ arguments, argument.isSplat = false) ∨
          ∀ argument ∈ arguments, argument.isSplat = false →
            argument.node.isConcatenation = false) ∧
      ((∃ argument ∈ arguments, argument.isSplat = true) →
        (args policy node).result = .ok (arguments.flatMap Argument.spliced)) := by
  refine ⟨exists_encodes arguments, fun node encoded => ⟨?_, args_encodes_of_splat encoded⟩⟩
  have splicing : (∀ argument ∈ arguments, argument.isSplicing = false) ↔
      ∀ argument ∈ arguments, argument.isSplat = false → argument.node.isConcatenation = false := by
    simp [Argument.isSplicing]
  by_cases hasSplat : ∃ argument ∈ arguments, argument.isSplat = true
  · have notPlain : ¬∀ argument ∈ arguments, argument.isSplat = false := by
      obtain ⟨argument, mem, isSplat⟩ := hasSplat
      exact fun noSplat => absurd isSplat (Bool.eq_false_iff.1 (noSplat argument mem))
    rw [args_encodes_of_splat encoded hasSplat, or_iff_right notPlain, ← splicing,
      ← flatMap_spliced_eq_iff, Except.ok.injEq]
  · have noSplat : ∀ argument ∈ arguments, argument.isSplat = false := fun argument mem =>
      eq_false_of_ne_true fun isSplat => hasSplat ⟨argument, mem, isSplat⟩
    exact iff_of_true (args_encodes_of_not_splat encoded noSplat) (.inl noSplat)

section Splicing

open Raw.Build

/-- The argument `*a`. -/
def splatArgument : Argument .strict where
  isSplat := true
  node := localVar "a"
  model := ⟨.leaf (.localVar .method "a")⟩
  gives := rfl
  spreads _ := ⟨rfl, fun _ e => nomatch e⟩

/-- The argument `[1, *b]`. -/
def literalArgument : Argument .strict where
  isSplat := false
  node := cat (array [int 1]) (localVar "b")
  model := ⟨.array [⟨.leaf (.int 1)⟩, ⟨.splat (some ⟨.leaf (.localVar .method "b")⟩)⟩]⟩
  gives := rfl
  spreads := nofun

/-- The arguments `*a, [1, *b]` as the parser encodes them. -/
theorem encodes_splat_literal : Encodes [splatArgument, literalArgument]
    (push (splat (localVar "a")) (cat (array [int 1]) (localVar "b"))) :=
  .push {} [splatArgument] _ literalArgument (.splat {} splatArgument rfl)
    ⟨splatArgument, List.mem_cons_self, rfl⟩ rfl

/-- The arguments of `f(*a, [1, *b])` do not come out as they were written: there are three. -/
theorem splat_literal_spliced :
    Encodes [splatArgument, literalArgument]
      (push (splat (localVar "a")) (cat (array [int 1]) (localVar "b"))) ∧
    (args .strict (push (splat (localVar "a")) (cat (array [int 1]) (localVar "b")))).result ≠
      .ok [⟨.splat (some ⟨.leaf (.localVar .method "a")⟩)⟩,
        ⟨.array [⟨.leaf (.int 1)⟩, ⟨.splat (some ⟨.leaf (.localVar .method "b")⟩)⟩]⟩] ∧
    (args .strict (push (splat (localVar "a")) (cat (array [int 1]) (localVar "b")))).result =
      .ok [⟨.splat (some ⟨.leaf (.localVar .method "a")⟩)⟩, ⟨.leaf (.int 1)⟩,
        ⟨.splat (some ⟨.leaf (.localVar .method "b")⟩)⟩] := by
  obtain ⟨written, spliced⟩ := (written_arguments .strict [splatArgument, literalArgument]).2 _
    encodes_splat_literal
  refine ⟨encodes_splat_literal, fun same => ?_,
    spliced ⟨splatArgument, List.mem_cons_self, rfl⟩⟩
  rcases written.1 same with noSplat | noLiteral
  · exact absurd (noSplat splatArgument (by simp)) (by decide)
  · exact absurd (noLiteral literalArgument (by simp) rfl) (by decide)

end Splicing

end Lowering
end RubyModel
