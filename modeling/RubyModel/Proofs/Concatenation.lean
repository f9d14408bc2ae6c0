/-
# Splitting a concatenation

The arguments of a concatenation can be found in two ways: from the inside out, one part after
the other, or by splitting it in three at its first splat (`SPEC_FULL.md`, §4.2).  The two give the
same outcome, with the same warnings, for concatenations nested in any way (`splitArgs_eq_item`).

The induction is over the tree.  What is pushed goes to the end of the trailing part, so the
arguments of `push first second` are those of the parts of `first`, then those of `second`
(`Split.args_push`); the nodes of a leading part are children of children, for which the
induction hypothesis is needed too.  A splat that is pushed onto is spread by one way and taken
as it is by the other, which makes no difference: a splat is not wrapped twice.
-/

import RubyModel.Lowering.Split
import RubyModel.Proofs.Positions
import RubyModel.Proofs.Tree
import RubyModel.Session

namespace RubyModel
namespace Lowering

open Raw (Node Shape)

/-- The arguments of the three parts in turn. -/
def Split.args (policy : Policy) (parts : Split) : Outcome (List Model) := do
  let leading ← partArgs policy parts.leading
  let middle ← middleArgs policy parts.middle
  let trailing ← partArgs policy parts.trailing
  return leading ++ middle ++ trailing

/-- A concatenation gives the arguments of its three parts. -/
theorem splitArgs_of_isConcatenation (policy : Policy) {node : Node}
    (h : node.isConcatenation = true) : splitArgs policy node = (split node).args policy := by
  rw [splitArgs, dif_pos h]
  rfl

/-- Any other node gives its value, if it has one. -/
theorem splitArgs_of_not_isConcatenation (policy : Policy) {node : Node}
    (h : ¬node.isConcatenation = true) :
    splitArgs policy node = value policy node >>= fun model => pure model.toList := by
  rw [splitArgs, dif_neg h]

/-! ## Parts -/

/-- No nodes give no arguments. -/
theorem partArgs_nil (policy : Policy) : partArgs policy [] = pure [] := by
  rw [partArgs]
  rfl

/-- The arguments of the first node come before those of the others. -/
theorem partArgs_cons (policy : Policy) (node : Node) (nodes : List Node) :
    partArgs policy (node :: nodes) = do
      let first ← splitArgs policy node
      let others ← partArgs policy nodes
      return first ++ others := by
  rw [partArgs]

/-- One node gives its own arguments. -/
theorem partArgs_singleton (policy : Policy) (node : Node) :
    partArgs policy [node] = splitArgs policy node := by
  simp only [partArgs_cons, partArgs_nil, pure_bind, List.append_nil, bind_pure]

/-- The arguments of nodes come in the order of the nodes. -/
theorem partArgs_append (policy : Policy) (before after : List Node) :
    partArgs policy (before ++ after) = do
      let first ← partArgs policy before
      let last ← partArgs policy after
      return first ++ last := by
  induction before with
  | nil => simp only [List.nil_append, partArgs_nil, pure_bind, bind_pure]
  | cons node nodes ih =>
    simp only [List.cons_append, partArgs_cons, ih, bind_assoc, pure_bind, List.append_assoc]

/-- A node that is pushed adds its arguments at the end. -/
theorem Split.args_push (policy : Policy) (parts : Split) (node : Node) :
    (parts.push node).args policy = do
      let before ← parts.args policy
      let last ← splitArgs policy node
      return before ++ last := by
  simp only [Split.args, Split.leading_push, Split.middle_push, Split.trailing_push,
    partArgs_append, partArgs_singleton, bind_assoc, pure_bind, List.append_assoc]

theorem middleArgs_none (policy : Policy) : middleArgs policy none = pure [] := rfl

/-- The value in the middle is spread. -/
theorem middleArgs_some (policy : Policy) (node : Node) :
    middleArgs policy (some node) = spread policy node :=
  (spread_eq policy node).symm

/-! ## Both ways agree -/

/-- The nodes of a list, taken as a part. -/
theorem partArgs_eq_itemList (policy : Policy) {nodes : List Node}
    (h : ∀ x ∈ nodes, splitArgs policy x = item policy x) :
    partArgs policy nodes = itemList policy nodes := by
  induction nodes with
  | nil => exact partArgs_nil policy
  | cons node nodes ih =>
    rw [partArgs_cons, h node List.mem_cons_self,
      ih fun x mem => h x (List.mem_cons_of_mem node mem)]
    rfl

/-- The first part of a concatenation: a list is taken apart, another node is an item. -/
theorem partArgs_elementsOf (policy : Policy) {node : Node}
    (h : splitArgs policy node = item policy node)
    (inner : node.shape.All fun x => splitArgs policy x = item policy x) :
    partArgs policy (elementsOf node) = group policy node := by
  rw [group_eq]
  obtain ⟨position, shape⟩ := node
  cases shape with
  | elements form items => exact partArgs_eq_itemList policy inner
  | _ => exact (partArgs_singleton policy _).trans h

/-- A concatenation goes on with the list that it is the first part of. -/
theorem group_of_isConcatenation (policy : Policy) {node : Node}
    (h : node.isConcatenation = true) : group policy node = item policy node := by
  obtain ⟨position, form, first, second, rfl⟩ := exists_of_isConcatenation h
  rw [group_eq]
  rfl

/-- A splat gives the same arguments whether it is spread or taken as it is. -/
theorem spread_splat (policy : Policy) (position : Position) (value : Option Node) :
    spread policy ⟨position, .splat value⟩ = group policy ⟨position, .splat value⟩ := by
  change ((child policy value >>= fun model => _) >>= fun model => _) =
    ((child policy value >>= fun model => _) >>= fun model => _)
  simp only [bind_assoc, pure_bind]
  rfl

/-- The parts of a node that is pushed onto. -/
theorem args_splitFirst (policy : Policy) {node : Node}
    (h : splitArgs policy node = item policy node)
    (inner : node.shape.All fun x => splitArgs policy x = item policy x) :
    (splitFirst node).args policy = group policy node := by
  fun_cases splitFirst node with
  | case1 position value =>
    rw [← spread_splat, ← middleArgs_some]
    simp only [Split.args, partArgs_nil, pure_bind, List.nil_append, List.append_nil, bind_pure]
  | case2 node _ =>
    simp only [Split.args, partArgs_elementsOf policy h inner, middleArgs_none, partArgs_nil,
      pure_bind, List.append_nil, bind_pure]

/-- **Splitting changes nothing:** a concatenation split in three gives what it gives from the
inside out. -/
theorem splitArgs_eq_item (policy : Policy) (node : Node) :
    splitArgs policy node = item policy node := by
  induction node using Node.deepInduction with
  | step position shape near =>
    by_cases concat : (⟨position, shape⟩ : Node).isConcatenation = true
    · obtain ⟨_, form, first, second, e⟩ := exists_of_isConcatenation concat
      obtain ⟨rfl, rfl⟩ := Node.mk.inj e
      obtain ⟨⟨ihFirst, inner⟩, ihSecond, -⟩ := near
      rw [splitArgs_of_isConcatenation policy concat]
      cases form with
      | cat =>
        change Split.args policy { leading := elementsOf first, middle := some second } =
          (group policy first >>= fun before => spread policy second >>= fun last => _)
        simp only [Split.args, partArgs_elementsOf policy ihFirst inner, middleArgs_some,
          partArgs_nil, pure_bind, List.append_nil]
      | push =>
        change Split.args policy (Split.push _ second) =
          (group policy first >>= fun before => item policy second >>= fun last => _)
        rw [Split.args_push, ihSecond]
        by_cases again : first.isConcatenation = true
        · rw [if_pos again, ← splitArgs_of_isConcatenation policy again, ihFirst,
            group_of_isConcatenation policy again]
        · rw [if_neg again, args_splitFirst policy ihFirst inner]
    · rw [splitArgs_of_not_isConcatenation policy concat, item_eq, if_neg concat]

/-- In argument position, a concatenation gives what it gives among the items of a list. -/
theorem args_of_isConcatenation (policy : Policy) {node : Node}
    (h : node.isConcatenation = true) : args policy node = item policy node := by
  rw [item_eq, if_pos h]

/-- **The arguments of a concatenation.**  Whatever a session has noted before, it gives a
concatenation the arguments that splitting finds, with the same warnings or the same failure; so
does value position, as an array.  They follow a plain recursion: first the arguments of the
first part, item by item, then the value that is spread or the item that is pushed, where a
concatenation among the items stands for its own arguments. -/
theorem concatenation_split (session : Session) :
    let policy := session.settings.unknownNodes
    (∀ position form first second,
      let node : Node := ⟨position, .concat form first second⟩
      args policy node = splitArgs policy node ∧
      value policy node = (do let values ← splitArgs policy node; return some ⟨.array values⟩) ∧
      session.step (.arguments node) =
        session.record (splitArgs policy node) fun after args => (.arguments args, after)) ∧
    (∀ position first second, splitArgs policy ⟨position, .concat .cat first second⟩ = do
      let before ← group policy first
      let last ← spread policy second
      return before ++ last) ∧
    (∀ position first second, splitArgs policy ⟨position, .concat .push first second⟩ = do
      let before ← group policy first
      let last ← item policy second
      return before ++ last) ∧
    (∀ node, item policy node = if node.isConcatenation then splitArgs policy node else do
      let model ← value policy node
      return model.toList) ∧
    (∀ node, group policy node = match node.listElements? with
      | some items => itemList policy items
      | none => item policy node) ∧
    ∀ node, spread policy node = match node.listElements? with
      | some items => list policy items
      | none => do
        let model ← value policy node
        return (model.map Model.intoSplat).toList := by
  intro policy
  refine ⟨fun position form first second => ?_, fun position first second => ?_,
    fun position first second => ?_, fun node => ?_, group_eq policy, spread_eq policy⟩
  · intro node
    have concat : node.isConcatenation = true := rfl
    have same : args policy node = splitArgs policy node := by
      rw [splitArgs_eq_item, args_of_isConcatenation policy concat]
    refine ⟨same, ?_, ?_⟩
    · rw [value_of_isConcatenation policy concat, same]
    · rw [← same]
      rfl
  · rw [splitArgs_eq_item]
    rfl
  · rw [splitArgs_eq_item]
    rfl
  · rw [splitArgs_eq_item, item_eq]
    split
    · next concat => rw [args_of_isConcatenation policy concat]
    · rfl

end Lowering
end RubyModel
