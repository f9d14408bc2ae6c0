/-
# Keys and values of a hash

The list of a hash holds keys and values in turn (`HASHNODE` in `SPEC_FULL.md`, §13).  They are
visited one by one like the members of any list, but an absent one is not dropped (`hashPairs_eq`):
it leaves its pair incomplete, and what comes after it stays in its own pair.

| elements | hash |
| --- | --- |
| an odd number | a failure at the hash, before any element is looked at |
| an even number, one of which fails | the failure of the first that does |
| `2 * n`, none of which fails | `n` pairs, pair `i` from the elements `2 * i` and `2 * i + 1` |

The warnings are those of the elements that were looked at, in their order.
-/

import Mathlib.Data.List.Forall2
import RubyModel.Lowering.Value
import RubyModel.Proofs.ElementAssignments
import RubyModel.Raw.Build

namespace RubyModel

/-! ## One step for each member of a list -/

namespace Outcome

variable {α β : Type} {step : α → Outcome β}

/-- Steps that all give a result give the list of the results, with all warnings in order. -/
theorem mapM_of_ok {inputs : List α} {results : List β}
    (gives : List.Forall₂ (fun input result => (step input).result = .ok result) inputs results) :
    inputs.mapM step = ⟨.ok results, inputs.flatMap fun input => (step input).diagnostics⟩ := by
  induction gives with
  | nil => rfl
  | @cons input result inputs results here _ ih =>
    have first : step input = ⟨.ok result, (step input).diagnostics⟩ := by rw [← here]
    rw [List.mapM_cons, ih, first]
    simp only [bind_ok, pure_eq, List.append_nil, List.flatMap_cons]

/-- There is a list of results only if each step gives its own. -/
theorem result_mapM_eq_ok {inputs : List α} {results : List β} :
    (inputs.mapM step).result = .ok results ↔
      List.Forall₂ (fun input result => (step input).result = .ok result) inputs results := by
  refine ⟨fun given => ?_, fun gives => by rw [mapM_of_ok gives]⟩
  induction inputs generalizing results with
  | nil =>
    obtain rfl : [] = results := Except.ok.inj given
    exact .nil
  | cons input inputs ih =>
    rw [List.mapM_cons] at given
    obtain ⟨first, here, given⟩ := result_bind_eq_ok.1 given
    obtain ⟨others, rest, given⟩ := result_bind_eq_ok.1 given
    obtain rfl : first :: others = results := Except.ok.inj given
    exact .cons here (ih rest)

/-- The first step that fails ends the run: nothing after it adds a warning. -/
theorem mapM_of_error {before after : List α} {wrong : α} {results : List β} {failure : Failure}
    (gives : List.Forall₂ (fun input result => (step input).result = .ok result) before results)
    (fails : (step wrong).result = .error failure) :
    (before ++ wrong :: after).mapM step =
      ⟨.error failure, (before ++ [wrong]).flatMap fun input => (step input).diagnostics⟩ := by
  have last : step wrong = ⟨.error failure, (step wrong).diagnostics⟩ := by rw [← fails]
  rw [List.mapM_append, mapM_of_ok gives, List.mapM_cons, last]
  simp only [bind_ok, bind_error, List.flatMap_append, List.flatMap_cons, List.flatMap_nil,
    List.append_nil]

end Outcome

namespace Lowering

open Raw (Node ListForm)

/-! ## Pairing up -/

/-- Keys and values that alternate, as pairs. -/
def paired : List (Option Model) → List Model
  | key :: val :: rest => ⟨.hashPair key val⟩ :: paired rest
  | _ => []

/-- Two models make a pair. -/
theorem length_paired : ∀ models : List (Option Model),
    (paired models).length = models.length / 2
  | [] => rfl
  | [_] => by simp [paired]
  | key :: val :: rest => by
    have ih := length_paired rest
    simp only [paired, List.length_cons]
    omega

/-- A pair is made of the two models at its own place. -/
theorem paired_getElem? {models : List (Option Model)} {i : Nat} {key val : Option Model}
    (at_key : models[2 * i]? = some key) (at_val : models[2 * i + 1]? = some val) :
    (paired models)[i]? = some ⟨.hashPair key val⟩ := by
  fun_induction paired models generalizing i with
  | case1 first second rest ih =>
    cases i with
    | zero =>
      obtain rfl : first = key := Option.some.inj at_key
      obtain rfl : second = val := Option.some.inj at_val
      rfl
    | succ i =>
      rw [show 2 * (i + 1) = 2 * i + 1 + 1 from by omega] at at_key at_val
      simp only [List.getElem?_cons_succ] at at_key at_val ⊢
      exact ih at_key at_val
  | case2 models short =>
    -- A list without two members has no value at an odd place.
    have bound : 2 * i + 1 < models.length := (List.getElem?_eq_some_iff.1 at_val).1
    match models, short with
    | [], _ => simp at bound
    | [_], _ => simp at bound
    | first :: second :: rest, short => exact absurd rfl (short first second rest)

/-- **Absent keys and values keep their place:** the elements are visited like the members of any
list, and their models are paired up as they come. -/
theorem hashPairs_eq (policy : Policy) : ∀ {elements : List Node}, elements.length % 2 = 0 →
    hashPairs policy elements =
      elements.mapM (value policy) >>= fun models => pure (paired models)
  | [], _ => rfl
  | [_], odd => by simp at odd
  | key :: val :: rest, even => by
    have evenRest : rest.length % 2 = 0 := by
      simp only [List.length_cons] at even
      omega
    change (value policy key >>= fun keyModel => value policy val >>= fun valModel =>
      hashPairs policy rest >>= fun pairs =>
        pure ((⟨.hashPair keyModel valModel⟩ : Model) :: pairs)) = _
    rw [hashPairs_eq policy evenRest]
    simp only [List.mapM_cons, bind_assoc, pure_bind, paired]

/-! ## Hashes -/

variable {policy : Policy}

/-- The hash over the elements of an array or a list. -/
def hashOver (position place : Position) (form : ListForm) (elements : List Node) : Node :=
  ⟨position, .hash (some ⟨place, .elements form elements⟩)⟩

/-- An odd number of elements is refused before any of them is looked at. -/
theorem value_hashOver_of_odd (position place : Position) (form : ListForm)
    {elements : List Node} (odd : elements.length % 2 = 1) :
    value policy (hashOver position place form elements) =
      .fail (.violated (.oddHash elements.length) (hashOver position place form elements)) :=
  if_neg (by omega)

/-- An even number of elements is read one by one, and then paired up. -/
theorem value_hashOver_of_even (position place : Position) (form : ListForm)
    {elements : List Node} (even : elements.length % 2 = 0) :
    value policy (hashOver position place form elements) =
      elements.mapM (value policy) >>= fun models => pure (some ⟨.hash (paired models)⟩) := by
  have pairs : value policy (hashOver position place form elements) =
      hashPairs policy elements >>= fun pairs => pure (some ⟨.hash pairs⟩) := if_pos even
  rw [pairs, hashPairs_eq policy even]
  simp only [bind_assoc, pure_bind]

/-- If all elements give a model, or an absent one, the hash has these in pairs. -/
theorem value_hashOver_of_gives (position place : Position) (form : ListForm)
    {elements : List Node} {models : List (Option Model)} (even : elements.length % 2 = 0)
    (gives : List.Forall₂ (Gives policy) elements models) :
    value policy (hashOver position place form elements) =
      ⟨.ok (some ⟨.hash (paired models)⟩),
        elements.flatMap fun node => (value policy node).diagnostics⟩ := by
  rw [value_hashOver_of_even position place form even, Outcome.mapM_of_ok gives]
  simp only [Outcome.bind_ok, Outcome.pure_eq, List.append_nil]

/-- A hash that does not fail has no element that fails. -/
theorem exists_gives_of_hashOver {position place : Position} {form : ListForm}
    {elements : List Node} {root : Option Model} (even : elements.length % 2 = 0)
    (given : Gives policy (hashOver position place form elements) root) :
    ∃ models, List.Forall₂ (Gives policy) elements models := by
  rw [Gives, value_hashOver_of_even position place form even] at given
  obtain ⟨models, visited, -⟩ := Outcome.result_bind_eq_ok.1 given
  exact ⟨models, Outcome.result_mapM_eq_ok.1 visited⟩

/-- There is one pair for two elements, made of what these two give, absent or not. -/
structure PairedUp (policy : Policy) (elements : List Node) (pairs : List Model) : Prop where
  length_eq : elements.length = 2 * pairs.length
  pair_at {i : Nat} {key val : Node} (at_key : elements[2 * i]? = some key)
    (at_val : elements[2 * i + 1]? = some val) :
    ∃ keyModel valModel, Gives policy key keyModel ∧ Gives policy val valModel ∧
      pairs[i]? = some ⟨.hashPair keyModel valModel⟩

/-- Models in the order of the elements pair up as the elements do. -/
theorem pairedUp_of_gives {elements : List Node} {models : List (Option Model)}
    (even : elements.length % 2 = 0) (gives : List.Forall₂ (Gives policy) elements models) :
    PairedUp policy elements (paired models) := by
  have same : elements.length = models.length := gives.length_eq
  have model_at {j : Nat} {node : Node} (at_node : elements[j]? = some node) :
      ∃ model, Gives policy node model ∧ models[j]? = some model := by
    obtain ⟨bound, rfl⟩ := List.getElem?_eq_some_iff.1 at_node
    have bound' : j < models.length := same ▸ bound
    exact ⟨models[j], (List.forall₂_iff_get.1 gives).2 j bound bound', List.getElem?_eq_getElem _⟩
  refine ⟨?_, fun at_key at_val => ?_⟩
  · rw [length_paired, ← same]
    omega
  · obtain ⟨keyModel, keyGives, at_keyModel⟩ := model_at at_key
    obtain ⟨valModel, valGives, at_valModel⟩ := model_at at_val
    exact ⟨keyModel, valModel, keyGives, valGives, paired_getElem? at_keyModel at_valModel⟩

/-- Nodes give a list, absent models in it, exactly if each of them gives a model or an absent
one. -/
theorem exists_gives_iff {nodes : List Node} :
    (∃ models, List.Forall₂ (Gives policy) nodes models) ↔
      ∀ node ∈ nodes, ∃ model, Gives policy node model := by
  induction nodes with
  | nil => exact iff_of_true ⟨[], .nil⟩ (List.forall_mem_nil _)
  | cons node nodes ih =>
    rw [List.forall_mem_cons, ← ih]
    simp only [List.forall₂_cons_left_iff]
    constructor
    · rintro ⟨_, model, models, here, rest, rfl⟩
      exact ⟨⟨model, here⟩, models, rest⟩
    · rintro ⟨⟨model, here⟩, models, rest⟩
      exact ⟨_, model, models, here, rest, rfl⟩

/-- **The pairs of a hash never shift.**  A hash with an odd number of elements fails, and no
element of it is looked at.  One with an even number has pairs exactly if no element fails; then
there is one for two elements, made of what they give, and an absent key or value leaves its pair
incomplete.  If an element fails, the first one that does decides.  The warnings are those of the
elements that were looked at, one after the other. -/
theorem hash_pairs (policy : Policy) (position place : Position) (form : ListForm)
    (elements : List Node) :
    (elements.length % 2 = 1 → value policy (hashOver position place form elements) =
      ⟨.error (.violated (.oddHash elements.length) (hashOver position place form elements)),
        []⟩) ∧
    (elements.length % 2 = 0 →
      ((∃ root, Gives policy (hashOver position place form elements) root) ↔
        ∀ node ∈ elements, ∃ model, Gives policy node model) ∧
      (∀ root, Gives policy (hashOver position place form elements) root →
        (∃ pairs, root = some ⟨.hash pairs⟩ ∧ PairedUp policy elements pairs) ∧
        (value policy (hashOver position place form elements)).diagnostics =
          elements.flatMap fun node => (value policy node).diagnostics) ∧
      ∀ before wrong after failure, elements = before ++ wrong :: after →
        (∀ node ∈ before, ∃ model, Gives policy node model) →
        (value policy wrong).result = .error failure →
        value policy (hashOver position place form elements) =
          ⟨.error failure, (before ++ [wrong]).flatMap fun node =>
            (value policy node).diagnostics⟩) := by
  refine ⟨value_hashOver_of_odd position place form, fun even => ?_⟩
  refine ⟨⟨?_, ?_⟩, ?_, ?_⟩
  · rintro ⟨root, given⟩
    exact exists_gives_iff.1 (exists_gives_of_hashOver even given)
  · intro each
    obtain ⟨models, gives⟩ := exists_gives_iff.2 each
    exact ⟨_, congrArg Outcome.result (value_hashOver_of_gives position place form even gives)⟩
  · intro root given
    obtain ⟨models, gives⟩ := exists_gives_of_hashOver even given
    have result := value_hashOver_of_gives position place form even gives
    rw [Gives, result] at given
    rw [result]
    exact ⟨⟨paired models, (Except.ok.inj given).symm, pairedUp_of_gives even gives⟩, rfl⟩
  · rintro before wrong after failure rfl each fails
    obtain ⟨models, gives⟩ := exists_gives_iff.2 each
    rw [value_hashOver_of_even position place form even, Outcome.mapM_of_error gives fails,
      Outcome.bind_error]

section Incomplete

open Raw.Build

/-- A pair without a key, and one without a value. -/
def incompletePairs : List Model :=
  [⟨.hashPair none (some ⟨.leaf (.int 1)⟩)⟩, ⟨.hashPair (some ⟨.leaf (.symbol "b")⟩) none⟩]

/-- Where a shell command is left out as the first key, and a value is an implicit nil, the other
two stay in their pairs.  One element less makes the hash fail without a warning, and under the
strict policy the shell command does. -/
theorem hash_pairs_shellElements :
    Gives .permissive (hashOver {} {} .list (shellElements [int 1, symbol "b", implicitNil]))
      (some ⟨.hash incompletePairs⟩) ∧
    PairedUp .permissive (shellElements [int 1, symbol "b", implicitNil]) incompletePairs ∧
    (value .permissive
      (hashOver {} {} .list (shellElements [int 1, symbol "b", implicitNil]))).diagnostics =
        [.leftOut (unplaced (.unsupported (.shell "ls")))] ∧
    value .permissive (hashOver {} {} .array (shellElements [int 1, symbol "b"])) =
      ⟨.error (.violated (.oddHash 3)
        (hashOver {} {} .array (shellElements [int 1, symbol "b"]))), []⟩ ∧
    value .strict (hashOver {} {} .list (shellElements [int 1])) =
      ⟨.error (.unrecognized (unplaced (.unsupported (.shell "ls")))), []⟩ := by
  obtain ⟨-, even⟩ := hash_pairs .permissive {} {} .list
    (shellElements [int 1, symbol "b", implicitNil])
  obtain ⟨odd, -⟩ := hash_pairs .permissive {} {} .array (shellElements [int 1, symbol "b"])
  obtain ⟨-, strict⟩ := hash_pairs .strict {} {} .list (shellElements [int 1])
  obtain ⟨-, pairs, -⟩ := even rfl
  obtain ⟨-, -, fails⟩ := strict rfl
  obtain ⟨⟨_, e, up⟩, noted⟩ := pairs (some ⟨.hash incompletePairs⟩) rfl
  cases e
  exact ⟨rfl, up, noted, odd rfl, fails [] _ _ _ rfl (List.forall_mem_nil _) rfl⟩

end Incomplete

end Lowering
end RubyModel
