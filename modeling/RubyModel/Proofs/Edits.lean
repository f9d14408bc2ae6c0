/-
# What loading ignores

Two values that differ only in what loading ignores are read as the same tree, or neither is read.
The differences are single edits of one object of the tree, at any depth (`Edit`):

| edit | where |
| --- | --- |
| the keys stand in another order | every node, and its position |
| a key that is not declared is added, changed or removed | a node of a listed kind |
| a key other than the type and the position is added, changed or removed | a node of another type |
| a default is written out or left out | a field that has one, a position, a number of a position |

and what is said of one edit holds of any number of them, forth and back (`Edits`).

A node is read by looking its members up, so that one lemma (`ofJson_congr`) reduces an edit to what
is found under the few keys that are looked at; the induction is over the place of the edit.
-/

import Mathlib.Data.List.Nodup
import Mathlib.Logic.Relation
import RubyModel.Proofs.Unlisted

namespace RubyModel

open Record (Fault Field Content Rule Slots membersOf)

/-! ## Members that are found alike -/

namespace Json

/-- All members but those of one key are found alike. -/
def AgreeExcept (key : String) (first second : List (String × Json)) : Prop :=
  ∀ other, other ≠ key → member? other first = member? other second

/-- One more member changes what is found under its own key alone. -/
theorem agreeExcept_insert (key : String) (value : Json) (before after : List (String × Json)) :
    AgreeExcept key (before ++ after) (before ++ (key, value) :: after) := by
  intro other different
  have skipped : member? other ((key, value) :: after) = member? other after := by
    rw [member?, if_neg different.symm]
    cases member? other after <;> rfl
  rw [member?_append, member?_append, skipped]

/-- Another value changes what is found under its own key alone. -/
theorem agreeExcept_update (key : String) (value other : Json)
    (before after : List (String × Json)) :
    AgreeExcept key (before ++ (key, value) :: after) (before ++ (key, other) :: after) :=
  fun name different => (agreeExcept_insert key value before after name different).symm.trans
    (agreeExcept_insert key other before after name different)

/-- With distinct keys, the member under a key is the only one with it. -/
theorem member?_eq_some_iff {members : List (String × Json)}
    (distinct : (members.map Prod.fst).Nodup) {key : String} {value : Json} :
    member? key members = some value ↔ (key, value) ∈ members := by
  refine ⟨mem_of_member?, fun mem => ?_⟩
  induction members with
  | nil => cases mem
  | cons head rest ih =>
    obtain ⟨name, first⟩ := head
    obtain ⟨fresh, distinct⟩ := List.nodup_cons.1 distinct
    rcases List.mem_cons.1 mem with e | mem
    · obtain ⟨rfl, rfl⟩ := Prod.mk.inj e
      rw [member?, member?_eq_none fresh, if_pos rfl]
    · rw [member?, ih distinct mem]

/-- The order of members with distinct keys does not matter. -/
theorem member?_perm {first second : List (String × Json)} (perm : first.Perm second)
    (distinct : (first.map Prod.fst).Nodup) (key : String) :
    member? key first = member? key second := by
  have distinct' : (second.map Prod.fst).Nodup := (perm.map Prod.fst).nodup_iff.1 distinct
  refine Option.ext fun value => ?_
  rw [member?_eq_some_iff distinct, member?_eq_some_iff distinct', perm.mem_iff]

end Json

/-! ## Outcomes that are alike -/

namespace Record

/-- Both steps have the same result, or both fail. -/
def SameOutcome {α : Type} (first second : Except Fault α) : Prop :=
  ∀ value, first = .ok value ↔ second = .ok value

namespace SameOutcome

variable {α β : Type} {first second : Except Fault α}

/-- Equal outcomes are the same. -/
theorem of_eq (h : first = second) : SameOutcome first second := fun _ => h ▸ Iff.rfl

/-- Readers that go on alike from the same values have the same outcome. -/
theorem bind (h : SameOutcome first second) {next next' : α → Except Fault β}
    (later : ∀ value, SameOutcome (next value) (next' value)) :
    SameOutcome (first >>= next) (second >>= next') := by
  intro result
  constructor
  · intro e
    obtain ⟨value, found, e⟩ := bind_eq_ok e
    rw [(h value).1 found]
    exact (later value result).1 e
  · intro e
    obtain ⟨value, found, e⟩ := bind_eq_ok e
    rw [(h value).2 found]
    exact (later value result).2 e

/-- A change of the values keeps outcomes the same. -/
theorem map (h : SameOutcome first second) (f : α → β) :
    SameOutcome (first.map f) (second.map f) := by
  have alike := h.bind fun value => of_eq (rfl : Except.ok (f value) = .ok (f value))
  cases first <;> cases second <;> exact alike

/-- If one step fails, so does the other. -/
theorem exists_error (h : SameOutcome first second) :
    (∃ fault, first = .error fault) ↔ ∃ fault, second = .error fault := by
  cases first with
  | ok value => rw [(h value).1 rfl]
  | error fault =>
    cases second with
    | ok value => cases (h value).2 rfl
    | error other => exact iff_of_true ⟨fault, rfl⟩ ⟨other, rfl⟩

end SameOutcome

/-! ## Records that are read alike -/

/-- How the default of a content is written. -/
def Content.defaultJson? : Content → Option Json
  | .child | .optionalText => some .null
  | .nodes => some (.array [])
  | .text => some (.string "")
  | .flag => some (.bool false)
  | .node | .int | .float | .word => none

section Looking

variable {α : Type} {rule : Rule α} {first second : List (String × Json)} {field : Field}

/-- What is found under the name of a field decides what the field holds. -/
theorem look_congr (same : Json.member? field.name first = Json.member? field.name second) :
    look (membersOf rule first) field = look (membersOf rule second) field := by
  have content (found : Json) (content : Content) :
      readContent (membersOf rule first) field.name found content =
        readContent (membersOf rule second) field.name found content := by
    cases content <;> simp only [readContent, membersOf, same]
  simp only [look, content, value_membersOf, same]

/-- A default that is written out is read like one that is left out. -/
theorem look_default (optional : field.required = false)
    (absent : Json.member? field.name first = none) {written : Json}
    (default : field.content.defaultJson? = some written)
    (found : Json.member? field.name second = some written) :
    look (membersOf rule first) field = look (membersOf rule second) field := by
  obtain ⟨name, content, required, early⟩ := field
  obtain rfl : required = false := optional
  simp only [look, value_membersOf, absent, found]
  cases content with
  | nodes =>
    cases default
    simp only [readContent, children_membersOf found, Option.getD_some, decodeList, decodeItems]
    rfl
  | node | int | float | word => cases default
  | child | text | optionalText | flag =>
    cases default
    rfl

/-- A child that is read alike makes a field read alike. -/
theorem look_child (holds : field.content = .child ∨ field.content = .node) {before after : Json}
    (found : Json.member? field.name first = some before)
    (found' : Json.member? field.name second = some after)
    (present : before ≠ .null) (present' : after ≠ .null)
    (same : SameOutcome (decode rule true before) (decode rule true after)) :
    SameOutcome (look (membersOf rule first) field) (look (membersOf rule second) field) := by
  have content : SameOutcome (readContent (membersOf rule first) field.name before field.content)
      (readContent (membersOf rule second) field.name after field.content) := by
    rcases holds with holds | holds <;> rw [holds]
    · rw [readContent.eq_2 _ field.name before _ present (child_membersOf found),
        readContent.eq_2 _ field.name after _ present' (child_membersOf found')]
      exact same.map some
    · simp only [readContent, child_membersOf found, child_membersOf found', Option.getD_some]
      exact same
  simp only [look, value_membersOf, found, found']
  exact content.map some

/-- A list is read alike if one of its items is exchanged for one that is. -/
theorem decodeItems_congr (before : List Json) {item item' : Json} (after : List Json)
    (same : SameOutcome (decode rule true item) (decode rule true item')) :
    SameOutcome (decodeItems rule (before ++ item :: after))
      (decodeItems rule (before ++ item' :: after)) := by
  induction before with
  | nil =>
    simp only [List.nil_append, decodeItems]
    exact same.bind fun value => .of_eq rfl
  | cons head before ih =>
    simp only [List.cons_append, decodeItems]
    exact SameOutcome.bind (.of_eq rfl) fun value => ih.bind fun values => .of_eq rfl

/-- An item that is read alike makes a field read alike. -/
theorem look_item (holds : field.content = .nodes) {before after : List Json} {item item' : Json}
    (found : Json.member? field.name first = some (.array (before ++ item :: after)))
    (found' : Json.member? field.name second = some (.array (before ++ item' :: after)))
    (same : SameOutcome (decode rule true item) (decode rule true item')) :
    SameOutcome (look (membersOf rule first) field) (look (membersOf rule second) field) := by
  have content : SameOutcome
      (readContent (membersOf rule first) field.name (.array (before ++ item :: after))
        field.content)
      (readContent (membersOf rule second) field.name (.array (before ++ item' :: after))
        field.content) := by
    rw [holds]
    simp only [readContent, children_membersOf found, children_membersOf found', Option.getD_some,
      decodeList]
    exact decodeItems_congr before after same
  simp only [look, value_membersOf, found, found']
  exact content.map some

/-- Records whose fields are read alike are read alike. -/
theorem readSlots_congr {fields : List Field}
    (h : ∀ field ∈ fields,
      SameOutcome (look (membersOf rule first) field) (look (membersOf rule second) field)) :
    SameOutcome (readSlots fields (membersOf rule first))
      (readSlots fields (membersOf rule second)) := by
  intro slots
  rw [readSlots_eq_ok, readSlots_eq_ok]
  induction fields with
  | nil => exact Iff.rfl
  | cons field rest ih =>
    obtain ⟨value, values⟩ := slots
    obtain ⟨here, later⟩ := List.forall_mem_cons.1 h
    simp only [lookAll, allFound, Prod.mk.injEq]
    rw [here (some value), ih later values]

end Looking

end Record

/-! ## Edits of positions -/

namespace Position

/-- The names of the numbers of a position. -/
def names : List String := ["start_line", "end_line", "start_offset", "end_offset"]

/-- An edit of the value of a position that loading ignores. -/
inductive Edit : Json → Json → Prop where
  /-- The keys stand in another order. -/
  | reorder {first second : List (String × Json)}
      (same : ∀ key, Json.member? key first = Json.member? key second) :
      Edit (.object first) (.object second)
  /-- A number that is zero is written out. -/
  | zero {first second : List (String × Json)} {key : String} (declared : key ∈ names)
      (absent : Json.member? key first = none) (written : Json.member? key second = some (.int 0))
      (others : Json.AgreeExcept key first second) : Edit (.object first) (.object second)
  /-- A number that is zero is written out at the end of an array. -/
  | trailing {items : List Json} (few : items.length < 4) :
      Edit (.array items) (.array (items ++ [.int 0]))

/-- A position is told by its four numbers, where an absent one counts as zero. -/
theorem givenBy_congr {first second : List (String × Json)} (h : ∀ key,
      (Json.member? key first).getD (.int 0) = (Json.member? key second).getD (.int 0))
    (position : Position) :
    position.GivenBy (.object first) ↔ position.GivenBy (.object second) := by
  simp only [GivenBy, Gives, h]

/-- An edited position is the same position. -/
theorem Edit.same {first second : Json} (edit : Edit first second) :
    Record.SameOutcome (ofJson first) (ofJson second) := by
  intro position
  rw [ofJson_eq_ok, ofJson_eq_ok]
  cases edit with
  | reorder same => exact givenBy_congr (fun key => by rw [same]) position
  | @zero _ _ key declared absent written others =>
    refine givenBy_congr (fun other => ?_) position
    by_cases e : other = key
    · subst e
      rw [absent, written]
      rfl
    · rw [others other e]
  | @trailing items few =>
    have item (index : Nat) : (items ++ [.int 0])[index]?.getD (.int 0) =
        items[index]?.getD (.int 0) := by
      rw [List.getElem?_append]
      split
      case isTrue => rfl
      case isFalse outside =>
        rw [List.getElem?_eq_none (Nat.le_of_not_lt outside)]
        cases index - items.length <;> rfl
    have count : (items ++ [Json.int 0]).length ≤ 4 ↔ items.length ≤ 4 := by
      rw [List.length_append, List.length_singleton]
      omega
    simp only [GivenBy, Gives, item, count]

/-- Edited values are not `null`, so that a child stays present. -/
theorem Edit.present {first second : Json} (edit : Edit first second) :
    first ≠ .null ∧ second ≠ .null := by
  cases edit <;> exact ⟨nofun, nofun⟩

end Position

namespace Raw

open Record (SameOutcome look)

/-! ## Nodes that are read alike -/

namespace Kind

/-- Fields of one kind are told apart by their names. -/
theorem field_eq {kind : Kind} {field other : Field} (mem : field ∈ kind.fields)
    (mem' : other ∈ kind.fields) (same : field.name = other.name) : field = other := by
  have distinct := (List.nodup_cons.1 (List.nodup_cons.1 kind.names_nodup).2).2
  exact List.inj_on_of_nodup_map distinct mem mem' same

/-- A field is not named like the type name or the position. -/
theorem name_ne {kind : Kind} {field : Field} (mem : field ∈ kind.fields) :
    field.name ≠ "type" ∧ field.name ≠ "position" := by
  have named := List.mem_map_of_mem (f := Field.name) mem
  obtain ⟨noType, distinct⟩ := List.nodup_cons.1 kind.names_nodup
  constructor
  · exact fun e => noType (List.mem_cons_of_mem _ (e ▸ named))
  · exact fun e => (List.nodup_cons.1 distinct).1 (e ▸ named)

/-- Kinds with the same type name are the same. -/
theorem typeName_injective {kind other : Kind} (same : kind.typeName = other.typeName) :
    kind = other := by
  have listed := ofTypeName?_typeName kind
  rw [same, ofTypeName?_typeName] at listed
  exact (Option.some.inj listed).symm

end Kind

namespace Node

section Objects

variable {first second : List (String × Json)}

/-- **Objects are read alike** if they are of the same type, their positions are read alike, and so
are the fields of their kind. -/
theorem ofJson_congr (type : Json.member? "type" first = Json.member? "type" second)
    (strict : SameOutcome (readPosition (membersOf rule first))
      (readPosition (membersOf rule second)))
    (loose : SameOutcome (readLoosePosition (membersOf rule first))
      (readLoosePosition (membersOf rule second)))
    (fields : ∀ kind : Kind, Json.member? "type" first = some (.string kind.typeName) →
      ∀ field ∈ kind.fields,
        SameOutcome (look (membersOf rule first) field) (look (membersOf rule second) field)) :
    SameOutcome (ofJson (.object first)) (ofJson (.object second)) := by
  have named (typeName : String) (here : Json.member? "type" first = some (.string typeName)) :
      SameOutcome (ofJson (.object first)) (ofJson (.object second)) := by
    rw [ofJson_of_type here, ofJson_of_type (type ▸ here), readNode, readNode]
    cases listed : Kind.ofTypeName? typeName with
    | some kind =>
      have kindHere := Kind.typeName_of_ofTypeName? listed ▸ here
      exact strict.bind fun position =>
        (Record.readSlots_congr (fields kind kindHere)).bind fun slots => .of_eq rfl
    | none =>
      dsimp only
      split
      · exact strict.bind fun position => .of_eq rfl
      · exact loose.bind fun position => .of_eq rfl
  cases here : Json.member? "type" first with
  | none =>
    refine .of_eq ?_
    rw [ofJson, ofJson, Record.decode_object, Record.decode_object]
    simp only [rule, Record.value_membersOf, ← type, here]
  | some found =>
    cases found with
    | string typeName => exact named typeName here
    | _ =>
      refine .of_eq ?_
      rw [ofJson, ofJson, Record.decode_object, Record.decode_object]
      simp only [rule, Record.value_membersOf, ← type, here]

/-- The position of a node is read from one member alone. -/
theorem readPosition_congr (same : Json.member? "position" first = Json.member? "position" second) :
    readPosition (membersOf rule first) = readPosition (membersOf rule second) := by
  simp only [readPosition, Record.value_membersOf, same]

/-- So is the position of a node of an unlisted kind. -/
theorem readLoosePosition_congr
    (same : Json.member? "position" first = Json.member? "position" second) :
    readLoosePosition (membersOf rule first) = readLoosePosition (membersOf rule second) := by
  simp only [readLoosePosition, Record.value_membersOf, same]

/-- Objects that differ under one key only are read alike, if the field of this name is. -/
theorem ofJson_congr_of_agreeExcept {key : String} (others : Json.AgreeExcept key first second)
    (notType : key ≠ "type") (notPosition : key ≠ "position")
    (fields : ∀ kind : Kind, Json.member? "type" first = some (.string kind.typeName) →
      ∀ field ∈ kind.fields, field.name = key →
        SameOutcome (look (membersOf rule first) field) (look (membersOf rule second) field)) :
    SameOutcome (ofJson (.object first)) (ofJson (.object second)) := by
  have position := others "position" notPosition.symm
  refine ofJson_congr (others "type" notType.symm) (.of_eq (readPosition_congr position))
    (.of_eq (readLoosePosition_congr position)) fun kind listed field mem => ?_
  by_cases e : field.name = key
  · exact fields kind listed field mem e
  · exact .of_eq (Record.look_congr (others field.name e))

/-- Objects that differ in one declared field only are read alike, if the field is. -/
theorem ofJson_congr_of_field {kind : Kind} {field : Field}
    (listed : Json.member? "type" first = some (.string kind.typeName))
    (declared : field ∈ kind.fields) (others : Json.AgreeExcept field.name first second)
    (same : SameOutcome (look (membersOf rule first) field) (look (membersOf rule second) field)) :
    SameOutcome (ofJson (.object first)) (ofJson (.object second)) := by
  obtain ⟨notType, notPosition⟩ := Kind.name_ne declared
  refine ofJson_congr_of_agreeExcept others notType notPosition fun other here field' mem e => ?_
  obtain rfl : other = kind :=
    Kind.typeName_injective (Json.string.inj (Option.some.inj (here.symm.trans listed)))
  obtain rfl := Kind.field_eq mem declared e
  exact same

/-- Objects that differ in their positions only are read alike, if the positions are. -/
theorem ofJson_congr_of_position (others : Json.AgreeExcept "position" first second)
    (strict : SameOutcome (readPosition (membersOf rule first))
      (readPosition (membersOf rule second)))
    (loose : SameOutcome (readLoosePosition (membersOf rule first))
      (readLoosePosition (membersOf rule second))) :
    SameOutcome (ofJson (.object first)) (ofJson (.object second)) :=
  ofJson_congr (others "type" (by decide)) strict loose fun _ _ field mem =>
    .of_eq (Record.look_congr (others field.name (Kind.name_ne mem).2))

end Objects

/-! ## Edits -/

/-- An edit of one object in the value of a tree that loading ignores. -/
inductive Edit : Json → Json → Prop where
  /-- The keys stand in another order. -/
  | reorder {first second : List (String × Json)}
      (same : ∀ key, Json.member? key first = Json.member? key second) :
      Edit (.object first) (.object second)
  /-- A key that the kind does not declare is added, changed or removed. -/
  | undeclared {first second : List (String × Json)} {kind : Kind} {key : String}
      (listed : Json.member? "type" first = some (.string kind.typeName))
      (fresh : key ∉ "type" :: "position" :: kind.fields.map Field.name)
      (others : Json.AgreeExcept key first second) : Edit (.object first) (.object second)
  /-- A key of a node of an unlisted type is added, changed or removed. -/
  | unlisted {first second : List (String × Json)} {typeName key : String}
      (type : Json.member? "type" first = some (.string typeName))
      (unlisted : ∀ kind : Kind, kind.typeName ≠ typeName)
      (notType : key ≠ "type") (notPosition : key ≠ "position")
      (others : Json.AgreeExcept key first second) : Edit (.object first) (.object second)
  /-- A default is written out: `null` for a child or a text that may be absent, an empty list, an
  empty text, `false`. -/
  | default {first second : List (String × Json)} {kind : Kind} {field : Field} {written : Json}
      (listed : Json.member? "type" first = some (.string kind.typeName))
      (declared : field ∈ kind.fields) (optional : field.required = false)
      (absent : Json.member? field.name first = none)
      (default : field.content.defaultJson? = some written)
      (found : Json.member? field.name second = some written)
      (others : Json.AgreeExcept field.name first second) : Edit (.object first) (.object second)
  /-- The position is written out, with all its numbers left out. -/
  | placed {first second : List (String × Json)}
      (absent : Json.member? "position" first = none)
      (found : Json.member? "position" second = some (.object []))
      (others : Json.AgreeExcept "position" first second) : Edit (.object first) (.object second)
  /-- The position is edited. -/
  | position {first second : List (String × Json)} {before after : Json}
      (found : Json.member? "position" first = some before)
      (found' : Json.member? "position" second = some after) (edit : Position.Edit before after)
      (others : Json.AgreeExcept "position" first second) : Edit (.object first) (.object second)
  /-- A child is edited. -/
  | child {first second : List (String × Json)} {kind : Kind} {field : Field} {before after : Json}
      (listed : Json.member? "type" first = some (.string kind.typeName))
      (declared : field ∈ kind.fields) (holds : field.content = .child ∨ field.content = .node)
      (found : Json.member? field.name first = some before)
      (found' : Json.member? field.name second = some after) (edit : Edit before after)
      (others : Json.AgreeExcept field.name first second) : Edit (.object first) (.object second)
  /-- A child in a list is edited. -/
  | item {first second : List (String × Json)} {kind : Kind} {field : Field} {before after : Json}
      {items rest : List Json} (listed : Json.member? "type" first = some (.string kind.typeName))
      (declared : field ∈ kind.fields) (holds : field.content = .nodes)
      (found : Json.member? field.name first = some (.array (items ++ before :: rest)))
      (found' : Json.member? field.name second = some (.array (items ++ after :: rest)))
      (edit : Edit before after)
      (others : Json.AgreeExcept field.name first second) : Edit (.object first) (.object second)

/-- Any number of edits, forth and back. -/
abbrev Edits : Json → Json → Prop := Relation.EqvGen Edit

/-- Edited values are not `null`, so that a child stays present. -/
theorem Edit.present {first second : Json} (edit : Edit first second) :
    first ≠ .null ∧ second ≠ .null := by
  cases edit <;> exact ⟨nofun, nofun⟩

/-- **One edit** leaves the outcome as it is. -/
theorem Edit.same {first second : Json} (edit : Edit first second) :
    SameOutcome (ofJson first) (ofJson second) := by
  induction edit with
  | reorder same =>
    refine ofJson_congr (same "type") (.of_eq (readPosition_congr (same "position")))
      (.of_eq (readLoosePosition_congr (same "position"))) fun kind _ field _ => ?_
    exact .of_eq (Record.look_congr (same field.name))
  | @undeclared first second kind key listed fresh others =>
    have notType : key ≠ "type" := fun e => fresh (e ▸ List.mem_cons_self)
    have notPosition : key ≠ "position" :=
      fun e => fresh (e ▸ List.mem_cons_of_mem _ List.mem_cons_self)
    refine ofJson_congr_of_agreeExcept others notType notPosition fun other here field mem e => ?_
    obtain rfl : other = kind :=
      Kind.typeName_injective (Json.string.inj (Option.some.inj (here.symm.trans listed)))
    have named := List.mem_map_of_mem (f := Field.name) mem
    exact absurd (List.mem_cons_of_mem _ (List.mem_cons_of_mem _ (e ▸ named))) fresh
  | unlisted type unlisted notType notPosition others =>
    refine ofJson_congr_of_agreeExcept others notType notPosition fun other here field mem e => ?_
    exact absurd (Json.string.inj (Option.some.inj (here.symm.trans type))) (unlisted other)
  | default listed declared optional absent default found others =>
    exact ofJson_congr_of_field listed declared others
      (.of_eq (Record.look_default optional absent default found))
  | placed absent found others =>
    refine ofJson_congr_of_position others (.of_eq ?_) (.of_eq ?_)
    · simp only [readPosition, Record.value_membersOf, absent, found]
      rfl
    · simp only [readLoosePosition, Record.value_membersOf, absent, found]
      rfl
  | position found found' edit others =>
    obtain ⟨present, present'⟩ := edit.present
    refine ofJson_congr_of_position others ?_ ?_
    · simp only [readPosition, Record.value_membersOf, found, found']
      exact edit.same
    · have loose {members : List (String × Json)} {value : Json} (present : value ≠ .null)
          (found : Json.member? "position" members = some value) :
          readLoosePosition (membersOf rule members) = Position.ofJson value := by
        rw [readLoosePosition, Record.value_membersOf, found]
        cases value with
        | null => exact absurd rfl present
        | _ => rfl
      rw [loose present found, loose present' found']
      exact edit.same
  | @child _ _ _ _ before after listed declared holds found found' edit others ih =>
    obtain ⟨present, present'⟩ := edit.present
    refine ofJson_congr_of_field listed declared others
      (Record.look_child holds found found' present present' ?_)
    rwa [decode_eq_ofJson, decode_eq_ofJson]
  | item listed declared holds found found' edit others ih =>
    refine ofJson_congr_of_field listed declared others (Record.look_item holds found found' ?_)
    rwa [decode_eq_ofJson, decode_eq_ofJson]

/-- **Loading ignores what the kind does not declare.**  Values that differ by edits are read as the
same tree, and if one of them is not read, neither is the other. -/
theorem loading_ignores_edits {first second : Json} (edits : Edits first second) :
    (∀ node, ofJson first = .ok node ↔ ofJson second = .ok node) ∧
    ((∃ fault, ofJson first = .error fault) ↔ ∃ fault, ofJson second = .error fault) := by
  have same : SameOutcome (ofJson first) (ofJson second) := by
    induction edits with
    | rel _ _ edit => exact edit.same
    | refl => exact .of_eq rfl
    | symm _ _ _ ih => exact fun node => (ih node).symm
    | trans _ _ _ _ _ ih ih' => exact fun node => (ih node).trans (ih' node)
  exact ⟨same, same.exists_error⟩

section Adorned

/-- A program with the given body. -/
def rootObject (body : Json) : Json := .object [("type", .string "ROOTNODE"), ("body", body)]

/-- The statements of a body. -/
def blockObject (statements : List Json) : Json :=
  .object [("type", .string "BLOCKNODE"), ("statements", .array statements)]

/-- A back reference, a lambda and a splat, with nothing but their types. -/
def bareStatements : List Json :=
  [.object [("type", .string "BACKREFNODE")], .object [("type", .string "LAMBDANODE")],
    .object [("type", .string "SPLATNODE"), ("position", .object [])]]

/-- The program of the three statements with members that add nothing: an empty text, `null` for an
absent child, a zero line, and values of other sorts under keys that are not looked at.  The type of
the program comes last. -/
def adornedProgram : Json :=
  .object [
    ("body", .object [
      ("type", .string "BLOCKNODE"),
      ("statements", .array [
        .object [("type", .string "BACKREFNODE"), ("kind", .string "")],
        .object [("type", .string "LAMBDANODE"), ("body", .int 3)],
        .object [("type", .string "SPLATNODE"), ("position", .object [("end_line", .int 0)]),
          ("value", .null)]]),
      ("lexical_name", .array [.object []])]),
    ("type", .string "ROOTNODE")]

/-- An edit of what a program holds is an edit of the program. -/
theorem edit_rootObject {before after : Json} (edit : Edit before after) :
    Edit (rootObject before) (rootObject after) :=
  @Edit.child _ _ .root (.child "body") before after rfl List.mem_cons_self (.inl rfl) rfl rfl edit
    (Json.agreeExcept_update "body" before after [("type", .string "ROOTNODE")] [])

/-- An edit of a statement is an edit of the block around it. -/
theorem edit_blockObject (items rest : List Json) {before after : Json} (edit : Edit before after) :
    Edit (blockObject (items ++ before :: rest)) (blockObject (items ++ after :: rest)) :=
  @Edit.item _ _ .block (.nodes "statements") before after items rest rfl List.mem_cons_self rfl rfl
    rfl edit (Json.agreeExcept_update "statements" _ _ [("type", .string "BLOCKNODE")] [])

/-- The adorned program is read as the tree of the bare one. -/
theorem adornedProgram_read_alike : ∃ tree,
    ofJson (rootObject (blockObject bareStatements)) = .ok tree ∧
      ofJson adornedProgram = .ok tree := by
  have text : Edit (.object [("type", .string "BACKREFNODE")])
      (.object [("type", .string "BACKREFNODE"), ("kind", .string "")]) :=
    @Edit.default _ _ .backRef (.textOrEmpty "kind") _ rfl List.mem_cons_self rfl rfl rfl rfl
      (Json.agreeExcept_insert "kind" _ [("type", .string "BACKREFNODE")] [])
  have lambda : Edit (.object [("type", .string "LAMBDANODE")])
      (.object [("type", .string "LAMBDANODE"), ("body", .int 3)]) :=
    @Edit.unlisted _ _ _ "body" rfl (Kind.ofTypeName?_eq_none.1 rfl) (by decide) (by decide)
      (Json.agreeExcept_insert "body" _ [("type", .string "LAMBDANODE")] [])
  have line : Edit (.object [("type", .string "SPLATNODE"), ("position", .object [])])
      (.object [("type", .string "SPLATNODE"), ("position", .object [("end_line", .int 0)])]) :=
    .position rfl rfl (.zero (by decide) rfl rfl (Json.agreeExcept_insert "end_line" _ [] []))
      (Json.agreeExcept_update "position" _ _ [("type", .string "SPLATNODE")] [])
  have absent : Edit
      (.object [("type", .string "SPLATNODE"), ("position", .object [("end_line", .int 0)])])
      (.object [("type", .string "SPLATNODE"), ("position", .object [("end_line", .int 0)]),
        ("value", .null)]) :=
    @Edit.default _ _ .splat (.child "value") _ rfl List.mem_cons_self rfl rfl rfl rfl
      (Json.agreeExcept_insert "value" _ [("type", .string "SPLATNODE"), ("position", _)] [])
  have remark (statements : List Json) : Edit (blockObject statements)
      (.object [("type", .string "BLOCKNODE"), ("statements", .array statements),
        ("lexical_name", .array [.object []])]) :=
    @Edit.undeclared _ _ .block "lexical_name" rfl (by decide)
      (Json.agreeExcept_insert "lexical_name" _ [("type", _), ("statements", _)] [])
  have order (body : Json) : Edit (rootObject body)
      (.object [("body", body), ("type", .string "ROOTNODE")]) :=
    .reorder (Json.member?_perm (.swap _ _ _) (show ["type", "body"].Nodup by decide))
  have edits : Edits (rootObject (blockObject bareStatements)) adornedProgram :=
    .trans _ _ _ (.rel _ _ (edit_rootObject (edit_blockObject [] _ text))) <|
    .trans _ _ _ (.rel _ _ (edit_rootObject (edit_blockObject [_] _ lambda))) <|
    .trans _ _ _ (.rel _ _ (edit_rootObject (edit_blockObject [_, _] [] line))) <|
    .trans _ _ _ (.rel _ _ (edit_rootObject (edit_blockObject [_, _] [] absent))) <|
    .trans _ _ _ (.rel _ _ (edit_rootObject (remark _))) (.rel _ _ (order _))
  exact ⟨_, rfl, ((loading_ignores_edits edits).1 _).1 rfl⟩

end Adorned

end Node
end Raw
end RubyModel
