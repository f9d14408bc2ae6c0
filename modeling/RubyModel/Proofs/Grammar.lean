/-
# The grammar of raw trees

Which JSON values can be read as raw trees (the serialized form of `SPEC_FULL.md`, §11), said
without the reader.  A node is an object with a string `type`:

| type name | `position` | other members |
| --- | --- | --- |
| not listed | missing, `null` or a position | anything |
| of a kind | missing or a position | required fields are there, declared ones have their type |

`IsNode` is this grammar; `Content.Allows` says which values a declared field may have and
`Content.places` where the nodes in them stand.  The nodes of a value are the value itself and what
stands in the child fields of its nodes (`NodeIn`).  A value is read exactly if it has this shape
and none of its nodes has the reserved type name (`Node.read_exactly`): one lemma says so for the
value of a field (`exists_readContent`), one for the fields of a record (`exists_readSlots`), one
for an object of each sort (`reads_of_kind`, `reads_of_unlisted`), and the induction is over the
value.
-/

import Mathlib.Algebra.Group.Int.Defs
import RubyModel.Proofs.RoundTrip

namespace RubyModel

open Record (Fault Field Content Rule Members membersOf)

/-! ## Integers in a range, positions -/

namespace Json

/-- An integer from `low` on and below `high`. -/
def IsIntegerIn (low high : Int) : Json → Prop
  | .int value => low ≤ value ∧ value < high
  | _ => False

/-- The value, unless it is `null`. -/
def present : Json → List Json
  | .null => []
  | found => [found]

/-- The items of an array. -/
def items : Json → List Json
  | .array items => items
  | _ => []

/-- A position: an object whose numbers, where they are given, are unsigned 64-bit integers, or
an array of at most four such integers. -/
def IsPosition : Json → Prop
  | .object members =>
    ∀ name ∈ ["start_line", "end_line", "start_offset", "end_offset"],
      ∀ found ∈ member? name members, found.IsIntegerIn 0 (2 ^ 64)
  | .array items => items.length ≤ 4 ∧ ∀ item ∈ items, item.IsIntegerIn 0 (2 ^ 64)
  | _ => False

end Json

namespace Record

variable {α : Type}

/-- Two steps of reading both succeed, the second one with what the first one gave. -/
theorem exists_bind_eq_ok {β : Type} {first : Except Fault α} {next : α → Except Fault β} :
    (∃ result, first >>= next = .ok result) ↔
      ∃ value, first = .ok value ∧ ∃ result, next value = .ok result := by
  constructor
  · rintro ⟨result, h⟩
    obtain ⟨value, e, h⟩ := bind_eq_ok h
    exact ⟨value, e, result, h⟩
  · rintro ⟨value, rfl, result, h⟩
    exact ⟨result, h⟩

/-- A change of the results does not change whether there is one. -/
theorem exists_map_eq_ok {β : Type} {read : Except Fault α} {f : α → β} :
    (∃ result, read.map f = .ok result) ↔ ∃ value, read = .ok value := by
  cases read with
  | error fault => exact ⟨nofun, nofun⟩
  | ok value => exact ⟨fun _ => ⟨value, rfl⟩, fun _ => ⟨f value, rfl⟩⟩

/-- An integer is read exactly if it is in the range. -/
theorem exists_inRange {value low high : Int} {result : α} {fault : Fault} :
    (∃ found, (if low ≤ value ∧ value < high then Except.ok result else .error fault) = .ok found) ↔
      low ≤ value ∧ value < high := by
  split
  case isTrue inside => exact iff_of_true ⟨result, rfl⟩ inside
  case isFalse outside => exact iff_of_false nofun outside

/-- What is read as a signed word of 64 bits. -/
theorem exists_readInt {found : Json} :
    (∃ value, readInt found = .ok value) ↔ found.IsIntegerIn (-2 ^ 63) (2 ^ 63) := by
  cases found with
  | int value => exact exists_inRange
  | _ => exact iff_of_false nofun id

/-- What is read as an unsigned word of 32 bits. -/
theorem exists_readWord {found : Json} :
    (∃ value, readWord found = .ok value) ↔ found.IsIntegerIn 0 (2 ^ 32) := by
  cases found with
  | int value => exact exists_inRange
  | _ => exact iff_of_false nofun id

/-- What is read as an unsigned word of 64 bits. -/
theorem exists_readLongWord {found : Json} :
    (∃ value, readLongWord found = .ok value) ↔ found.IsIntegerIn 0 (2 ^ 64) := by
  cases found with
  | int value => exact exists_inRange
  | _ => exact iff_of_false nofun id

end Record

namespace Position

/-- A number of a position may be absent. -/
theorem exists_number {found : Option Json} :
    (∃ value, number found = .ok value) ↔ ∀ x ∈ found, x.IsIntegerIn 0 (2 ^ 64) := by
  cases found with
  | none => exact iff_of_true ⟨0, rfl⟩ nofun
  | some found => simpa [number] using Record.exists_readLongWord

/-- The value of an array item is read, whether or not it is there. -/
theorem exists_number_items {items : List Json} (few : items.length ≤ 4) :
    (∀ index ∈ [0, 1, 2, 3], ∃ value, number items[index]? = .ok value) ↔
      ∀ item ∈ items, item.IsIntegerIn 0 (2 ^ 64) := by
  simp only [exists_number, Option.mem_def]
  constructor
  · intro h item mem
    obtain ⟨index, inside, rfl⟩ := List.mem_iff_getElem.1 mem
    have small : index ∈ [0, 1, 2, 3] := by simp; omega
    exact h index small _ (List.getElem?_eq_getElem inside)
  · intro h index _ item found
    exact h item (List.mem_of_getElem? found)

/-- What is read as a position is a position. -/
theorem exists_ofJson {found : Json} :
    (∃ position, ofJson found = .ok position) ↔ found.IsPosition := by
  cases found with
  | object members =>
    simp only [ofJson, Record.exists_bind_eq_ok, Json.IsPosition, List.forall_mem_cons,
      ← exists_number]
    constructor
    · rintro ⟨_, endLine, _, endOffset, _, startLine, _, startOffset, -⟩
      exact ⟨⟨_, startLine⟩, ⟨_, endLine⟩, ⟨_, startOffset⟩, ⟨_, endOffset⟩, List.forall_mem_nil _⟩
    · rintro ⟨⟨_, startLine⟩, ⟨_, endLine⟩, ⟨_, startOffset⟩, ⟨_, endOffset⟩, -⟩
      exact ⟨_, endLine, _, endOffset, _, startLine, _, startOffset, _, rfl⟩
  | array items =>
    simp only [ofJson, Record.exists_bind_eq_ok, Json.IsPosition]
    constructor
    · rintro ⟨_, first, _, second, _, third, _, fourth, _, rest⟩
      split at rest
      case isTrue few =>
        refine ⟨few, (exists_number_items few).1 ?_⟩
        simp only [List.forall_mem_cons]
        exact ⟨⟨_, first⟩, ⟨_, second⟩, ⟨_, third⟩, ⟨_, fourth⟩, List.forall_mem_nil _⟩
      case isFalse => cases rest
    · rintro ⟨few, items⟩
      have numbers := (exists_number_items few).2 items
      simp only [List.forall_mem_cons] at numbers
      obtain ⟨⟨_, first⟩, ⟨_, second⟩, ⟨_, third⟩, ⟨_, fourth⟩, -⟩ := numbers
      exact ⟨_, first, _, second, _, third, _, fourth, _, if_pos few⟩
  | _ => simp [ofJson, Json.IsPosition]

end Position

/-! ## Fields -/

namespace Record

variable {α : Type}

/-- The value has the type of a field, apart from the nodes in it. -/
def Content.Allows : Content → Json → Prop
  | .child, _ | .node, _ => True
  | .nodes, found => ∃ items, found = .array items
  | .text, found => ∃ text, found = .string text
  | .optionalText, found => found = .null ∨ ∃ text, found = .string text
  | .flag, found => ∃ flag, found = .bool flag
  | .int, found => found.IsIntegerIn (-2 ^ 63) (2 ^ 63)
  | .float, found => (∃ value, found = .int value) ∨ ∃ value, found = .float value
  | .word, found => found.IsIntegerIn 0 (2 ^ 32)

/-- The nodes in the value of a field. -/
def Content.places : Content → Json → List Json
  | .child, found => found.present
  | .node, found => [found]
  | .nodes, found => found.items
  | .text, _ | .optionalText, _ | .flag, _ | .int, _ | .float, _ | .word, _ => []

/-- The values in a member are not larger than the member. -/
theorem Content.sizeOf_le_of_mem_places {content : Content} {found inner : Json}
    (place : inner ∈ content.places found) : sizeOf inner ≤ sizeOf found := by
  cases content with
  | child =>
    cases found with
    | null => cases place
    | _ => exact Nat.le_of_eq (congrArg sizeOf (List.mem_singleton.1 place))
  | node => exact Nat.le_of_eq (congrArg sizeOf (List.mem_singleton.1 place))
  | nodes =>
    cases found with
    | array items =>
      have smaller := List.sizeOf_lt_of_mem (show inner ∈ items from place)
      simp only [Json.array.sizeOf_spec]
      omega
    | _ => cases place
  | _ => cases place

/-- Whether a field may be left out because its content has a default. -/
def Content.hasDefault : Content → Bool
  | .child | .nodes | .text | .optionalText | .flag => true
  | .node | .int | .float | .word => false

/-- A content with a default can be left out. -/
theorem Content.exists_default? {content : Content} (h : content.hasDefault = true) :
    ∃ value : content.Value α, content.default? = some value := by
  cases content with
  | child | nodes | text | optionalText | flag => exact ⟨_, rfl⟩
  | node | int | float | word => cases h

/-- The members of an object are found by key. -/
theorem value_membersOf (rule : Rule α) (members : List (String × Json)) (key : String) :
    (membersOf rule members).value key = Json.member? key members := rfl

section Members

variable {rule : Rule α} {members : List (String × Json)} {name : String} {found : Json}
  (here : Json.member? name members = some found)

include here

theorem child_membersOf : (membersOf rule members).child name = some (decode rule true found) :=
  congrArg (Option.map (decode rule true)) here

theorem children_membersOf :
    (membersOf rule members).children name = some (decodeList rule found) :=
  congrArg (Option.map (decodeList rule)) here

end Members

/-- A list is read exactly if each of its items is. -/
theorem exists_decodeItems {rule : Rule α} {items : List Json} :
    (∃ values, decodeItems rule items = .ok values) ↔
      ∀ item ∈ items, ∃ value, decode rule true item = .ok value := by
  induction items with
  | nil => exact iff_of_true ⟨[], by rw [decodeItems]⟩ (List.forall_mem_nil _)
  | cons item items ih =>
    rw [List.forall_mem_cons, ← ih, decodeItems]
    simp only [exists_bind_eq_ok]
    constructor
    · rintro ⟨first, e, others, later, -⟩
      exact ⟨⟨first, e⟩, others, later⟩
    · rintro ⟨⟨first, e⟩, others, later⟩
      exact ⟨first, e, others, later, _, rfl⟩

/-- The value of a field is read exactly if it has the type of the field and the nodes in it are
read. -/
theorem exists_readContent {rule : Rule α} {members : List (String × Json)} {name : String}
    {found : Json} (here : Json.member? name members = some found) (content : Content) :
    (∃ value, readContent (membersOf rule members) name found content = .ok value) ↔
      content.Allows found ∧
        ∀ inner ∈ content.places found, ∃ x, decode rule true inner = .ok x := by
  cases content with
  | child =>
    simp only [readContent, child_membersOf here, Content.Allows, Content.places, true_and]
    cases found with
    | null => exact iff_of_true ⟨none, rfl⟩ (List.forall_mem_nil _)
    | _ => simpa [Json.present] using exists_map_eq_ok
  | node => simp [readContent, child_membersOf here, Content.Allows, Content.places]
  | nodes =>
    simp only [readContent, children_membersOf here, Option.getD_some, Content.Allows,
      Content.places]
    cases found with
    | array items => simpa [decodeList, Json.items] using exists_decodeItems
    | _ => simp [decodeList]
  | text => cases found <;> simp [readContent, readText, Content.Allows, Content.places]
  | optionalText =>
    cases found <;> simp [readContent, readText, Except.map, Content.Allows, Content.places]
  | flag => cases found <;> simp [readContent, readFlag, Content.Allows, Content.places]
  | int => exact exists_readInt.trans (and_iff_left (List.forall_mem_nil _)).symm
  | float => cases found <;> simp [readContent, readFloat, Content.Allows, Content.places]
  | word => exact exists_readWord.trans (and_iff_left (List.forall_mem_nil _)).symm

/-- A field is found to hold a value exactly if it is not missing, unless it may be, and what
stands there can be read. -/
theorem exists_look {rule : Rule α} {members : List (String × Json)} {field : Field}
    (optional : field.required = false → field.content.hasDefault = true) :
    (∃ value, look (membersOf rule members) field = .ok (some value)) ↔
      (field.required = true → Json.member? field.name members ≠ none) ∧
        ∀ found ∈ Json.member? field.name members, field.content.Allows found ∧
          ∀ inner ∈ field.content.places found, ∃ x, decode rule true inner = .ok x := by
  rw [look, value_membersOf]
  cases here : Json.member? field.name members with
  | none =>
    cases required : field.required with
    | true => exact iff_of_false (by simp) fun h => h.1 rfl rfl
    | false =>
      obtain ⟨value, default⟩ := Content.exists_default? (α := α) (optional required)
      exact iff_of_true ⟨value, congrArg Except.ok default⟩ (by simp)
  | some found =>
    have read : (∃ value, readContent (membersOf rule members) field.name found field.content =
        .ok value) ↔ _ := exists_readContent here field.content
    simp only [ne_eq, reduceCtorEq, not_false_eq_true, implies_true, true_and, Option.mem_def,
      Option.some.injEq, forall_eq', ← read]
    cases readContent (membersOf rule members) field.name found field.content <;>
      simp [Except.map]

/-- A record is read exactly if each of its fields is found to hold a value. -/
theorem exists_readSlots {fields : List Field} {members : Members α} :
    (∃ slots, readSlots fields members = .ok slots) ↔
      ∀ field ∈ fields, ∃ value, look members field = .ok (some value) := by
  simp only [readSlots_eq_ok]
  induction fields with
  | nil => exact iff_of_true ⟨(), rfl⟩ (List.forall_mem_nil _)
  | cons field rest ih =>
    rw [List.forall_mem_cons, ← ih]
    constructor
    · rintro ⟨⟨value, values⟩, h⟩
      obtain ⟨here, later⟩ := Prod.mk.inj h
      exact ⟨⟨value, here⟩, values, later⟩
    · rintro ⟨⟨value, here⟩, values, later⟩
      exact ⟨(value, values), Prod.ext here later⟩

end Record

namespace Raw

/-! ## The grammar -/

/-- **The grammar of nodes:** the value has the shape of a node. -/
inductive IsNode : Json → Prop where
  | unlisted {members : List (String × Json)} {typeName : String}
      (type : Json.member? "type" members = some (.string typeName))
      (unlisted : ∀ kind : Kind, kind.typeName ≠ typeName)
      (position : ∀ found ∈ Json.member? "position" members, found = .null ∨ found.IsPosition) :
      IsNode (.object members)
  | listed {members : List (String × Json)} (kind : Kind)
      (type : Json.member? "type" members = some (.string kind.typeName))
      (position : ∀ found ∈ Json.member? "position" members, found.IsPosition)
      (required : ∀ field ∈ kind.fields, field.required = true →
        Json.member? field.name members ≠ none)
      (typed : ∀ field ∈ kind.fields, ∀ found ∈ Json.member? field.name members,
        field.content.Allows found)
      (nodes : ∀ field ∈ kind.fields, ∀ found ∈ Json.member? field.name members,
        ∀ inner ∈ field.content.places found, IsNode inner) :
      IsNode (.object members)

/-- The kind of a node object, unless its type is not listed. -/
def kindOf? (members : List (String × Json)) : Option Kind :=
  match Json.member? "type" members with
  | some (.string typeName) => Kind.ofTypeName? typeName
  | _ => none

/-- The nodes directly below a node. -/
def below : Json → List Json
  | .object members =>
    (kindOf? members).toList.flatMap fun kind => kind.fields.flatMap fun field =>
      (Json.member? field.name members).toList.flatMap field.content.places
  | _ => []

/-- The value is a node of another value. -/
inductive NodeIn (part : Json) : Json → Prop where
  | whole : NodeIn part part
  | child {value inner : Json} (mem : inner ∈ below value) (within : NodeIn part inner) :
      NodeIn part value

/-- No node of the value has the reserved type name. -/
def Unreserved (value : Json) : Prop :=
  ∀ members, NodeIn (.object members) value →
    Json.member? "type" members ≠ some (.string reservedName)

/-! ## What is read -/

namespace Kind

/-- Only fields with a default may be left out. -/
theorem hasDefault_of_mem {kind : Kind} {field : Field} (mem : field ∈ kind.fields)
    (optional : field.required = false) : field.content.hasDefault = true := by
  have listed : ∀ kind ∈ all, ∀ field ∈ kind.fields,
      field.required = false → field.content.hasDefault = true := by decide +kernel
  exact listed kind kind.mem_all field mem optional

/-- An unlisted type name is that of no kind. -/
theorem ofTypeName?_eq_none {typeName : String} :
    ofTypeName? typeName = none ↔ ∀ kind : Kind, kind.typeName ≠ typeName := by
  simp [ofTypeName?, mem_all]

/-- A kind that is found has the type name that was looked for. -/
theorem typeName_of_ofTypeName? {typeName : String} {kind : Kind}
    (h : ofTypeName? typeName = some kind) : kind.typeName = typeName := by
  simpa using List.find?_some h

end Kind

section Below

variable {members : List (String × Json)}

/-- Below a node of a listed kind stand the values in its fields. -/
theorem below_of_kind {kind : Kind}
    (type : Json.member? "type" members = some (.string kind.typeName)) :
    below (.object members) = kind.fields.flatMap fun field =>
      (Json.member? field.name members).toList.flatMap field.content.places := by
  simp [below, kindOf?, type, Kind.ofTypeName?_typeName]

/-- What the values below a node have, field by field. -/
theorem forall_below {kind : Kind} {P : Json → Prop}
    (type : Json.member? "type" members = some (.string kind.typeName)) :
    (∀ inner ∈ below (.object members), P inner) ↔
      ∀ field ∈ kind.fields, ∀ found ∈ Json.member? field.name members,
        ∀ inner ∈ field.content.places found, P inner := by
  simp only [below_of_kind type, List.forall_mem_flatMap, Option.mem_toList, Option.mem_def]

/-- Nothing stands below a node of an unlisted kind. -/
theorem below_of_unlisted {typeName : String}
    (type : Json.member? "type" members = some (.string typeName))
    (unlisted : Kind.ofTypeName? typeName = none) : below (.object members) = [] := by
  simp [below, kindOf?, type, unlisted]

/-- A node below another one is smaller. -/
theorem sizeOf_lt_of_mem_below {value inner : Json} (mem : inner ∈ below value) :
    sizeOf inner < sizeOf value := by
  cases value with
  | object members =>
    simp only [below, List.mem_flatMap, Option.mem_toList] at mem
    obtain ⟨kind, -, field, -, found, here, place⟩ := mem
    have smaller := List.sizeOf_lt_of_mem (Json.mem_of_member? here)
    have inside : sizeOf inner ≤ sizeOf found := field.content.sizeOf_le_of_mem_places place
    simp only [Json.object.sizeOf_spec, Prod.mk.sizeOf_spec] at *
    omega
  | _ => cases mem

end Below

namespace Node

/-- The value can be read as a tree. -/
def Reads (value : Json) : Prop := ∃ node, ofJson value = .ok node

/-- The rule for nodes is the reader of nodes. -/
theorem decode_eq_ofJson (nested : Bool) (value : Json) :
    Record.decode rule nested value = ofJson value := by
  rw [ofJson]
  cases value with
  | object members => rw [Record.decode_object, Record.decode_object]; rfl
  | _ => simp only [Record.decode, rule]

section Objects

variable {members : List (String × Json)}

/-- An object with a type is read as a node of this type. -/
theorem ofJson_of_type {typeName : String}
    (type : Json.member? "type" members = some (.string typeName)) :
    ofJson (.object members) = readNode typeName (membersOf rule members) := by
  rw [ofJson, Record.decode_object, ofMembers_of_type type]

/-- A position that is there must be one. -/
theorem exists_readPosition :
    (∃ position, readPosition (membersOf rule members) = .ok position) ↔
      ∀ found ∈ Json.member? "position" members, found.IsPosition := by
  rw [readPosition, Record.value_membersOf]
  cases Json.member? "position" members with
  | none => exact iff_of_true ⟨_, rfl⟩ (by simp)
  | some found => simpa using Position.exists_ofJson

/-- The position of a node of an unlisted kind may also be `null`. -/
theorem exists_readLoosePosition :
    (∃ position, readLoosePosition (membersOf rule members) = .ok position) ↔
      ∀ found ∈ Json.member? "position" members, found = .null ∨ found.IsPosition := by
  rw [readLoosePosition, Record.value_membersOf]
  cases Json.member? "position" members with
  | none => exact iff_of_true ⟨_, rfl⟩ (by simp)
  | some found =>
    cases found with
    | null => exact iff_of_true ⟨_, rfl⟩ fun _ e => .inl (Option.some.inj e).symm
    | _ => simpa using Position.exists_ofJson

/-- An object of a kind is read exactly if its position is, its required fields are there, and the
fields that are there can be read. -/
theorem reads_of_kind {kind : Kind}
    (type : Json.member? "type" members = some (.string kind.typeName)) :
    Reads (.object members) ↔
      (∀ found ∈ Json.member? "position" members, found.IsPosition) ∧
      (∀ field ∈ kind.fields, field.required = true → Json.member? field.name members ≠ none) ∧
      (∀ field ∈ kind.fields, ∀ found ∈ Json.member? field.name members,
        field.content.Allows found) ∧
      ∀ inner ∈ below (.object members), Reads inner := by
  have read : ofJson (.object members) = readPosition (membersOf rule members) >>= fun position =>
      Record.readSlots kind.fields (membersOf rule members) >>= fun slots =>
        pure ⟨position, Entry.shape (.listed kind slots)⟩ := by
    rw [ofJson_of_type type, readNode, Kind.ofTypeName?_typeName]
  have fields : (∃ slots, Record.readSlots kind.fields (membersOf rule members) = .ok slots) ↔
      ∀ field ∈ kind.fields, (field.required = true → Json.member? field.name members ≠ none) ∧
        ∀ found ∈ Json.member? field.name members, field.content.Allows found ∧
          ∀ inner ∈ field.content.places found, Reads inner := by
    rw [Record.exists_readSlots]
    refine forall₂_congr fun field mem => ?_
    rw [Record.exists_look (Kind.hasDefault_of_mem mem)]
    simp only [decode_eq_ofJson, Reads]
  rw [Reads, read, forall_below type, ← exists_readPosition]
  simp only [Record.exists_bind_eq_ok]
  constructor
  · rintro ⟨position, placed, slots, found, -⟩
    have each := fields.1 ⟨slots, found⟩
    exact ⟨⟨position, placed⟩, fun field mem => (each field mem).1,
      fun field mem found here => ((each field mem).2 found here).1,
      fun field mem found here => ((each field mem).2 found here).2⟩
  · rintro ⟨⟨position, placed⟩, required, typed, nodes⟩
    obtain ⟨slots, found⟩ := fields.2 fun field mem => ⟨required field mem,
      fun found here => ⟨typed field mem found here, nodes field mem found here⟩⟩
    exact ⟨position, placed, slots, found, _, rfl⟩

/-- An object of an unlisted type is read exactly if its position is and its type name is not
reserved. -/
theorem reads_of_unlisted {typeName : String}
    (type : Json.member? "type" members = some (.string typeName))
    (unlisted : Kind.ofTypeName? typeName = none) :
    Reads (.object members) ↔ typeName ≠ reservedName ∧
      ∀ found ∈ Json.member? "position" members, found = .null ∨ found.IsPosition := by
  rw [Reads, ofJson_of_type type, readNode, unlisted, ← exists_readLoosePosition]
  by_cases reserved : typeName = reservedName
  · simp only [reserved, if_true, Record.exists_bind_eq_ok]
    refine iff_of_false ?_ fun h => h.1 rfl
    rintro ⟨_, _, _, e⟩
    cases e
  · simp only [reserved, if_false, Record.exists_bind_eq_ok]
    constructor
    · rintro ⟨position, placed, -⟩
      exact ⟨reserved, position, placed⟩
    · rintro ⟨-, position, placed⟩
      exact ⟨position, placed, _, rfl⟩

/-- An object that is read has a type name, of a kind or not listed. -/
theorem type_of_reads (h : Reads (.object members)) :
    (∃ kind : Kind, Json.member? "type" members = some (.string kind.typeName)) ∨
      ∃ typeName, Json.member? "type" members = some (.string typeName) ∧
        Kind.ofTypeName? typeName = none := by
  obtain ⟨node, h⟩ := h
  rw [ofJson, Record.decode_object] at h
  simp only [rule] at h
  split at h
  case h_1 typeName found =>
    cases listed : Kind.ofTypeName? typeName with
    | some kind => exact .inl ⟨kind, Kind.typeName_of_ofTypeName? listed ▸ found⟩
    | none => exact .inr ⟨typeName, found, listed⟩
  case h_2 => cases h

end Objects

/-- The nodes below a node that is read are read. -/
theorem reads_below {value inner : Json} (h : Reads value) (mem : inner ∈ below value) :
    Reads inner := by
  cases value with
  | object members =>
    obtain ⟨kind, type⟩ | ⟨typeName, type, unlisted⟩ := type_of_reads h
    · exact ((reads_of_kind type).1 h).2.2.2 inner mem
    · rw [below_of_unlisted type unlisted] at mem
      cases mem
  | _ => cases mem

/-- What is read has parts that are read. -/
theorem reads_of_nodeIn {value part : Json} (within : NodeIn part value) (h : Reads value) :
    Reads part := by
  induction within with
  | whole => exact h
  | child mem _ ih => exact ih (reads_below h mem)

/-- What is read has no node with the reserved type name. -/
theorem unreserved_of_reads {value : Json} (h : Reads value) : Unreserved value := by
  intro members within type
  have unlisted : Kind.ofTypeName? reservedName = none := by decide +kernel
  exact ((reads_of_unlisted type unlisted).1 (reads_of_nodeIn within h)).1 rfl

/-- What is read has the shape of a node. -/
theorem isNode_of_reads : ∀ {value : Json}, Reads value → IsNode value
  | .object members, h => by
    have nodes (inner : Json) (mem : inner ∈ below (.object members)) : IsNode inner :=
      isNode_of_reads (reads_below h mem)
    obtain ⟨kind, type⟩ | ⟨typeName, type, unlisted⟩ := type_of_reads h
    · obtain ⟨position, required, typed, -⟩ := (reads_of_kind type).1 h
      exact .listed kind type position required typed ((forall_below type).1 nodes)
    · obtain ⟨-, position⟩ := (reads_of_unlisted type unlisted).1 h
      exact .unlisted type (Kind.ofTypeName?_eq_none.1 unlisted) position
  | .null, h | .bool _, h | .int _, h | .float _, h | .string _, h | .array _, h => by
    obtain ⟨node, h⟩ := h
    rw [ofJson, Record.decode] at h <;> cases h
termination_by value => sizeOf value
decreasing_by exact sizeOf_lt_of_mem_below mem

/-- What has the shape of a node is read, if no node has the reserved type name. -/
theorem reads_of_isNode {value : Json} (h : IsNode value) (unreserved : Unreserved value) :
    Reads value := by
  induction h with
  | unlisted type unlisted position =>
    have name := unreserved _ .whole
    rw [type] at name
    refine (reads_of_unlisted type (Kind.ofTypeName?_eq_none.2 unlisted)).2 ⟨?_, position⟩
    exact fun e => name (congrArg (some ∘ Json.string) e)
  | listed kind type position required typed nodes ih =>
    -- The nodes of a child are nodes of the whole value, so none of them is reserved.
    refine (reads_of_kind type).2 ⟨position, required, typed, (forall_below type).2 ?_⟩
    intro field mem found here inner place
    have below := (forall_below (P := (· ∈ below _)) type).1 (fun _ mem => mem) field mem found here
      inner place
    exact ih field mem found here inner place fun other within =>
      unreserved other (.child below within)

/-- **Exactly the grammar is read.**  A value in which no node has the reserved type name is read
as a tree exactly if it has the shape of a node; one with such a node is not read. -/
theorem read_exactly (value : Json) :
    (∃ node, ofJson value = .ok node) ↔ IsNode value ∧ Unreserved value :=
  ⟨fun h => ⟨isNode_of_reads h, unreserved_of_reads h⟩,
    fun ⟨isNode, unreserved⟩ => reads_of_isNode isNode unreserved⟩

/-- The position of a node may be `null` if its type is not listed. -/
example : (ofJson (.object [("type", .string "LAMBDANODE"), ("position", .null)])).isOk = true :=
  rfl

/-- The position of a node of a kind may not be `null`. -/
example : (ofJson (.object [("type", .string "NILNODE"), ("position", .null)])).isOk = false := rfl

end Node

end Raw
end RubyModel
