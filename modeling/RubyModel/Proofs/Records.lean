/-
# Records that are written and read

A record is written member by member and read by looking its members up.  Both directions are
about all kinds of records at once:

| theorem | statement |
| --- | --- |
| `readSlots_written` | what is written comes back, if the children do and the doubles are finite |
| `readSlots_sound` | what is read has children that were read, and doubles that are finite |

What holds of every record whose children were read with it, holds of all trees that are read
(`decode_induction`).
-/

import RubyModel.Proofs.Finite

namespace RubyModel

/-! ## Members of objects -/

namespace Json

/-- The last member with a key is the one that is found. -/
theorem member?_append (key : String) (before after : List (String × Json)) :
    member? key (before ++ after) = (member? key after).or (member? key before) := by
  induction before with
  | nil => simp
  | cons head rest ih =>
    obtain ⟨name, value⟩ := head
    rw [List.cons_append, member?, ih, member?]
    cases member? key after <;> simp

/-- Nothing is found under a key that is not there. -/
theorem member?_eq_none {key : String} {members : List (String × Json)}
    (h : key ∉ members.map Prod.fst) : member? key members = none := by
  induction members with
  | nil => rfl
  | cons head rest ih =>
    obtain ⟨name, value⟩ := head
    rw [List.map_cons, List.mem_cons, not_or] at h
    rw [member?, ih h.2]
    exact if_neg fun e => h.1 e.symm

/-- What is found under a key is one of the members. -/
theorem mem_of_member? {key : String} {members : List (String × Json)} {value : Json}
    (h : member? key members = some value) : (key, value) ∈ members := by
  induction members with
  | nil => cases h
  | cons head rest ih =>
    obtain ⟨name, first⟩ := head
    rw [member?] at h
    split at h
    case h_1 later found => exact List.mem_cons_of_mem _ (ih (h ▸ found))
    case h_2 =>
      split at h
      case isTrue e => exact e ▸ Option.some.inj h ▸ List.mem_cons_self
      case isFalse => cases h

mutual
/-- All doubles of a value are finite: JSON has no spelling for others. -/
def Finite : Json → Prop
  | .float value => value.isFinite = true
  | .array items => FiniteItems items
  | .object members => FiniteMembers members
  | .null | .bool _ | .int _ | .string _ => True

/-- All doubles in a list of values are finite. -/
def FiniteItems : List Json → Prop
  | [] => True
  | item :: items => item.Finite ∧ FiniteItems items

/-- All doubles in a list of members are finite. -/
def FiniteMembers : List (String × Json) → Prop
  | [] => True
  | (_, value) :: rest => value.Finite ∧ FiniteMembers rest
end

/-- The items of an array are finite one by one. -/
theorem finiteItems_iff {items : List Json} : FiniteItems items ↔ ∀ item ∈ items, item.Finite := by
  induction items with
  | nil => simp [FiniteItems]
  | cons item items ih => rw [FiniteItems, ih, List.forall_mem_cons]

/-- The members of an object are finite one by one. -/
theorem finiteMembers_iff {members : List (String × Json)} :
    FiniteMembers members ↔ ∀ member ∈ members, member.2.Finite := by
  induction members with
  | nil => simp [FiniteMembers]
  | cons head rest ih => rw [FiniteMembers, ih, List.forall_mem_cons]

end Json

namespace Record

variable {α : Type}

/-- Two steps of reading succeed one after the other. -/
theorem bind_eq_ok {β : Type} {first : Except Fault α} {next : α → Except Fault β} {result : β}
    (h : first >>= next = .ok result) : ∃ value, first = .ok value ∧ next value = .ok result := by
  cases first with
  | error fault => cases h
  | ok value => exact ⟨value, rfl, h⟩

/-! ## Children and doubles of a record -/

/-- The children in a field. -/
def Content.children : (content : Content) → content.Value α → List α
  | .child, value => value.toList
  | .node, value => [value]
  | .nodes, value => value
  | .text, _ | .optionalText, _ | .flag, _ | .int, _ | .float, _ | .word, _ => []

/-- The doubles in a field. -/
def Content.floats : (content : Content) → content.Value α → List Float
  | .float, value => [value]
  | .child, _ | .node, _ | .nodes, _ | .text, _ | .optionalText, _ | .flag, _ | .int, _
  | .word, _ => []

/-- The children of a record, in the order of its fields. -/
def slotChildren : (fields : List Field) → Slots α fields → List α
  | [], _ => []
  | field :: rest, (value, values) => field.content.children value ++ slotChildren rest values

/-- The doubles of a record, in the order of its fields. -/
def slotFloats : (fields : List Field) → Slots α fields → List Float
  | [], _ => []
  | field :: rest, (value, values) => field.content.floats value ++ slotFloats rest values

/-! ## What is found if nothing is wrong -/

/-- Every field is found to hold its value. -/
def allFound : (fields : List Field) → Slots α fields → Fill (Found α) fields
  | [], _ => ()
  | _ :: rest, (value, values) => (.ok (some value), allFound rest values)

/-- Slots that are all found have no faults. -/
theorem faults_allFound : ∀ (fields : List Field) (slots : Slots α fields),
    faults fields (allFound fields slots) = []
  | [], _ => rfl
  | _ :: rest, (_, values) => faults_allFound rest values

/-- Slots that are all found are gathered. -/
theorem gather_allFound : ∀ (fields : List Field) (slots : Slots α fields),
    gather fields (allFound fields slots) = .ok slots
  | [], _ => rfl
  | field :: rest, (value, values) => by
    rw [allFound, gather, gather_allFound rest values]
    rfl

/-- Values are gathered only if every field was found to hold one. -/
theorem eq_allFound_of_gather : ∀ {fields : List Field} {found : Fill (Found α) fields}
    {slots : Slots α fields}, gather fields found = .ok slots → found = allFound fields slots
  | [], _, _, _ => rfl
  | field :: rest, (.ok (some value), others), slots, h => by
    rw [gather] at h
    obtain ⟨_, ⟨⟩, h⟩ := bind_eq_ok h
    obtain ⟨values, later, h⟩ := bind_eq_ok h
    obtain rfl : (value, values) = slots := Except.ok.inj h
    rw [allFound, eq_allFound_of_gather later]
  | field :: rest, (.ok none, others), slots, h => nomatch h
  | field :: rest, (.error fault, others), slots, h => nomatch h

/-- A record is read exactly if every field is found to hold its value. -/
theorem readSlots_eq_ok {fields : List Field} {members : Members α} {slots : Slots α fields} :
    readSlots fields members = .ok slots ↔ lookAll members fields = allFound fields slots := by
  constructor
  · intro h
    rw [readSlots] at h
    split at h
    · cases h
    · exact eq_allFound_of_gather h
  · intro h
    rw [readSlots, h, faults_allFound]
    exact gather_allFound fields slots

/-! ## Reading by looking members up -/

section Decoding

variable {rule : Rule α}

/-- What can be asked about members, said by what is found among them. -/
def membersOf (rule : Rule α) (members : List (String × Json)) : Members α where
  value key := Json.member? key members
  child key := (Json.member? key members).map (decode rule true)
  children key := (Json.member? key members).map (decodeList rule)

/-- A child is read from the member under its key. -/
theorem decodeMember_eq (key : String) (members : List (String × Json)) :
    decodeMember rule key members = (Json.member? key members).map (decode rule true) := by
  induction members with
  | nil => rw [decodeMember]; rfl
  | cons head rest ih =>
    obtain ⟨name, value⟩ := head
    rw [decodeMember, ih, Json.member?]
    cases Json.member? key rest with
    | some later => rfl
    | none => by_cases e : name = key <;> simp [e]

/-- A list of children is read from the member under its key. -/
theorem decodeMembers_eq (key : String) (members : List (String × Json)) :
    decodeMembers rule key members = (Json.member? key members).map (decodeList rule) := by
  induction members with
  | nil => rw [decodeMembers]; rfl
  | cons head rest ih =>
    obtain ⟨name, value⟩ := head
    rw [decodeMembers, ih, Json.member?]
    cases Json.member? key rest with
    | some later => rfl
    | none => by_cases e : name = key <;> simp [e]

/-- An object is read by its members. -/
theorem decode_object (nested : Bool) (members : List (String × Json)) :
    decode rule nested (.object members) = rule.ofMembers nested (membersOf rule members) := by
  rw [decode, membersOf]
  simp only [decodeMember_eq, decodeMembers_eq]

/-- Children that come back one by one come back as a list. -/
theorem decodeItems_map {write : α → Json} {values : List α}
    (h : ∀ x ∈ values, decode rule true (write x) = .ok x) :
    decodeItems rule (values.map write) = .ok values := by
  induction values with
  | nil => rw [List.map_nil, decodeItems]
  | cons x values ih =>
    obtain ⟨first, others⟩ := List.forall_mem_cons.1 h
    rw [List.map_cons, decodeItems, first, ih others]
    rfl

/-- Each child in a list was read from an item. -/
theorem exists_of_decodeItems {items : List Json} {values : List α}
    (h : decodeItems rule items = .ok values) {x : α} (mem : x ∈ values) :
    ∃ item ∈ items, decode rule true item = .ok x := by
  induction items generalizing values with
  | nil =>
    rw [decodeItems] at h
    cases h
    cases mem
  | cons item items ih =>
    rw [decodeItems] at h
    obtain ⟨y, first, h⟩ := bind_eq_ok h
    obtain ⟨others, later, h⟩ := bind_eq_ok h
    obtain rfl : y :: others = values := Except.ok.inj h
    rcases List.mem_cons.1 mem with rfl | mem
    · exact ⟨item, List.mem_cons_self, first⟩
    · obtain ⟨other, inItems, e⟩ := ih later mem
      exact ⟨other, List.mem_cons_of_mem _ inItems, e⟩

/-! ## Written, then read -/

/-- A child comes back from its written form, which is not that of an absent one. -/
def ComesBack (rule : Rule α) (write : α → Json) (x : α) : Prop :=
  decode rule true (write x) = .ok x ∧ write x ≠ .null

/-- A signed word of 64 bits is read back. -/
theorem readInt_toInt (value : Int64) : readInt (.int value.toInt) = .ok value := by
  have low := value.le_toInt
  have high := value.toInt_lt
  rw [readInt, if_pos (by omega), Int64.ofInt_toInt]

/-- An unsigned word of 32 bits is read back. -/
theorem readWord_toNat (value : UInt32) : readWord (.int value.toNat) = .ok value := by
  have high := value.toNat_lt
  rw [readWord, if_pos (by omega), Int.toNat_natCast]
  exact congrArg _ (UInt32.ofNat_toNat)

/-- An unsigned word of 64 bits is read back. -/
theorem readLongWord_toNat (value : UInt64) : readLongWord (.int value.toNat) = .ok value := by
  have high := value.toNat_lt
  rw [readLongWord, if_pos (by omega), Int.toNat_natCast]
  exact congrArg _ (UInt64.ofNat_toNat)

/-- The value of a field comes back. -/
theorem readContent_written {write : α → Json} {members : List (String × Json)} {name : String}
    (content : Content) (value : content.Value α)
    (children : ∀ x ∈ content.children value, ComesBack rule write x)
    (floats : ∀ x ∈ content.floats value, x.isFinite = true)
    (found : Json.member? name members = some (content.toJson (content.map write value))) :
    readContent (membersOf rule members) name (content.toJson (content.map write value)) content =
      .ok value := by
  cases content with
  | child =>
    cases value with
    | none => rfl
    | some x =>
      obtain ⟨back, present⟩ := children x (List.mem_singleton.2 rfl)
      have lookup : (membersOf rule members).child name = some (.ok x) :=
        (congrArg (Option.map (decode rule true)) found).trans (congrArg some back)
      exact readContent.eq_2 _ name (write x) _ present lookup
  | node =>
    obtain ⟨back, -⟩ := children value (List.mem_singleton.2 rfl)
    have found : Json.member? name members = some (write value) := found
    simp only [readContent, membersOf, found, Option.map_some, Option.getD_some]
    exact back
  | nodes =>
    have found : Json.member? name members = some (.array (value.map write)) := found
    simp only [readContent, membersOf, found, Option.map_some, Option.getD_some]
    rw [decodeList]
    exact decodeItems_map fun x mem => (children x mem).1
  | text => rfl
  | optionalText => cases value <;> rfl
  | flag => rfl
  | int => exact readInt_toInt value
  | float =>
    have finite := floats value (List.mem_singleton.2 rfl)
    show readFloat (if value.isFinite then _ else _) = _
    rw [if_pos finite]
    rfl
  | word => exact readWord_toNat value

/-- The members of a record are named by its fields. -/
theorem names_members : ∀ (fields : List Field) (slots : Slots Json fields),
    (members fields slots).map Prod.fst = fields.map Field.name
  | [], _ => rfl
  | field :: rest, (_, values) => congrArg (field.name :: ·) (names_members rest values)

/-- Every field is found to hold its value, whatever members stand before those of the record. -/
theorem lookAll_written {write : α → Json} : ∀ (before : List (String × Json))
    {fields : List Field} {slots : Slots α fields}, (fields.map Field.name).Nodup →
    (∀ x ∈ slotChildren fields slots, ComesBack rule write x) →
    (∀ x ∈ slotFloats fields slots, x.isFinite = true) →
    lookAll (membersOf rule (before ++ members fields (mapSlots write fields slots))) fields =
      allFound fields slots
  | _, [], _, _, _, _ => rfl
  | before, field :: rest, (value, values), distinct, children, floats => by
    obtain ⟨fresh, distinct⟩ := List.nodup_cons.1 distinct
    obtain ⟨children, others⟩ := List.forall_mem_append.1 children
    obtain ⟨floats, otherFloats⟩ := List.forall_mem_append.1 floats
    let written := field.content.toJson (field.content.map write value)
    let after := members rest (mapSlots write rest values)
    have found : Json.member? field.name (before ++ (field.name, written) :: after) =
        some written := by
      have absent : Json.member? field.name after = none :=
        Json.member?_eq_none (names_members rest _ ▸ fresh)
      rw [Json.member?_append, Json.member?, absent, if_pos rfl, Option.some_or]
    have here : look (membersOf rule (before ++ (field.name, written) :: after)) field =
        .ok (some value) := by
      rw [look, show (membersOf rule _).value field.name = some written from found]
      exact congrArg (Except.map some)
        (readContent_written field.content value children floats found)
    have later := lookAll_written (before ++ [(field.name, written)]) distinct others otherFloats
    rw [List.append_assoc] at later
    show (look _ field, lookAll _ rest) = _
    rw [allFound]
    exact Prod.ext here later

/-- **What is written is read back:** a record comes back from its members. -/
theorem readSlots_written {write : α → Json} (before : List (String × Json)) {fields : List Field}
    {slots : Slots α fields} (distinct : (fields.map Field.name).Nodup)
    (children : ∀ x ∈ slotChildren fields slots, ComesBack rule write x)
    (floats : ∀ x ∈ slotFloats fields slots, x.isFinite = true) :
    readSlots fields (membersOf rule (before ++ members fields (mapSlots write fields slots))) =
      .ok slots :=
  readSlots_eq_ok.2 (lookAll_written before distinct children floats)

/-! ## What is read -/

/-- What was read among members has a property, and their doubles are finite. -/
structure Sound (P : α → Prop) (members : Members α) : Prop where
  child {name : String} {x : α} : members.child name = some (.ok x) → P x
  children {name : String} {xs : List α} : members.children name = some (.ok xs) → ∀ x ∈ xs, P x
  finite {name : String} {found : Json} : members.value name = some found → found.Finite

/-- A double that is read is finite. -/
theorem isFinite_of_readFloat {found : Json} {value : Float} (finite : found.Finite)
    (h : readFloat found = .ok value) : value.isFinite = true := by
  cases found with
  | float => cases h; exact finite
  | int => cases h; exact isFinite_floatOfInt _
  | _ => cases h

/-- What all children have that are read, the children in a slot have. -/
theorem children_of_readContent {P : α → Prop} {members : Members α} (sound : Sound P members)
    {name : String} {found : Json} {content : Content} {value : content.Value α}
    (h : readContent members name found content = .ok value) :
    ∀ x ∈ content.children value, P x := by
  cases content with
  | child =>
    cases value with
    | none => exact List.forall_mem_nil _
    | some x =>
      refine List.forall_mem_singleton.2 ?_
      simp only [readContent] at h
      split at h
      case h_1 => cases h
      case h_2 child _ e =>
        cases child with
        | error fault => cases h
        | ok y =>
          cases h
          exact sound.child e
      case h_3 => cases h
  | node =>
    refine List.forall_mem_singleton.2 ?_
    simp only [readContent] at h
    cases e : members.child name with
    | none => rw [e] at h; cases h
    | some child =>
      rw [e] at h
      exact sound.child (e.trans (congrArg some h))
  | nodes =>
    simp only [readContent] at h
    cases e : members.children name with
    | none =>
      rw [e] at h
      cases h
      exact List.forall_mem_nil _
    | some children =>
      rw [e] at h
      exact sound.children (e.trans (congrArg some h))
  | _ => exact List.forall_mem_nil _

/-- The doubles that are read from finite values are finite. -/
theorem floats_of_readContent {members : Members α} {name : String} {found : Json}
    (finite : found.Finite) {content : Content} {value : content.Value α}
    (h : readContent members name found content = .ok value) :
    ∀ x ∈ content.floats value, x.isFinite = true := by
  cases content with
  | float => exact List.forall_mem_singleton.2 (isFinite_of_readFloat finite h)
  | _ => exact List.forall_mem_nil _

/-- A field holds what stands there, or else its default. -/
theorem look_eq_some {members : Members α} {field : Field} {value : field.content.Value α}
    (h : look members field = .ok (some value)) :
    members.value field.name = none ∧ field.content.default? = some value ∨
      ∃ found, members.value field.name = some found ∧
        readContent members field.name found field.content = .ok value := by
  rw [look] at h
  split at h
  case h_1 absent =>
    refine .inl ⟨absent, ?_⟩
    cases required : field.required with
    | true => rw [required] at h; cases h
    | false => rw [required] at h; exact Except.ok.inj h
  case h_2 found present =>
    refine .inr ⟨found, present, ?_⟩
    cases result : readContent members field.name found field.content with
    | error fault => rw [result] at h; cases h
    | ok other => rw [result] at h; cases h; rfl

/-- A default holds no children and no doubles. -/
theorem default?_empty {content : Content} {value : content.Value α}
    (h : content.default? = some value) :
    content.children value = [] ∧ content.floats value = [] := by
  cases content <;> cases h <;> exact ⟨rfl, rfl⟩

/-- What a field is found to hold is sound. -/
theorem sound_of_look {P : α → Prop} {members : Members α} (sound : Sound P members)
    {field : Field} {value : field.content.Value α} (h : look members field = .ok (some value)) :
    (∀ x ∈ field.content.children value, P x) ∧
      ∀ x ∈ field.content.floats value, x.isFinite = true := by
  obtain ⟨-, default⟩ | ⟨found, present, read⟩ := look_eq_some h
  · obtain ⟨children, floats⟩ := default?_empty default
    rw [children, floats]
    exact ⟨List.forall_mem_nil _, List.forall_mem_nil _⟩
  · exact ⟨children_of_readContent sound read, floats_of_readContent (sound.finite present) read⟩

/-- What a record is read to hold is sound. -/
theorem readSlots_sound {P : α → Prop} {members : Members α} (sound : Sound P members)
    {fields : List Field} {slots : Slots α fields} (h : readSlots fields members = .ok slots) :
    (∀ x ∈ slotChildren fields slots, P x) ∧ ∀ x ∈ slotFloats fields slots, x.isFinite = true := by
  have found := readSlots_eq_ok.1 h
  clear h
  induction fields with
  | nil => exact ⟨List.forall_mem_nil _, List.forall_mem_nil _⟩
  | cons field rest ih =>
    obtain ⟨value, values⟩ := slots
    obtain ⟨here, later⟩ := Prod.mk.inj found
    obtain ⟨children, floats⟩ := sound_of_look sound here
    obtain ⟨otherChildren, otherFloats⟩ := ih later
    exact ⟨List.forall_mem_append.2 ⟨children, otherChildren⟩,
      List.forall_mem_append.2 ⟨floats, otherFloats⟩⟩

/-- **Induction over what is read:** what a node has whose children were read and have it, every
tree has that is read from a value with finite doubles. -/
theorem decode_induction {P : α → Prop}
    (step : ∀ nested members x, Sound P members → rule.ofMembers nested members = .ok x → P x) :
    ∀ {nested : Bool} {value : Json} {x : α}, value.Finite → decode rule nested value = .ok x → P x
  | nested, .object members, x, finite, h => by
    rw [decode_object] at h
    have finite (member : String × Json) : member ∈ members → member.2.Finite :=
      Json.finiteMembers_iff.1 finite member
    refine step nested _ x ⟨?_, ?_, ?_⟩ h
    · intro name child e
      obtain ⟨inner, found, e⟩ := Option.map_eq_some_iff.1 e
      have mem := Json.mem_of_member? found
      exact decode_induction step (finite _ mem) e
    · intro name children e child mem
      obtain ⟨list, found, e⟩ := Option.map_eq_some_iff.1 e
      have inMembers := Json.mem_of_member? found
      cases list with
      | array items =>
        rw [decodeList] at e
        obtain ⟨item, inItems, e⟩ := exists_of_decodeItems e mem
        exact decode_induction step (Json.finiteItems_iff.1 (finite _ inMembers) item inItems) e
      | _ => rw [decodeList] at e <;> cases e
    · intro name found e
      exact finite _ (Json.mem_of_member? e)
  | _, .null, _, _, h | _, .bool _, _, _, h | _, .int _, _, _, h | _, .float _, _, _, h
  | _, .string _, _, _, h | _, .array _, _, _, h => by rw [decode] at h <;> cases h
termination_by _ value => sizeOf value
decreasing_by
  · have smaller := List.sizeOf_lt_of_mem mem
    simp only [Json.object.sizeOf_spec, Prod.mk.sizeOf_spec] at *
    omega
  · have smaller := List.sizeOf_lt_of_mem inMembers
    have smallest := List.sizeOf_lt_of_mem inItems
    simp only [Json.object.sizeOf_spec, Json.array.sizeOf_spec, Prod.mk.sizeOf_spec] at *
    omega

end Decoding

/-! ## Finite written forms -/

/-- The children of a changed slot are the changed children. -/
theorem Content.children_map {β : Type} (f : α → β) (content : Content)
    (value : content.Value α) :
    content.children (content.map f value) = (content.children value).map f := by
  cases content with
  | child => cases value <;> rfl
  | _ => rfl

/-- The children of changed slots are the changed children. -/
theorem slotChildren_mapSlots {β : Type} (f : α → β) : ∀ (fields : List Field)
    (slots : Slots α fields),
    slotChildren fields (mapSlots f fields slots) = (slotChildren fields slots).map f
  | [], _ => rfl
  | field :: rest, (value, values) => by
    rw [mapSlots, slotChildren, slotChildren, List.map_append, Content.children_map,
      slotChildren_mapSlots f rest values]

/-- A value is written without infinities, if its children are. -/
theorem Content.finite_toJson (content : Content) {value : content.Value Json}
    (h : ∀ x ∈ content.children value, x.Finite) : (content.toJson value).Finite := by
  cases content with
  | child =>
    cases value with
    | none => trivial
    | some x => exact h x (List.mem_singleton.2 rfl)
  | node => exact h value (List.mem_singleton.2 rfl)
  | nodes => exact Json.finiteItems_iff.2 h
  | optionalText => cases value <;> trivial
  | float =>
    show Json.Finite (if value.isFinite then _ else _)
    split
    case isTrue finite => exact finite
    case isFalse => trivial
  | text | flag | int | word => trivial

/-- A record is written without infinities, if its children are. -/
theorem finite_members : ∀ {fields : List Field} {slots : Slots Json fields},
    (∀ x ∈ slotChildren fields slots, x.Finite) → Json.FiniteMembers (members fields slots)
  | [], _, _ => trivial
  | field :: _, (_, _), h => by
    obtain ⟨here, others⟩ := List.forall_mem_append.1 h
    exact ⟨field.content.finite_toJson here, finite_members others⟩

end Record
end RubyModel
