/-
# Nodes of unlisted types

A node whose type name is not listed keeps its type name and its position, and nothing else of it is
looked at (`CstKind::Unrecognized` in `SPEC_FULL.md`, §11).  Where it stands in a tree is given by a
path of child numbers, which is the same path in the JSON value (over `below`) and in the tree that
is read (over `Shape.children`):

* the nodes below a value that is read are read as the children of the tree (`children_of_ofJson`);
* so the part of a value at a path is read as the part of the tree at this path (`ofJson_partAt`).

One unlisted name is not read, the reserved one, and a tree with a node of this name is not read
either (`Node.unlisted_types_kept`).
-/

import RubyModel.Proofs.Grammar

namespace RubyModel

open Record (Fault Field Content Rule Members Slots membersOf slotChildren)

/-! ## The position that a value gives -/

namespace Position

/-- The number that a value gives: zero if it is left out. -/
def Gives (found : Option Json) (number : UInt64) : Prop := found.getD (.int 0) = .int number.toNat

/-- The position that a value gives: by its members, or by its items in the order of the fields. -/
def GivenBy (position : Position) : Json → Prop
  | .object members =>
    Gives (Json.member? "start_line" members) position.startLine ∧
    Gives (Json.member? "end_line" members) position.endLine ∧
    Gives (Json.member? "start_offset" members) position.startOffset ∧
    Gives (Json.member? "end_offset" members) position.endOffset
  | .array items =>
    items.length ≤ 4 ∧ Gives items[0]? position.startLine ∧ Gives items[1]? position.endLine ∧
    Gives items[2]? position.startOffset ∧ Gives items[3]? position.endOffset
  | _ => False

/-- The position of a node of an unlisted type: all zero if it is left out or `null`. -/
def LooselyGivenBy (position : Position) : Option Json → Prop
  | none | some .null => position = {}
  | some found => position.GivenBy found

/-- A number is read exactly as it is given. -/
theorem readLongWord_eq_ok {found : Json} {number : UInt64} :
    Record.readLongWord found = .ok number ↔ found = .int number.toNat := by
  constructor
  · intro h
    cases found with
    | int value =>
      rw [Record.readLongWord] at h
      split at h
      case isTrue inside =>
        obtain rfl := Except.ok.inj h
        have whole : (value.toNat : Int) = value := Int.toNat_of_nonneg inside.1
        have fits : value.toNat < UInt64.size := by simp only [UInt64.size]; omega
        rw [Nat.toUInt64, UInt64.toNat_ofNat_of_lt' fits, whole]
      case isFalse => cases h
    | _ => cases h
  · rintro rfl
    exact Record.readLongWord_toNat number

/-- A number of a position is the one that is given, or zero. -/
theorem number_eq_ok {found : Option Json} {value : UInt64} :
    number found = .ok value ↔ Gives found value := by
  cases found with
  | none =>
    simp only [number, Gives, Option.getD_none, Except.ok.injEq, Json.int.injEq]
    constructor
    · rintro rfl
      rfl
    · intro h
      exact UInt64.toNat_inj.1 (by simpa using Int.ofNat.inj h)
  | some found => exact readLongWord_eq_ok

/-- A position is read exactly as it is given. -/
theorem ofJson_eq_ok {found : Json} {position : Position} :
    ofJson found = .ok position ↔ position.GivenBy found := by
  obtain ⟨startLine, endLine, startOffset, endOffset⟩ := position
  cases found with
  | object members =>
    simp only [ofJson, GivenBy, ← number_eq_ok]
    constructor
    · intro h
      obtain ⟨_, second, h⟩ := Record.bind_eq_ok h
      obtain ⟨_, fourth, h⟩ := Record.bind_eq_ok h
      obtain ⟨_, first, h⟩ := Record.bind_eq_ok h
      obtain ⟨_, third, h⟩ := Record.bind_eq_ok h
      cases h
      exact ⟨first, second, third, fourth⟩
    · rintro ⟨first, second, third, fourth⟩
      rw [first, second, third, fourth]
      rfl
  | array items =>
    simp only [ofJson, GivenBy, ← number_eq_ok]
    constructor
    · intro h
      obtain ⟨_, first, h⟩ := Record.bind_eq_ok h
      obtain ⟨_, second, h⟩ := Record.bind_eq_ok h
      obtain ⟨_, third, h⟩ := Record.bind_eq_ok h
      obtain ⟨_, fourth, h⟩ := Record.bind_eq_ok h
      split at h
      case isTrue few =>
        cases h
        exact ⟨few, first, second, third, fourth⟩
      case isFalse => cases h
    · rintro ⟨few, first, second, third, fourth⟩
      rw [first, second, third, fourth]
      exact if_pos few
  | _ => simp [ofJson, GivenBy]

end Position

/-! ## Children of what is read -/

namespace Record

variable {α : Type} {rule : Rule α} {members : List (String × Json)}

/-- The items of a list are read one by one. -/
theorem map_decode_items {items : List Json} {values : List α}
    (h : decodeItems rule items = .ok values) :
    items.map (decode rule true) = values.map .ok := by
  induction items generalizing values with
  | nil =>
    rw [decodeItems] at h
    cases h
    rfl
  | cons item items ih =>
    rw [decodeItems] at h
    obtain ⟨first, e, h⟩ := bind_eq_ok h
    obtain ⟨others, later, h⟩ := bind_eq_ok h
    cases h
    rw [List.map_cons, List.map_cons, e, ih later]

/-- The nodes in the value of a field are read as the children in the field. -/
theorem map_decode_places {name : String} {found : Json}
    (here : Json.member? name members = some found) {content : Content} {value : content.Value α}
    (h : readContent (membersOf rule members) name found content = .ok value) :
    (content.places found).map (decode rule true) = (content.children value).map .ok := by
  cases content with
  | child =>
    simp only [readContent, child_membersOf here] at h
    cases found with
    | null => cases h; rfl
    | _ =>
      cases e : decode rule true _ with
      | error fault => rw [e] at h; cases h
      | ok x => rw [e] at h; cases h; exact congrArg (fun result => [result]) e
  | node =>
    simp only [readContent, child_membersOf here] at h
    exact congrArg (fun result => [result]) h
  | nodes =>
    simp only [readContent, children_membersOf here, Option.getD_some] at h
    cases found with
    | array items =>
      rw [decodeList] at h
      exact map_decode_items h
    | _ => simp [decodeList] at h
  | _ => rfl

/-- The nodes in the fields of a record are read as its children. -/
theorem map_decode_fields {fields : List Field} {slots : Slots α fields}
    (h : readSlots fields (membersOf rule members) = .ok slots) :
    (fields.flatMap fun field =>
        (Json.member? field.name members).toList.flatMap field.content.places).map
        (decode rule true) =
      (slotChildren fields slots).map .ok := by
  have found := readSlots_eq_ok.1 h
  clear h
  induction fields with
  | nil => rfl
  | cons field rest ih =>
    obtain ⟨value, values⟩ := slots
    obtain ⟨here, later⟩ := Prod.mk.inj found
    rw [List.flatMap_cons, List.map_append, slotChildren, List.map_append, ih later]
    refine congrArg (· ++ _) ?_
    -- A field that is left out has a default, and no default holds a child.
    obtain ⟨absent, default⟩ | ⟨found, present, read⟩ := look_eq_some here
    · rw [(default?_empty default).1, show Json.member? field.name members = none from absent]
      rfl
    · rw [show Json.member? field.name members = some found from present]
      simpa using map_decode_places present read

end Record

namespace Raw

/-! ## Parts at a path -/

/-- The part of a tree at a path of child numbers. -/
def partAt {α : Type} (children : α → List α) : List Nat → α → Option α
  | [], tree => some tree
  | index :: path, tree => (children tree)[index]?.bind (partAt children path)

/-- What a path leads to is a node in the value. -/
theorem nodeIn_of_partAt {path : List Nat} {value part : Json}
    (h : partAt below path value = some part) : NodeIn part value := by
  induction path generalizing value with
  | nil => cases h; exact .whole
  | cons index path ih =>
    obtain ⟨inner, here, h⟩ := Option.bind_eq_some_iff.1 h
    exact .child (List.mem_of_getElem? here) (ih h)

namespace Node

/-- The nodes below a value are read as the children of the tree. -/
theorem children_of_ofJson {value : Json} {tree : Node} (h : ofJson value = .ok tree) :
    (below value).map ofJson = tree.shape.children.map .ok := by
  cases value with
  | object members =>
    obtain ⟨kind, type⟩ | ⟨typeName, type, unlisted⟩ := type_of_reads ⟨tree, h⟩
    · rw [ofJson_of_type type, readNode, Kind.ofTypeName?_typeName] at h
      obtain ⟨position, -, h⟩ := Record.bind_eq_ok h
      obtain ⟨slots, found, h⟩ := Record.bind_eq_ok h
      cases h
      have children : (Entry.shape (.listed kind slots)).children =
        slotChildren kind.fields slots := Entry.children_shape _
      rw [below_of_kind type, shape, children, ← Record.map_decode_fields found]
      simp only [funext (decode_eq_ofJson true)]
    · rw [ofJson_of_type type, readNode, unlisted] at h
      rw [below_of_unlisted type unlisted]
      dsimp only at h
      split at h <;> obtain ⟨position, -, h⟩ := Record.bind_eq_ok h <;> cases h
      rfl
  | _ => rw [ofJson, Record.decode] at h <;> cases h

/-- **A path leads to the same node** in a value and in the tree that is read from it. -/
theorem ofJson_partAt {path : List Nat} {value part : Json} {tree : Node}
    (h : ofJson value = .ok tree) (here : partAt below path value = some part) :
    ∃ node, ofJson part = .ok node ∧
      partAt (fun node => node.shape.children) path tree = some node := by
  induction path generalizing value tree with
  | nil =>
    cases here
    exact ⟨tree, h, rfl⟩
  | cons index path ih =>
    obtain ⟨inner, found, here⟩ := Option.bind_eq_some_iff.1 here
    have same := congrArg (fun results => results[index]?) (children_of_ofJson h)
    simp only [List.getElem?_map, found, Option.map_some] at same
    obtain ⟨child, place, read⟩ := Option.map_eq_some_iff.1 same.symm
    obtain ⟨node, partRead, partPlace⟩ := ih read.symm here
    exact ⟨node, partRead, by simpa [partAt, place] using partPlace⟩

/-! ## Unlisted types -/

/-- The node that stands for an object of an unlisted type. -/
def kept (position : Position) (typeName : String) : Node :=
  ⟨position, .unsupported (.unlisted typeName)⟩

section Kept

variable {members : List (String × Json)} {typeName : String} {position : Position}

/-- The position of a node of an unlisted kind is the one that is given, or none. -/
theorem readLoosePosition_eq_ok :
    readLoosePosition (membersOf rule members) = .ok position ↔
      position.LooselyGivenBy (Json.member? "position" members) := by
  rw [readLoosePosition, Record.value_membersOf]
  cases Json.member? "position" members with
  | none => exact ⟨fun h => (Except.ok.inj h).symm, fun h => congrArg Except.ok h.symm⟩
  | some found =>
    cases found with
    | null => exact ⟨fun h => (Except.ok.inj h).symm, fun h => congrArg Except.ok h.symm⟩
    | _ => exact Position.ofJson_eq_ok

/-- An object of an unlisted type is kept with its type name and position, unless the name is
reserved. -/
theorem ofJson_unlisted (type : Json.member? "type" members = some (.string typeName))
    (unlisted : Kind.ofTypeName? typeName = none)
    (placed : position.LooselyGivenBy (Json.member? "position" members)) :
    ofJson (.object members) = .ok (kept position typeName) ↔ typeName ≠ reservedName := by
  constructor
  · exact fun h => ((reads_of_unlisted type unlisted).1 ⟨_, h⟩).1
  · intro unreserved
    rw [ofJson_of_type type, readNode, unlisted]
    dsimp only
    rw [if_neg unreserved, readLoosePosition_eq_ok.2 placed]
    rfl

/-- A kept node can be written unless it has the reserved name. -/
theorem writable_kept (unlisted : Kind.ofTypeName? typeName = none) :
    (kept position typeName).Writable ↔ typeName ≠ reservedName := by
  have layer := @writable_shape position (.unlisted typeName)
  exact layer.trans ⟨fun h => h.1.2, fun h => ⟨⟨unlisted, h⟩, List.forall_mem_nil _⟩⟩

/-- **Unlisted types are kept.**  An object whose type is not listed and whose position is missing,
`null` or a position is read as a node with exactly this type name and position, which comes back
from its written form, and a tree in which it stands somewhere has this node at the same path.  The
reserved name is the one exception: an object of this type is not read, its node does not come
back, and a tree in which it stands somewhere is not read either. -/
theorem unlisted_types_kept (type : Json.member? "type" members = some (.string typeName))
    (unlisted : ∀ kind : Kind, kind.typeName ≠ typeName)
    (valid : ∀ found ∈ Json.member? "position" members, found = .null ∨ found.IsPosition) :
    ∃ position : Position, position.LooselyGivenBy (Json.member? "position" members) ∧
      (ofJson (.object members) = .ok (kept position typeName) ↔ typeName ≠ reservedName) ∧
      (ofJson (kept position typeName).toJson = .ok (kept position typeName) ↔
        typeName ≠ reservedName) ∧
      (∀ value path, IsNode value → partAt below path value = some (.object members) →
        (Unreserved value ↔ ∃ tree, ofJson value = .ok tree ∧
          partAt (fun node => node.shape.children) path tree = some (kept position typeName))) ∧
      (typeName = reservedName → ∀ value path, partAt below path value = some (.object members) →
        ∀ tree, ofJson value ≠ .ok tree) := by
  have free := Kind.ofTypeName?_eq_none.2 unlisted
  obtain ⟨position, positionRead⟩ := exists_readLoosePosition.2 valid
  have placed := readLoosePosition_eq_ok.1 positionRead
  refine ⟨position, placed, ofJson_unlisted type free placed, ?_, ?_, ?_⟩
  · rw [ofJson_toJson_iff, writable_kept free]
  · intro value path isNode here
    constructor
    · intro unreserved
      obtain ⟨tree, read⟩ := reads_of_isNode isNode unreserved
      obtain ⟨node, partRead, place⟩ := ofJson_partAt read here
      have name := ((reads_of_unlisted type free).1 ⟨node, partRead⟩).1
      rw [(ofJson_unlisted type free placed).2 name] at partRead
      exact ⟨tree, read, Except.ok.inj partRead ▸ place⟩
    · rintro ⟨tree, read, -⟩
      exact unreserved_of_reads ⟨tree, read⟩
  · rintro rfl value path here tree read
    exact unreserved_of_reads ⟨tree, read⟩ members (nodeIn_of_partAt here) type

end Kept

/-- A lambda behind a line number and a nil: the type of the lambda is not listed, its other members
hold anything, and its position is an array. -/
def lambdaStatement : Json :=
  .object [
    ("type", .string "BLOCKNODE"),
    ("statements", .array [
      .object [("type", .string "NILNODE")],
      .object [
        ("type", .string "NEWLINENODE"),
        ("next_node", .object [
          ("type", .string "LAMBDANODE"),
          ("body", .string "no node"),
          ("position", .array [.int 3, .int 4])])]])]

/-- The lambda is kept where it stands; an object of the reserved type is refused, although this
type is not listed. -/
theorem lambdaStatement_kept :
    (∃ tree, ofJson lambdaStatement = .ok tree ∧
      partAt (fun node => node.shape.children) [1, 0] tree =
        some (kept { startLine := 3, endLine := 4 } "LAMBDANODE")) ∧
    ∀ tree, ofJson (.object [("type", .string "UNRECOGNIZED")]) ≠ .ok tree := by
  have reads : Reads lambdaStatement := ⟨_, rfl⟩
  have array : Json.IsPosition (.array [.int 3, .int 4]) := Position.exists_ofJson.1 ⟨_, rfl⟩
  obtain ⟨position, -, alone, -, deep, -⟩ := @unlisted_types_kept
    [("type", .string "LAMBDANODE"), ("body", .string "no node"),
      ("position", .array [.int 3, .int 4])]
    "LAMBDANODE" rfl (Kind.ofTypeName?_eq_none.1 rfl) fun _ e => .inr (Option.some.inj e ▸ array)
  have same : kept position "LAMBDANODE" = kept { startLine := 3, endLine := 4 } "LAMBDANODE" :=
    Except.ok.inj ((alone.2 (by decide)).symm.trans rfl)
  obtain ⟨-, -, -, -, -, refused⟩ := @unlisted_types_kept [("type", .string "UNRECOGNIZED")]
    "UNRECOGNIZED" rfl (Kind.ofTypeName?_eq_none.1 rfl) nofun
  rw [same] at deep
  exact ⟨(deep lambdaStatement [1, 0] (isNode_of_reads reads) rfl).1 (unreserved_of_reads reads),
    refused rfl _ [] rfl⟩

end Node

end Raw
end RubyModel
