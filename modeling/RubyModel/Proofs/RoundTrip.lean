/-
# Raw trees that are written and read

A tree comes back from its written form exactly if it is `Writable`:

| node | must have |
| --- | --- |
| a double | a finite value, since any other is written as if it were absent |
| a node of an unlisted type | a type name that is neither listed nor reserved |

Every tree that is read is writable, so that reading what was written for it gives it again, and
its written form is a normal form.  The two directions go by induction over nodes as records
(`Node.recordInduction`) and over what is read (`Record.decode_induction`).
-/

import RubyModel.Proofs.Records
import RubyModel.Proofs.Visits
import RubyModel.Raw.Written

namespace RubyModel

open Record (Slots Field Content slotChildren slotFloats membersOf)

/-- A position comes back from its written form. -/
theorem Position.ofJson_toJson (position : Position) : ofJson position.toJson = .ok position := by
  simp [toJson, ofJson, Json.member?, number, Record.readLongWord_toNat]
  rfl

namespace Raw

/-! ## Nodes as records -/

namespace Entry

variable {α : Type}

/-- The children of a record, in the order of its fields. -/
def children : Entry α → List α
  | .listed kind slots => slotChildren kind.fields slots
  | .unlisted _ => []

/-- A record is the record of its shape. -/
@[simp] theorem ofShape_shape (entry : Entry α) : ofShape entry.shape = entry := by
  cases entry with
  | listed kind slots => cases kind <;> rfl
  | unlisted => rfl

/-- The children of a shape stand in the order of the fields of its record. -/
theorem children_shape (entry : Entry α) : entry.shape.children = entry.children := by
  cases entry with
  | listed kind slots => cases kind <;> rfl
  | unlisted => rfl

/-- A change of the children keeps the type name. -/
theorem typeName_map {β : Type} (f : α → β) (entry : Entry α) :
    (entry.map f).typeName = entry.typeName := by
  cases entry <;> rfl

end Entry

namespace Node

/-- **Induction over trees of records:** what a node has if the children of its record have it,
every node has. -/
theorem recordInduction {P : Node → Prop}
    (step : ∀ position (entry : Entry Node), (∀ child ∈ entry.children, P child) →
      P ⟨position, entry.shape⟩) (node : Node) : P node := by
  induction node using induction with
  | step position shape ih =>
    have below : ∀ child ∈ (Entry.ofShape shape).children, P child := by
      rw [← Entry.children_shape, Entry.shape_ofShape]
      exact Shape.all_iff.1 ih
    exact Entry.shape_ofShape shape ▸ step position (Entry.ofShape shape) below

section Fold

variable {β : Type} (f : Position → Shape β → β)

/-- The value of a field with the results of its children. -/
def foldContent : (content : Content) → content.Value Node → content.Value β
  | .child, value => foldChild f value
  | .node, value => fold f value
  | .nodes, value => foldList f value
  | .text, value => value
  | .optionalText, value => value
  | .flag, value => value
  | .int, value => value
  | .float, value => value
  | .word, value => value

/-- The values of a record with the results of its children. -/
def foldSlots : (fields : List Field) → Slots Node fields → Slots β fields
  | [], _ => ()
  | field :: rest, (value, values) => (foldContent f field.content value, foldSlots rest values)

/-- A slot is rebuilt by rebuilding the nodes in it. -/
theorem foldContent_eq (content : Content) (value : content.Value Node) :
    foldContent f content value = content.map (fold f) value := by
  cases content with
  | child => exact foldChild_eq f value
  | nodes => exact foldList_eq f value
  | _ => rfl

/-- The slots of a node are rebuilt one by one. -/
theorem foldSlots_eq : ∀ (fields : List Field) (slots : Slots Node fields),
    foldSlots f fields slots = Record.mapSlots (fold f) fields slots
  | [], _ => rfl
  | field :: rest, (value, values) =>
    Prod.ext (foldContent_eq f field.content value) (foldSlots_eq rest values)

/-- A shape is rebuilt field by field. -/
theorem foldShape_shape (entry : Entry Node) :
    foldShape f entry.shape = (entry.map (fold f)).shape := by
  cases entry with
  | listed kind slots =>
    rw [Entry.map, ← foldSlots_eq]
    cases kind <;> rfl
  | unlisted => rfl

end Fold

/-- The members of a written node. -/
def members (position : Position) (entry : Entry Node) : List (String × Json) :=
  [("type", .string entry.typeName), ("position", position.toJson)] ++ (entry.map toJson).members

/-- A node is written member by member. -/
theorem toJson_shape (position : Position) (entry : Entry Node) :
    toJson ⟨position, entry.shape⟩ = .object (members position entry) := by
  show written position (foldShape written entry.shape) = _
  rw [foldShape_shape, written]
  simp only [Entry.ofShape_shape, Entry.typeName_map]
  rfl

/-- A node is an object, so that a child that is there is not `null`. -/
theorem toJson_ne_null (node : Node) : node.toJson ≠ .null := by
  obtain ⟨position, shape⟩ := node
  exact fun e => nomatch e

end Node

/-! ## Names -/

namespace Kind

/-- The list of kinds is complete. -/
theorem mem_all (kind : Kind) : kind ∈ all := by
  have listed : all[kind.ctorIdx]? = some kind := by cases kind <;> rfl
  exact List.mem_of_getElem? listed

/-- A kind is found under its type name. -/
theorem ofTypeName?_typeName (kind : Kind) : ofTypeName? kind.typeName = some kind := by
  have listed : ∀ kind ∈ all, ofTypeName? kind.typeName = some kind := by decide +kernel
  exact listed kind kind.mem_all

/-- The fields of a kind have names of their own. -/
theorem names_nodup (kind : Kind) :
    ("type" :: "position" :: kind.fields.map Field.name).Nodup := by
  have listed : ∀ kind ∈ all, ("type" :: "position" :: kind.fields.map Field.name).Nodup := by
    decide +kernel
  exact listed kind kind.mem_all

end Kind

/-! ## Trees that can be written -/

/-- A layer of a tree that is written without loss. -/
def Shape.Writable {α : Type} : Shape α → Prop
  | .leaf (.float value) => value.isFinite = true
  | .unsupported (.unlisted typeName) =>
    Kind.ofTypeName? typeName = none ∧ typeName ≠ reservedName
  | _ => True

/-- A tree that is written without loss: every double in it is finite, and every unlisted type
name is neither listed nor reserved. -/
def Node.Writable (node : Node) : Prop := ∀ part : Node, part.Within node → part.shape.Writable

/-- A record that is written without loss. -/
def Entry.Writable {α : Type} : Entry α → Prop
  | .listed kind slots => ∀ x ∈ slotFloats kind.fields slots, x.isFinite = true
  | .unlisted typeName => Kind.ofTypeName? typeName = none ∧ typeName ≠ reservedName

/-- A shape can be written if its entry in the vocabulary can. -/
theorem Entry.writable_shape {α : Type} (entry : Entry α) :
    entry.shape.Writable ↔ entry.Writable := by
  cases entry with
  | listed kind slots =>
    cases kind with
    | float =>
      obtain ⟨value, _⟩ := slots
      exact (List.forall_mem_singleton (p := fun x : Float => x.isFinite = true) (a := value)).symm
    | _ => exact iff_of_true trivial (List.forall_mem_nil _)
  | unlisted => exact Iff.rfl

namespace Node

/-- A node can be written if its entry can and its children can. -/
theorem writable_shape {position : Position} {entry : Entry Node} :
    Writable ⟨position, entry.shape⟩ ↔
      entry.Writable ∧ ∀ child ∈ entry.children, child.Writable := by
  rw [← Entry.writable_shape, ← Entry.children_shape]
  constructor
  · intro h
    exact ⟨h _ .whole, fun child mem part within => h part (.child mem within)⟩
  · rintro ⟨layer, below⟩ part within
    cases within with
    | whole => exact layer
    | child mem within => exact below _ mem part within

/-! ## Written, then read -/

/-- The fields of a record are not named like the type name and the position. -/
theorem member?_fields (entry : Entry Json) :
    Json.member? "type" entry.members = none ∧ Json.member? "position" entry.members = none := by
  cases entry with
  | unlisted => exact ⟨rfl, rfl⟩
  | listed kind slots =>
    obtain ⟨noType, distinct⟩ := List.nodup_cons.1 kind.names_nodup
    rw [← Record.names_members kind.fields slots] at noType distinct
    exact ⟨Json.member?_eq_none fun mem => noType (List.mem_cons_of_mem _ mem),
      Json.member?_eq_none (List.nodup_cons.1 distinct).1⟩

/-- A written node has its type name under `type`. -/
theorem value_type (position : Position) (entry : Entry Node) :
    (membersOf rule (members position entry)).value "type" = some (.string entry.typeName) := by
  show Json.member? "type" _ = _
  rw [members, Json.member?_append, (member?_fields _).1]
  rfl

/-- A written node has its position under `position`. -/
theorem value_position (position : Position) (entry : Entry Node) :
    (membersOf rule (members position entry)).value "position" = some position.toJson := by
  show Json.member? "position" _ = _
  rw [members, Json.member?_append, (member?_fields _).2]
  rfl

section Reading

variable {members : Record.Members Node} {position : Position}

/-- Members with a type are read as a node of this type. -/
theorem ofMembers_of_type {typeName : String} (h : members.value "type" = some (.string typeName))
    (nested : Bool) : rule.ofMembers nested members = readNode typeName members := by
  simp only [rule, h]

/-- A node of a listed kind is read by the fields of its kind. -/
theorem readNode_listed {kind : Kind} {slots : Slots Node kind.fields}
    (found : members.value "position" = some position.toJson)
    (read : Record.readSlots kind.fields members = .ok slots) :
    readNode kind.typeName members = .ok ⟨position, Entry.shape (.listed kind slots)⟩ := by
  have positionRead : readPosition members = .ok position := by
    rw [readPosition, found]
    exact position.ofJson_toJson
  rw [readNode, Kind.ofTypeName?_typeName]
  dsimp only
  rw [positionRead, read]
  rfl

/-- A node of an unlisted kind keeps its type name and its position. -/
theorem readNode_unlisted {typeName : String}
    (found : members.value "position" = some position.toJson)
    (unlisted : Kind.ofTypeName? typeName = none) (unreserved : typeName ≠ reservedName) :
    readNode typeName members = .ok ⟨position, .unsupported (.unlisted typeName)⟩ := by
  have positionRead : readLoosePosition members = .ok position := by
    rw [readLoosePosition, found]
    exact position.ofJson_toJson
  rw [readNode, unlisted]
  dsimp only
  rw [if_neg unreserved, positionRead]
  rfl

end Reading

/-- **What is written is read back:** a tree that is written without loss comes back. -/
theorem decode_toJson {node : Node} (h : node.Writable) (nested : Bool) :
    Record.decode rule nested node.toJson = .ok node := by
  induction node using recordInduction generalizing nested with
  | step position entry ih =>
    obtain ⟨layer, below⟩ := writable_shape.1 h
    have found := value_position position entry
    rw [toJson_shape, Record.decode_object, ofMembers_of_type (value_type position entry)]
    cases entry with
    | listed kind slots =>
      have distinct := (List.nodup_cons.1 (List.nodup_cons.1 kind.names_nodup).2).2
      have children (x : Node) (mem : x ∈ slotChildren kind.fields slots) :
          Record.ComesBack rule toJson x := ⟨ih x mem (below x mem) true, toJson_ne_null x⟩
      exact readNode_listed found (Record.readSlots_written _ distinct children layer)
    | unlisted typeName =>
      obtain ⟨unlisted, unreserved⟩ := layer
      exact readNode_unlisted found unlisted unreserved

/-! ## Read -/

/-- A node that is read is written without loss, if its children are. -/
theorem writable_of_readNode {typeName : String} {members : Record.Members Node} {node : Node}
    (sound : Record.Sound Writable members) (h : readNode typeName members = .ok node) :
    node.Writable := by
  rw [readNode] at h
  split at h
  case h_1 kind listed =>
    obtain ⟨position, -, h⟩ := Record.bind_eq_ok h
    obtain ⟨slots, read, h⟩ := Record.bind_eq_ok h
    obtain rfl := Except.ok.inj h
    obtain ⟨children, floats⟩ := Record.readSlots_sound sound read
    exact writable_shape.2 ⟨floats, children⟩
  case h_2 unlisted =>
    split at h
    case isTrue =>
      obtain ⟨position, -, h⟩ := Record.bind_eq_ok h
      cases h
    case isFalse unreserved =>
      obtain ⟨position, -, h⟩ := Record.bind_eq_ok h
      obtain rfl := Except.ok.inj h
      exact (@writable_shape position (.unlisted typeName)).2
        ⟨⟨unlisted, unreserved⟩, List.forall_mem_nil _⟩

/-- **What is read can be written:** a tree that is read is written without loss. -/
theorem writable_of_decode {nested : Bool} {value : Json} {node : Node} (finite : value.Finite)
    (h : Record.decode rule nested value = .ok node) : node.Writable := by
  refine Record.decode_induction (P := Writable) ?_ finite h
  intro nested members node sound read
  simp only [rule] at read
  split at read
  case h_1 typeName found => exact writable_of_readNode sound read
  case h_2 => cases read

/-- A tree is written without infinities. -/
theorem finite_toJson (node : Node) : node.toJson.Finite := by
  induction node using recordInduction with
  | step position entry ih =>
    rw [toJson_shape]
    have fields : Json.FiniteMembers (entry.map toJson).members := by
      cases entry with
      | unlisted => trivial
      | listed kind slots =>
        refine Record.finite_members ?_
        rw [Record.slotChildren_mapSlots]
        exact List.forall_mem_map.2 ih
    exact ⟨trivial, ⟨trivial, trivial, trivial, trivial, trivial⟩, fields⟩

/-- A tree comes back exactly if it is written without loss. -/
theorem ofJson_toJson_iff (node : Node) : ofJson node.toJson = .ok node ↔ node.Writable :=
  ⟨writable_of_decode node.finite_toJson, fun h => decode_toJson h false⟩

/-- **Reading undoes writing.**  A tree comes back from its written form exactly if its doubles are
finite and its unlisted type names are neither listed nor reserved.  Every tree that is read is of
this sort: it comes back from its written form, which is a normal form. -/
theorem reading_undoes_writing :
    (∀ node : Node, ofJson node.toJson = .ok node ↔ node.Writable) ∧
    (∀ value node, value.Finite → ofJson value = .ok node →
      node.Writable ∧ ofJson node.toJson = .ok node) ∧
    ∀ value first, value.Finite → (ofJson value).map toJson = .ok first →
      (ofJson first).map toJson = .ok first := by
  have again (value : Json) (node : Node) (finite : value.Finite) (read : ofJson value = .ok node) :
      node.Writable ∧ ofJson node.toJson = .ok node := by
    have writable := writable_of_decode finite read
    exact ⟨writable, (ofJson_toJson_iff node).2 writable⟩
  refine ⟨ofJson_toJson_iff, again, ?_⟩
  intro value first finite loaded
  cases read : ofJson value with
  | error fault => rw [read] at loaded; cases loaded
  | ok node =>
    rw [read] at loaded
    obtain rfl : node.toJson = first := Except.ok.inj loaded
    rw [(again value node finite read).2]
    rfl

/-- The assignment `$x = 1.0` in a loose form: the double is given by an integer, the position by
an array, and one member belongs to no field. -/
def assignedDouble : Json :=
  .object [
    ("type", .string "GLOBALASGNNODE"),
    ("remark", .array [.null]),
    ("position", .array [.int 3, .int 4]),
    ("name", .string "x"),
    ("lexical_name", .string "$x"),
    ("value", .object [("type", .string "FLOATNODE"), ("value", .int 1)])]

/-- The tree of the assignment comes back from its own written form. -/
theorem assignedDouble_comes_back :
    ∃ node, ofJson assignedDouble = .ok node ∧ node.Writable ∧ ofJson node.toJson = .ok node := by
  have finite : assignedDouble.Finite := ⟨trivial, ⟨trivial, trivial⟩, ⟨trivial, trivial, trivial⟩,
    trivial, trivial, ⟨trivial, trivial, trivial⟩, trivial⟩
  exact ⟨_, rfl, reading_undoes_writing.2.1 assignedDouble _ finite rfl⟩

/-- A type name that is listed belongs to its kind, whatever node it was kept for. -/
example : ofJson (toJson ⟨{}, .unsupported (.unlisted "NILNODE")⟩) = .ok ⟨{}, .leaf .nil⟩ := rfl

end Node

end Raw
end RubyModel
