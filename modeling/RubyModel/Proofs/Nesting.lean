/-
# Values are read as they are written, as deep as they may be

The text of a value is read as the value, in both layouts, if its arrays and objects nest no
deeper than the reader allows; else the reader stops at the first bracket that is one too many
(`read_text`).  Whatever else a text may be wrong about does not come into it: what is written
for a value that is `Legible` has no other fault.

The induction is over the value.  What carries it is `Ends`, which says for a text at any place
inside other brackets both what state the reader is in after it and how many more brackets had
to be opened for that.  The items and members after the first go by induction over their list
(`feed_items`, `feed_members`).
-/

import RubyModel.Proofs.Spelling

namespace RubyModel
namespace Json

/-! ## Depth -/

mutual
/-- How deep arrays and objects nest in a value. -/
def depth : Json → Nat
  | .array items => depthItems items + 1
  | .object members => depthMembers members + 1
  | .null | .bool _ | .int _ | .float _ | .string _ => 0

/-- The greatest depth of the items. -/
def depthItems : List Json → Nat
  | [] => 0
  | item :: items => max item.depth (depthItems items)

/-- The greatest depth of the members. -/
def depthMembers : List (String × Json) → Nat
  | [] => 0
  | (_, value) :: rest => max value.depth (depthMembers rest)
end

/-- An array nests as deep as its deepest item. -/
theorem depthItems_le {items : List Json} {bound : Nat} :
    depthItems items ≤ bound ↔ ∀ item ∈ items, item.depth ≤ bound := by
  induction items with
  | nil => simp [depthItems]
  | cons item items ih => rw [depthItems, Nat.max_le, ih, List.forall_mem_cons]

/-- An object nests as deep as its deepest member. -/
theorem depthMembers_le {members : List (String × Json)} {bound : Nat} :
    depthMembers members ≤ bound ↔ ∀ member ∈ members, member.2.depth ≤ bound := by
  induction members with
  | nil => simp [depthMembers]
  | cons head rest ih => rw [depthMembers, Nat.max_le, ih, List.forall_mem_cons]

/-- **Induction over values:** items and members come before the array or object they are in. -/
theorem induction {P : Json → Prop} (null : P .null) (bool : ∀ value, P (.bool value))
    (int : ∀ value, P (.int value)) (float : ∀ value, P (.float value))
    (string : ∀ value, P (.string value))
    (array : ∀ items, (∀ item ∈ items, P item) → P (.array items))
    (object : ∀ members, (∀ member ∈ members, P member.2) → P (.object members)) :
    ∀ value, P value
  | .null => null
  | .bool value => bool value
  | .int value => int value
  | .float value => float value
  | .string value => string value
  | .array items =>
    array items fun item _ => induction null bool int float string array object item
  | .object members =>
    object members fun member _ => induction null bool int float string array object member.2
termination_by value => sizeOf value
decreasing_by
  · have smaller := List.sizeOf_lt_of_mem (by assumption)
    simp only [Json.array.sizeOf_spec]
    omega
  · have smaller := List.sizeOf_lt_of_mem (by assumption)
    obtain ⟨key, value⟩ := member
    simp only [Json.object.sizeOf_spec, Prod.mk.sizeOf_spec] at *
    omega

/-! ## Values with a text of their own -/

mutual
/-- The numbers of a value come back from their digits: whole numbers are in the range of 64-bit
words, and doubles are such that their digits name them. -/
def Legible : Json → Prop
  | .int value => -2 ^ 63 ≤ value ∧ value < 2 ^ 64
  | .float value => read (encode (floatText value)) = .ok (.float value)
  | .array items => LegibleItems items
  | .object members => LegibleMembers members
  | .null | .bool _ | .string _ => True

/-- The numbers of all items come back. -/
def LegibleItems : List Json → Prop
  | [] => True
  | item :: items => item.Legible ∧ LegibleItems items

/-- The numbers of all members come back. -/
def LegibleMembers : List (String × Json) → Prop
  | [] => True
  | (_, value) :: rest => value.Legible ∧ LegibleMembers rest
end

/-- The items of an array are legible one by one. -/
theorem legibleItems_iff {items : List Json} :
    LegibleItems items ↔ ∀ item ∈ items, item.Legible := by
  induction items with
  | nil => simp [LegibleItems]
  | cons item items ih => rw [LegibleItems, ih, List.forall_mem_cons]

/-- The members of an object are legible one by one. -/
theorem legibleMembers_iff {members : List (String × Json)} :
    LegibleMembers members ↔ ∀ member ∈ members, member.2.Legible := by
  induction members with
  | nil => simp [LegibleMembers]
  | cons head rest ih => rw [LegibleMembers, ih, List.forall_mem_cons]

/-! ## The digits of doubles -/

/-- A decimal is laid out in the characters of numbers. -/
theorem mem_numeralChars_of_layout {style : Decimal.Style} {d : Decimal} {c : Char}
    (mem : c ∈ Decimal.layout style d) : c ∈ ReaderState.numeralChars := by
  have digit {n : Nat} (h : c ∈ Nat.toDigits 10 n) : c ∈ ReaderState.numeralChars :=
    ReaderState.mem_numeralChars_of_toDigits h
  have zero {n : Nat} (h : c ∈ Decimal.zeros n) : c ∈ ReaderState.numeralChars := by
    obtain rfl := List.eq_of_mem_replicate h
    decide
  unfold Decimal.layout at mem
  simp only at mem
  split at mem
  · split at mem
    · simp only [List.mem_append, List.mem_cons, List.not_mem_nil, or_false] at mem
      rcases mem with (mem | mem) | rfl | rfl
      · exact digit mem
      · exact zero mem
      all_goals decide
    · split at mem
      · rcases List.mem_append.1 mem with mem | mem
        · exact digit (List.mem_of_mem_take mem)
        · rcases List.mem_cons.1 mem with rfl | mem
          · decide
          · exact digit (List.mem_of_mem_drop mem)
      · simp only [List.cons_append, List.mem_cons, List.mem_append] at mem
        rcases mem with rfl | rfl | mem | mem
        · decide
        · decide
        · exact zero mem
        · exact digit mem
  · rcases List.mem_append.1 mem with mem | mem
    · split at mem
      case h_1 first digits =>
        exact digit (digits ▸ mem)
      case h_2 first rest _ digits =>
        rcases List.mem_cons.1 mem with rfl | mem
        · exact digit (digits ▸ List.mem_cons_self)
        · rcases List.mem_cons.1 mem with rfl | mem
          · decide
          · exact digit (digits ▸ List.mem_cons_of_mem _ mem)
      case h_3 => cases mem
    · simp only [List.mem_cons] at mem
      rcases mem with rfl | rfl | mem
      · decide
      · split <;> decide
      · exact digit mem

/-- A double is written in the characters of numbers. -/
theorem mem_numeralChars_of_text {value : Float} {style : Decimal.Style} {c : Char}
    (mem : c ∈ Decimal.text value style) : c ∈ ReaderState.numeralChars := by
  have body {significand : Nat} {d : Decimal}
      (h : c ∈ if significand = 0 then ['0', '.', '0'] else Decimal.layout style d) :
      c ∈ ReaderState.numeralChars := by
    split at h
    · simp only [List.mem_cons, List.not_mem_nil, or_false] at h
      rcases h with rfl | rfl | rfl <;> decide
    · exact mem_numeralChars_of_layout h
  unfold Decimal.text at mem
  simp only at mem
  split at mem
  · rcases List.mem_cons.1 mem with rfl | mem
    · decide
    · exact body mem
  · exact body mem

/-- A double that comes back is written as a number. -/
theorem Legible.mem_numeralChars {value : Float} (h : Legible (.float value)) {c : Char}
    (mem : c ∈ floatText value) : c ∈ ReaderState.numeralChars := by
  rw [Legible] at h
  rw [floatText] at h mem
  split at mem
  case isTrue => exact mem_numeralChars_of_text mem
  case isFalse infinite =>
    rw [if_neg infinite] at h
    cases h

namespace ReaderState

variable {limit : Nat} {stack : List Frame}

/-! ## White space -/

/-- A state that skips blanks stays as it is over any number of them. -/
theorem feed_blanks {state : ReaderState} {blanks : List Char}
    (blank : ∀ c ∈ blanks, c = '\n' ∨ c = ' ')
    (idle : ∀ byte, isBlank byte = true → step limit state byte = .ok state) (rest : List Char) :
    feed limit state (encode (blanks ++ rest)) = feed limit state (encode rest) := by
  induction blanks with
  | nil => rfl
  | cons c blanks ih =>
    obtain ⟨here, later⟩ := List.forall_mem_cons.1 blank
    have ascii : c.toNat < 128 ∧ isBlank (UInt8.ofNat c.toNat) = true := by
      rcases here with rfl | rfl <;> decide
    rw [List.cons_append, encode_ascii ascii.1, feed_cons_ok (idle _ ascii.2), ih later]

/-- What sets the parts of a text apart is white space. -/
theorem blank_gap (layout : Layout) (level : Nat) : ∀ c ∈ layout.gap level, c = '\n' ∨ c = ' ' := by
  intro c mem
  cases layout with
  | compact => cases mem
  | indented =>
    rcases List.mem_cons.1 mem with rfl | mem
    · exact .inl rfl
    · exact .inr (List.eq_of_mem_replicate mem)

/-- Blanks before a value are skipped. -/
theorem idle_value (byte : UInt8) (blank : isBlank byte = true) :
    step limit ⟨stack, .value⟩ byte = .ok ⟨stack, .value⟩ := by
  simp only [step, blank, if_true]

/-- Blanks before the first item of an array are skipped. -/
theorem idle_item (byte : UInt8) (blank : isBlank byte = true) :
    step limit ⟨stack, .item⟩ byte = .ok ⟨stack, .item⟩ := by
  simp only [step, blank, if_true]

/-- Blanks before a key are skipped. -/
theorem idle_key {before : List (String × Json)} {closable : Bool} (byte : UInt8)
    (blank : isBlank byte = true) :
    step limit ⟨stack, .key before closable⟩ byte = .ok ⟨stack, .key before closable⟩ := by
  simp only [step, blank, if_true]

/-- Blanks after a value are skipped. -/
theorem idle_done {value : Json} (byte : UInt8) (blank : isBlank byte = true) :
    step limit ⟨stack, .done value⟩ byte = .ok ⟨stack, .done value⟩ := by
  simp only [step, after, blank, if_true]

/-- A value is still complete after white space. -/
theorem Finished.feed_gap {value : Json} {state : ReaderState} (h : Finished stack value state)
    (limit : Nat) (layout : Layout) (level : Nat) (rest : List Char) :
    ∃ next, Finished stack value next ∧
      feed limit state (encode (layout.gap level ++ rest)) = feed limit next (encode rest) := by
  cases layout with
  | compact => exact ⟨state, h, rfl⟩
  | indented =>
    have line : step limit state (UInt8.ofNat '\n'.toNat) = .ok ⟨stack, .done value⟩ := by
      rw [h.step_eq (by decide)]
      rfl
    refine ⟨⟨stack, .done value⟩, .done, ?_⟩
    rw [Layout.gap, List.cons_append, encode_ascii (by decide), feed_cons_ok line]
    exact feed_blanks (fun c mem => .inr (List.eq_of_mem_replicate mem)) idle_done rest

/-! ## The first character of a value -/

/-- A number starts with a byte that neither is skipped nor closes an array. -/
theorem number_head {chars : List Char} (alphabet : ∀ c ∈ chars, c ∈ numeralChars)
    (present : chars ≠ []) (rest : List Char) : ∃ byte bytes,
      encode (chars ++ rest) = byte :: bytes ∧ isBlank byte = false ∧ byte ≠ 0x5D := by
  cases chars with
  | nil => exact absurd rfl present
  | cons c chars =>
    have here := alphabet c List.mem_cons_self
    exact ⟨_, _, encode_numeral here _, (numeral_byte c here).2⟩

/-- The text of a value starts neither with white space nor with the end of an array. -/
theorem put_head {value : Json} (legible : value.Legible) (layout : Layout) (level : Nat)
    (rest : List Char) : ∃ byte bytes, encode (put layout level value rest) = byte :: bytes ∧
      isBlank byte = false ∧ byte ≠ 0x5D := by
  cases value with
  | null => exact ⟨0x6E, _, by rw [put]; rfl, rfl, by decide⟩
  | bool value => cases value <;> exact ⟨_, _, by rw [put]; rfl, rfl, by decide⟩
  | int value =>
    rw [put]
    refine number_head (fun c mem => mem_numeralChars_of_intText mem) ?_ rest
    cases value with
    | ofNat n => exact Nat.toDigits_ne_nil
    | negSucc n => exact List.cons_ne_nil _ _
  | float value =>
    rw [put]
    refine number_head (fun c mem => legible.mem_numeralChars mem) ?_ rest
    intro empty
    rw [Legible, empty] at legible
    cases legible
  | string value => exact ⟨0x22, _, by rw [put, encode_putString], rfl, by decide⟩
  | array items => cases items <;> exact ⟨0x5B, _, by rw [put]; rfl, rfl, by decide⟩
  | object members =>
    cases members with
    | nil => exact ⟨0x7B, _, by rw [put]; rfl, rfl, by decide⟩
    | cons head members =>
      obtain ⟨key, value⟩ := head
      exact ⟨0x7B, _, by rw [put]; rfl, rfl, by decide⟩

/-- The first item of an array is read like any other value. -/
theorem feed_first {value : Json} (legible : value.Legible) (layout : Layout) (level : Nat)
    (rest : List Char) :
    feed limit ⟨stack, .item⟩ (encode (put layout level value rest)) =
      feed limit ⟨stack, .value⟩ (encode (put layout level value rest)) := by
  obtain ⟨byte, bytes, text, visible, notEnd⟩ := put_head legible layout level rest
  have same : step limit ⟨stack, .item⟩ byte = step limit ⟨stack, .value⟩ byte := by
    simp only [step, visible, Bool.false_eq_true, if_false, if_neg notEnd]
  rw [text, feed, feed, same]

/-! ## Values inside brackets -/

/-- The reader comes to the end of a value and goes on with `rest`, if `depth` more brackets may be
opened; else it stops. -/
def Ends (limit : Nat) (stack : List Frame) (value : Json) (depth : Nat) (rest : List Char)
    (run : Except Fault ReaderState) : Prop :=
  (stack.length + depth ≤ limit ∧
    ∃ state, Finished stack value state ∧ run = feed limit state (encode rest)) ∨
  (limit < stack.length + depth ∧ run = .error .malformed)

/-- A value is read from its text, inside any brackets that may be open. -/
def IsRead (value : Json) : Prop :=
  ∀ (limit : Nat) (stack : List Frame) (layout : Layout) (level : Nat) (rest : List Char),
    stack.length ≤ limit → Ends limit stack value value.depth rest
      (feed limit ⟨stack, .value⟩ (encode (put layout level value rest)))

/-- A key and its colon come before a value. -/
theorem feed_key (layout : Layout) (before : List (String × Json)) (closable : Bool) (key : String)
    (rest : List Char) :
    feed limit ⟨stack, .key before closable⟩ (encode (putString key (layout.colon ++ rest))) =
      feed limit ⟨.object before key :: stack, .value⟩ (encode rest) := by
  have quote : step limit ⟨stack, .key before closable⟩ 0x22 =
      .ok ⟨stack, .text (.key before) .none []⟩ := rfl
  have colon : step limit ⟨stack, .colon before key⟩ (UInt8.ofNat ':'.toNat) =
      .ok ⟨.object before key :: stack, .value⟩ := rfl
  rw [encode_putString, feed_cons_ok quote, feed_string, closed]
  cases layout with
  | compact => exact (congrArg _ (encode_ascii (by decide) rest)).trans (feed_cons_ok colon _)
  | indented =>
    rw [Layout.colon, List.cons_append, encode_ascii (by decide), feed_cons_ok colon]
    exact feed_blanks (List.forall_mem_singleton.2 (.inr rfl)) idle_value rest

/-- After an item, those that follow it decide: they stand inside the same bracket. -/
theorem Ends.next {frame : Frame} {item whole : Json} {depth others : Nat} {chars rest : List Char}
    {run : Except Fault ReaderState} (h : Ends limit (frame :: stack) item depth chars run)
    (goOn : ∀ {state}, Finished (frame :: stack) item state →
      Ends limit stack whole (others + 1) rest (feed limit state (encode chars))) :
    Ends limit stack whole (max depth others + 1) rest run := by
  rcases h with ⟨fits, next, complete, run_eq⟩ | ⟨exceeds, stops⟩
  · rw [List.length_cons] at fits
    rw [run_eq]
    rcases goOn complete with ⟨all, last, ended, later⟩ | ⟨exceeds, stops⟩
    · exact .inl ⟨by omega, last, ended, later⟩
    · exact .inr ⟨by omega, stops⟩
  · rw [List.length_cons] at exceeds
    exact .inr ⟨by omega, stops⟩

/-- **The items after the first**, up to the end of the array. -/
theorem feed_items {items : List Json} (read : ∀ item ∈ items, IsRead item)
    (room : stack.length < limit) (layout : Layout) (level outer : Nat) (rest : List Char)
    {before : List Json} {value : Json} {state : ReaderState}
    (finished : Finished (.array before :: stack) value state) :
    Ends limit stack (.array (before.reverse ++ value :: items)) (depthItems items + 1) rest
      (feed limit state
        (encode (putItems layout level items (layout.gap outer ++ ']' :: rest)))) := by
  induction items generalizing before value state with
  | nil =>
    obtain ⟨last, complete, skipped⟩ := finished.feed_gap limit layout outer (']' :: rest)
    have close : step limit last (UInt8.ofNat ']'.toNat) =
        .ok ⟨stack, .done (.array (value :: before).reverse)⟩ := by
      rw [complete.step_eq (by decide)]
      rfl
    refine .inl ⟨by rw [depthItems]; omega, _, .done, ?_⟩
    rw [putItems, skipped, encode_ascii (by decide), feed_cons_ok close, List.reverse_cons]
  | cons item items ih =>
    obtain ⟨here, later⟩ := List.forall_mem_cons.1 read
    have comma : step limit state (UInt8.ofNat ','.toNat) =
        .ok ⟨.array (value :: before) :: stack, .value⟩ := by
      rw [finished.step_eq (by decide)]
      rfl
    rw [putItems, List.cons_append, encode_ascii (by decide), feed_cons_ok comma,
      feed_blanks (blank_gap layout level) idle_value, depthItems]
    refine (here limit (_ :: stack) layout level _ room).next fun complete => ?_
    have others := ih later complete
    rwa [List.reverse_cons, List.append_assoc] at others

/-- **The members after the first**, up to the end of the object. -/
theorem feed_members {members : List (String × Json)} (read : ∀ member ∈ members, IsRead member.2)
    (room : stack.length < limit) (layout : Layout) (level outer : Nat) (rest : List Char)
    {before : List (String × Json)} {key : String} {value : Json} {state : ReaderState}
    (finished : Finished (.object before key :: stack) value state) :
    Ends limit stack (.object (before.reverse ++ (key, value) :: members))
      (depthMembers members + 1) rest
      (feed limit state
        (encode (putMembers layout level members (layout.gap outer ++ '\x7d' :: rest)))) := by
  induction members generalizing before key value state with
  | nil =>
    obtain ⟨last, complete, skipped⟩ := finished.feed_gap limit layout outer ('\x7d' :: rest)
    have close : step limit last (UInt8.ofNat '\x7d'.toNat) =
        .ok ⟨stack, .done (.object ((key, value) :: before).reverse)⟩ := by
      rw [complete.step_eq (by decide)]
      rfl
    refine .inl ⟨by rw [depthMembers]; omega, _, .done, ?_⟩
    rw [putMembers, skipped, encode_ascii (by decide), feed_cons_ok close, List.reverse_cons]
  | cons head members ih =>
    obtain ⟨name, item⟩ := head
    obtain ⟨here, later⟩ := List.forall_mem_cons.1 read
    have comma : step limit state (UInt8.ofNat ','.toNat) =
        .ok ⟨stack, .key ((key, value) :: before) false⟩ := by
      rw [finished.step_eq (by decide)]
      rfl
    rw [putMembers, List.cons_append, encode_ascii (by decide), feed_cons_ok comma,
      feed_blanks (blank_gap layout level) idle_key, feed_key, depthMembers]
    refine (here limit (_ :: stack) layout level _ room).next fun complete => ?_
    have others := ih later complete
    rwa [List.reverse_cons, List.append_assoc] at others

/-- Inside all brackets that may be open no other is opened. -/
theorem ends_of_full {value : Json} {depth : Nat} {rest chars : List Char} {c : Char}
    (bracket : c = '[' ∨ c = '\x7b') (full : ¬ stack.length < limit) :
    Ends limit stack value (depth + 1) rest
      (feed limit ⟨stack, .value⟩ (encode (c :: chars))) := by
  have refused : c.toNat < 128 ∧
      step limit ⟨stack, .value⟩ (UInt8.ofNat c.toNat) = .error .malformed := by
    rcases bracket with rfl | rfl <;> exact ⟨by decide, if_neg full⟩
  rw [encode_ascii refused.1, feed_cons_error refused.2]
  exact .inr ⟨by omega, rfl⟩

/-- An array is read if its items are. -/
theorem isRead_array {items : List Json} (legible : ∀ item ∈ items, item.Legible)
    (read : ∀ item ∈ items, IsRead item) : IsRead (.array items) := by
  intro limit stack layout level rest inside
  by_cases room : stack.length < limit
  case neg =>
    rw [depth]
    cases items <;> exact ends_of_full (.inl rfl) room
  have opened : step limit ⟨stack, .value⟩ (UInt8.ofNat '['.toNat) =
      .ok ⟨.array [] :: stack, .item⟩ := if_pos room
  cases items with
  | nil =>
    have close : step limit ⟨.array [] :: stack, .item⟩ (UInt8.ofNat ']'.toNat) =
        .ok ⟨stack, .done (.array [])⟩ := rfl
    rw [put, encode_ascii (by decide), feed_cons_ok opened, encode_ascii (by decide),
      feed_cons_ok close]
    exact .inl ⟨room, _, .done, rfl⟩
  | cons item items =>
    obtain ⟨here, later⟩ := List.forall_mem_cons.1 read
    rw [put, List.cons_append, encode_ascii (by decide), feed_cons_ok opened,
      feed_blanks (blank_gap layout (level + 1)) idle_item,
      feed_first (legible item List.mem_cons_self)]
    exact (here limit (_ :: stack) layout (level + 1) _ room).next fun complete =>
      feed_items later room layout (level + 1) level rest complete

/-- An object is read if its members are. -/
theorem isRead_object {members : List (String × Json)}
    (read : ∀ member ∈ members, IsRead member.2) : IsRead (.object members) := by
  intro limit stack layout level rest inside
  by_cases room : stack.length < limit
  case neg =>
    rw [depth]
    cases members <;> exact ends_of_full (.inr rfl) room
  have opened : step limit ⟨stack, .value⟩ (UInt8.ofNat '\x7b'.toNat) =
      .ok ⟨stack, .key [] true⟩ := if_pos room
  cases members with
  | nil =>
    have close : step limit ⟨stack, .key [] true⟩ (UInt8.ofNat '\x7d'.toNat) =
        .ok ⟨stack, .done (.object [])⟩ := rfl
    rw [put, encode_ascii (by decide), feed_cons_ok opened, encode_ascii (by decide),
      feed_cons_ok close]
    exact .inl ⟨room, _, .done, rfl⟩
  | cons head members =>
    obtain ⟨key, value⟩ := head
    obtain ⟨here, later⟩ := List.forall_mem_cons.1 read
    rw [put, List.cons_append, encode_ascii (by decide), feed_cons_ok opened,
      feed_blanks (blank_gap layout (level + 1)) idle_key, feed_key]
    exact (here limit (_ :: stack) layout (level + 1) _ room).next fun complete =>
      feed_members later room layout (level + 1) level rest complete

/-- A value without brackets is read, if the reader comes to its end. -/
theorem isRead_flat {value : Json} (flat : value.depth = 0)
    (read : ∀ limit stack layout level rest, ∃ state, Finished stack value state ∧
      feed limit ⟨stack, .value⟩ (encode (put layout level value rest)) =
        feed limit state (encode rest)) : IsRead value := by
  intro limit stack layout level rest inside
  exact .inl ⟨by omega, read limit stack layout level rest⟩

/-- A value that is written as a number is read if its characters are. -/
theorem isRead_number {value : Json} {chars : List Char} (flat : value.depth = 0)
    (text : ∀ layout level rest, put layout level value rest = chars ++ rest)
    (alphabet : ∀ c ∈ chars, c ∈ numeralChars) (read : Json.read (encode chars) = .ok value) :
    IsRead value := by
  refine isRead_flat flat fun limit stack layout level rest => ?_
  rw [text, encode_append]
  exact feed_number alphabet read limit stack (encode rest)

/-- **A value is read from its text**, wherever it stands. -/
theorem isRead_of_legible (value : Json) (legible : value.Legible) : IsRead value := by
  induction value using Json.induction with
  | null =>
    exact isRead_flat rfl fun limit stack layout level rest => ⟨_, .done, by rw [put]; rfl⟩
  | bool value =>
    refine isRead_flat rfl fun limit stack layout level rest => ⟨_, .done, ?_⟩
    cases value <;> rw [put] <;> rfl
  | int value =>
    exact isRead_number rfl (fun _ _ _ => by rw [put])
      (fun _ mem => mem_numeralChars_of_intText mem) (read_intText legible.1 legible.2)
  | float value =>
    exact isRead_number rfl (fun _ _ _ => by rw [put]) (fun _ mem => legible.mem_numeralChars mem)
      legible
  | string value =>
    refine isRead_flat rfl fun limit stack layout level rest => ⟨_, .done, ?_⟩
    have quote : step limit ⟨stack, .value⟩ 0x22 = .ok ⟨stack, .text .value .none []⟩ := rfl
    rw [put, encode_putString, feed_cons_ok quote]
    exact feed_string value .value (encode rest)
  | array items ih =>
    have legible := legibleItems_iff.1 legible
    exact isRead_array legible fun item mem => ih item mem (legible item mem)
  | object members ih =>
    have legible := legibleMembers_iff.1 legible
    exact isRead_object fun member mem => ih member mem (legible member mem)

end ReaderState

/-! ## Whole texts -/

/-- **Texts of values.**  What is written for a value is read as the value, if its arrays and
objects nest at most `limit` deep, and else it is no JSON for the reader. -/
theorem read_text {value : Json} (legible : value.Legible) (layout : Layout) (limit : Nat) :
    (value.depth ≤ limit → read (bytesOf (value.text layout)) limit = .ok value) ∧
    (limit < value.depth → read (bytesOf (value.text layout)) limit = .error .malformed) := by
  have ends := ReaderState.isRead_of_legible value legible limit [] layout 0 [] (Nat.zero_le limit)
  rw [read, text, bytesOf_ofList]
  rcases ends with ⟨fits, state, finished, run⟩ | ⟨exceeds, run⟩
  · rw [List.length_nil, Nat.zero_add] at fits
    refine ⟨fun _ => ?_, fun exceeds => by omega⟩
    rw [run]
    exact finished.finish_eq
  · rw [List.length_nil, Nat.zero_add] at exceeds
    refine ⟨fun fits => by omega, fun _ => ?_⟩
    rw [run]

end Json
end RubyModel
