/-
# The two layouts of a text

The indented text of a value has more white space than the compact one and differs in nothing else:
without the white space outside its strings it is the compact text (`unspaced_text`).

What is outside of strings depends on all that comes before it:

| a character | and after it |
| --- | --- |
| outside, a quote | inside a string |
| inside, a quote | outside |
| inside, a backslash | escaped |
| escaped, any character | inside |
| any other | the same |

The induction is over the value, for a text of any kind after it.  A string is passed character by
character, in what is written for each of them (`unspaced_escapeChar`): no quote of the string
itself ends it.
-/

import RubyModel.Proofs.Nesting

namespace RubyModel
namespace Json

/-! ## White space outside strings -/

/-- Where a character of a text stands. -/
inductive Spot where
  | outside
  | inside
  /-- Inside a string, right after a backslash. -/
  | escaped
  deriving DecidableEq

/-- Where the character after `c` stands. -/
def Spot.next (c : Char) : Spot → Spot
  | .outside => if c = '\x22' then .inside else .outside
  | .inside => if c = '\x22' then .outside else if c = '\\' then .escaped else .inside
  | .escaped => .inside

/-- The character is white space between the parts of a text. -/
def isSpace (c : Char) : Bool := c = ' ' || c = '\t' || c = '\n' || c = '\r'

/-- What is left of a text without the white space outside its strings. -/
def unspacedFrom : Spot → List Char → List Char
  | _, [] => []
  | .outside, c :: rest =>
    if isSpace c then unspacedFrom .outside rest
    else c :: unspacedFrom (Spot.outside.next c) rest
  | spot, c :: rest => c :: unspacedFrom (spot.next c) rest

/-- The text without the white space outside its strings. -/
def unspaced (text : String) : String := String.ofList (unspacedFrom .outside text.toList)

/-- Spaces between tokens are dropped. -/
theorem unspacedFrom_spaces {chars : List Char} (h : ∀ c ∈ chars, isSpace c = true)
    (rest : List Char) : unspacedFrom .outside (chars ++ rest) = unspacedFrom .outside rest := by
  induction chars with
  | nil => rfl
  | cons c chars ih =>
    obtain ⟨here, later⟩ := List.forall_mem_cons.1 h
    rw [List.cons_append, unspacedFrom, if_pos here, ih later]

/-- The gap before an item is dropped in every layout. -/
theorem unspacedFrom_gap (layout : Layout) (level : Nat) (rest : List Char) :
    unspacedFrom .outside (layout.gap level ++ rest) = unspacedFrom .outside rest := by
  refine unspacedFrom_spaces (fun c mem => ?_) rest
  rcases ReaderState.blank_gap layout level c mem with rfl | rfl <;> rfl

/-- Of the colon between a key and its value, only the colon is left. -/
theorem unspacedFrom_colon (layout : Layout) (rest : List Char) :
    unspacedFrom .outside (layout.colon ++ rest) = ':' :: unspacedFrom .outside rest := by
  cases layout <;> rfl

/-- The character is neither white space nor the quote of a string. -/
def isPlain (c : Char) : Bool := !isSpace c && c ≠ '\x22'

/-- Characters of a word or a number are kept. -/
theorem unspacedFrom_plain {chars : List Char} (h : ∀ c ∈ chars, isPlain c = true)
    (rest : List Char) :
    unspacedFrom .outside (chars ++ rest) = chars ++ unspacedFrom .outside rest := by
  induction chars with
  | nil => rfl
  | cons c chars ih =>
    obtain ⟨here, later⟩ := List.forall_mem_cons.1 h
    simp only [isPlain, Bool.and_eq_true, Bool.not_eq_true', decide_eq_true_eq] at here
    rw [List.cons_append, unspacedFrom, here.1, Spot.next, if_neg here.2, ih later]
    rfl

/-! ## Numbers -/

/-- The characters of numbers are plain. -/
theorem isPlain_of_mem_numeralChars {c : Char} (mem : c ∈ ReaderState.numeralChars) :
    isPlain c = true :=
  List.all_eq_true.1 (rfl : ReaderState.numeralChars.all isPlain = true) c mem

/-- A double is written in plain characters. -/
theorem isPlain_of_mem_floatText {value : Float} {c : Char} (mem : c ∈ floatText value) :
    isPlain c = true := by
  rw [floatText] at mem
  split at mem
  case isTrue => exact isPlain_of_mem_numeralChars (mem_numeralChars_of_text mem)
  case isFalse => exact List.all_eq_true.1 (rfl : ['n', 'u', 'l', 'l'].all isPlain = true) c mem

/-! ## Strings -/

/-- The character is part of a string as it stands. -/
def isText (c : Char) : Bool := c ≠ '\x22' && c ≠ '\\'

/-- Inside a string, characters that end nothing are kept. -/
theorem unspacedFrom_isText {chars : List Char} (h : ∀ c ∈ chars, isText c = true)
    (rest : List Char) :
    unspacedFrom .inside (chars ++ rest) = chars ++ unspacedFrom .inside rest := by
  induction chars with
  | nil => rfl
  | cons c chars ih =>
    obtain ⟨here, later⟩ := List.forall_mem_cons.1 h
    simp only [isText, Bool.and_eq_true, decide_eq_true_eq] at here
    have same : Spot.inside.next c = .inside := by rw [Spot.next, if_neg here.1, if_neg here.2]
    rw [List.cons_append, unspacedFrom, same, ih later]
    · rfl
    · nofun

/-- What is written for a character leaves the text inside the string. -/
theorem unspacedFrom_escapeChar (c : Char) (rest : List Char) :
    unspacedFrom .inside (escapeChar c ++ rest) = escapeChar c ++ unspacedFrom .inside rest := by
  unfold escapeChar
  split
  case h_8 _ _ _ _ _ quote slash =>
    split
    case isTrue control =>
      have digit : ∀ d < 16, isText (Nat.digitChar d) = true := by decide
      have digits : ∀ d ∈ ['0', '0', Nat.digitChar (c.toNat / 16), Nat.digitChar (c.toNat % 16)],
          isText d = true := by
        intro d mem
        simp only [List.mem_cons, List.not_mem_nil, or_false] at mem
        rcases mem with rfl | rfl | rfl | rfl
        · decide
        · decide
        · exact digit (c.toNat / 16) (by omega)
        · exact digit (c.toNat % 16) (by omega)
      exact congrArg ('\\' :: 'u' :: ·) (unspacedFrom_isText digits rest)
    case isFalse =>
      have notQuote : c ≠ '\x22' := by rintro rfl; exact quote rfl
      have notSlash : c ≠ '\\' := by rintro rfl; exact slash rfl
      refine unspacedFrom_isText (List.forall_mem_singleton.2 ?_) rest
      simp [isText, notQuote, notSlash]
  -- After a backslash any character is part of the string.
  all_goals rfl

/-- A string is kept as it is, its spaces with it. -/
theorem unspacedFrom_putString (s : String) (rest : List Char) :
    unspacedFrom .outside (putString s rest) = putString s (unspacedFrom .outside rest) := by
  have chars (chars : List Char) :
      unspacedFrom .inside (chars.flatMap escapeChar ++ '\x22' :: rest) =
        chars.flatMap escapeChar ++ '\x22' :: unspacedFrom .outside rest := by
    induction chars with
    | nil => rfl
    | cons c chars ih =>
      rw [List.flatMap_cons, List.append_assoc, unspacedFrom_escapeChar, ih, List.append_assoc]
  rw [ReaderState.putString_eq, ReaderState.putString_eq, ← chars]
  rfl

/-! ## Values -/

/-- Without its white space, the text of the value is the compact one, and what follows it is
treated alike. -/
def Unspaces (layout : Layout) (value : Json) : Prop :=
  ∀ level rest, unspacedFrom .outside (put layout level value rest) =
    put .compact level value (unspacedFrom .outside rest)

section Values

variable {layout : Layout}

/-- A value that is written in plain characters has the same text in every layout. -/
theorem unspaces_of_isPlain {value : Json} {chars : List Char}
    (text : ∀ layout level rest, put layout level value rest = chars ++ rest)
    (plain : ∀ c ∈ chars, isPlain c = true) : Unspaces layout value := by
  intro level rest
  rw [text, text, unspacedFrom_plain plain]

/-- So has one of the three words. -/
theorem unspaces_word {value : Json} {word : List Char}
    (text : ∀ layout level rest, put layout level value rest = word ++ rest)
    (plain : word.all isPlain = true) : Unspaces layout value :=
  unspaces_of_isPlain text (List.all_eq_true.1 plain)

/-- The items of an array without their spaces are its items in the compact layout. -/
theorem unspacedFrom_putItems {items : List Json} (ih : ∀ item ∈ items, Unspaces layout item)
    (level : Nat) (rest : List Char) :
    unspacedFrom .outside (putItems layout level items rest) =
      putItems .compact level items (unspacedFrom .outside rest) := by
  induction items with
  | nil => rfl
  | cons item items later =>
    obtain ⟨here, others⟩ := List.forall_mem_cons.1 ih
    calc unspacedFrom .outside (putItems layout level (item :: items) rest)
      _ = ',' :: unspacedFrom .outside
            (layout.gap level ++ put layout level item (putItems layout level items rest)) := rfl
      _ = ',' :: put .compact level item
            (putItems .compact level items (unspacedFrom .outside rest)) := by
          rw [unspacedFrom_gap, here, later others]

/-- A member without its spaces is the member in the compact layout. -/
theorem unspacedFrom_putMember {value : Json} (h : Unspaces layout value) (key : String)
    (level : Nat) (rest : List Char) :
    unspacedFrom .outside
        (layout.gap level ++ putString key (layout.colon ++ put layout level value rest)) =
      putString key (':' :: put .compact level value (unspacedFrom .outside rest)) := by
  rw [unspacedFrom_gap, unspacedFrom_putString, unspacedFrom_colon, h]

/-- So are the members of an object. -/
theorem unspacedFrom_putMembers {members : List (String × Json)}
    (ih : ∀ member ∈ members, Unspaces layout member.2) (level : Nat) (rest : List Char) :
    unspacedFrom .outside (putMembers layout level members rest) =
      putMembers .compact level members (unspacedFrom .outside rest) := by
  induction members with
  | nil => rfl
  | cons member members later =>
    obtain ⟨key, value⟩ := member
    obtain ⟨here, others⟩ := List.forall_mem_cons.1 ih
    calc unspacedFrom .outside (putMembers layout level ((key, value) :: members) rest)
      _ = ',' :: unspacedFrom .outside (layout.gap level ++ putString key (layout.colon ++
            put layout level value (putMembers layout level members rest))) := rfl
      _ = ',' :: putString key (':' :: put .compact level value
            (putMembers .compact level members (unspacedFrom .outside rest))) := by
          rw [unspacedFrom_putMember here, later others]

/-- **The text of every value** is the compact one without its white space. -/
theorem unspaces (layout : Layout) (value : Json) : Unspaces layout value := by
  induction value using induction with
  | null => exact unspaces_word (fun _ _ _ => rfl) rfl
  | bool value => cases value <;> exact unspaces_word (fun _ _ _ => rfl) rfl
  | int value =>
    refine unspaces_of_isPlain (fun _ _ _ => rfl) fun c mem => ?_
    exact isPlain_of_mem_numeralChars (mem_numeralChars_of_intText mem)
  | float value => exact unspaces_of_isPlain (fun _ _ _ => rfl) fun _ => isPlain_of_mem_floatText
  | string value => exact fun _ rest => unspacedFrom_putString value rest
  | array items ih =>
    intro level rest
    cases items with
    | nil => rfl
    | cons item items =>
      obtain ⟨here, others⟩ := List.forall_mem_cons.1 ih
      calc unspacedFrom .outside (put layout level (.array (item :: items)) rest)
        _ = '[' :: unspacedFrom .outside (layout.gap (level + 1) ++ put layout (level + 1) item
              (putItems layout (level + 1) items (layout.gap level ++ ']' :: rest))) := rfl
        _ = '[' :: put .compact (level + 1) item (putItems .compact (level + 1) items
              (unspacedFrom .outside (']' :: rest))) := by
            rw [unspacedFrom_gap, here, unspacedFrom_putItems others, unspacedFrom_gap]
  | object members ih =>
    intro level rest
    cases members with
    | nil => rfl
    | cons member members =>
      obtain ⟨key, value⟩ := member
      obtain ⟨here, others⟩ := List.forall_mem_cons.1 ih
      calc unspacedFrom .outside (put layout level (.object ((key, value) :: members)) rest)
        _ = '\x7b' :: unspacedFrom .outside (layout.gap (level + 1) ++
              putString key (layout.colon ++ put layout (level + 1) value
                (putMembers layout (level + 1) members
                  (layout.gap level ++ '\x7d' :: rest)))) := rfl
        _ = '\x7b' :: putString key (':' :: put .compact (level + 1) value
              (putMembers .compact (level + 1) members
                (unspacedFrom .outside ('\x7d' :: rest)))) := by
            rw [unspacedFrom_putMember here, unspacedFrom_putMembers others, unspacedFrom_gap]

/-- **Both layouts are one text, up to white space outside strings.** -/
theorem unspaced_text (layout : Layout) (value : Json) :
    unspaced (value.text layout) = value.text .compact := by
  rw [unspaced, text, String.toList_ofList, unspaces]
  rfl

example : unspaced ((array [.string "a \x22 b\n", .object []]).text .indented) =
    "[\x22a \\\x22 b\\n\x22,\x7b\x7d]" := by decide

end Values

end Json
end RubyModel
