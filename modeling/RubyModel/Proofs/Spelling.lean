/-
# Strings and numbers are read as they are written

The reader moves over the bytes of a text; the writer gives characters.  `encode` is what lies
between the two.  Each part of a text has one lemma, which says in what state the reader is after
it, whatever follows:

| part | state after it | lemma |
| --- | --- | --- |
| a character of a string | its bytes are kept | `feed_escapeChar` |
| a string with its closing quote | the string is complete | `feed_string` |
| a number | the numeral is complete, if the text alone is read as this number | `feed_number` |

A number has no end of its own: it is complete (`Finished`), but only the byte after it shows that
it is.  That a whole number is read from its own text is `read_intText`.
-/

import Mathlib.Data.Nat.Digits.Defs
import Mathlib.Tactic.IntervalCases
import RubyModel.Loading

namespace RubyModel
namespace Json

/-! ## Bytes of characters -/

/-- The UTF-8 bytes of characters. -/
def encode (chars : List Char) : List UInt8 := chars.flatMap String.utf8EncodeChar

@[simp] theorem encode_nil : encode [] = [] := rfl

/-- The bytes of the first character come first. -/
theorem encode_cons (c : Char) (chars : List Char) :
    encode (c :: chars) = String.utf8EncodeChar c ++ encode chars := rfl

/-- The bytes of one text after another. -/
theorem encode_append (a b : List Char) : encode (a ++ b) = encode a ++ encode b :=
  List.flatMap_append

/-- The bytes of a string are those of its characters. -/
theorem bytesOf_ofList (chars : List Char) : bytesOf (String.ofList chars) = encode chars := by
  simp [bytesOf, encode, List.utf8Encode]

/-- An ASCII character is one byte. -/
theorem encodeChar_ascii {c : Char} (h : c.toNat < 128) :
    String.utf8EncodeChar c = [UInt8.ofNat c.toNat] := by
  unfold String.utf8EncodeChar
  exact if_pos (Nat.le_of_lt_succ h)

/-- A text that starts with an ASCII character starts with one byte. -/
theorem encode_ascii {c : Char} (h : c.toNat < 128) (chars : List Char) :
    encode (c :: chars) = UInt8.ofNat c.toNat :: encode chars := by
  rw [encode_cons, encodeChar_ascii h]
  rfl

/-- A byte of a character is its code, or it is no ASCII byte at all. -/
theorem toNat_of_mem_encodeChar {c : Char} {byte : UInt8} (mem : byte ∈ String.utf8EncodeChar c) :
    byte.toNat = c.toNat ∨ 128 ≤ byte.toNat := by
  have high (n m base : Nat) (hm : 0 < m) (hb : 128 ≤ base) (top : base + m ≤ 256) :
      128 ≤ (UInt8.ofNat (n % m + base)).toNat := by
    have := Nat.mod_lt n hm
    rw [UInt8.toNat_ofNat_of_lt' (by simp only [UInt8.size]; omega)]
    omega
  by_cases ascii : c.toNat < 128
  · rw [encodeChar_ascii ascii, List.mem_singleton] at mem
    subst mem
    left
    exact UInt8.toNat_ofNat_of_lt' (by simp only [UInt8.size]; omega)
  · right
    have large : ¬ c.val.toNat ≤ 127 := fun small => ascii (Nat.lt_succ_of_le small)
    unfold String.utf8EncodeChar at mem
    rw [if_neg large] at mem
    split at mem
    · simp only [List.mem_cons, List.not_mem_nil, or_false] at mem
      rcases mem with rfl | rfl <;> exact high _ _ _ (by decide) (by decide) (by decide)
    · split at mem <;> simp only [List.mem_cons, List.not_mem_nil, or_false] at mem
      · rcases mem with rfl | rfl | rfl <;> exact high _ _ _ (by decide) (by decide) (by decide)
      · rcases mem with rfl | rfl | rfl | rfl <;>
          exact high _ _ _ (by decide) (by decide) (by decide)

/-- A string comes back from its bytes. -/
theorem fromUTF8?_encode (s : String) :
    String.fromUTF8? ⟨(encode s.toList).toArray⟩ = some s := by
  have bytes : (⟨(encode s.toList).toArray⟩ : ByteArray) = s.toByteArray := by
    conv => rhs; rw [← String.ofList_toList (s := s), String.toByteArray_ofList, List.utf8Encode]
    exact ByteArray.ext (by simp [encode])
  rw [bytes, String.fromUTF8?, dif_pos s.isValidUTF8]
  rfl

namespace ReaderState

variable {limit : Nat} {stack : List Frame}

/-- A byte that is taken leads to the next state. -/
theorem feed_cons_ok {state next : ReaderState} {byte : UInt8}
    (h : step limit state byte = .ok next) (rest : List UInt8) :
    feed limit state (byte :: rest) = feed limit next rest := by
  rw [feed, h]

/-- A byte that is refused ends the reading. -/
theorem feed_cons_error {state : ReaderState} {fault : Fault} {byte : UInt8}
    (h : step limit state byte = .error fault) (rest : List UInt8) :
    feed limit state (byte :: rest) = .error fault := by
  rw [feed, h]

/-! ## Strings -/

section Strings

variable {role : Role} {bytes : List UInt8}

/-- Bytes that stand for themselves are kept. -/
theorem feed_plain {plain : List UInt8}
    (h : ∀ byte ∈ plain, byte.toNat ≠ 0x22 ∧ byte.toNat ≠ 0x5C ∧ 0x20 ≤ byte.toNat)
    (rest : List UInt8) :
    feed limit ⟨stack, .text role .none bytes⟩ (plain ++ rest) =
      feed limit ⟨stack, .text role .none (plain.reverse ++ bytes)⟩ rest := by
  induction plain generalizing bytes with
  | nil => rfl
  | cons byte plain ih =>
    obtain ⟨⟨quote, slash, printable⟩, later⟩ := List.forall_mem_cons.1 h
    have notQuote : byte ≠ 0x22 := by rintro rfl; exact quote rfl
    have notSlash : byte ≠ 0x5C := by rintro rfl; exact slash rfl
    have notControl : ¬ byte < 0x20 := by rw [UInt8.not_lt, UInt8.le_iff_toNat_le]; exact printable
    have kept : step limit ⟨stack, .text role .none bytes⟩ byte =
        .ok ⟨stack, .text role .none (byte :: bytes)⟩ := by
      simp only [step, textStep, if_neg notQuote, if_neg notSlash, if_neg notControl]
    rw [List.cons_append, feed_cons_ok kept, ih later, List.reverse_cons, List.append_assoc]
    rfl

/-- Two hexadecimal digits of a control character are read back. -/
theorem hexUnit?_digitChar {n : Nat} (h : n < 0x20) :
    hexUnit? 0x30 0x30 (UInt8.ofNat (Nat.digitChar (n / 16)).toNat)
      (UInt8.ofNat (Nat.digitChar (n % 16)).toNat) = some n := by
  have all : ∀ n < 0x20, hexUnit? 0x30 0x30 (UInt8.ofNat (Nat.digitChar (n / 16)).toNat)
      (UInt8.ofNat (Nat.digitChar (n % 16)).toNat) = some n := by decide +kernel
  exact all n h

/-- Four digits after `\u` give the character with that code. -/
theorem feed_code {n : Nat} (h : n < 0x20) (rest : List UInt8) :
    feed limit ⟨stack, .text role .none bytes⟩
        (encode ['\\', 'u', '0', '0', Nat.digitChar (n / 16), Nat.digitChar (n % 16)] ++ rest) =
      feed limit ⟨stack, .text role .none
        ((String.utf8EncodeChar (Char.ofNat n)).reverse ++ bytes)⟩ rest := by
  have ascii : ∀ d < 16, (Nat.digitChar d).toNat < 128 := by decide
  let high := UInt8.ofNat (Nat.digitChar (n / 16)).toNat
  let low := UInt8.ofNat (Nat.digitChar (n % 16)).toNat
  have text : encode ['\\', 'u', '0', '0', Nat.digitChar (n / 16), Nat.digitChar (n % 16)] ++ rest =
      0x5C :: 0x75 :: 0x30 :: 0x30 :: high :: low :: rest := by
    simp only [encode, List.flatMap_cons, List.flatMap_nil,
      encodeChar_ascii (ascii (n / 16) (by omega)), encodeChar_ascii (ascii (n % 16) (by omega))]
    rfl
  have code : step limit ⟨stack, .text role (.hex [high, 0x30, 0x30] .none) bytes⟩ low =
      .ok ⟨stack, .text role .none (pushCode n bytes)⟩ := by
    simp only [step, textStep, high, low, hexUnit?_digitChar h, unit]
    rw [if_neg (by omega), if_neg (by omega)]
  rw [text]
  exact feed_cons_ok code rest

/-- **One character of a string** is read as it is written. -/
theorem feed_escapeChar (c : Char) (rest : List UInt8) :
    feed limit ⟨stack, .text role .none bytes⟩ (encode (escapeChar c) ++ rest) =
      feed limit ⟨stack, .text role .none ((String.utf8EncodeChar c).reverse ++ bytes)⟩ rest := by
  unfold escapeChar
  split
  case h_8 _ _ _ _ _ quote slash =>
    split
    case isTrue control =>
      have back := @feed_code limit stack role bytes c.toNat control rest
      rwa [Char.ofNat_toNat] at back
    case isFalse printable =>
      rw [encode_cons, encode_nil, List.append_nil]
      refine feed_plain (fun byte mem => ?_) rest
      have code := toNat_of_mem_encodeChar mem
      refine ⟨fun e => ?_, fun e => ?_, by omega⟩
      · exact quote (by omega)
      · exact slash (by omega)
  -- The characters with an escape of one letter, each with its own.
  all_goals
    rename_i h
    have named := Char.ofNat_toNat c
    rw [h] at named
    rw [← named]
    rfl

/-- What a string is read as at its closing quote. -/
def closed (s : String) : Role → Mode
  | .value => .done (.string s)
  | .key before => .colon before s

/-- The bytes between two quotes are the text that was written. -/
theorem close_encode (s : String) : close role (encode s.toList).reverse = .ok (closed s role) := by
  rw [close, List.reverse_reverse, fromUTF8?_encode]
  cases role <;> rfl

/-- The escaped characters of a string are read one by one. -/
theorem feed_chars (chars before : List Char) (rest : List UInt8) :
    feed limit ⟨stack, .text role .none (encode before).reverse⟩
        (encode (chars.flatMap escapeChar) ++ rest) =
      feed limit ⟨stack, .text role .none (encode (before ++ chars)).reverse⟩ rest := by
  induction chars generalizing before with
  | nil => rw [List.append_nil]; rfl
  | cons c chars ih =>
    have kept : (String.utf8EncodeChar c).reverse ++ (encode before).reverse =
        (encode (before ++ [c])).reverse := by
      rw [encode_append, List.reverse_append, encode_cons, encode_nil, List.append_nil]
    rw [List.flatMap_cons, encode_append, List.append_assoc, feed_escapeChar, kept, ih,
      List.append_assoc, List.singleton_append]

/-- A string is written as its escaped characters between quotes. -/
theorem putString_eq (s : String) (rest : List Char) :
    putString s rest = '\x22' :: (s.toList.flatMap escapeChar ++ '\x22' :: rest) := by
  rw [putString]
  refine congrArg ('\x22' :: ·) ?_
  induction s.toList with
  | nil => rfl
  | cons c chars ih => rw [List.foldr_cons, ih, List.flatMap_cons, List.append_assoc]

/-- The bytes of a written string. -/
theorem encode_putString (s : String) (rest : List Char) :
    encode (putString s rest) =
      0x22 :: (encode (s.toList.flatMap escapeChar) ++ 0x22 :: encode rest) := by
  rw [putString_eq, encode_ascii (by decide), encode_append, encode_ascii (by decide)]
  rfl

/-- **A string** is read as it is written, up to its closing quote. -/
theorem feed_string (s : String) (role : Role) (rest : List UInt8) :
    feed limit ⟨stack, .text role .none []⟩
        (encode (s.toList.flatMap escapeChar) ++ 0x22 :: rest) =
      feed limit ⟨stack, closed s role⟩ rest := by
  have chars := @feed_chars limit stack role s.toList [] (0x22 :: rest)
  have quote : step limit ⟨stack, .text role .none (encode s.toList).reverse⟩ 0x22 =
      .ok ⟨stack, closed s role⟩ := by
    simp only [step, textStep, if_true, close_encode]
  exact chars.trans (feed_cons_ok quote rest)

end Strings

/-! ## Complete values -/

/-- A value has been read, and nothing of what follows it. -/
inductive Finished (stack : List Frame) (value : Json) : ReaderState → Prop where
  | done : Finished stack value ⟨stack, .done value⟩
  | number {stage : Numeral.Stage} {numeral : Numeral} (complete : stage.complete = true)
      (read : numeral.value = some value) : Finished stack value ⟨stack, .numeral stage numeral⟩

/-- The bytes that can follow a value: white space, a comma, a closing bracket. -/
def endBytes : List UInt8 := [0x20, 0x09, 0x0A, 0x0D, 0x2C, 0x5D, 0x7D]

namespace Finished

variable {value : Json} {state : ReaderState}

/-- What follows a value shows that it is complete. -/
theorem step_eq (h : Finished stack value state) {byte : UInt8} (ends : byte ∈ endBytes) :
    step limit state byte = after stack value byte := by
  cases h with
  | done => rfl
  | @number stage numeral complete read =>
    have ended : Numeral.step stage numeral byte = .ended := by
      simp only [endBytes, List.mem_cons, List.not_mem_nil, or_false] at ends
      cases stage with
      | zero | whole | fraction | exponent =>
        rcases ends with rfl | rfl | rfl | rfl | rfl | rfl | rfl <;> rfl
      | sign | point | mark | markSign => cases complete
    simp only [step, ended, read]

/-- The reader ends with the value that is finished. -/
theorem finish_eq (h : Finished [] value state) : state.finish = .ok value := by
  cases h with
  | done => rfl
  | number complete read => simp [finish, complete, read]

end Finished

/-! ## Numbers -/

/-- The characters of numbers. -/
def numeralChars : List Char :=
  ['0', '1', '2', '3', '4', '5', '6', '7', '8', '9', '-', '+', '.', 'e']

/-- A character of a number is one byte, neither white space nor the end of an array. -/
theorem numeral_byte : ∀ c ∈ numeralChars, c.toNat < 128 ∧
    isBlank (UInt8.ofNat c.toNat) = false ∧ UInt8.ofNat c.toNat ≠ 0x5D := by
  unfold numeralChars
  iterate 14 refine List.forall_mem_cons.2 ⟨by decide, ?_⟩
  exact List.forall_mem_nil _

/-- A character of a number is one byte. -/
theorem encode_numeral {c : Char} (mem : c ∈ numeralChars) (chars : List Char) :
    encode (c :: chars) = UInt8.ofNat c.toNat :: encode chars :=
  encode_ascii (numeral_byte c mem).1 chars

/-- A number starts in the same way everywhere, or nowhere. -/
theorem start_numeral {c : Char} (mem : c ∈ numeralChars) :
    (∃ stage numeral, ∀ limit stack,
      step limit ⟨stack, .value⟩ (UInt8.ofNat c.toNat) = .ok ⟨stack, .numeral stage numeral⟩) ∨
    ∀ limit stack, step limit ⟨stack, .value⟩ (UInt8.ofNat c.toNat) = .error .malformed := by
  simp only [numeralChars, List.mem_cons, List.not_mem_nil, or_false] at mem
  rcases mem with rfl | rfl | rfl | rfl | rfl | rfl | rfl | rfl | rfl | rfl | rfl | inside
  iterate 11 exact .inl ⟨_, _, fun _ _ => rfl⟩
  rcases inside with rfl | rfl | rfl <;> exact .inr fun _ _ => rfl

/-- A number that goes on to its end outside all brackets goes on in the same way everywhere. -/
theorem feed_numeral {chars : List Char} (alphabet : ∀ c ∈ chars, c ∈ numeralChars)
    {stage : Numeral.Stage} {numeral : Numeral} {state : ReaderState}
    (h : feed limit ⟨[], .numeral stage numeral⟩ (encode chars) = .ok state) :
    ∃ last whole, state = ⟨[], .numeral last whole⟩ ∧ ∀ limit stack rest,
      feed limit ⟨stack, .numeral stage numeral⟩ (encode chars ++ rest) =
        feed limit ⟨stack, .numeral last whole⟩ rest := by
  induction chars generalizing stage numeral with
  | nil =>
    obtain rfl := Except.ok.inj h
    exact ⟨stage, numeral, rfl, fun _ _ _ => rfl⟩
  | cons c chars ih =>
    obtain ⟨here, later⟩ := List.forall_mem_cons.1 alphabet
    have visible := (numeral_byte c here).2.1
    rw [encode_numeral here, feed] at h
    simp only [step] at h
    cases moved : Numeral.step stage numeral (UInt8.ofNat c.toNat) with
    | next stage' numeral' =>
      rw [moved] at h
      obtain ⟨last, whole, rfl, run⟩ := ih later h
      refine ⟨last, whole, rfl, fun limit stack rest => ?_⟩
      have one : step limit ⟨stack, .numeral stage numeral⟩ (UInt8.ofNat c.toNat) =
          .ok ⟨stack, .numeral stage' numeral'⟩ := by simp only [step, moved]
      rw [encode_numeral here, List.cons_append, feed_cons_ok one, run]
    | malformed => rw [moved] at h; cases h
    | ended =>
      -- Outside all brackets nothing but white space may follow a complete number.
      rw [moved] at h
      cases read : numeral.value with
      | none => simp only [read] at h; cases h
      | some value =>
        simp only [read, after, visible, Bool.false_eq_true, if_false] at h
        cases h

/-- **A number** whose text alone is read as a value is read as this value everywhere. -/
theorem feed_number {chars : List Char} (alphabet : ∀ c ∈ chars, c ∈ numeralChars) {value : Json}
    (read : Json.read (encode chars) = .ok value) (limit : Nat) (stack : List Frame)
    (rest : List UInt8) : ∃ state, Finished stack value state ∧
      feed limit ⟨stack, .value⟩ (encode chars ++ rest) = feed limit state rest := by
  rw [Json.read] at read
  cases chars with
  | nil => cases read
  | cons c chars =>
    obtain ⟨here, later⟩ := List.forall_mem_cons.1 alphabet
    rw [encode_numeral here] at read
    obtain ⟨stage, numeral, starts⟩ | refused := start_numeral here
    · rw [feed_cons_ok (starts _ [])] at read
      cases run : feed depthLimit ⟨[], .numeral stage numeral⟩ (encode chars) with
      | error fault => rw [run] at read; cases read
      | ok state =>
        obtain ⟨last, whole, rfl, everywhere⟩ := feed_numeral later run
        rw [run] at read
        simp only [finish, List.isEmpty_nil, if_true] at read
        refine ⟨⟨stack, .numeral last whole⟩, ?_, ?_⟩
        · split at read
          case isTrue complete =>
            cases found : whole.value with
            | none => rw [found] at read; cases read
            | some other =>
              rw [found] at read
              obtain rfl := Except.ok.inj read
              exact .number complete found
          case isFalse => cases read
        · rw [encode_numeral here, List.cons_append, feed_cons_ok (starts limit stack), everywhere]
    · rw [feed_cons_error (refused _ [])] at read
      cases read

/-! ## Whole numbers -/

/-- The characters of a decimal number are digits. -/
theorem exists_digit {n : Nat} {c : Char} (mem : c ∈ Nat.toDigits 10 n) :
    ∃ d < 10, c = Nat.digitChar d := by
  induction n using Nat.strong_induction_on with
  | _ n ih =>
    rw [Nat.toDigits_eq_if (by decide)] at mem
    split at mem
    case isTrue small => exact ⟨n, small, List.mem_singleton.1 mem⟩
    case isFalse large =>
      rcases List.mem_append.1 mem with mem | mem
      · exact ih (n / 10) (by omega) mem
      · exact ⟨n % 10, Nat.mod_lt _ (by decide), List.mem_singleton.1 mem⟩

/-- Digits are characters of numbers. -/
theorem mem_numeralChars_of_toDigits {n : Nat} {c : Char} (mem : c ∈ Nat.toDigits 10 n) :
    c ∈ numeralChars := by
  obtain ⟨d, small, rfl⟩ := exists_digit mem
  have all : ∀ d < 10, Nat.digitChar d ∈ numeralChars := by decide
  exact all d small

/-- A digit that is written is read back. -/
theorem digit?_digitChar {d : Nat} (h : d < 10) :
    Numeral.digit? (UInt8.ofNat (Nat.digitChar d).toNat) = some d := by
  have all : ∀ d < 10, Numeral.digit? (UInt8.ofNat (Nat.digitChar d).toNat) = some d := by decide
  exact all d h

/-- A digit is one byte. -/
theorem encode_digit {d : Nat} (h : d < 10) :
    encode [Nat.digitChar d] = [UInt8.ofNat (Nat.digitChar d).toNat] := by
  have all : ∀ d < 10, Nat.digitChar d ∈ numeralChars := by decide
  exact encode_numeral (all d h) []

/-- The digits of a positive number are gathered, last digit first. -/
theorem feed_digits {n : Nat} (positive : 0 < n) (numeral : Numeral) (rest : List UInt8) :
    feed limit ⟨stack, .numeral .sign numeral⟩ (encode (Nat.toDigits 10 n) ++ rest) =
      feed limit ⟨stack, .numeral .whole { numeral with whole := Nat.digits 10 n }⟩ rest := by
  induction n using Nat.strong_induction_on generalizing rest with
  | _ n ih =>
    rw [Nat.digits_def' (by decide) positive, Nat.toDigits_eq_if (by decide)]
    split
    case isTrue small =>
      have one : step limit ⟨stack, .numeral .sign numeral⟩
          (UInt8.ofNat (Nat.digitChar n).toNat) =
          .ok ⟨stack, .numeral .whole { numeral with whole := [n] }⟩ := by
        obtain ⟨k, rfl⟩ := Nat.exists_eq_succ_of_ne_zero (Nat.ne_of_gt positive)
        simp only [step, Numeral.step, digit?_digitChar small]
      rw [encode_digit small, List.singleton_append, feed_cons_ok one, Nat.mod_eq_of_lt small,
        Nat.div_eq_of_lt small, Nat.digits_zero]
    case isFalse large =>
      have last : n % 10 < 10 := Nat.mod_lt _ (by decide)
      have one : step limit
          ⟨stack, .numeral .whole { numeral with whole := Nat.digits 10 (n / 10) }⟩
          (UInt8.ofNat (Nat.digitChar (n % 10)).toNat) =
          .ok ⟨stack, .numeral .whole
            { numeral with whole := n % 10 :: Nat.digits 10 (n / 10) }⟩ := by
        simp only [step, Numeral.step, digit?_digitChar last]
      rw [encode_append, List.append_assoc, ih (n / 10) (by omega) (by omega), encode_digit last,
        List.singleton_append, feed_cons_ok one]

/-- A digit starts a number, with or without a sign before it. -/
theorem feed_value_digits (n : Nat) (rest : List UInt8) :
    feed limit ⟨stack, .value⟩ (encode (Nat.toDigits 10 n) ++ rest) =
      feed limit ⟨stack, .numeral .sign {}⟩ (encode (Nat.toDigits 10 n) ++ rest) := by
  have same : ∀ d < 10, step limit ⟨stack, .value⟩ (UInt8.ofNat (Nat.digitChar d).toNat) =
      step limit ⟨stack, .numeral .sign {}⟩ (UInt8.ofNat (Nat.digitChar d).toNat) := by
    intro d small
    interval_cases d <;> rfl
  cases digits : Nat.toDigits 10 n with
  | nil => exact absurd digits Nat.toDigits_ne_nil
  | cons c chars =>
    have mem : c ∈ Nat.toDigits 10 n := digits ▸ List.mem_cons_self
    obtain ⟨d, small, rfl⟩ := exists_digit mem
    rw [encode_numeral (mem_numeralChars_of_toDigits mem), List.cons_append, feed, feed,
      same d small]

end ReaderState

namespace Numeral

/-- One more digit, as long as the number does not grow too large. -/
theorem gather_concat {start value : Nat} {digits : List Nat}
    (h : gather start digits = (value, [])) (digit : Nat)
    (fits : value * 10 + digit ≤ maxSignificand) :
    gather start (digits ++ [digit]) = (value * 10 + digit, []) := by
  induction digits generalizing start with
  | nil =>
    obtain rfl : start = value := (Prod.mk.inj h).1
    rw [List.nil_append, gather, if_pos fits, gather]
  | cons first digits ih =>
    rw [gather] at h
    rw [List.cons_append, gather]
    split at h
    case isTrue small => rw [if_pos small, ih h]
    case isFalse => cases (Prod.mk.inj h).2

/-- The digits of a number that fits a significand give the number. -/
theorem gather_digits {n : Nat} (h : n ≤ maxSignificand) :
    gather 0 (Nat.digits 10 n).reverse = (n, []) := by
  induction n using Nat.strong_induction_on with
  | _ n ih =>
    rcases Nat.eq_zero_or_pos n with rfl | positive
    · rfl
    · have whole : n / 10 * 10 + n % 10 = n := Nat.div_add_mod' n 10
      have before := ih (n / 10) (by omega) (by omega)
      have all := gather_concat before (n % 10) (by omega)
      rw [Nat.digits_def' (by decide) positive, List.reverse_cons, all, whole]

/-- The digits of a number are read back as the number. -/
theorem value_digits {n : Nat} (h : n ≤ maxSignificand) (negative : Bool) :
    ({ negative, whole := Nat.digits 10 n } : Numeral).value = some (ofWhole negative n) := by
  simp only [value, gather_digits h]
  rfl

end Numeral

open ReaderState

/-- An integer is written in the characters of numbers. -/
theorem mem_numeralChars_of_intText {value : Int} {c : Char} (mem : c ∈ intText value) :
    c ∈ numeralChars := by
  cases value with
  | ofNat n => exact mem_numeralChars_of_toDigits mem
  | negSucc n =>
    rcases List.mem_cons.1 mem with rfl | mem
    · decide
    · exact mem_numeralChars_of_toDigits mem

/-- **A whole number** in the range of 64-bit words is read from its text. -/
theorem read_intText {value : Int} (low : -2 ^ 63 ≤ value) (high : value < 2 ^ 64) :
    read (encode (intText value)) = .ok (.int value) := by
  cases value with
  | ofNat n =>
    rcases Nat.eq_zero_or_pos n with rfl | positive
    · rfl
    · have fits : n ≤ Numeral.maxSignificand := by
        change (n : Int) < 2 ^ 64 at high
        simp only [Numeral.maxSignificand]
        omega
      have run := @feed_value_digits depthLimit [] n []
      rw [feed_digits positive, List.append_nil] at run
      have finished : Finished [] (.int n) ⟨[], .numeral .whole { whole := Nat.digits 10 n }⟩ :=
        .number rfl (Numeral.value_digits fits false)
      rw [read, intText, run]
      exact finished.finish_eq
  | negSucc n =>
    have fits : n + 1 ≤ Numeral.maxNegative := by simp only [Numeral.maxNegative]; omega
    have sign : step depthLimit {} (UInt8.ofNat '-'.toNat) =
        .ok ⟨[], .numeral .sign { negative := true }⟩ := rfl
    have run := @feed_digits depthLimit [] (n + 1) n.succ_pos { negative := true } []
    rw [List.append_nil] at run
    have whole : Numeral.ofWhole true (n + 1) = .int (.negSucc n) := by
      simp only [Numeral.ofWhole, Bool.not_true, Bool.false_eq_true, if_false]
      rw [if_pos ⟨n.succ_pos, fits⟩]
      rfl
    have finished : Finished [] (.int (.negSucc n))
        ⟨[], .numeral .whole { negative := true, whole := Nat.digits 10 (n + 1) }⟩ := by
      refine .number rfl ?_
      have significand : n + 1 ≤ Numeral.maxSignificand := by
        simp only [Numeral.maxSignificand, Numeral.maxNegative] at *
        omega
      rw [Numeral.value_digits significand, whole]
    rw [read, intText, encode_ascii (by decide), feed_cons_ok sign, run]
    exact finished.finish_eq

end Json
end RubyModel
