import JsonTables.Json.Render
import JsonTables.Proofs.LongerText

/-!
# Text that is written and read back

Text is escaped character by character and encoded byte by byte.  What is written between
quotes is read back as the text, whatever stands behind the closing quote.
-/

namespace JsonTables.JsonText

/-! ### Bytes of texts -/

theorem toList_loop_eq (bytes : ByteArray) (position : Nat) (before : List UInt8) :
    ByteArray.toList.loop bytes position before =
      before.reverse ++ bytes.data.toList.drop position := by
  fun_induction ByteArray.toList.loop bytes position before with
  | case1 position before inside ih =>
      have insideList : position < bytes.data.toList.length := by simpa using inside
      rw [ih, List.drop_eq_getElem_cons insideList]
      simp [ByteArray.get!, inside]
  | case2 position before outside =>
      rw [List.drop_eq_nil_of_le (by simpa using Nat.le_of_not_lt outside)]
      simp

theorem bytesOf_eq_data (text : String) : bytesOf text = text.toByteArray.data.toList := by
  rw [bytesOf, ByteArray.toList, toList_loop_eq]
  rfl

theorem bytesOf_ofList (chars : List Char) :
    bytesOf (String.ofList chars) = chars.flatMap String.utf8EncodeChar := by
  rw [bytesOf_eq_data, String.toByteArray_ofList, List.utf8Encode, List.toList_data_toByteArray]

theorem bytesOf_eq (text : String) : bytesOf text = text.toList.flatMap String.utf8EncodeChar := by
  rw [← bytesOf_ofList, String.ofList_toList]

@[simp]
theorem bytesOf_append (first second : String) :
    bytesOf (first ++ second) = bytesOf first ++ bytesOf second := by
  simp [bytesOf_eq]

/-- The bytes of a text are decoded to it. -/
theorem fromUTF8?_bytesOf (text : String) :
    String.fromUTF8? ⟨(bytesOf text).toArray⟩ = some text := by
  rw [bytesOf_eq_data, Array.toArray_toList, String.fromUTF8?, dif_pos text.isValidUTF8]
  rfl

/-- A byte of a character is the character, if that is one of ASCII, or none of ASCII. -/
theorem of_mem_utf8EncodeChar {char : Char} {byte : UInt8}
    (byteMem : byte ∈ String.utf8EncodeChar char) :
    byte.toNat = char.toNat ∨ 0x80 ≤ byte.toNat := by
  have small : ∀ code < 0x100, (UInt8.ofNat code).toNat = code := by
    intro code isSmall
    exact UInt8.toNat_ofNat_of_lt' isSmall
  change byte.toNat = char.val.toNat ∨ 0x80 ≤ byte.toNat
  simp only [String.utf8EncodeChar] at byteMem
  split at byteMem
  · rw [List.mem_singleton] at byteMem
    left
    rw [byteMem, small _ (by omega)]
  · right
    split at byteMem
    · simp only [List.mem_cons, List.not_mem_nil, or_false] at byteMem
      rcases byteMem with rfl | rfl <;> rw [small _ (by omega)] <;> omega
    · split at byteMem
      · simp only [List.mem_cons, List.not_mem_nil, or_false] at byteMem
        rcases byteMem with rfl | rfl | rfl <;> rw [small _ (by omega)] <;> omega
      · simp only [List.mem_cons, List.not_mem_nil, or_false] at byteMem
        rcases byteMem with rfl | rfl | rfl | rfl <;> rw [small _ (by omega)] <;> omega

/-! ### Quotes -/

theorem QuotedAs.plains {bytes more text rest : Bytes}
    (arePlain : ∀ byte ∈ bytes, byte ≠ 0x22 ∧ byte ≠ 0x5C ∧ ¬byte < 0x20)
    (others : QuotedAs more text rest) : QuotedAs (bytes ++ more) (bytes ++ text) rest := by
  induction bytes with
  | nil => exact others
  | cons byte bytes ih =>
      rw [List.forall_mem_cons] at arePlain
      rcases arePlain with ⟨⟨notQuote, notEscape, notControl⟩, arePlain⟩
      exact .plain notQuote notEscape notControl (ih arePlain)

/-- The unit that four bytes spell. -/
def unitOfFour? : Bytes → Option Nat
  | [a, b, c, d] => hexUnit? a b c d
  | _ => none

/-- The four digits that a control character is escaped with are its number. -/
theorem hexFour_reads {code : Nat} (isControl : code < 0x20) :
    ∃ a b c d, (Json.hexFour code).flatMap String.utf8EncodeChar = [a, b, c, d] ∧
      hexUnit? a b c d = some code := by
  have all : ∀ code < 0x20,
      unitOfFour? ((Json.hexFour code).flatMap String.utf8EncodeChar) = some code := by decide
  have isUnit := all code isControl
  unfold unitOfFour? at isUnit
  split at isUnit
  · rename_i a b c d areFour
    exact ⟨a, b, c, d, areFour, isUnit⟩
  · cases isUnit

theorem QuotedAs.escaped {char : Char} {bytes text rest : Bytes}
    (others : QuotedAs bytes text rest) :
    QuotedAs ((Json.escapeChar char).flatMap String.utf8EncodeChar ++ bytes)
      (String.utf8EncodeChar char ++ text) rest := by
  unfold Json.escapeChar
  split
  iterate 7 exact .escape (by decide) others
  rename_i notQuote notBackslash _ _ _ _ _
  split
  · rename_i isControl
    rcases hexFour_reads isControl with ⟨a, b, c, d, areFour, isUnit⟩
    have encodes : encodeCode char.toNat = String.utf8EncodeChar char := by
      rw [encodeCode, bytesOf_ofList, Char.ofNat_toNat, List.flatMap_singleton]
    have notLeading : isLeading char.toNat = false := by simp [isLeading]; omega
    have notTrailing : isTrailing char.toNat = false := by simp [isTrailing]; omega
    rw [List.flatMap_cons, List.flatMap_cons, areFour, ← encodes]
    exact .unit isUnit notLeading notTrailing others
  · rename_i notControl
    rw [List.flatMap_singleton]
    refine .plains ?_ others
    intro byte byteMem
    simp only [ne_eq, ← UInt8.toNat_inj, UInt8.lt_iff_toNat_lt]
    have notQuoteCode : char.toNat ≠ 0x22 := fun isQuote => notQuote (Char.toNat_inj.mp isQuote)
    have notBackslashCode : char.toNat ≠ 0x5C :=
      fun isBackslash => notBackslash (Char.toNat_inj.mp isBackslash)
    change byte.toNat ≠ 0x22 ∧ byte.toNat ≠ 0x5C ∧ ¬byte.toNat < 0x20
    rcases of_mem_utf8EncodeChar byteMem with isChar | isLarge <;> omega

theorem quotedAs_of_chars (chars : List Char) (rest : Bytes) :
    QuotedAs ((chars.flatMap Json.escapeChar).flatMap String.utf8EncodeChar ++ 0x22 :: rest)
      (chars.flatMap String.utf8EncodeChar) rest := by
  induction chars with
  | nil => exact .quote rest
  | cons char chars ih =>
      rw [List.flatMap_cons, List.flatMap_append, List.append_assoc, List.flatMap_cons]
      exact .escaped ih

/-- The bytes of a text between quotes, without the opening quote. -/
def afterQuote (text : String) : Bytes :=
  (text.toList.flatMap Json.escapeChar).flatMap String.utf8EncodeChar ++ [0x22]

theorem bytesOf_quote (text : String) : bytesOf (Json.quote text) = 0x22 :: afterQuote text := by
  rw [Json.quote, bytesOf_ofList, List.cons_append, List.flatMap_cons, List.flatMap_append]
  rfl

theorem stringBody_afterQuote (text : String) (rest : Bytes) :
    stringBody (afterQuote text ++ rest) = .ok (text, rest) := by
  refine stringBody_eq_ok_iff.mpr ⟨bytesOf text, ?_, fromUTF8?_bytesOf text⟩
  rw [bytesOf_eq, afterQuote, List.append_assoc]
  exact quotedAs_of_chars text.toList rest

end JsonTables.JsonText
