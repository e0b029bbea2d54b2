import JsonTables.DataType
import JsonTables.Proofs.LookedUp
import Mathlib

/-!
# Names of data types

The name of a type is the name of what its arrays hold in the end and a pair of brackets for each
of them.  What is read as a type is such a name in any case of letters, or a second name, with
blanks before it, after it and around each pair of brackets, and nothing else is.
-/

namespace JsonTables.DataType

/-! ### Spellings -/

/-- Whether characters differ in nothing but the case of ASCII letters. -/
def SameLetters (chars others : List Char) : Prop :=
  chars.map Char.toLower = others.map Char.toLower

/-- Whether there are blanks and nothing else. -/
def AreBlank (chars : List Char) : Prop :=
  ∀ char ∈ chars, Text.isBlank char = true

/-- So many pairs of brackets, each with blanks before it or none. -/
inductive SpacedPairs : Nat → List Char → Prop
  | none : SpacedPairs 0 []
  | pair {layers : Nat} {pairs blanks : List Char} (fewer : SpacedPairs layers pairs)
      (areBlank : AreBlank blanks) : SpacedPairs (layers + 1) (pairs ++ blanks ++ ['[', ']'])

/-- What spells a type by one of some names: the name in any case of letters, and a pair of brackets
for every layer of arrays, with blanks around them. -/
inductive Spells (names : List (String × DataType)) : DataType → List Char → Prop
  | intro {name : String} {base : DataType} {layers : Nat} {before letters pairs after : List Char}
      (isName : (name, base) ∈ names) (sameLetters : SameLetters letters name.toList)
      (arePairs : SpacedPairs layers pairs) (beforeBlank : AreBlank before)
      (afterBlank : AreBlank after) :
      Spells names (nest layers base) (before ++ letters ++ pairs ++ after)

namespace AreBlank

theorem nil : AreBlank [] :=
  nofun

theorem append {chars others : List Char} (areBlank : AreBlank chars)
    (othersBlank : AreBlank others) : AreBlank (chars ++ others) :=
  List.forall_mem_append.mpr ⟨areBlank, othersBlank⟩

theorem reverse {chars : List Char} (areBlank : AreBlank chars) : AreBlank chars.reverse :=
  fun char charMem => areBlank char (List.mem_reverse.mp charMem)

end AreBlank

namespace Spells

variable {names : List (String × DataType)} {type : DataType} {chars : List Char}

theorem mono {others : List (String × DataType)} (more : names ⊆ others)
    (spells : Spells names type chars) : Spells others type chars := by
  cases spells with
  | intro isName sameLetters arePairs beforeBlank afterBlank =>
      exact .intro (more isName) sameLetters arePairs beforeBlank afterBlank

/-- A further pair of brackets spells the type of arrays. -/
theorem array (spells : Spells names type chars) :
    Spells names (.array type) (chars ++ ['[', ']']) := by
  cases spells with
  | @intro name base layers before letters pairs after isName sameLetters arePairs beforeBlank
      afterBlank =>
      simpa [nest] using Spells.intro isName sameLetters (arePairs.pair afterBlank) beforeBlank .nil

theorem append_blank {char : Char} (spells : Spells names type chars)
    (isBlank : Text.isBlank char = true) : Spells names type (chars ++ [char]) := by
  cases spells with
  | @intro name base layers before letters pairs after isName sameLetters arePairs beforeBlank
      afterBlank =>
      have moreBlank : AreBlank (after ++ [char]) := afterBlank.append (by simpa [AreBlank])
      simpa using Spells.intro isName sameLetters arePairs beforeBlank moreBlank

end Spells

/-! ### Names -/

/-- What a name of a type is made of: small letters, digits and a line. -/
def isNameChar (char : Char) : Bool :=
  char.isLower || char.isDigit || char == '_'

/-- Every name is one type's, and has some letters and no others. -/
theorem names_are_plain :
    ∀ entry ∈ scalars ++ aliases, (scalars ++ aliases).lookup entry.1 = some entry.2 ∧
      entry.1.toList ≠ [] ∧ entry.1.toList.all isNameChar = true := by
  decide

theorem toNat_of_isNameChar {char : Char} (isName : isNameChar char = true) :
    (97 ≤ char.toNat ∧ char.toNat ≤ 122) ∨ (48 ≤ char.toNat ∧ char.toNat ≤ 57) ∨
      char.toNat = 95 := by
  simp only [isNameChar, Bool.or_eq_true, beq_iff_eq, Char.isLower, Char.isDigit,
    Bool.and_eq_true, decide_eq_true_eq] at isName
  rcases isName with (⟨low, high⟩ | ⟨low, high⟩) | rfl
  · exact .inl ⟨low, high⟩
  · exact .inr (.inl ⟨low, high⟩)
  · exact .inr (.inr rfl)

theorem isUpper_iff {char : Char} :
    char.isUpper = true ↔ 65 ≤ char.toNat ∧ char.toNat ≤ 90 := by
  rw [Char.isUpper, decide_eq_true_eq]
  rfl

/-- A name has no capital letters. -/
theorem toLower_of_isNameChar {char : Char} (isName : isNameChar char = true) :
    char.toLower = char := by
  have codes := toNat_of_isNameChar isName
  apply Char.toLower_eq_of_not_isUpper
  rw [isUpper_iff]
  omega

/-- A character of a name, in any case, is neither a blank nor a bracket. -/
theorem visible_of_toLower {char : Char} (isName : isNameChar char.toLower = true) :
    Text.isBlank char = false ∧ char ≠ ']' := by
  have codes : 33 ≤ char.toNat ∧ char.toNat ≤ 126 ∧ char.toNat ≠ 93 := by
    by_cases isUpper : char.isUpper = true
    · have codes := isUpper_iff.mp isUpper
      omega
    · rw [Char.toLower_eq_of_not_isUpper isUpper] at isName
      have codes := toNat_of_isNameChar isName
      omega
  refine ⟨Text.isBlank_of_visible codes.1 codes.2.1, ?_⟩
  rintro rfl
  exact codes.2.2 rfl

section

variable {name : String} {base : DataType} (isName : (name, base) ∈ scalars ++ aliases)
  {letters : List Char} (sameLetters : SameLetters letters name.toList)

include isName

theorem map_toLower_name : name.toList.map Char.toLower = name.toList := by
  have areNameChars := List.all_eq_true.mp (names_are_plain _ isName).2.2
  conv_rhs => rw [← List.map_id name.toList]
  apply List.map_congr_left
  intro char charMem
  exact toLower_of_isNameChar (areNameChars char charMem)

include sameLetters

/-- Letters that are a name's but for their case are read as its type. -/
theorem ofBase?_of_sameLetters : ofBase? letters = some base := by
  rw [ofBase?, sameLetters, map_toLower_name isName, String.ofList_toList,
    (names_are_plain _ isName).1]

theorem visible_of_sameLetters {char : Char} (charMem : char ∈ letters) :
    Text.isBlank char = false ∧ char ≠ ']' := by
  have plain := names_are_plain _ isName
  have lowerMem : char.toLower ∈ name.toList.map Char.toLower :=
    sameLetters ▸ List.mem_map_of_mem charMem
  obtain ⟨other, otherMem, isSame⟩ := List.mem_map.mp lowerMem
  have isNameChar := List.all_eq_true.mp plain.2.2 other otherMem
  apply visible_of_toLower
  rwa [← isSame, toLower_of_isNameChar isNameChar]

theorem ne_nil_of_sameLetters : letters ≠ [] := by
  rintro rfl
  have noName : name.toList = [] := List.map_eq_nil_iff.mp sameLetters.symm
  exact (names_are_plain _ isName).2.1 noName

end

/-! ### Peeling -/

theorem peelReversed_pair (rest : List Char) :
    peelReversed (']' :: '[' :: rest) =
      ((peelReversed rest).1 + 1, (peelReversed rest).2) :=
  rfl

theorem peelReversed_cons {char : Char} (notBracket : char ≠ ']') (rest : List Char) :
    peelReversed (char :: rest) =
      if Text.isBlank char then peelReversed rest else (0, char :: rest) := by
  rw [peelReversed.eq_def]
  split
  · contradiction
  · rename_i same
    exact absurd (List.cons.inj same).1 notBracket
  · rename_i same
    cases same
    rfl

theorem peelReversed_append_blanks {blanks : List Char} (areBlank : AreBlank blanks)
    (rest : List Char) : peelReversed (blanks ++ rest) = peelReversed rest := by
  induction blanks with
  | nil => rfl
  | cons char blanks ih =>
      have isBlank := areBlank char List.mem_cons_self
      have notBracket : char ≠ ']' := by
        rintro rfl
        revert isBlank
        decide
      rw [List.cons_append, peelReversed_cons notBracket, if_pos isBlank,
        ih fun other otherMem => areBlank other (List.mem_cons_of_mem char otherMem)]

theorem peelReversed_of_visible {char : Char} (notBlank : Text.isBlank char = false)
    (notBracket : char ≠ ']') (rest : List Char) :
    peelReversed (char :: rest) = (0, char :: rest) := by
  rw [peelReversed_cons notBracket, if_neg (by simp [notBlank])]

/-- Every pair of brackets is peeled off, and the blanks around them. -/
theorem peelReversed_of_spacedPairs {layers : Nat} {pairs : List Char}
    (arePairs : SpacedPairs layers pairs) {base : List Char}
    (isBare : peelReversed base = (0, base)) :
    peelReversed (pairs.reverse ++ base) = (layers, base) := by
  induction arePairs with
  | none => exact isBare
  | @pair layers pairs blanks _ areBlank ih =>
      simp only [List.reverse_append, List.reverse_cons, List.reverse_nil, List.nil_append,
        List.cons_append, peelReversed_pair, List.append_assoc]
      rw [peelReversed_append_blanks areBlank.reverse, ih]

/-- What spells a type by one of the names that are known is read as the type. -/
theorem read_of_spells {type : DataType} {text : String}
    (spells : Spells (scalars ++ aliases) type text.toList) : read text = .ok type := by
  generalize isText : text.toList = chars at spells
  cases spells with
  | @intro name base layers before letters pairs after isName sameLetters arePairs beforeBlank
      afterBlank =>
      have visible : ∀ char ∈ letters, Text.isBlank char = false ∧ char ≠ ']' :=
        fun _ => visible_of_sameLetters isName sameLetters
      have nonempty := ne_nil_of_sameLetters isName sameLetters
      have isBare : peelReversed (letters.reverse ++ before.reverse) =
          (0, letters.reverse ++ before.reverse) := by
        obtain ⟨last, front, isReversed⟩ :=
          List.exists_cons_of_ne_nil (mt List.reverse_eq_nil_iff.mp nonempty)
        have lastVisible := visible last (List.mem_reverse.mp (isReversed ▸ List.mem_cons_self))
        rw [isReversed]
        exact peelReversed_of_visible lastVisible.1 lastVisible.2 _
      have isPeeled : peelReversed text.toList.reverse =
          (layers, letters.reverse ++ before.reverse) := by
        simp only [isText, List.reverse_append]
        rw [peelReversed_append_blanks afterBlank.reverse,
          peelReversed_of_spacedPairs arePairs isBare]
      have isTrimmed : Text.trimStart (before ++ letters) = letters := by
        obtain ⟨first, others, isLetters⟩ := List.exists_cons_of_ne_nil nonempty
        have firstVisible := visible first (isLetters ▸ List.mem_cons_self)
        rw [Text.trimStart, List.dropWhile_append_of_pos beforeBlank, isLetters,
          List.dropWhile_cons_of_neg (by simp [firstVisible.1])]
      simp only [read, peel, isPeeled, List.reverse_append, List.reverse_reverse, isTrimmed,
        ofBase?_of_sameLetters isName sameLetters]

theorem sameLetters_of_ofBase? {letters : List Char} {base : DataType}
    (isBase : ofBase? letters = some base) :
    ∃ name, (name, base) ∈ scalars ++ aliases ∧ SameLetters letters name.toList := by
  have isName := mem_of_lookup isBase
  refine ⟨_, isName, ?_⟩
  rw [SameLetters, map_toLower_name isName, String.toList_ofList]

/-- What is left of a text when brackets and blanks are peeled off it is a name, if the text is
read. -/
theorem spells_of_peelReversed {reversed : List Char} {base : DataType}
    (isBase : ofBase? (Text.trimStart (peelReversed reversed).2.reverse) = some base) :
    Spells (scalars ++ aliases) (nest (peelReversed reversed).1 base) reversed.reverse := by
  fun_induction peelReversed reversed with
  | case1 => cases isBase
  | case2 rest layers left isPeeled ih =>
      rw [isPeeled] at ih
      simpa [nest] using (ih isBase).array
  | case3 char rest notPair isBlank ih =>
      rw [List.reverse_cons]
      exact (ih isBase).append_blank isBlank
  | case4 char rest notPair notBlank =>
      obtain ⟨name, isName, sameLetters⟩ := sameLetters_of_ofBase? isBase
      have beforeBlank : AreBlank ((char :: rest).reverse.takeWhile Text.isBlank) :=
        fun _ => List.mem_takeWhile_imp
      simpa [Text.trimStart] using Spells.intro isName sameLetters .none beforeBlank .nil

theorem read_eq_ok_iff {type : DataType} {text : String} :
    read text = .ok type ↔ Spells (scalars ++ aliases) type text.toList := by
  refine ⟨fun isRead => ?_, read_of_spells⟩
  simp only [read, peel] at isRead
  split at isRead
  · rename_i base isBase
    cases isRead
    simpa using spells_of_peelReversed isBase
  · cases isRead

/-! ### Names that are shown -/

theorem mem_scalars {type : DataType} (noArray : type.component? = none) :
    (type.name, type) ∈ scalars := by
  cases type with
  | array component => cases noArray
  | _ => decide

/-- The name of a type spells it, with nothing changed. -/
theorem spells_name (type : DataType) : Spells scalars type type.name.toList := by
  have ofScalar : ∀ type : DataType, type.component? = none →
      Spells scalars type type.name.toList := by
    intro type noArray
    simpa [nest] using Spells.intro (mem_scalars noArray) rfl .none .nil .nil
  induction type with
  | array component ih =>
      rw [name, String.toList_append]
      exact ih.array
  | _ => exact ofScalar _ rfl

/-- A type is read from its name, and from the name in any case of letters with blanks before it,
after it and around its brackets.  What is read as a type spells it so, by the name of what its
arrays hold in the end or by a second name of that. -/
theorem names_are_read_back :
    (∀ type : DataType, Spells scalars type type.name.toList ∧ read type.name = .ok type) ∧
    (∀ type text, Spells scalars type text.toList → read text = .ok type) ∧
    ∀ type text, read text = .ok type ↔ Spells (scalars ++ aliases) type text.toList := by
  have isKnown : ∀ {type chars}, Spells scalars type chars →
      Spells (scalars ++ aliases) type chars :=
    fun spells => spells.mono (List.subset_append_left scalars aliases)
  refine ⟨?_, ?_, ?_⟩
  · intro type
    exact ⟨spells_name type, read_of_spells (isKnown (spells_name type))⟩
  · intro type text spells
    exact read_of_spells (isKnown spells)
  · intro type text
    exact read_eq_ok_iff

/-- Arrays of arrays of big integers, with capital letters, and blanks wherever they may be. -/
theorem spaced_name_is_read :
    Spells scalars (.array (.array .bigInteger)) " Big_INTEGER\t[]\u2003\n[] ".toList ∧
      read " Big_INTEGER\t[]\u2003\n[] " = .ok (.array (.array .bigInteger)) := by
  have isName : ("big_integer", bigInteger) ∈ scalars := by decide
  have sameLetters : SameLetters "Big_INTEGER".toList "big_integer".toList := by
    unfold SameLetters
    decide
  have areBlank : AreBlank [' '] ∧ AreBlank ['\t'] ∧ AreBlank ['\u2003', '\n'] := by
    simp [AreBlank, Text.isBlank]
  have arePairs := (SpacedPairs.none.pair areBlank.2.1).pair areBlank.2.2
  have spells : Spells scalars (.array (.array .bigInteger))
      " Big_INTEGER\t[]\u2003\n[] ".toList := by
    simpa [nest] using Spells.intro isName sameLetters arePairs areBlank.1 areBlank.1
  exact ⟨spells, names_are_read_back.2.1 _ _ spells⟩

end JsonTables.DataType
