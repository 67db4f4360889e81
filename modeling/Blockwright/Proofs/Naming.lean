import Blockwright.Dialect.Table
import Blockwright.Proofs.Encoding

/-!
# Naming conventions

A tag of hyphenated words is written in camel case, in Pascal case or with
underscores.  The humps of the first two stand where the underscores of the third
do, so that breaking a name at its humps gives the third form back, and no two tags
share a name in any language.  Here every word has at least two characters: a
capitalised word of one letter leaves no small letter or digit before the next hump.

Snake case only lowers letters and adds underscores, and there is nothing left to
break in what it gives.
-/

namespace Blockwright

namespace Text

/-! ## Letters -/

theorem isUpperAscii_iff
    (c : Char) :
    isUpperAscii c = true ↔ 65 ≤ c.toNat ∧ c.toNat ≤ 90 := by
  simp [isUpperAscii, Char.le_def, UInt32.le_iff_toNat_le]

theorem isLowerAscii_iff
    (c : Char) :
    isLowerAscii c = true ↔ 97 ≤ c.toNat ∧ c.toNat ≤ 122 := by
  simp [isLowerAscii, Char.le_def, UInt32.le_iff_toNat_le]

theorem isDigitAscii_iff
    (c : Char) :
    isDigitAscii c = true ↔ 48 ≤ c.toNat ∧ c.toNat ≤ 57 := by
  simp [isDigitAscii, Char.le_def, UInt32.le_iff_toNat_le]

/-- A capital of the two blocks is 32 places before its small letter. -/
theorem toNat_lowerChar
    (c : Char) :
    (lowerChar c).toNat =
      if 65 ≤ c.toNat ∧ c.toNat ≤ 90 ∨ 192 ≤ c.toNat ∧ c.toNat ≤ 222 ∧ c.toNat ≠ 215 then
        c.toNat + 32
      else
        c.toNat := by
  have capital :
      (isUpperAscii c || ('\xc0' ≤ c && c ≤ '\xde' && c != '\xd7')) = true ↔
        65 ≤ c.toNat ∧ c.toNat ≤ 90 ∨ 192 ≤ c.toNat ∧ c.toNat ≤ 222 ∧ c.toNat ≠ 215 := by
    rw [Bool.or_eq_true, isUpperAscii_iff]
    simp [Char.le_def, UInt32.le_iff_toNat_le, ← Char.toNat_inj, and_assoc]
  rw [lowerChar, apply_ite Char.toNat]
  by_cases raised : 65 ≤ c.toNat ∧ c.toNat ≤ 90 ∨ 192 ≤ c.toNat ∧ c.toNat ≤ 222 ∧ c.toNat ≠ 215
  · rw [if_pos (capital.2 raised), if_pos raised]
    exact Utf8.toNat_ofNat _ (Or.inl (by omega))
  · rw [if_neg (mt capital.1 raised), if_neg raised]

theorem isUpperAscii_lowerChar
    (c : Char) :
    isUpperAscii (lowerChar c) = false := by
  rw [Bool.eq_false_iff, Ne, isUpperAscii_iff, toNat_lowerChar]
  split <;> omega

theorem lowerChar_lowerChar
    (c : Char) :
    lowerChar (lowerChar c) = lowerChar c := by
  rw [← Char.toNat_inj, toNat_lowerChar, if_neg]
  rw [toNat_lowerChar]
  split <;> omega

theorem lowerChar_eq_underscore_iff
    (c : Char) :
    lowerChar c = '_' ↔ c = '_' := by
  have code : '_'.toNat = 95 := rfl
  rw [← Char.toNat_inj, ← Char.toNat_inj, toNat_lowerChar, code]
  split <;> omega

/-- A small letter or a digit, after which a capital begins a hump. -/
def isLow (c : Char) : Bool :=
  isLowerAscii c || isDigitAscii c

theorem isLow_iff
    (c : Char) :
    isLow c = true ↔ 97 ≤ c.toNat ∧ c.toNat ≤ 122 ∨ 48 ≤ c.toNat ∧ c.toNat ≤ 57 := by
  rw [isLow, Bool.or_eq_true, isLowerAscii_iff, isDigitAscii_iff]

theorem lowerChar_of_isLow
    {c : Char}
    (low : isLow c) :
    lowerChar c = c := by
  rw [isLow_iff] at low
  rw [← Char.toNat_inj, toNat_lowerChar, if_neg (by omega)]

theorem isUpperAscii_of_isLow
    {c : Char}
    (low : isLow c) :
    isUpperAscii c = false := by
  rw [← lowerChar_of_isLow low]
  exact isUpperAscii_lowerChar c

/-- A small letter at the head of a capitalised word is one capital that it is the lower case of. -/
theorem exists_titleChar_eq
    {c : Char}
    (small : isLowerAscii c) :
    ∃ capital, titleChar c = [capital] ∧ isUpperAscii capital ∧ lowerChar capital = c := by
  have bounds := (isLowerAscii_iff c).1 small
  have code : (Char.ofNat (c.toNat - 32)).toNat = c.toNat - 32 :=
    Utf8.toNat_ofNat _ (Or.inl (by omega))
  refine ⟨Char.ofNat (c.toNat - 32), ?_, ?_, ?_⟩
  · rw [titleChar, small, Bool.true_or, if_pos rfl]
  · rw [isUpperAscii_iff, code]
    omega
  · rw [← Char.toNat_inj, toNat_lowerChar, code, if_pos (by omega)]
    omega

/-! ## Humps -/

/-- What stands between two neighbours in a name that is broken at its humps. -/
def humpMark (first second : Char) : Text :=
  if isLow first && isUpperAscii second then ['_'] else []

theorem breakHumps_cons_cons
    (first second : Char) (rest : Text) :
    breakHumps (first :: second :: rest) =
      first :: humpMark first second ++ breakHumps (second :: rest) := by
  rw [breakHumps, humpMark, isLow]
  split <;> rfl

/-- A text without capitals behind its first letter is broken nowhere. -/
theorem breakHumps_of_flat
    (first : Char)
    {rest : Text}
    (flat : ∀ c ∈ rest, isUpperAscii c = false) :
    breakHumps (first :: rest) = first :: rest := by
  induction rest generalizing first with
  | nil => rfl
  | cons second more ih =>
      rcases List.forall_mem_cons.1 flat with ⟨small, others⟩
      rw [breakHumps_cons_cons, humpMark, small, Bool.and_false, ih second others]
      rfl

/-- Where a hump begins, what stands before it and what follows are broken on their own. -/
theorem breakHumps_append
    {front text : Text}
    (ends : ∃ c ∈ front.getLast?, isLow c)
    (begins : ∃ c ∈ text.head?, isUpperAscii c) :
    breakHumps (front ++ text) = breakHumps front ++ '_' :: breakHumps text := by
  induction front with
  | nil =>
      rcases ends with ⟨c, last, -⟩
      exact absurd last (by simp)
  | cons first rest ih =>
      cases rest with
      | nil =>
          cases text with
          | nil =>
              rcases begins with ⟨c, head, -⟩
              exact absurd head (by simp)
          | cons second more =>
              have low : isLow first := by simpa using ends
              have capital : isUpperAscii second := by simpa using begins
              rw [List.singleton_append, breakHumps_cons_cons, humpMark, low, capital]
              rfl
      | cons second more =>
          rw [List.getLast?_cons_cons] at ends
          rw [List.cons_append, List.cons_append, breakHumps_cons_cons, ← List.cons_append, ih ends,
            breakHumps_cons_cons, List.append_assoc]

theorem filter_breakHumps
    (name : Text) :
    (breakHumps name).filter (· ≠ '_') = name.filter (· ≠ '_') := by
  have unmarked (first second : Char) : (humpMark first second).filter (· ≠ '_') = [] := by
    rw [humpMark]
    split <;> rfl
  induction name with
  | nil => rfl
  | cons first rest ih =>
      cases rest with
      | nil => rfl
      | cons second more =>
          rw [breakHumps_cons_cons, ← List.singleton_append, List.append_assoc,
            List.filter_append, List.filter_append, unmarked, ih, List.nil_append,
            ← List.filter_append, List.singleton_append]

/-! ## Snake case -/

theorem isUpperAscii_of_mem_snakeCase
    {c : Char} {name : Text}
    (member : c ∈ snakeCase name) :
    isUpperAscii c = false := by
  rcases List.mem_map.1 member with ⟨raw, _, rfl⟩
  exact isUpperAscii_lowerChar raw

theorem lower_lower
    (name : Text) :
    lower (lower name) = lower name := by
  rw [lower, lower, List.map_map]
  exact List.map_congr_left fun c _ => lowerChar_lowerChar c

/-- Nothing is left to break or to lower in a name in snake case. -/
theorem snakeCase_snakeCase
    (name : Text) :
    snakeCase (snakeCase name) = snakeCase name := by
  have flat : breakHumps (snakeCase name) = snakeCase name := by
    cases broken : snakeCase name with
    | nil => rfl
    | cons first rest =>
        apply breakHumps_of_flat
        intro c member
        have inside : c ∈ snakeCase name := broken ▸ List.mem_cons_of_mem first member
        exact isUpperAscii_of_mem_snakeCase inside
  rw [snakeCase, flat]
  exact lower_lower (breakHumps name)

/-- Up to underscores, a name in snake case is the name in lower case. -/
theorem filter_snakeCase
    (name : Text) :
    (snakeCase name).filter (· ≠ '_') = (lower name).filter (· ≠ '_') := by
  have kept : (fun c => decide (c ≠ '_')) ∘ lowerChar = fun c => decide (c ≠ '_') := by
    funext c
    exact decide_eq_decide.2 (not_congr (lowerChar_eq_underscore_iff c))
  rw [snakeCase, lower, lower, List.filter_map, List.filter_map, kept, filter_breakHumps]

theorem snakeCase_append
    {front text : Text}
    (ends : ∃ c ∈ front.getLast?, isLow c)
    (begins : ∃ c ∈ text.head?, isUpperAscii c) :
    snakeCase (front ++ text) = snakeCase front ++ '_' :: snakeCase text := by
  rw [snakeCase, breakHumps_append ends begins, lower, List.map_append, List.map_cons]
  rfl

/-! ## Words -/

/-- A small letter and at least one small letter or digit more. -/
def IsWord : Text → Prop
  | [] => False
  | first :: rest => isLowerAscii first ∧ rest ≠ [] ∧ ∀ c ∈ rest, isLow c

instance : (word : Text) → Decidable (IsWord word)
  | [] => inferInstanceAs (Decidable False)
  | _ :: rest =>
      have := List.decidableBAll (fun c => isLow c) rest
      inferInstanceAs (Decidable (_ ∧ _ ∧ _))

/-- A tag of hyphenated words. -/
def Hyphenated (tag : Text) : Prop :=
  ∀ word ∈ words tag, IsWord word

instance (tag : Text) : Decidable (Hyphenated tag) :=
  List.decidableBAll _ _

theorem lower_of_isLow
    {text : Text}
    (low : ∀ c ∈ text, isLow c) :
    lower text = text := by
  rw [lower, List.map_congr_left fun c member => lowerChar_of_isLow (low c member), List.map_id']

/-- A piece of a name that is read as a word, and after which a capital begins a hump. -/
structure Spells (piece word : Text) : Prop where
  snakeCase_eq : snakeCase piece = word
  ends : ∃ c ∈ piece.getLast?, isLow c

theorem spells_cons
    (head : Char)
    {rest : Text}
    (some : rest ≠ [])
    (low : ∀ c ∈ rest, isLow c) :
    Spells (head :: rest) (lowerChar head :: rest) := by
  constructor
  · rw [snakeCase, breakHumps_of_flat head fun c member => isUpperAscii_of_isLow (low c member)]
    exact congrArg (lowerChar head :: ·) (lower_of_isLow low)
  · refine ⟨rest.getLast some, ?_, low _ (List.getLast_mem some)⟩
    rw [List.getLast?_cons, List.getLast?_eq_some_getLast some]
    rfl

namespace IsWord

variable {word : Text} (isWord : IsWord word)

include isWord

theorem isLow_of_mem
    {c : Char}
    (member : c ∈ word) :
    isLow c := by
  cases word with
  | nil => exact isWord.elim
  | cons first rest =>
      rcases isWord with ⟨small, -, low⟩
      rcases List.mem_cons.1 member with rfl | member
      · rw [isLow, small, Bool.true_or]
      · exact low c member

theorem spells_self :
    Spells word word := by
  have low : ∀ c ∈ word, isLow c := fun c => isWord.isLow_of_mem
  cases word with
  | nil => exact isWord.elim
  | cons first rest =>
      have spells := spells_cons first isWord.2.1 isWord.2.2
      rwa [lowerChar_of_isLow (low first List.mem_cons_self)] at spells

/-- A capitalised word begins a hump, and is read as the word. -/
theorem capitalized :
    Spells (capitalize word) word ∧ ∃ c ∈ (capitalize word).head?, isUpperAscii c := by
  cases word with
  | nil => exact isWord.elim
  | cons first rest =>
      rcases isWord with ⟨small, some, low⟩
      rcases exists_titleChar_eq small with ⟨capital, raised, isCapital, lowered⟩
      have spelled : capitalize (first :: rest) = capital :: rest := by
        rw [capitalize, raised, lower_of_isLow low]
        rfl
      have spells := spells_cons capital some low
      rw [lowered] at spells
      rw [spelled]
      exact ⟨spells, capital, rfl, isCapital⟩

end IsWord

/-- Behind a word, capitalised words are set apart by the humps that they begin. -/
theorem Spells.snakeCase_append
    {piece word : Text} {others : List Text}
    (spells : Spells piece word)
    (areWords : ∀ other ∈ others, IsWord other) :
    snakeCase (piece ++ others.flatMap capitalize) = List.intercalate ['_'] (word :: others) := by
  induction others generalizing piece word with
  | nil => rw [List.flatMap_nil, List.append_nil, spells.snakeCase_eq,
      List.intercalate_singleton]
  | cons next more ih =>
      rcases List.forall_mem_cons.1 areWords with ⟨isWord, areMore⟩
      rcases isWord.capitalized with ⟨nextSpells, c, head, isCapital⟩
      have begins : ∃ c ∈ ((next :: more).flatMap capitalize).head?, isUpperAscii c :=
        ⟨c, by rw [List.flatMap_cons, List.head?_append, head]; rfl, isCapital⟩
      calc
        snakeCase (piece ++ (next :: more).flatMap capitalize) =
            word ++ '_' :: snakeCase (capitalize next ++ more.flatMap capitalize) := by
          rw [Text.snakeCase_append spells.ends begins, spells.snakeCase_eq, List.flatMap_cons]
        _ = word ++ ['_'] ++ List.intercalate ['_'] (next :: more) := by
          rw [ih nextSpells areMore, List.append_assoc, List.singleton_append]
        _ = List.intercalate ['_'] (word :: next :: more) := List.intercalate_cons_cons.symm

/-! ## Tags -/

theorem map_intercalate
    (f : Char → Char) (separator : Text) (pieces : List Text) :
    (List.intercalate separator pieces).map f =
      List.intercalate (separator.map f) (pieces.map (List.map f)) := by
  induction pieces using List.intersperse.induct with
  | case1 => rfl
  | case2 only => simp
  | case3 first others more ih =>
      rw [List.intercalate_cons_of_ne_nil more, List.map_append, List.map_append, ih,
        List.map_cons, List.intercalate_cons_of_ne_nil (mt List.map_eq_nil_iff.1 more)]

/-- With underscores, the words of a tag are joined as they are. -/
theorem underscored_eq
    (tag : Text) :
    underscored tag = List.intercalate ['_'] (words tag) := by
  have kept (word : Text) (member : word ∈ words tag) :
      word.map (fun c => if c = '-' then '_' else c) = word := by
    have whole : '-' ∉ word := not_mem_of_mem_splitOn member
    refine (List.map_congr_left fun c inside => if_neg ?_).trans (List.map_id' word)
    rintro rfl
    exact whole inside
  have joined : List.intercalate ['-'] (words tag) = tag := List.intercalate_splitOn '-'
  conv_lhs => rw [underscored, ← joined, map_intercalate]
  rw [List.map_congr_left kept, List.map_id']
  rfl

namespace Hyphenated

variable {tag : Text} (hyphenated : Hyphenated tag)

include hyphenated

theorem exists_words_eq :
    ∃ first others,
      words tag = first :: others ∧ IsWord first ∧ ∀ other ∈ others, IsWord other := by
  rcases List.exists_cons_of_ne_nil (List.splitOn_ne_nil '-' tag) with ⟨first, others, pieces⟩
  have areWords := hyphenated
  rw [Hyphenated, words, pieces, List.forall_mem_cons] at areWords
  exact ⟨first, others, pieces, areWords⟩

theorem snakeCase_camelCase :
    snakeCase (camelCase tag) = underscored tag := by
  rcases hyphenated.exists_words_eq with ⟨first, others, pieces, isWord, areWords⟩
  rw [underscored_eq, camelCase, pieces]
  exact isWord.spells_self.snakeCase_append areWords

theorem snakeCase_pascalCase :
    snakeCase (pascalCase tag) = underscored tag := by
  rcases hyphenated.exists_words_eq with ⟨first, others, pieces, isWord, areWords⟩
  rw [underscored_eq, pascalCase, pieces]
  exact isWord.capitalized.1.snakeCase_append areWords

/-- A capitalised word of one letter is not told from the next. -/
example : snakeCase (pascalCase "is-x-axis") = "is_xaxis".toList := by decide

theorem underscore_not_mem :
    '_' ∉ tag := by
  rw [← exists_mem_splitOn_iff (by decide : '_' ≠ '-')]
  rintro ⟨word, member, inside⟩
  exact absurd ((hyphenated word member).isLow_of_mem inside) (by decide)

end Hyphenated

theorem underscored_inj
    {first second : Text}
    (firstPlain : '_' ∉ first)
    (secondPlain : '_' ∉ second)
    (same : underscored first = underscored second) :
    first = second := by
  have restored {tag : Text} (plain : '_' ∉ tag) :
      (underscored tag).map (fun c => if c = '_' then '-' else c) = tag := by
    rw [underscored, List.map_map]
    refine (List.map_congr_left fun c member => ?_).trans (List.map_id tag)
    have other : c ≠ '_' := by
      rintro rfl
      exact plain member
    by_cases hyphen : c = '-' <;> simp [hyphen, other]
  rw [← restored firstPlain, same, restored secondPlain]

end Text

/-! ## Names in a language -/

namespace Language

/-- The name that a language makes of a tag. -/
def memberName (language : Language) (tag : Text) : Text :=
  match language with
  | .csharp => Text.pascalCase tag
  | .java => Text.camelCase tag
  | .javascript => Text.camelCase tag
  | .python => Text.underscored tag

theorem utilityName_eq
    (language : Language) (utility : Utility) :
    language.utilityName utility = language.memberName utility.name := by
  cases language <;> rfl

/-- A name in any language gives the words of its tag back. -/
theorem snakeCase_memberName
    (language : Language)
    {tag : Text}
    (hyphenated : tag.Hyphenated) :
    Text.snakeCase (language.memberName tag) = Text.underscored tag := by
  cases language with
  | csharp => exact hyphenated.snakeCase_pascalCase
  | java | javascript => exact hyphenated.snakeCase_camelCase
  | python => rw [memberName, ← hyphenated.snakeCase_camelCase, Text.snakeCase_snakeCase]

theorem memberName_inj
    (language : Language)
    {first second : Text}
    (firstHyphenated : first.Hyphenated)
    (secondHyphenated : second.Hyphenated)
    (same : language.memberName first = language.memberName second) :
    first = second := by
  have snake := congrArg Text.snakeCase same
  rw [language.snakeCase_memberName firstHyphenated,
    language.snakeCase_memberName secondHyphenated] at snake
  exact
    Text.underscored_inj firstHyphenated.underscore_not_mem secondHyphenated.underscore_not_mem
      snake

end Language

theorem Utility.hyphenated_name
    (utility : Utility) :
    Text.Hyphenated utility.name := by
  cases utility <;> decide

/-- No two utilities share a name in any language. -/
theorem Language.utilityName_injective
    (language : Language) :
    Function.Injective language.utilityName := by
  intro first second same
  rw [utilityName_eq, utilityName_eq] at same
  have names : first.name = second.name :=
    String.toList_inj.1
      (language.memberName_inj first.hyphenated_name second.hyphenated_name same)
  revert names
  cases first <;> cases second <;> decide

/--
The naming conventions agree.  Camel case and Pascal case, broken at their humps, give
the words of a tag with underscores; so two tags never share a name in a language.  What
is in snake case stays as it is, and is the name in lower case up to underscores.
-/
theorem Language.namingConventions_agree
    (language : Language) :
    (∀ tag : Text,
        tag.Hyphenated →
          Text.snakeCase (Text.camelCase tag) = Text.underscored tag ∧
            Text.snakeCase (Text.pascalCase tag) = Text.underscored tag) ∧
      (∀ utility : Utility, language.utilityName utility = language.memberName utility.name) ∧
      (∀ first second : Text,
        first.Hyphenated →
          second.Hyphenated →
            first ≠ second → language.memberName first ≠ language.memberName second) ∧
      ∀ name : Text,
        Text.snakeCase (Text.snakeCase name) = Text.snakeCase name ∧
          (Text.snakeCase name).filter (· ≠ '_') = (Text.lower name).filter (· ≠ '_') := by
  refine ⟨?_, language.utilityName_eq, ?_, ?_⟩
  · intro tag hyphenated
    exact ⟨hyphenated.snakeCase_camelCase, hyphenated.snakeCase_pascalCase⟩
  · intro first second firstHyphenated secondHyphenated different same
    exact different (language.memberName_inj firstHyphenated secondHyphenated same)
  · intro name
    exact ⟨Text.snakeCase_snakeCase name, Text.filter_snakeCase name⟩

/-- Two tags whose names differ in the case of one letter only. -/
theorem decodingTags_apart :
    let parted : Text := "base64-de-code"
    let whole : Text := "base64-decode"
    parted.Hyphenated ∧
      whole.Hyphenated ∧
      parted ≠ whole ∧
      Text.camelCase parted = "base64DeCode".toList ∧
      Text.snakeCase (Text.camelCase parted) = "base64_de_code".toList ∧
      Language.java.memberName parted ≠ Language.java.memberName whole := by
  intro parted whole
  have partedHyphenated : parted.Hyphenated := by decide
  have wholeHyphenated : whole.Hyphenated := by decide
  have different : parted ≠ whole := by decide
  rcases Language.namingConventions_agree .java with ⟨agree, -, apart, -⟩
  have snake : Text.underscored parted = "base64_de_code".toList := by decide
  exact
    ⟨partedHyphenated, wholeHyphenated, different, by decide,
      (agree parted partedHyphenated).1.trans snake,
      apart parted whole partedHyphenated wholeHyphenated different⟩

end Blockwright
