import Mathlib.Data.List.Basic
import Mathlib.Data.List.TakeWhile
import Blockwright.Text.Utf8

/-!
# Bytes and texts

Reading bytes gives back the text that they encode, and every text that is read
encodes the bytes it was read from.  So bytes are refused just if they are not UTF-8
in the sense of the standard library, which is said without any decoder.
-/

namespace Blockwright.Utf8

/-- A byte that may stand after the second byte of a character. -/
def Trails (byte : UInt8) : Prop := 0x80 ≤ byte ∧ byte ≤ 0xbf

/-- Bytes that a lead expects after it: as many as it says, the first of them in its range. -/
structure Continues (lead : Lead) (others : List UInt8) : Prop where
  length : others.length = lead.following
  ranged : ∀ second ∈ others.head?, lead.low ≤ second ∧ second ≤ lead.high
  trailing : ∀ byte ∈ others.tail, Trails byte

/-! ## Characters -/

theorem encodeChar_injective :
    Function.Injective String.utf8EncodeChar := by
  intro first second same
  have found (c : Char) :
      (String.utf8EncodeChar c).toByteArray.utf8DecodeChar? 0 = some c := by
    simpa using @ByteArray.utf8DecodeChar?_utf8EncodeChar_append ByteArray.empty c
  have again := found first
  rw [same, found second] at again
  exact (Option.some.inj again).symm

theorem toNat_ofNat
    (code : Nat)
    (valid : code.isValidChar) :
    (Char.ofNat code).val.toNat = code := by
  rw [Char.ofNat, dif_pos valid]
  rfl

/-- A character below 128 is one byte. -/
theorem encodeChar_of_lt
    {first : UInt8}
    (small : first < 0x80) :
    String.utf8EncodeChar (Char.ofNat first.toNat) = [first] := by
  simp only [UInt8.lt_iff_toNat_lt, UInt8.reduceToNat] at small
  have code := toNat_ofNat first.toNat (Or.inl (by omega))
  simp only [String.utf8EncodeChar, code]
  rw [if_pos (by omega), UInt8.ofNat_toNat]

theorem encodeChar_two
    {first second : UInt8}
    (leads : 0xc2 ≤ first.toNat ∧ first.toNat ≤ 0xdf)
    (trails : 0x80 ≤ second.toNat ∧ second.toNat ≤ 0xbf) :
    String.utf8EncodeChar (Char.ofNat (first.toNat % 32 * 64 + second.toNat % 64)) =
      [first, second] := by
  have code :=
    toNat_ofNat (first.toNat % 32 * 64 + second.toNat % 64) (Or.inl (by omega))
  simp only [String.utf8EncodeChar, code]
  rw [if_neg (by omega), if_pos (by omega)]
  simp only [List.cons.injEq, ← UInt8.toNat_inj, UInt8.toNat_ofNat', and_true]
  omega

theorem encodeChar_three
    {first second third : UInt8}
    (leads : 0xe0 ≤ first.toNat ∧ first.toNat ≤ 0xef)
    (trails : 0x80 ≤ second.toNat ∧ second.toNat ≤ 0xbf)
    (ends : 0x80 ≤ third.toNat ∧ third.toNat ≤ 0xbf)
    (long : first.toNat = 0xe0 → 0xa0 ≤ second.toNat)
    (scalar : first.toNat = 0xed → second.toNat ≤ 0x9f) :
    String.utf8EncodeChar
        (Char.ofNat ((first.toNat % 16 * 64 + second.toNat % 64) * 64 + third.toNat % 64)) =
      [first, second, third] := by
  have code :=
    toNat_ofNat
      ((first.toNat % 16 * 64 + second.toNat % 64) * 64 + third.toNat % 64)
      (by unfold Nat.isValidChar; omega)
  simp only [String.utf8EncodeChar, code]
  rw [if_neg (by omega), if_neg (by omega), if_pos (by omega)]
  simp only [List.cons.injEq, ← UInt8.toNat_inj, UInt8.toNat_ofNat', and_true]
  omega

theorem encodeChar_four
    {first second third fourth : UInt8}
    (leads : 0xf0 ≤ first.toNat ∧ first.toNat ≤ 0xf4)
    (trails : 0x80 ≤ second.toNat ∧ second.toNat ≤ 0xbf)
    (goes : 0x80 ≤ third.toNat ∧ third.toNat ≤ 0xbf)
    (ends : 0x80 ≤ fourth.toNat ∧ fourth.toNat ≤ 0xbf)
    (long : first.toNat = 0xf0 → 0x90 ≤ second.toNat)
    (scalar : first.toNat = 0xf4 → second.toNat ≤ 0x8f) :
    String.utf8EncodeChar
        (Char.ofNat
          (((first.toNat % 8 * 64 + second.toNat % 64) * 64 + third.toNat % 64) * 64 +
            fourth.toNat % 64)) =
      [first, second, third, fourth] := by
  have code :=
    toNat_ofNat
      (((first.toNat % 8 * 64 + second.toNat % 64) * 64 + third.toNat % 64) * 64 +
        fourth.toNat % 64)
      (by unfold Nat.isValidChar; omega)
  simp only [String.utf8EncodeChar, code]
  rw [if_neg (by omega), if_neg (by omega), if_neg (by omega)]
  simp only [List.cons.injEq, ← UInt8.toNat_inj, UInt8.toNat_ofNat', and_true]
  omega

/-! ## Leads -/

theorem lead?_two
    {first : UInt8}
    (leads : 0xc2 ≤ first.toNat ∧ first.toNat ≤ 0xdf) :
    lead? first = some ⟨1, 0x80, 0xbf⟩ := by
  simp only [lead?, Bool.and_eq_true, decide_eq_true_eq, UInt8.le_iff_toNat_le, UInt8.reduceToNat]
  rw [if_pos leads]

theorem lead?_three
    {first : UInt8}
    (leads : 0xe0 ≤ first.toNat ∧ first.toNat ≤ 0xef) :
    ∃ low high,
      lead? first = some ⟨2, low, high⟩ ∧
        ∀ second : UInt8,
          (low ≤ second ∧ second ≤ high) ↔
            (0x80 ≤ second.toNat ∧ second.toNat ≤ 0xbf) ∧
              (first.toNat = 0xe0 → 0xa0 ≤ second.toNat) ∧
                (first.toNat = 0xed → second.toNat ≤ 0x9f) := by
  simp only [lead?, Bool.and_eq_true, decide_eq_true_eq, UInt8.le_iff_toNat_le,
    ← UInt8.toNat_inj, UInt8.reduceToNat]
  rw [if_neg (by omega)]
  repeat' split
  all_goals
    first
    | omega
    | refine ⟨_, _, rfl, fun second => ?_⟩
      simp only [UInt8.reduceToNat]
      omega

theorem lead?_four
    {first : UInt8}
    (leads : 0xf0 ≤ first.toNat ∧ first.toNat ≤ 0xf4) :
    ∃ low high,
      lead? first = some ⟨3, low, high⟩ ∧
        ∀ second : UInt8,
          (low ≤ second ∧ second ≤ high) ↔
            (0x80 ≤ second.toNat ∧ second.toNat ≤ 0xbf) ∧
              (first.toNat = 0xf0 → 0x90 ≤ second.toNat) ∧
                (first.toNat = 0xf4 → second.toNat ≤ 0x8f) := by
  simp only [lead?, Bool.and_eq_true, decide_eq_true_eq, UInt8.le_iff_toNat_le,
    ← UInt8.toNat_inj, UInt8.reduceToNat]
  repeat' split
  all_goals
    first
    | omega
    | refine ⟨_, _, rfl, fun second => ?_⟩
      simp only [UInt8.reduceToNat]
      omega

/-- A byte that leads is one of three kinds. -/
theorem lead?_cases
    {first : UInt8} {lead : Lead}
    (leads : lead? first = some lead) :
    (0xc2 ≤ first.toNat ∧ first.toNat ≤ 0xdf) ∨ (0xe0 ≤ first.toNat ∧ first.toNat ≤ 0xef) ∨
      (0xf0 ≤ first.toNat ∧ first.toNat ≤ 0xf4) := by
  simp only [lead?, Bool.and_eq_true, decide_eq_true_eq, UInt8.le_iff_toNat_le,
    ← UInt8.toNat_inj, UInt8.reduceToNat] at leads
  repeat' split at leads
  all_goals first | omega | simp at leads

/-- What a lead and the bytes after it are read as is encoded by them. -/
theorem encodeChar_assemble
    {first : UInt8} {lead : Lead} {others : List UInt8}
    (leads : lead? first = some lead)
    (continues : Continues lead others) :
    String.utf8EncodeChar (assemble lead first others) = first :: others := by
  obtain ⟨length, ranged, trailing⟩ := continues
  simp only [Trails, UInt8.le_iff_toNat_le, UInt8.reduceToNat] at trailing
  rcases lead?_cases leads with two | three | four
  · obtain rfl := Option.some.inj (leads.symm.trans (lead?_two two))
    obtain ⟨second, rfl⟩ := List.length_eq_one_iff.1 length
    exact encodeChar_two two (by simpa [UInt8.le_iff_toNat_le] using ranged second rfl)
  · obtain ⟨low, high, found, accepts⟩ := lead?_three three
    obtain rfl := Option.some.inj (leads.symm.trans found)
    obtain ⟨second, third, rfl⟩ := List.length_eq_two.1 length
    obtain ⟨trails, long, scalar⟩ := (accepts second).1 (ranged second rfl)
    exact encodeChar_three three trails (trailing third (by simp)) long scalar
  · obtain ⟨low, high, found, accepts⟩ := lead?_four four
    obtain rfl := Option.some.inj (leads.symm.trans found)
    obtain ⟨second, third, fourth, rfl⟩ := List.length_eq_three.1 length
    obtain ⟨trails, long, scalar⟩ := (accepts second).1 (ranged second rfl)
    exact encodeChar_four four trails (trailing third (by simp)) (trailing fourth (by simp))
      long scalar

/-- A character of several bytes is a lead with the bytes that it expects. -/
theorem exists_lead
    (c : Char)
    (large : 0x7f < c.val.toNat) :
    ∃ first lead others,
      String.utf8EncodeChar c = first :: others ∧ lead? first = some lead ∧
        Continues lead others := by
  have valid := c.valid
  unfold UInt32.isValidChar Nat.isValidChar at valid
  simp only [String.utf8EncodeChar]
  rw [if_neg (by omega)]
  by_cases two : c.val.toNat ≤ 0x7ff
  · rw [if_pos two]
    refine ⟨_, _, _, rfl, lead?_two ?_, rfl, ?_, ?_⟩
    · rw [UInt8.toNat_ofNat']
      omega
    · simp only [List.head?_cons, Option.mem_some_iff, forall_eq', UInt8.le_iff_toNat_le,
        UInt8.reduceToNat, UInt8.toNat_ofNat']
      omega
    · simp
  · rw [if_neg two]
    by_cases three : c.val.toNat ≤ 0xffff
    · rw [if_pos three]
      obtain ⟨low, high, found, accepts⟩ :=
        @lead?_three (UInt8.ofNat (c.val.toNat / 4096 % 16 + 224))
          (by rw [UInt8.toNat_ofNat']; omega)
      refine ⟨_, _, _, rfl, found, rfl, ?_, ?_⟩
      · simp only [List.head?_cons, Option.mem_some_iff, forall_eq', accepts, UInt8.toNat_ofNat']
        omega
      · simp only [List.tail_cons, List.mem_singleton, forall_eq, Trails, UInt8.le_iff_toNat_le,
          UInt8.reduceToNat, UInt8.toNat_ofNat']
        omega
    · rw [if_neg three]
      obtain ⟨low, high, found, accepts⟩ :=
        @lead?_four (UInt8.ofNat (c.val.toNat / 262144 % 8 + 240))
          (by rw [UInt8.toNat_ofNat']; omega)
      refine ⟨_, _, _, rfl, found, rfl, ?_, ?_⟩
      · simp only [List.head?_cons, Option.mem_some_iff, forall_eq', accepts, UInt8.toNat_ofNat']
        omega
      · simp only [List.tail_cons, List.forall_mem_cons, List.not_mem_nil, Trails,
          UInt8.le_iff_toNat_le, UInt8.reduceToNat, UInt8.toNat_ofNat', false_imp_iff,
          implies_true, and_true]
        omega

theorem following_pos
    {first : UInt8} {lead : Lead}
    (leads : lead? first = some lead) :
    0 < lead.following := by
  rcases lead?_cases leads with two | three | four
  · obtain rfl := Option.some.inj (leads.symm.trans (lead?_two two))
    exact Nat.one_pos
  · obtain ⟨low, high, found, -⟩ := lead?_three three
    obtain rfl := Option.some.inj (leads.symm.trans found)
    exact Nat.two_pos
  · obtain ⟨low, high, found, -⟩ := lead?_four four
    obtain rfl := Option.some.inj (leads.symm.trans found)
    exact Nat.succ_pos 2

/-! ## Reading and writing -/

/-- As many bytes as a lead expects are found after it just if they are what it expects. -/
theorem continuing_eq_iff
    {lead : Lead}
    (expects : 0 < lead.following)
    (rest : List UInt8) :
    continuing lead rest = lead.following ↔ Continues lead (rest.take lead.following) := by
  have short := List.length_take_le lead.following rest
  unfold continuing
  cases found : rest.take lead.following with
  | nil =>
      constructor
      · intro none
        exact absurd none expects.ne
      · intro continues
        exact absurd continues.length expects.ne
  | cons second others =>
      let trails (byte : UInt8) : Bool := 0x80 ≤ byte && byte ≤ 0xbf
      have trails_iff (byte : UInt8) : trails byte = true ↔ Trails byte := by
        simp [trails, Trails]
      have fewer := (List.takeWhile_prefix (l := others) trails).length_le
      rw [found, List.length_cons] at short
      by_cases ranged : lead.low ≤ second ∧ second ≤ lead.high
      · simp only [Bool.and_eq_true, decide_eq_true_eq, ranged, and_self, if_true]
        constructor
        · intro all
          change 1 + (others.takeWhile trails).length = lead.following at all
          have whole : others.takeWhile trails = others :=
            (List.takeWhile_prefix trails).eq_of_length (by omega)
          refine ⟨by rw [List.length_cons]; omega, by simpa using ranged, ?_⟩
          intro byte member
          exact (trails_iff byte).1 (List.takeWhile_eq_self_iff.1 whole byte member)
        · intro continues
          have whole : others.takeWhile trails = others :=
            List.takeWhile_eq_self_iff.2 fun byte member =>
              (trails_iff byte).2 (continues.trailing byte member)
          change 1 + (others.takeWhile trails).length = lead.following
          rw [whole, ← continues.length, List.length_cons, Nat.add_comm]
      · simp only [Bool.and_eq_true, decide_eq_true_eq, ranged, if_false]
        constructor
        · intro none
          exact absurd none expects.ne
        · intro continues
          exact absurd (continues.ranged second rfl) ranged

/-- Reading begins with the character that the first bytes encode. -/
theorem decodeFrom_encodeChar_append
    (offset : Nat) (c : Char) (rest : List UInt8) :
    decodeFrom offset (String.utf8EncodeChar c ++ rest) =
      (c :: ·) <$> decodeFrom (offset + (String.utf8EncodeChar c).length) rest := by
  by_cases small : c.val.toNat ≤ 0x7f
  · have bytes : String.utf8EncodeChar c = [UInt8.ofNat c.val.toNat] := by
      simp only [String.utf8EncodeChar]
      rw [if_pos small]
    have value : (UInt8.ofNat c.val.toNat).toNat = c.val.toNat := by
      rw [UInt8.toNat_ofNat']
      omega
    rw [bytes, List.singleton_append, decodeFrom]
    rw [if_pos (by simp only [UInt8.lt_iff_toNat_lt, value, UInt8.reduceToNat]; omega), value]
    exact congrArg (fun first => (first :: ·) <$> _) (Char.ofNat_toNat c)
  · obtain ⟨first, lead, others, bytes, leads, continues⟩ := exists_lead c (by omega)
    have large : ¬ first < 0x80 := by
      simp only [UInt8.lt_iff_toNat_lt, UInt8.reduceToNat]
      have := lead?_cases leads
      omega
    have taken : (others ++ rest).take lead.following = others := by
      rw [← continues.length, List.take_left]
    have found : continuing lead (others ++ rest) = lead.following := by
      rw [continuing_eq_iff (following_pos leads), taken]
      exact continues
    have read : assemble lead first others = c := by
      apply encodeChar_injective
      rw [encodeChar_assemble leads continues, bytes]
    rw [bytes, List.cons_append, decodeFrom, if_neg large]
    simp only [leads, found, if_true, taken, read]
    rw [← continues.length, List.drop_left, List.length_cons, Nat.add_assoc, Nat.add_comm 1]

/-- The text of the bytes that encode it. -/
theorem decode_encode
    (text : Text) :
    decode (encode text) = .ok text := by
  have read (offset : Nat) : decodeFrom offset (encode text) = .ok text := by
    induction text generalizing offset with
    | nil => rw [encode, List.flatMap_nil, decodeFrom]
    | cons c rest ih =>
        rw [encode, List.flatMap_cons, decodeFrom_encodeChar_append, ← encode, ih]
        rfl
  exact read 0

/-- A value of a mapped outcome comes from a value. -/
theorem exists_of_map_eq_ok
    {ε α β : Type} {f : α → β} {outcome : Except ε α} {value : β}
    (mapped : f <$> outcome = .ok value) :
    ∃ inner, outcome = .ok inner ∧ f inner = value := by
  cases outcome with
  | error fault => exact absurd mapped nofun
  | ok inner => exact ⟨inner, rfl, Except.ok.inj mapped⟩

/-- The bytes of a text that was read. -/
theorem encode_of_decodeFrom
    {offset : Nat} {bytes : List UInt8} {text : Text}
    (read : decodeFrom offset bytes = .ok text) :
    encode text = bytes := by
  fun_induction decodeFrom offset bytes generalizing text with
  | case1 =>
      obtain rfl := Except.ok.inj read
      rfl
  | case2 offset first rest small ih =>
      obtain ⟨others, later, rfl⟩ := exists_of_map_eq_ok read
      rw [encode, List.flatMap_cons, encodeChar_of_lt small, ← encode, ih later,
        List.singleton_append]
  | case4 offset first rest large lead leads found enough =>
      rename_i ih
      obtain ⟨others, later, rfl⟩ := exists_of_map_eq_ok read
      have continues : Continues lead (rest.take found) := by
        rw [enough]
        exact (continuing_eq_iff (following_pos leads) rest).1 enough
      rw [encode, List.flatMap_cons, encodeChar_assemble leads continues, ← encode, ih later,
        List.cons_append, List.take_append_drop]
  | _ => exact absurd read nofun

theorem decode_eq_ok_iff
    (bytes : List UInt8) (text : Text) :
    decode bytes = .ok text ↔ encode text = bytes := by
  constructor
  · exact encode_of_decodeFrom
  · rintro rfl
    exact decode_encode text

/-- Bytes are read just if they are UTF-8. -/
theorem exists_decode_eq_ok_iff
    (bytes : List UInt8) :
    (∃ text, decode bytes = .ok text) ↔ bytes.toByteArray.IsValidUTF8 := by
  constructor
  · rintro ⟨text, read⟩
    refine ⟨text, ?_⟩
    rw [List.utf8Encode, ← encode, (decode_eq_ok_iff bytes text).1 read]
  · rintro ⟨text, written⟩
    refine ⟨text, (decode_eq_ok_iff bytes text).2 ?_⟩
    exact (List.toByteArray_inj.1 written).symm

end Blockwright.Utf8
