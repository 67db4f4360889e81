import Blockwright.Proofs.Guarded.Spelling
import Blockwright.Proofs.LineBreaks.Quoting

/-!
# Filling in one pass

A template that is given in its notation is read from left to right and filled at the
same time.  `Begins` says which segment a text begins with: a character that is no dollar
sign, two dollar signs, or a dollar sign and a name, in braces or not.  `Scans` follows
one segment after another, up to a given rest.

Filling succeeds just if the whole text is scanned, and then every segment is written in
its place: a character as it is, one dollar sign for two, and for a name the text that it
stands for.  What is written is not looked at again.  Filling fails just if the scan comes
to a dollar sign that begins no segment.
-/

namespace Blockwright

/-! ## Names -/

namespace Text

/-- A text is what stands before its first separator, the separator and what follows it. -/
theorem eq_append_of_cut
    {separator : Char} {text front rest : Text}
    (found : cut separator text = (front, some rest)) :
    text = front ++ separator :: rest := by
  have whole := List.takeWhile_append_dropWhile (p := (· != separator)) (l := text)
  unfold cut at found
  split at found
  · simp at found
  · next c more after =>
      obtain ⟨rfl, rfl⟩ : text.takeWhile (· != separator) = front ∧ more = rest := by
        simpa using found
      have stop := List.head?_dropWhile_not (· != separator) text
      obtain rfl : c = separator := by simpa [after] using stop
      rw [after] at whole
      exact whole.symm

end Text

/-- A slot is asked for by the name that it was read from. -/
theorem Slot.key_ofKey
    (name : Text) :
    (ofKey name).key = name := by
  unfold ofKey
  split
  · next word c property parts =>
      have spelled := Text.eq_append_of_cut parts
      split
      · next same => rw [spelled, same]; rfl
      · split
        · next same => rw [spelled, same]; rfl
        · split
          · next same => rw [spelled, same]; rfl
          · rfl
  · rfl

namespace Fields

/--
The text that a name stands for: one that is given for it, or else that of a property.  A
word before the first underscore may ask for the literal of a property or for the type
that it names.
-/
def named (fields : Fields) (extra : List (Text × Text)) (name : Text) : Text :=
  match extra.find? (·.1 = name) with
  | some (_, text) => text
  | none =>
      match Text.cut '_' name with
      | (word, some (c :: property)) =>
          let value := fields.text (c :: property)
          if word = "quoted" then Text.quote value
          else if word = "native" then TypeName.spell fields.language false value
          else if word = "boxed" then TypeName.spell fields.language true value
          else fields.text name
      | _ => fields.text name

theorem slotWith_ofKey
    (fields : Fields) (extra : List (Text × Text)) (name : Text) :
    fields.slotWith extra (Slot.ofKey name) = fields.named extra name := by
  rw [slotWith, Slot.key_ofKey, named]
  cases extra.find? (·.1 = name) with
  | some given => rfl
  | none =>
      simp only [Slot.ofKey]
      rcases Text.cut '_' name with ⟨word, _ | _ | ⟨c, property⟩⟩
      · rfl
      · rfl
      · simp only
        split_ifs <;> rfl

/-- A template that is given in its notation, filled from the properties. -/
def fillText
    (fields : Fields) (extra : List (Text × Text)) (text : Text) :
    Except Template.Fault Text :=
  (Template.read text).map (Template.fill (fields.slotWith extra))

end Fields

namespace Template

/-! ## Scanning -/

/-- What a template's notation consists of. -/
inductive Segment where
  | literal (c : Char)
  | dollar
  | placeholder (name : Text)
  deriving DecidableEq, Repr

/-- The part of a template that a segment is read as. -/
def Segment.piece : Segment → Piece
  | .literal c => .literal [c]
  | .dollar => .literal ['$']
  | .placeholder name => .slot (Slot.ofKey name)

/-- What is written for a segment, given the texts that names stand for. -/
def Segment.text (named : Text → Text) : Segment → Text
  | .literal c => [c]
  | .dollar => ['$']
  | .placeholder name => named name

/-- A text begins with a segment, and the given text follows. -/
inductive Begins : Text → Segment → Text → Prop where
  | literal {c : Char} {rest : Text} :
      c ≠ '$' → Begins (c :: rest) (.literal c) rest
  | dollar {rest : Text} :
      Begins ('$' :: '$' :: rest) .dollar rest
  | name {name rest : Text} :
      IsName name →
        rest.head?.all (!continuesName ·) →
          Begins ('$' :: (name ++ rest)) (.placeholder name) rest
  | braces {name rest : Text} :
      IsName name →
        Begins ('$' :: '{' :: (name ++ '}' :: rest)) (.placeholder name) rest

/-- Scanning a text from left to right meets the segments of a list and comes to a rest. -/
inductive Scans : Text → List Segment → Text → Prop where
  | stop {rest : Text} : Scans rest [] rest
  | step {text middle rest : Text} {segment : Segment} {segments : List Segment} :
      Begins text segment middle →
        Scans middle segments rest →
          Scans text (segment :: segments) rest

/-- A text begins with a dollar sign that introduces nothing. -/
def Stuck (text : Text) : Prop :=
  text.head? = some '$' ∧ ∀ segment rest, ¬Begins text segment rest

theorem IsName.ne_nil
    {name : Text}
    (isName : IsName name) :
    name ≠ [] := by
  obtain ⟨c, rest, rfl, _⟩ := isName
  exact List.cons_ne_nil c rest

theorem introduced?_braces
    {name : Text}
    (isName : IsName name)
    (rest : Text) :
    introduced? ('{' :: (name ++ '}' :: rest)) =
      some (.slot (Slot.ofKey name), name.length + 2) := by
  have read : nameAt (name ++ '}' :: rest) = name := nameAt_append isName rfl
  simp [introduced?, read, isName.ne_nil]

/-- The name at the front of a text is a name, if there is one, and goes as far as it can. -/
theorem nameAt_cases
    (text : Text) :
    nameAt text = [] ∨
      ∃ name rest,
        text = name ++ rest ∧
          IsName name ∧
          rest.head?.all (!continuesName ·) := by
  by_cases opens : (text.head?.map startsName).getD false
  · cases text with
    | nil => exact .inl rfl
    | cons c more =>
        have starts : startsName c := opens
        refine .inr ⟨c :: more.takeWhile continuesName, more.dropWhile continuesName, ?_,
          ⟨c, _, rfl, starts, List.all_takeWhile⟩, ?_⟩
        · rw [List.cons_append, List.takeWhile_append_dropWhile]
        · have stop := List.head?_dropWhile_not continuesName more
          cases after : (more.dropWhile continuesName).head? with
          | none => rfl
          | some d => simpa [after] using stop
  · exact .inl (if_neg opens)

namespace Begins

theorem length_lt
    {text rest : Text} {segment : Segment}
    (begins : Begins text segment rest) :
    rest.length < text.length := by
  cases begins <;> simp only [List.length_cons, List.length_append] <;> omega

/-- A segment that a text begins with is read first. -/
theorem readFrom_eq
    {text rest : Text} {segment : Segment}
    (begins : Begins text segment rest) :
    readFrom text = (segment.piece :: ·) <$> readFrom rest := by
  cases begins with
  | literal plain => exact readFrom_plain plain rest
  | dollar => exact readFrom_dollar rest
  | name isName ended => exact readFrom_name isName ended
  | @braces name _ isName =>
      have dropped : ('{' :: (name ++ '}' :: rest)).drop (name.length + 2) = rest := by
        simp [List.drop_append]
      rw [readFrom, if_pos rfl, introduced?_braces isName]
      simp only [dropped]
      rfl

end Begins

/-- What a dollar sign introduces is a segment. -/
theorem exists_begins_of_introduced?
    {text : Text}
    (introduces : introduced? text ≠ none) :
    ∃ segment rest, Begins ('$' :: text) segment rest := by
  unfold introduced? at introduces
  split at introduces
  · exact ⟨_, _, .dollar⟩
  · next more =>
      have closed :
          nameAt more ≠ [] ∧ (more.drop (nameAt more).length).head? = some '}' := by
        simpa using introduces
      rcases nameAt_cases more with none | ⟨name, rest, rfl, isName, ended⟩
      · exact absurd none closed.1
      · rw [nameAt_append isName ended, List.drop_left] at closed
        obtain ⟨others, rfl⟩ := List.head?_eq_some_iff.1 closed.2
        exact ⟨_, _, .braces isName⟩
  · have named : nameAt text ≠ [] := by simpa using introduces
    rcases nameAt_cases text with none | ⟨name, rest, rfl, isName, ended⟩
    · exact absurd none named
    · exact ⟨_, _, .name isName ended⟩

theorem readFrom_of_stuck
    {text : Text}
    (stuck : Stuck text) :
    readFrom text = .error text.length := by
  obtain ⟨more, rfl⟩ := List.head?_eq_some_iff.1 stuck.1
  have nothing : introduced? more = none := by
    by_contra introduces
    obtain ⟨segment, rest, begins⟩ := exists_begins_of_introduced? introduces
    exact stuck.2 segment rest begins
  rw [readFrom, if_pos rfl, nothing]
  rfl

/-- A text is empty, or begins with a segment, or with a dollar sign that introduces nothing. -/
theorem exists_begins_or_stuck
    {text : Text}
    (some : text ≠ []) :
    (∃ segment rest, Begins text segment rest) ∨ Stuck text := by
  cases text with
  | nil => exact absurd rfl some
  | cons c more =>
      by_cases dollar : c = '$'
      · subst dollar
        by_cases begins : ∃ segment rest, Begins ('$' :: more) segment rest
        · exact .inl begins
        · exact .inr ⟨rfl, fun segment rest first => begins ⟨segment, rest, first⟩⟩
      · exact .inl ⟨_, _, .literal dollar⟩

/-- Every text is scanned to its end, or to a dollar sign that introduces nothing. -/
theorem exists_scans
    (text : Text) :
    ∃ segments rest, Scans text segments rest ∧ (rest = [] ∨ Stuck rest) := by
  by_cases some : text = []
  · exact ⟨[], text, .stop, .inl some⟩
  · rcases exists_begins_or_stuck some with ⟨segment, middle, begins⟩ | stuck
    · have shorter := begins.length_lt
      obtain ⟨segments, rest, scans, ends⟩ := exists_scans middle
      exact ⟨segment :: segments, rest, .step begins scans, ends⟩
    · exact ⟨[], text, .stop, .inr stuck⟩
termination_by text.length

/-- The segments that a scan meets are read in order, before the rest. -/
theorem Scans.readFrom_eq
    {text rest : Text} {segments : List Segment}
    (scans : Scans text segments rest) :
    readFrom text = (segments.map Segment.piece ++ ·) <$> readFrom rest := by
  induction scans with
  | stop => simp
  | step begins _ ih =>
      rw [begins.readFrom_eq, ih]
      simp

theorem fill_map_piece
    (fields : Fields) (extra : List (Text × Text)) (segments : List Segment) :
    fill (fields.slotWith extra) (segments.map Segment.piece) =
      segments.flatMap (Segment.text (fields.named extra)) := by
  rw [fill, List.flatMap_map]
  apply List.flatMap_congr
  intro segment _
  cases segment with
  | literal c => rfl
  | dollar => rfl
  | placeholder name => exact fields.slotWith_ofKey extra name

theorem Scans.fillText_eq_ok
    {text : Text} {segments : List Segment}
    (scans : Scans text segments [])
    (fields : Fields) (extra : List (Text × Text)) :
    fields.fillText extra text =
      .ok (segments.flatMap (Segment.text (fields.named extra))) := by
  have read : readFrom text = .ok (segments.map Segment.piece) := by
    rw [scans.readFrom_eq]
    simp [readFrom]
  rw [Fields.fillText, Template.read, read, ← fill_map_piece]
  rfl

theorem Scans.fillText_eq_error
    {text rest : Text} {segments : List Segment}
    (scans : Scans text segments rest)
    (stuck : Stuck rest)
    (fields : Fields) (extra : List (Text × Text)) :
    fields.fillText extra text = .error (placeOf text rest.length) := by
  have read : readFrom text = .error rest.length := by
    rw [scans.readFrom_eq, readFrom_of_stuck stuck]
    rfl
  rw [Fields.fillText, Template.read, read]
  rfl

/-- A text with its dollar signs doubled is scanned to the end. -/
theorem scans_replaceChar
    (text : Text) :
    Scans (Text.replaceChar '$' ['$', '$'] text)
      (text.map fun c => if c = '$' then .dollar else .literal c) [] := by
  induction text with
  | nil => exact .stop
  | cons c others ih =>
      rw [Text.replaceChar, List.flatMap_cons, List.map_cons]
      split
      · exact .step .dollar ih
      · next plain => exact .step (.literal plain) ih

end Template

namespace Fields

variable (fields : Fields) (extra : List (Text × Text))

theorem fillText_replaceChar
    (text : Text) :
    fields.fillText extra (Text.replaceChar '$' ['$', '$'] text) = .ok text := by
  have each (c : Char) :
      Template.Segment.text (fields.named extra) (if c = '$' then .dollar else .literal c) =
        [c] := by
    split
    · next same => rw [same]; rfl
    · rfl
  rw [(Template.scans_replaceChar text).fillText_eq_ok, List.flatMap_map]
  simp only [each, List.flatMap_singleton']

theorem fillText_eq_error_iff
    (text : Text) (fault : Template.Fault) :
    fields.fillText extra text = .error fault ↔
      ∃ segments rest,
        Template.Scans text segments rest ∧
          Template.Stuck rest ∧
          fault = Template.placeOf text rest.length := by
  constructor
  · intro failed
    obtain ⟨segments, rest, scans, rfl | stuck⟩ := Template.exists_scans text
    · rw [scans.fillText_eq_ok] at failed
      exact absurd failed (by simp)
    · rw [scans.fillText_eq_error stuck] at failed
      exact ⟨segments, rest, scans, stuck, (Except.error.inj failed).symm⟩
  · rintro ⟨segments, rest, scans, stuck, rfl⟩
    exact scans.fillText_eq_error stuck fields extra

theorem fillText_eq_ok_iff
    (text filled : Text) :
    fields.fillText extra text = .ok filled ↔
      ∃ segments,
        Template.Scans text segments [] ∧
          filled = segments.flatMap (Template.Segment.text (fields.named extra)) := by
  constructor
  · intro succeeded
    obtain ⟨segments, rest, scans, rfl | stuck⟩ := Template.exists_scans text
    · rw [scans.fillText_eq_ok] at succeeded
      exact ⟨segments, scans, (Except.ok.inj succeeded).symm⟩
    · rw [scans.fillText_eq_error stuck] at succeeded
      exact absurd succeeded (by simp)
  · rintro ⟨segments, scans, rfl⟩
    exact scans.fillText_eq_ok fields extra

end Fields

/--
Filling is one pass.  A text whose dollar signs are doubled is filled as itself, whatever
the properties are.  Filling fails just if a scan from left to right comes to a dollar
sign that neither is doubled nor introduces a name, and it fails there.  It succeeds just
if a scan comes to the end, and then writes each segment in its place, the text of a name
as it is.
-/
theorem Element.fillText_onePass
    (language : Language) (element : Element)
    (extra : List (Text × Text)) :
    let fields := element.fields language
    (∀ text : Text,
        fields.fillText extra (Text.replaceChar '$' ['$', '$'] text) = .ok text) ∧
      ∀ text : Text,
        (∀ fault : Template.Fault,
          fields.fillText extra text = .error fault ↔
            ∃ segments rest,
              Template.Scans text segments rest ∧
                Template.Stuck rest ∧
                fault = Template.placeOf text rest.length) ∧
        ∀ filled : Text,
          fields.fillText extra text = .ok filled ↔
            ∃ segments,
              Template.Scans text segments [] ∧
                filled = segments.flatMap (Template.Segment.text (fields.named extra)) := by
  intro fields
  refine ⟨fields.fillText_replaceChar extra, fun text => ⟨?_, ?_⟩⟩
  · exact fields.fillText_eq_error_iff extra text
  · exact fields.fillText_eq_ok_iff extra text

/-- A property that reads like a template is written as it is. -/
example :
    let element : Element := {
      type := "variable"
      properties := [("value", .text "$name ${name} $$")] }
    (element.fields .csharp).fillText [] "${name}_$value$$" =
      .ok "myVariable_$name ${name} $$$" := by
  cbv

end Blockwright
