import Blockwright.Proofs.Properties.Declared

/-!
# Templates in their notation

A template is spelled by writing its literal texts as they are, a dollar sign
twice, and each slot as a dollar sign and the slot's name.  A legible template
can be read back: `Template.read_spell` gives a template with the same slots that
is filled the same.  All templates of all languages are legible.
-/

namespace Blockwright

/-- A part of a template in its notation; a dollar sign of the text is written twice. -/
def Piece.spell : Piece → Text
  | .literal text => text.flatMap fun c => if c = '$' then ['$', '$'] else [c]
  | .slot asked => '$' :: asked.key

/-- A name of a slot: a letter or an underscore, then letters, underscores and digits. -/
def Template.IsName (name : Text) : Prop :=
  ∃ c rest, name = c :: rest ∧ startsName c ∧ rest.all continuesName

namespace Slot

/-- A dollar sign introduces the slot's name, and the name asks for the slot. -/
structure Nameable (slot : Slot) : Prop where
  starts : ∃ c ∈ slot.key.head?, Template.startsName c
  continues : slot.key.all Template.continuesName
  asks : ofKey slot.key = slot

instance (slot : Slot) : Decidable slot.Nameable :=
  have : Decidable (∃ c ∈ slot.key.head?, Template.startsName c) :=
    Option.decidableExistsMem slot.key.head?
  decidable_of_iff
    ((∃ c ∈ slot.key.head?, Template.startsName c) ∧
      slot.key.all Template.continuesName ∧ ofKey slot.key = slot)
    ⟨fun all => ⟨all.1, all.2.1, all.2.2⟩, fun nameable => ⟨nameable.1, nameable.2, nameable.3⟩⟩

theorem Nameable.isName
    {slot : Slot}
    (nameable : slot.Nameable) :
    Template.IsName slot.key := by
  obtain ⟨c, first, starts⟩ := nameable.starts
  obtain ⟨rest, key⟩ := List.head?_eq_some_iff.1 first
  have continues := nameable.continues
  rw [key, List.all_cons, Bool.and_eq_true] at continues
  exact ⟨c, rest, key, starts, continues.2⟩

end Slot

namespace Template

/-- A template in its notation. -/
def spell (template : Template) : Text :=
  template.flatMap Piece.spell

/-- No name of a slot runs on into what follows it. -/
def Legible : Template → Prop
  | [] => True
  | .literal _ :: others => Legible others
  | .slot slot :: others =>
      slot.Nameable ∧ (spell others).head?.all (!continuesName ·) ∧ Legible others

instance decidableLegible : (template : Template) → Decidable template.Legible
  | [] => isTrue trivial
  | .literal _ :: others => decidableLegible others
  | .slot slot :: others =>
      have := decidableLegible others
      inferInstanceAs
        (Decidable (slot.Nameable ∧ (spell others).head?.all (!continuesName ·) ∧ Legible others))

/-- The template that the notation of a template reads as: one part for each character of text. -/
def spread (template : Template) : Template :=
  template.flatMap fun
    | .literal text => text.map fun c => .literal [c]
    | .slot slot => [.slot slot]

/-! ## Reading back -/

theorem readFrom_dollar
    (rest : Text) :
    readFrom ('$' :: '$' :: rest) = (.literal ['$'] :: ·) <$> readFrom rest := by
  rw [readFrom]
  simp [introduced?]

theorem readFrom_plain
    {c : Char}
    (plain : c ≠ '$')
    (rest : Text) :
    readFrom (c :: rest) = (.literal [c] :: ·) <$> readFrom rest := by
  rw [readFrom, if_neg plain]

theorem continuesName_of_startsName
    {c : Char}
    (starts : startsName c) :
    continuesName c := by
  rw [continuesName, starts, Bool.true_or]

/-- A name at the front of a text goes as far as characters continue it. -/
theorem nameAt_append
    {name : Text}
    (isName : IsName name)
    {rest : Text}
    (ended : rest.head?.all (!continuesName ·)) :
    nameAt (name ++ rest) = name := by
  obtain ⟨c, others, rfl, starts, continues⟩ := isName
  have all : ∀ d ∈ c :: others, continuesName d :=
    List.forall_mem_cons.2 ⟨continuesName_of_startsName starts, List.all_eq_true.1 continues⟩
  have stops : rest.takeWhile continuesName = [] := by
    cases rest with
    | nil => rfl
    | cons d more =>
        have stop : continuesName d = false := by simpa using ended
        simp [stop]
  have opens : (((c :: others) ++ rest).head?.map startsName).getD false = true := starts
  rw [nameAt, if_pos opens, List.takeWhile_append_of_pos all, stops, List.append_nil]

theorem introduced?_append
    {name : Text}
    (isName : IsName name)
    {rest : Text}
    (ended : rest.head?.all (!continuesName ·)) :
    introduced? (name ++ rest) = some (.slot (Slot.ofKey name), name.length) := by
  have read := nameAt_append isName ended
  obtain ⟨c, others, rfl, starts, _⟩ := isName
  have notDollar : c ≠ '$' := by
    rintro rfl
    exact absurd starts (by decide)
  have notBrace : c ≠ '{' := by
    rintro rfl
    exact absurd starts (by decide)
  rw [List.cons_append, introduced?]
  · simp only [List.cons_append] at read
    simp [read]
  · simpa using notDollar
  · simpa using notBrace

theorem readFrom_name
    {name : Text}
    (isName : IsName name)
    {rest : Text}
    (ended : rest.head?.all (!continuesName ·)) :
    readFrom ('$' :: (name ++ rest)) = (.slot (Slot.ofKey name) :: ·) <$> readFrom rest := by
  rw [readFrom, if_pos rfl, introduced?_append isName ended]
  simp

theorem readFrom_literal
    {text rest : Text} {others : Template}
    (follows : readFrom rest = .ok others) :
    readFrom (Piece.spell (.literal text) ++ rest) =
      .ok (text.map (fun c => .literal [c]) ++ others) := by
  induction text with
  | nil => exact follows
  | cons c text ih =>
      simp only [Piece.spell] at ih ⊢
      rw [List.flatMap_cons, List.append_assoc]
      split
      · next dollar =>
          subst dollar
          rw [List.cons_append, List.cons_append, List.nil_append, readFrom_dollar, ih]
          rfl
      · next plain =>
          rw [List.cons_append, List.nil_append, readFrom_plain plain, ih]
          rfl

/-- The notation of a legible template reads back as that template. -/
theorem read_spell
    {template : Template}
    (legible : template.Legible) :
    read template.spell = .ok template.spread := by
  have readable : readFrom template.spell = .ok template.spread := by
    induction template with
    | nil => simp [spell, spread, readFrom]
    | cons piece others ih =>
        have spelled : spell (piece :: others) = piece.spell ++ spell others :=
          List.flatMap_cons
        cases piece with
        | literal text =>
            rw [spelled, readFrom_literal (ih legible)]
            rfl
        | slot slot =>
            obtain ⟨nameable, ended, rest⟩ := legible
            rw [spelled, Piece.spell, List.cons_append, readFrom_name nameable.isName ended,
              nameable.asks, ih rest]
            rfl
  rw [read, readable]
  rfl

theorem spread_literal
    (text : Text) (others : Template) :
    spread (.literal text :: others) =
      text.map (fun c => .literal [c]) ++ spread others :=
  List.flatMap_cons

theorem spread_slot
    (slot : Slot) (others : Template) :
    spread (.slot slot :: others) = .slot slot :: spread others :=
  rfl

theorem slots_spread
    (template : Template) :
    template.spread.slots = template.slots := by
  induction template with
  | nil => rfl
  | cons piece others ih =>
      cases piece with
      | literal text =>
          have plain : slots (text.map fun c => .literal [c]) = [] := by
            simp [slots]
          rw [spread_literal]
          simp only [slots, List.filterMap_append] at plain ih ⊢
          rw [plain, ih]
          rfl
      | slot slot =>
          simp only [spread_slot, slots, List.filterMap_cons] at ih ⊢
          rw [ih]

theorem fill_spread
    (value : Slot → Text) (template : Template) :
    template.spread.fill value = template.fill value := by
  induction template with
  | nil => rfl
  | cons piece others ih =>
      cases piece with
      | literal text =>
          have whole : fill value (text.map fun c => .literal [c]) = text := by
            simp [fill, List.flatMap_map, fillPiece]
          rw [spread_literal]
          simp only [fill, List.flatMap_append, List.flatMap_cons] at whole ih ⊢
          rw [whole, ih]
          rfl
      | slot slot =>
          simp only [spread_slot, fill, List.flatMap_cons] at ih ⊢
          rw [ih]

end Template

/-! ## Dialects -/

namespace Language

theorem legible_statement
    (language : Language) (kind : Statement) :
    (language.statement kind).Legible := by
  cases language <;> cases kind
  all_goals decide

theorem legible_templates
    (language : Language) (kind : Block) :
    ∀ template ∈ language.headers.templates kind, template.Legible := by
  cases language <;> cases kind
  all_goals decide

end Language

end Blockwright
