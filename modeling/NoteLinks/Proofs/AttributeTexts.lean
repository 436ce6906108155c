import NoteLinks.Proofs.Attributes

/-!
# Attributes in every spelling

`AttributeText` is an attribute in any of the spellings that a tag may hold: a name alone, or a name
with a value between quotes of either kind or without quotes, and blanks around the equals sign.  A
list of them is read as it was meant (`AttributeText.readAttributes_flatMap_raw`).

Attributes are written in one of these spellings (`exists_attributeTexts`), so they are read back as
they were written (`readAttributes_writeAttributes`).
-/

namespace NoteLinks.Html

/-! ### Spellings -/

/-- A character that opens a quoted value and closes it again. -/
def IsQuote (q : Char) : Prop := q = '"' ∨ q = '\''

instance (q : Char) : Decidable (IsQuote q) := inferInstanceAs (Decidable (_ ∨ _))

lemma isQuote_double : IsQuote '"' := Or.inl rfl

lemma isQuote_single : IsQuote '\'' := Or.inr rfl

/-- A value as it is written behind an equals sign. -/
inductive ValueText where
  /-- Between quotes stands any text without the quote. -/
  | quoted (quote : Char) (value : Text) (isQuote : IsQuote quote) (quote_not_mem : quote ∉ value)
  /-- A value without quotes has at least one character, and none that could end it. -/
  | bare (value : Text) (ne_nil : value ≠ []) (isBare : ∀ c ∈ value, isBareChar c = true)

namespace ValueText

def raw : ValueText → Text
  | quoted quote value _ _ => quote :: (value ++ [quote])
  | bare value _ _ => value

/-- The value without its quotes, and with its references. -/
def inner : ValueText → Text
  | quoted _ value _ _ => value
  | bare value _ _ => value

end ValueText

/-- An equals sign with a value behind it; blanks may stand on both sides of the sign. -/
structure Assignment where
  before : Text
  after : Text
  value : ValueText
  isBlank_before : ∀ c ∈ before, Text.isBlank c = true
  isBlank_after : ∀ c ∈ after, Text.isBlank c = true

def Assignment.raw (s : Assignment) : Text := s.before ++ '=' :: (s.after ++ s.value.raw)

/-- An attribute as it is written in a tag, with the blanks in front of it. -/
structure AttributeText where
  gap : Text
  name : Text
  assignment : Option Assignment
  gap_ne_nil : gap ≠ []
  isBlank_gap : ∀ c ∈ gap, Text.isBlank c = true
  isAttributeName : IsAttributeName name

namespace AttributeText

def raw (a : AttributeText) : Text :=
  a.gap ++ a.name ++ (a.assignment.map Assignment.raw).getD []

/-- The attribute with the references of its value undone. -/
def decoded (a : AttributeText) : Attribute :=
  ⟨a.name, a.assignment.map fun s => unescape s.value.inner⟩

/-- An attribute behind a single blank, without blanks around its equals sign. -/
def spaced (name : Text) (h : IsAttributeName name) (value : Option ValueText) : AttributeText where
  gap := [' ']
  name := name
  assignment := value.map fun v => ⟨[], [], v, List.forall_mem_nil _, List.forall_mem_nil _⟩
  gap_ne_nil := List.cons_ne_nil _ _
  isBlank_gap := List.forall_mem_singleton.2 (by decide)
  isAttributeName := h

section Spaced

variable {name : Text} {h : IsAttributeName name} {value : Option ValueText}

lemma raw_spaced : (spaced name h value).raw =
    ' ' :: (name ++ (value.map fun v => '=' :: v.raw).getD []) := by
  cases value with
  | none => simp [spaced, raw]
  | some v => simp [spaced, raw, Assignment.raw]

lemma decoded_spaced :
    (spaced name h value).decoded = ⟨name, value.map fun v => unescape v.inner⟩ := by
  simp only [spaced, decoded, Option.map_map]
  rfl

end Spaced

end AttributeText

/-! ### Values -/

/-- A character of a bare value is no blank and no quote, and does not end a tag. -/
lemma isBareChar_plain {c : Char} (h : isBareChar c = true) :
    Text.isBlank c = false ∧ c ≠ '>' ∧ ¬ IsQuote c := by
  refine ⟨?_, ?_, ?_⟩
  · simp only [isBareChar, Bool.and_eq_true, Bool.not_eq_true'] at h
    exact h.1
  · rintro rfl
    exact absurd h (by decide)
  · rintro (rfl | rfl)
    · exact absurd h (by decide)
    · exact absurd h (by decide)

/-- Behind blanks a quoted value is read up to its own quote. -/
lemma valueAfterEquals?_quoted {ws : Text} (hws : ∀ c ∈ ws, Text.isBlank c = true) {q : Char}
    (hq : IsQuote q) {v : Text} (hv : q ∉ v) (rest : Text) :
    valueAfterEquals? (ws ++ q :: (v ++ q :: rest)) = some (v, rest) := by
  have hblank : ∀ c ∈ (q :: (v ++ q :: rest)).head?, Text.isBlank c = false := by
    intro c hc
    obtain rfl : q = c := by simpa using hc
    rcases hq with rfl | rfl
    · decide
    · decide
  have htrim : Text.trimStart (ws ++ q :: (v ++ q :: rest)) = q :: (v ++ q :: rest) :=
    Text.dropWhile_append_of_forall hws hblank
  have hcut : Text.cutWhere? (· == q) (v ++ q :: rest) = some (v, rest) := by
    refine Text.cutWhere?_append (fun x hx => ?_) (by simp)
    simpa using fun h : x = q => hv (h ▸ hx)
  rw [valueAfterEquals?, htrim]
  rcases hq with rfl | rfl
  · exact hcut
  · exact hcut

lemma readAttributes_blanks {ws : Text} (h : ∀ c ∈ ws, Text.isBlank c = true) (t : Text) :
    readAttributes (ws ++ t) = readAttributes t := by
  induction ws with
  | nil => rfl
  | cons c ws ih =>
    obtain ⟨hc, hws⟩ := List.forall_mem_cons.1 h
    rw [List.cons_append, readAttributes_skip (isNameChar_of_isBlank hc), ih hws]

/-- A value is read as far as it goes, if a blank follows it or nothing. -/
lemma valueAfterEquals?_append {ws : Text} (hws : ∀ c ∈ ws, Text.isBlank c = true) (v : ValueText)
    {rest : Text} (hrest : ∀ c ∈ rest.head?, Text.isBlank c = true) :
    valueAfterEquals? (ws ++ (v.raw ++ rest)) = some (v.inner, rest) := by
  cases v with
  | quoted q v hq hv =>
    have hraw : (ValueText.quoted q v hq hv).raw ++ rest = q :: (v ++ q :: rest) := by
      simp [ValueText.raw]
    rw [hraw]
    exact valueAfterEquals?_quoted hws hq hv rest
  | bare v hne hbare =>
    obtain ⟨c, u, rfl⟩ := List.exists_cons_of_ne_nil hne
    obtain ⟨hblank, -, hquote⟩ := isBareChar_plain (hbare c List.mem_cons_self)
    obtain ⟨hdouble, hsingle⟩ := not_or.1 hquote
    have hhead : ∀ x ∈ (c :: u ++ rest).head?, Text.isBlank x = false := by
      intro x hx
      obtain rfl : c = x := by simpa using hx
      exact hblank
    have hend : ∀ x ∈ rest.head?, isBareChar x = false := by
      intro x hx
      simp [isBareChar, hrest x hx]
    have htrim : Text.trimStart (ws ++ (c :: u ++ rest)) = c :: u ++ rest :=
      Text.dropWhile_append_of_forall hws hhead
    have hvalue : bareValue? (c :: u ++ rest) = some (c :: u, rest) := by
      simp only [bareValue?, Text.takeWhile_append_of_forall hbare hend,
        Text.dropWhile_append_of_forall hbare hend]
    have hraw : (ValueText.bare (c :: u) hne hbare).raw ++ rest = c :: u ++ rest := rfl
    rw [hraw, valueAfterEquals?, htrim]
    split
    · rename_i h
      exact absurd (List.cons.inj h).1 hdouble
    · rename_i h
      exact absurd (List.cons.inj h).1 hsingle
    · exact hvalue

/-- Behind a name the value of an assignment is read. -/
lemma value?_assignment (s : Assignment) {rest : Text}
    (hrest : ∀ c ∈ rest.head?, Text.isBlank c = true) :
    value? (s.raw ++ rest) = some (s.value.inner, rest) := by
  have heq : ∀ c ∈ ('=' :: (s.after ++ (s.value.raw ++ rest))).head?, Text.isBlank c = false := by
    intro c hc
    obtain rfl : '=' = c := by simpa using hc
    decide
  have htrim : Text.trimStart (s.before ++ '=' :: (s.after ++ (s.value.raw ++ rest))) =
      '=' :: (s.after ++ (s.value.raw ++ rest)) :=
    Text.dropWhile_append_of_forall s.isBlank_before heq
  have hraw : s.raw ++ rest = s.before ++ '=' :: (s.after ++ (s.value.raw ++ rest)) := by
    simp [Assignment.raw]
  rw [hraw, value?, htrim]
  exact valueAfterEquals?_append s.isBlank_after s.value hrest

/-- An assignment does not begin with a character of a name. -/
lemma isNameChar_head_assignment (s : Assignment) (t : Text) :
    ∀ c ∈ (s.raw ++ t).head?, isNameChar c = false := by
  intro c hc
  cases hbefore : s.before with
  | nil =>
    obtain rfl : '=' = c := by simpa [Assignment.raw, hbefore] using hc
    decide
  | cons d ws =>
    obtain rfl : d = c := by simpa [Assignment.raw, hbefore] using hc
    exact isNameChar_of_isBlank (s.isBlank_before d (by simp [hbefore]))

namespace AttributeText

/-- Attributes begin with a blank, if there are any. -/
lemma isBlank_head_flatMap_raw (as : List AttributeText) :
    ∀ c ∈ (as.flatMap raw).head?, Text.isBlank c = true := by
  cases as with
  | nil => simp
  | cons a as =>
    obtain ⟨d, ws, hgap⟩ := List.exists_cons_of_ne_nil a.gap_ne_nil
    intro c hc
    obtain rfl : d = c := by simpa [raw, hgap] using hc
    exact a.isBlank_gap d (by simp [hgap])

/-- Attributes are not taken for the value of the one before. -/
lemma value?_flatMap_raw (as : List AttributeText) : value? (as.flatMap raw) = none := by
  cases as with
  | nil => rfl
  | cons a as =>
    obtain ⟨hne, hchars⟩ := a.isAttributeName
    obtain ⟨d, n, hname⟩ := List.exists_cons_of_ne_nil hne
    have hd : isNameChar d = true := hchars d (by simp [hname])
    set rest := n ++ (a.assignment.map Assignment.raw).getD [] ++ as.flatMap raw with hrest
    have hhead : ∀ c ∈ (d :: rest).head?, Text.isBlank c = false := by
      intro c hc
      obtain rfl : d = c := by simpa using hc
      exact isBlank_of_isNameChar hd
    have htrim : Text.trimStart (a.gap ++ d :: rest) = d :: rest :=
      Text.dropWhile_append_of_forall a.isBlank_gap hhead
    have hraw : (a :: as).flatMap raw = a.gap ++ d :: rest := by simp [raw, hname, hrest]
    rw [hraw, value?, htrim]
    -- what follows the gap is a name, so there is no equals sign
    split
    · rename_i h
      obtain rfl : d = '=' := (List.cons.inj h).1
      exact absurd hd (by decide)
    · rfl

/-- Attributes are read one after the other, in whatever way each is written. -/
lemma readAttributes_flatMap_raw (as : List AttributeText) :
    readAttributes (as.flatMap raw) = as.map decoded := by
  induction as with
  | nil => exact readAttributes_nil
  | cons a as ih =>
    have hblank := isBlank_head_flatMap_raw as
    rw [List.flatMap_cons, raw, List.append_assoc, List.append_assoc,
      readAttributes_blanks a.isBlank_gap, List.map_cons, decoded]
    cases a.assignment with
    | none =>
      have hrest : ∀ c ∈ (as.flatMap raw).head?, isNameChar c = false :=
        fun c hc => isNameChar_of_isBlank (hblank c hc)
      rw [Option.map_none, Option.getD_none, List.nil_append,
        readAttributes_name a.isAttributeName hrest, value?_flatMap_raw as, ih, Option.map_none]
    | some s =>
      rw [Option.map_some, Option.getD_some,
        readAttributes_name a.isAttributeName (isNameChar_head_assignment s _),
        value?_assignment s hblank, Option.map_some, ← ih]

end AttributeText

/-! ### Writing and reading back -/

lemma writeAttribute_value (name v : Text) :
    writeAttribute ⟨name, some v⟩ = ' ' :: (name ++ '=' :: '"' :: (escapeValue v ++ ['"'])) := by
  simp [writeAttribute]

namespace AttributeText

/-- An attribute in the spelling in which attributes are written. -/
def ofAttribute (a : Attribute) (h : IsAttributeName a.name) : AttributeText :=
  spaced a.name h <| a.value.map fun v =>
    .quoted '"' (escapeValue v) isQuote_double (not_mem_escapeValue (by decide) v)

lemma raw_ofAttribute (a : Attribute) (h : IsAttributeName a.name) :
    (ofAttribute a h).raw = writeAttribute a := by
  obtain ⟨name, v⟩ := a
  cases v with
  | none => simp [ofAttribute, raw_spaced, writeAttribute]
  | some v => simp [ofAttribute, raw_spaced, ValueText.raw, writeAttribute_value]

lemma decoded_ofAttribute (a : Attribute) (h : IsAttributeName a.name) :
    (ofAttribute a h).decoded = a := by
  obtain ⟨name, v⟩ := a
  cases v with
  | none => rfl
  | some v => simp [ofAttribute, decoded_spaced, ValueText.inner, unescape_escapeValue]

end AttributeText

/-- Written attributes are attributes in one of the spellings. -/
lemma exists_attributeTexts {as : List Attribute} (h : AreNamed as) :
    ∃ ts : List AttributeText, ts.flatMap AttributeText.raw = writeAttributes as ∧
      ts.map AttributeText.decoded = as := by
  induction as with
  | nil => exact ⟨[], rfl, rfl⟩
  | cons a as ih =>
    obtain ⟨ha, has⟩ := List.forall_mem_cons.1 h
    obtain ⟨ts, hraw, hdecoded⟩ := ih has
    refine ⟨.ofAttribute a ha :: ts, ?_, ?_⟩
    · rw [List.flatMap_cons, AttributeText.raw_ofAttribute, hraw, writeAttributes, writeAttributes,
        List.flatMap_cons]
    · rw [List.map_cons, AttributeText.decoded_ofAttribute, hdecoded]

/-- Attributes are read back as they were written. -/
lemma readAttributes_writeAttributes {as : List Attribute} (h : AreNamed as) :
    readAttributes (writeAttributes as) = as := by
  obtain ⟨ts, hraw, hdecoded⟩ := exists_attributeTexts h
  rw [← hraw, AttributeText.readAttributes_flatMap_raw, hdecoded]

lemma isBlank_head_writeAttributes {as : List Attribute} (h : AreNamed as) :
    ∀ c ∈ (writeAttributes as).head?, Text.isBlank c = true := by
  obtain ⟨ts, hraw, -⟩ := exists_attributeTexts h
  rw [← hraw]
  exact AttributeText.isBlank_head_flatMap_raw ts

end NoteLinks.Html
