import NoteLinks.Proofs.Markup

/-!
# Start tags of other elements

Rewriting looks for anchors in the text of a document and does not see where a tag begins or ends.
So it finds an anchor in the quoted value of any attribute and replaces it there, although to a
reader of markup the tag is a single token (`StartTag.tokens_raw`); `expandHtml_abbreviation` is a
tag that is changed in this way.

What begins with `<` and holds no quotes stands in the value of an attribute
(`StartTag.prefix_or_infix_value`).  So an anchor in a tag opens in a value and closes in one
(`StartTag.exists_not_isPlain`, `StartTag.exists_closing`), and a tag is safe if none of its values
opens an anchor, or none closes one (`expandHtml_startTag`).
-/

namespace NoteLinks

open Html

namespace Html

/-! ## Start tags -/

/-- The start tag of an element that is no anchor, with attributes in any spelling. -/
structure StartTag where
  name : Text
  attributes : List AttributeText
  /-- Blanks and a slash may stand in front of the `>`. -/
  ending : Text
  isElementName : IsElementName name
  not_anchor : Text.sameLetters name "a" = false
  ending_plain : ∀ c ∈ ending, Text.isBlank c = true ∨ c = '/'

/-- The value of an attribute as it is written, without its quotes. -/
def AttributeText.value (a : AttributeText) : Text := (a.assignment.map (·.value.inner)).getD []

namespace StartTag

/-- The tag as a reader of markup sees it. -/
def token (t : StartTag) : Token :=
  .opening t.name (t.attributes.flatMap AttributeText.raw ++ t.ending)

def raw (t : StartTag) : Text := t.token.raw

def values (t : StartTag) : List Text := t.attributes.map AttributeText.value

variable (t : StartTag)

/-- Nothing in front of the `>` ends the tag or opens a quote. -/
lemma isTagText : IsTagText (t.attributes.flatMap AttributeText.raw ++ t.ending) := by
  unfold IsTagText
  induction t.attributes with
  | nil =>
    have hending : ∀ c ∈ t.ending, c ≠ '>' ∧ ¬ IsQuote c := by
      intro c hc
      rcases t.ending_plain c hc with hblank | rfl
      · exact isBlank_plain hblank
      · decide
    have hplain := quoteAfter?_plain hending []
    rwa [List.append_nil] at hplain
  | cons a as ih => rw [List.flatMap_cons, List.append_assoc, AttributeText.quoteAfter?_raw, ih]

/-- To a reader of markup the tag is one token, whatever its values hold. -/
lemma tokens_raw : tokens t.raw = [t.token] := by
  have hhead : ∀ c ∈ (t.attributes.flatMap AttributeText.raw ++ t.ending).head?,
      isElementChar c = false := by
    intro c hc
    have hblank := AttributeText.isBlank_head_flatMap_raw t.attributes
    cases hraw : t.attributes.flatMap AttributeText.raw with
    | cons d s =>
      obtain rfl : d = c := by simpa [hraw] using hc
      simp [isElementChar, hblank d (by simp [hraw])]
    | nil =>
      rw [hraw, List.nil_append] at hc
      rcases t.ending_plain c (List.mem_of_head? hc) with hc | rfl
      · simp [isElementChar, hc]
      · decide
  have hfound := t.isElementName.tag?_opening t.isTagText hhead []
  rw [List.append_nil] at hfound
  rw [raw, token, tokens_tag hfound, tokens_nil]

end StartTag

/-! ## Tags within values -/

section Infix

variable {w x y : Text}

lemma not_mem_of_isBlank (hx : ∀ c ∈ x, Text.isBlank c = true) : '<' ∉ x :=
  fun hmem => absurd (hx '<' hmem) (by decide)

/-- What begins with `<` and holds no quotes stands in the value of an attribute or behind the
attribute. -/
lemma AttributeText.infix_value_or_infix (a : AttributeText)
    (hw : ∀ x ∈ '<' :: w, ¬ IsQuote x) (h : '<' :: w <:+: a.raw ++ y) :
    '<' :: w <:+: a.value ∨ '<' :: w <:+: y := by
  have hgap : '<' ∉ a.gap := not_mem_of_isBlank a.isBlank_gap
  have hname : '<' ∉ a.name := not_mem_of_isAttributeName a.isAttributeName '<' (by decide)
  have hfront : '<' ∉ a.gap ++ a.name := by simp [hgap, hname]
  unfold AttributeText.raw at h
  unfold AttributeText.value
  rw [List.append_assoc] at h
  replace h := Text.infix_of_infix_append hfront h
  -- what begins with `<` cannot begin in the gap, the name or around the equals sign, so it
  -- begins in the value or behind the attribute
  cases hassignment : a.assignment with
  | none => exact Or.inr (by simpa [hassignment] using h)
  | some s =>
    have hbefore : '<' ∉ s.before := not_mem_of_isBlank s.isBlank_before
    have hafter : '<' ∉ s.after := not_mem_of_isBlank s.isBlank_after
    have hsign : '<' ∉ s.before ++ '=' :: s.after := by simp [hbefore, hafter]
    have hvalue : '<' :: w <:+: s.value.raw ++ y := by
      refine Text.infix_of_infix_append hsign ?_
      simpa [hassignment, Assignment.raw] using h
    rw [Option.map_some, Option.getD_some]
    cases hs : s.value with
    | quoted q v hq hv =>
      have hlt : '<' ∉ [q] := by rcases hq with rfl | rfl <;> decide
      have hopening : '<' :: w <:+: [q] ++ (v ++ q :: y) := by
        simpa [hs, ValueText.raw] using hvalue
      have hquote : q ∉ '<' :: w := fun hmem => hw q hmem hq
      rcases Text.infix_or_infix_of_infix_cons hquote
        (Text.infix_of_infix_append hlt hopening) with h | h
      · exact Or.inl h
      · exact Or.inr (Text.infix_of_infix_append hlt h)
    | bare v hne hbare =>
      have hlt : '<' ∉ v := fun hmem => absurd (hbare '<' hmem) (by decide)
      exact Or.inr (Text.infix_of_infix_append hlt (by simpa [hs, ValueText.raw] using hvalue))

/-- So among attributes it stands in the value of one of them. -/
lemma exists_infix_value (hw : ∀ x ∈ '<' :: w, ¬ IsQuote x) (hy : '<' ∉ y)
    {as : List AttributeText} (h : '<' :: w <:+: as.flatMap AttributeText.raw ++ y) :
    ∃ v ∈ as.map AttributeText.value, '<' :: w <:+: v := by
  induction as with
  | nil => exact absurd (h.subset List.mem_cons_self) hy
  | cons a as ih =>
    rw [List.flatMap_cons, List.append_assoc] at h
    rw [List.map_cons]
    rcases a.infix_value_or_infix hw h with h | h
    · exact ⟨a.value, List.mem_cons_self, h⟩
    · obtain ⟨v, hv, h⟩ := ih h
      exact ⟨v, List.mem_cons_of_mem _ hv, h⟩

/-- In a tag it stands at the start or in a value. -/
lemma StartTag.prefix_or_infix_value (t : StartTag) (hw : ∀ x ∈ '<' :: w, ¬ IsQuote x)
    (h : '<' :: w <:+: t.raw) : '<' :: w <+: t.raw ∨ ∃ v ∈ t.values, '<' :: w <:+: v := by
  have hraw : t.raw = '<' :: (t.name ++ (t.attributes.flatMap AttributeText.raw ++
      (t.ending ++ ['>']))) := by
    simp [raw, token, Token.raw]
  have hname : '<' ∉ t.name := not_mem_of_isAttributeName t.isElementName.1 '<' (by decide)
  have hending : '<' ∉ t.ending ++ ['>'] := by
    intro hmem
    rcases t.ending_plain '<' (by simpa using hmem) with hblank | hslash
    · exact absurd hblank (by decide)
    · exact absurd hslash (by decide)
  rw [hraw] at h ⊢
  exact (List.infix_cons_iff.1 h).imp_right fun h =>
    exists_infix_value hw hending (Text.infix_of_infix_append hname h)

end Infix

/-! ## Anchors within values -/

lemma not_isQuote_of_isAnchorLetter {c : Char} (h : isAnchorLetter c = true) : ¬ IsQuote c := by
  simp only [isAnchorLetter, Bool.or_eq_true, beq_iff_eq] at h
  rcases h with rfl | rfl
  · decide
  · decide

/-- A closing tag holds no quotes. -/
lemma IsClosing.not_isQuote {closing : Text} (h : IsClosing closing) :
    ∀ x ∈ closing, ¬ IsQuote x := by
  obtain ⟨c, ws, hc, hws, rfl⟩ := h
  have hblanks : ∀ x ∈ ws ++ ['>'], ¬ IsQuote x :=
    List.forall_mem_append.2 ⟨fun x hx => (isBlank_plain (hws x hx)).2,
      List.forall_mem_singleton.2 (by decide)⟩
  exact List.forall_mem_cons.2 ⟨by decide, List.forall_mem_cons.2 ⟨by decide,
    List.forall_mem_cons.2 ⟨not_isQuote_of_isAnchorLetter hc, hblanks⟩⟩⟩

lemma IsPlain.not_infix_opening {t : Text} (h : IsPlain t) {c d : Char} (hc : isAnchorLetter c = true)
    (hd : Text.isBlank d = true ∨ d = '>') : ¬ ['<', c, d] <:+: t := by
  rintro ⟨x, y, rfl⟩
  exact h (['<', c, d] ++ y) ⟨x, by simp⟩ ⟨c, d, y, hc, hd, by simp⟩

/-- The opening tag of an anchor goes on with a blank or a `>`. -/
lemma Anchor.Formed.exists_opening {a : Anchor} (h : a.Formed) :
    ∃ c d, isAnchorLetter c = true ∧ (Text.isBlank d = true ∨ d = '>') ∧ ['<', c, d] <+: a.raw := by
  obtain ⟨c, hc, hopening⟩ := h.opening
  have hapart := h.apart
  cases hattributes : a.attributes with
  | nil => exact ⟨c, '>', hc, Or.inr rfl, by simp [Anchor.raw, hopening, hattributes]⟩
  | cons d as =>
    have hd : Text.isBlank d = true := hapart d (by simp [hattributes])
    exact ⟨c, d, hc, Or.inl hd, by simp [Anchor.raw, hopening, hattributes]⟩

namespace StartTag

variable (t : StartTag) {a : Anchor}

lemma not_opensAnchor : ¬ OpensAnchor t.raw := by
  have hnot := not_opensAnchor_opening t.isElementName t.not_anchor
    (t.attributes.flatMap AttributeText.raw ++ t.ending) []
  rwa [List.append_nil] at hnot

/-- A tag of another element begins with no closing tag. -/
lemma not_prefix_of_isClosing {closing : Text} (h : IsClosing closing) : ¬ closing <+: t.raw := by
  obtain ⟨c, ws, -, -, rfl⟩ := h
  rintro ⟨u, hu⟩
  obtain ⟨x, n, hname, hx, -⟩ := t.isElementName.exists_cons
  obtain ⟨rfl, -⟩ : '/' = x ∧ _ := by
    simpa [raw, token, Token.raw, hname] using hu
  exact absurd hx (by decide)

/-- An anchor that is found in a tag opens in the value of an attribute. -/
lemma exists_not_isPlain (h : .anchor a ∈ pieces t.raw) : ∃ v ∈ t.values, ¬ IsPlain v := by
  obtain ⟨c, d, hc, hd, hbegin⟩ := (formed_of_mem_pieces h).exists_opening
  have hin : ['<', c, d] <:+: t.raw :=
    hbegin.isInfix.trans (LinkContext.raw_infix_of_mem_pieces h)
  have hd' : ¬ IsQuote d := by
    rcases hd with hd | rfl
    · exact (isBlank_plain hd).2
    · decide
  have hquote : ∀ x ∈ ['<', c, d], ¬ IsQuote x :=
    List.forall_mem_cons.2 ⟨by decide, List.forall_mem_cons.2
      ⟨not_isQuote_of_isAnchorLetter hc, List.forall_mem_singleton.2 hd'⟩⟩
  rcases t.prefix_or_infix_value hquote hin with ⟨u, hu⟩ | ⟨v, hv, hvalue⟩
  · exact absurd ⟨c, d, u, hc, hd, hu.symm⟩ t.not_opensAnchor
  · exact ⟨v, hv, fun hplain => hplain.not_infix_opening hc hd hvalue⟩

/-- It closes in the value of an attribute, too. -/
lemma exists_closing (h : .anchor a ∈ pieces t.raw) : ∃ v ∈ t.values, a.closing <:+: v := by
  have hclosing : IsClosing a.closing := (formed_of_mem_pieces h).closing
  have hin : a.closing <:+: t.raw := by
    refine List.IsInfix.trans ?_ (LinkContext.raw_infix_of_mem_pieces h)
    exact (List.suffix_append _ a.closing).isInfix
  have hstart := t.not_prefix_of_isClosing hclosing
  have hquote := hclosing.not_isQuote
  obtain ⟨u, hu⟩ := hclosing.exists_cons
  rw [hu] at hin hstart hquote ⊢
  exact (t.prefix_or_infix_value hquote hin).resolve_left hstart

end StartTag

end Html

namespace LinkContext

/-- A start tag of another element is a single token, but rewriting may find anchors in it; it is
left as it is exactly if none of these is rewritten.  An anchor in it opens in the value of an
attribute and closes in one, so none is found if no value opens an anchor, or none closes one. -/
theorem expandHtml_startTag (cx : LinkContext) (t : StartTag) :
    tokens t.raw = [t.token] ∧
    (cx.expandHtml t.raw = t.raw ↔
      ('#' ∈ t.raw → ∀ a, .anchor a ∈ pieces t.raw → cx.chain a = [a])) ∧
    (∀ a, .anchor a ∈ pieces t.raw →
      (∃ v ∈ t.values, ¬ IsPlain v) ∧ ∃ v ∈ t.values, a.closing <:+: v) ∧
    ((∀ v ∈ t.values, IsPlain v) ∨ (∀ v ∈ t.values, IsOpenContent v) →
      cx.expandHtml t.raw = t.raw) := by
  have hfound : ∀ a, .anchor a ∈ pieces t.raw →
      (∃ v ∈ t.values, ¬ IsPlain v) ∧ ∃ v ∈ t.values, a.closing <:+: v :=
    fun _ ha => ⟨t.exists_not_isPlain ha, t.exists_closing ha⟩
  refine ⟨t.tokens_raw, expandHtml_eq_self_iff, hfound, fun hsafe => ?_⟩
  refine expandHtml_eq_self_iff.2 fun _ a ha => ?_
  obtain ⟨⟨v, hv, hopens⟩, w, hw, hcloses⟩ := hfound a ha
  rcases hsafe with hplain | hopen
  · exact absurd (hplain v hv) hopens
  · exact absurd hcloses (hopen w hw a.closing (formed_of_mem_pieces ha).closing)

/-- The tag of an abbreviation, with the text of an annotated anchor in its title. -/
def abbreviation : StartTag where
  name := "abbr"
  attributes := [.spaced "title" (by decide)
    (some (.quoted '"' "<a href='#@gov=A'>x</a>" isQuote_double (by decide)))]
  ending := []
  isElementName := by decide
  not_anchor := by decide
  ending_plain := by simp

/-- The anchor in the title is rewritten, and the quotes of its attributes end the title. -/
theorem expandHtml_abbreviation :
    abbreviation.raw = "<abbr title=\"<a href='#@gov=A'>x</a>\">" ∧
      demoPage.expandHtml abbreviation.raw ≠ abbreviation.raw := by
  decide +kernel

end LinkContext

end NoteLinks
