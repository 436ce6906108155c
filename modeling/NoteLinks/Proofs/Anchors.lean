import NoteLinks.Html.Anchor
import NoteLinks.Proofs.AttributeTexts

/-!
# The grammar of anchors

The scanner of `Html.Anchor` looks for anchors from left to right.  This module says what it finds
without saying how: an anchor is *formed* (`Anchor.Formed`) if its tag text leaves no quote open and
holds no `>` outside quotes, and its content holds no closing tag.  The scanner finds an anchor at
the start of a text exactly if the text begins with a formed one (`anchor?_eq_some_iff`), so no text
begins with two different ones (`Anchor.Formed.inj`).

The last part cuts documents: `pieces` finds the formed anchors that a document is put together
from, as long as no opening tag stands in the text between them.
-/

namespace NoteLinks.Html

/-! ### Tags -/

/-- The quote that is open after a text in a tag, if the text does not end the tag; `quote` is the
quote that is open at its start. -/
def quoteAfter? : (quote : Option Char) → Text → Option (Option Char)
  | q, [] => some q
  | none, c :: t =>
    if c = '>' then none else quoteAfter? (if c = '"' ∨ c = '\'' then some c else none) t
  | some q, c :: t => quoteAfter? (if c = q then none else some q) t

/-- A text that a tag can hold between the element's name and its `>`. -/
def IsTagText (t : Text) : Prop := quoteAfter? none t = some none

instance (t : Text) : Decidable (IsTagText t) :=
  inferInstanceAs (Decidable (quoteAfter? none t = some none))

/-- A tag ends at a `>` at which no quote is open. -/
lemma tagRest?_append {q : Option Char} {a : Text} (h : quoteAfter? q a = some none) (b : Text) :
    tagRest? q (a ++ '>' :: b) = some (a, b) := by
  induction a generalizing q with
  | nil =>
    obtain rfl : q = none := by simpa [quoteAfter?] using h
    simp [tagRest?]
  | cons c a ih =>
    cases q with
    | none =>
      have hc : c ≠ '>' := by
        rintro rfl
        simp [quoteAfter?] at h
      rw [quoteAfter?, if_neg hc] at h
      simp only [List.cons_append, tagRest?, if_neg hc, ih h, Option.map_some]
    | some q =>
      rw [quoteAfter?] at h
      simp only [List.cons_append, tagRest?, ih h, Option.map_some]

/-- The end of a tag that is found is a `>` at which no quote is open. -/
lemma append_of_tagRest? {q : Option Char} {t a b : Text} (h : tagRest? q t = some (a, b)) :
    quoteAfter? q a = some none ∧ t = a ++ '>' :: b := by
  induction t generalizing q a with
  | nil => simp [tagRest?] at h
  | cons c t ih =>
    cases q with
    | none =>
      rw [tagRest?] at h
      split at h
      · rename_i hc
        obtain ⟨rfl, rfl⟩ : [] = a ∧ t = b := by simpa using h
        exact ⟨rfl, by rw [hc]; rfl⟩
      · rename_i hc
        simp only [Option.map_eq_some_iff, Prod.exists, Prod.mk.injEq] at h
        obtain ⟨a', b', h, rfl, rfl⟩ := h
        obtain ⟨hq, rfl⟩ := ih h
        exact ⟨by rw [quoteAfter?, if_neg hc]; exact hq, rfl⟩
    | some q =>
      simp only [tagRest?, Option.map_eq_some_iff, Prod.exists, Prod.mk.injEq] at h
      obtain ⟨a', b', h, rfl, rfl⟩ := h
      obtain ⟨hq, rfl⟩ := ih h
      exact ⟨hq, rfl⟩

/-- A text without quotes and `>` changes nothing outside quotes. -/
lemma quoteAfter?_plain {a : Text} (h : ∀ c ∈ a, c ≠ '>' ∧ ¬ IsQuote c) (b : Text) :
    quoteAfter? none (a ++ b) = quoteAfter? none b := by
  induction a with
  | nil => rfl
  | cons c a ih =>
    obtain ⟨hgt, hquote⟩ := h c List.mem_cons_self
    have hquote' : ¬ (c = '"' ∨ c = '\'') := hquote
    rw [List.cons_append, quoteAfter?, if_neg hgt, if_neg hquote']
    exact ih fun x hx => h x (List.mem_cons_of_mem c hx)

/-- An open quote lasts to its next occurrence. -/
lemma quoteAfter?_quoted {q : Char} {v : Text} (hv : q ∉ v) (b : Text) :
    quoteAfter? (some q) (v ++ q :: b) = quoteAfter? none b := by
  induction v with
  | nil => simp [quoteAfter?]
  | cons c v ih =>
    obtain ⟨hc, hv⟩ := not_or.1 (mt List.mem_cons.2 hv)
    rw [List.cons_append, quoteAfter?, if_neg (Ne.symm hc)]
    exact ih hv

lemma isNameChar_plain {c : Char} (h : isNameChar c = true) : c ≠ '>' ∧ ¬ IsQuote c := by
  constructor
  · rintro rfl
    exact absurd h (by decide)
  · rintro (rfl | rfl)
    · exact absurd h (by decide)
    · exact absurd h (by decide)

lemma isBlank_plain {c : Char} (h : Text.isBlank c = true) : c ≠ '>' ∧ ¬ IsQuote c := by
  constructor
  · rintro rfl
    exact absurd h (by decide)
  · rintro (rfl | rfl)
    · exact absurd h (by decide)
    · exact absurd h (by decide)

/-- A value leaves no quote open. -/
lemma quoteAfter?_valueText (v : ValueText) (b : Text) :
    quoteAfter? none (v.raw ++ b) = quoteAfter? none b := by
  cases v with
  | quoted q v hq hv =>
    have hgt : q ≠ '>' := by rcases hq with rfl | rfl <;> decide
    have hq' : q = '"' ∨ q = '\'' := hq
    have hraw : (ValueText.quoted q v hq hv).raw ++ b = q :: (v ++ q :: b) := by
      simp [ValueText.raw]
    rw [hraw, quoteAfter?, if_neg hgt, if_pos hq', quoteAfter?_quoted hv]
  | bare v hne hbare => exact quoteAfter?_plain (fun c hc => (isBareChar_plain (hbare c hc)).2) b

namespace AttributeText

/-- An attribute leaves no quote open. -/
lemma quoteAfter?_raw (a : AttributeText) (b : Text) :
    quoteAfter? none (a.raw ++ b) = quoteAfter? none b := by
  have hgap : ∀ c ∈ a.gap, c ≠ '>' ∧ ¬ IsQuote c := fun c hc => isBlank_plain (a.isBlank_gap c hc)
  have hname : ∀ c ∈ a.name, c ≠ '>' ∧ ¬ IsQuote c :=
    fun c hc => isNameChar_plain (a.isAttributeName.2 c hc)
  rw [raw, List.append_assoc, List.append_assoc, quoteAfter?_plain hgap, quoteAfter?_plain hname]
  cases a.assignment with
  | none => rfl
  | some s =>
    have hbefore : ∀ c ∈ s.before, c ≠ '>' ∧ ¬ IsQuote c :=
      fun c hc => isBlank_plain (s.isBlank_before c hc)
    have hafter : ∀ c ∈ s.after, c ≠ '>' ∧ ¬ IsQuote c :=
      fun c hc => isBlank_plain (s.isBlank_after c hc)
    have hsign : ∀ c ∈ ['='], c ≠ '>' ∧ ¬ IsQuote c := by simp [IsQuote]
    calc quoteAfter? none (s.raw ++ b)
        = quoteAfter? none (s.before ++ (['='] ++ (s.after ++ (s.value.raw ++ b)))) := by
          simp [Assignment.raw]
      _ = quoteAfter? none b := by
          rw [quoteAfter?_plain hbefore, quoteAfter?_plain hsign, quoteAfter?_plain hafter,
            quoteAfter?_valueText]

/-- Attributes do not end a tag, whatever their values hold. -/
lemma isTagText_flatMap_raw (as : List AttributeText) : IsTagText (as.flatMap raw) := by
  unfold IsTagText
  induction as with
  | nil => rfl
  | cons a as ih => rw [List.flatMap_cons, quoteAfter?_raw, ih]

end AttributeText

lemma isTagText_writeAttributes {as : List Attribute} (h : AreNamed as) :
    IsTagText (writeAttributes as) := by
  obtain ⟨ts, hraw, -⟩ := exists_attributeTexts h
  rw [← hraw]
  exact AttributeText.isTagText_flatMap_raw ts

/-! ### Opening and closing tags -/

/-- The text begins with an opening tag, as far as its first three characters tell. -/
def OpensAnchor (t : Text) : Prop :=
  ∃ c d u, isAnchorLetter c = true ∧ (Text.isBlank d = true ∨ d = '>') ∧ t = '<' :: c :: d :: u

/-- A closing tag, with blanks before its `>`. -/
def IsClosing (t : Text) : Prop :=
  ∃ c ws, isAnchorLetter c = true ∧ (∀ x ∈ ws, Text.isBlank x = true) ∧
    t = '<' :: '/' :: c :: (ws ++ ['>'])

/-- A text in which no closing tag stands. -/
def IsOpenContent (t : Text) : Prop := ∀ closing, IsClosing closing → ¬ closing <:+: t

lemma isOpenContent_of_not_mem {t : Text} (h : '<' ∉ t) : IsOpenContent t := by
  rintro s ⟨c, ws, -, -, rfl⟩ hs
  exact h (hs.subset (by simp))

lemma isOpenContent_nil : IsOpenContent [] := isOpenContent_of_not_mem (by simp)

/-- The opening tag that is found is `<a` and tag text that begins with a blank. -/
lemma openTag?_eq_some_iff {t o a r : Text} :
    openTag? t = some (o, a, r) ↔
      (∃ c, isAnchorLetter c = true ∧ o = ['<', c]) ∧ (∀ d ∈ a.head?, Text.isBlank d = true) ∧
        IsTagText a ∧ t = o ++ a ++ '>' :: r := by
  constructor
  · intro h
    unfold openTag? at h
    split at h
    · rename_i c d t
      split at h
      · rename_i hcd
        simp only [Bool.and_eq_true, Bool.or_eq_true, beq_iff_eq] at hcd
        simp only [Option.map_eq_some_iff, Prod.exists, Prod.mk.injEq] at h
        obtain ⟨a', r', htag, rfl, rfl, rfl⟩ := h
        obtain ⟨htext, heq⟩ := append_of_tagRest? htag
        refine ⟨⟨c, hcd.1, rfl⟩, ?_, htext, by simp [heq]⟩
        intro x hx
        cases a' with
        | nil => simp at hx
        | cons y a' =>
          obtain rfl : y = x := by simpa using hx
          -- behind the letter a quote would open a value, which no text of a tag begins with
          obtain rfl : d = y := (List.cons.inj heq).1
          rcases hcd.2 with hblank | rfl
          · exact hblank
          · simp [quoteAfter?] at htext
      · simp at h
    · simp at h
  · rintro ⟨⟨c, hc, rfl⟩, hhead, htext, rfl⟩
    have htag : tagRest? none (a ++ '>' :: r) = some (a, r) := tagRest?_append htext r
    cases a with
    | nil => simpa [openTag?, hc] using htag
    | cons d a => simpa [openTag?, hc, hhead d rfl] using htag

/-- A text that does not begin with an opening tag has none at its start. -/
lemma openTag?_eq_none {t : Text} (h : ¬ OpensAnchor t) : openTag? t = none := by
  unfold openTag?
  split
  · rename_i c d t
    rw [if_neg]
    intro hcd
    simp only [Bool.and_eq_true, Bool.or_eq_true, beq_iff_eq] at hcd
    exact h ⟨c, d, t, hcd.1, hcd.2, rfl⟩
  · rfl

/-- The closing tag that is found is one. -/
lemma closeTag?_eq_some_iff {t closing r : Text} :
    closeTag? t = some (closing, r) ↔ IsClosing closing ∧ t = closing ++ r := by
  constructor
  · intro h
    unfold closeTag? at h
    split at h
    · rename_i c t
      split at h
      · rename_i hc
        split at h
        · rename_i rest hrest
          simp only [Option.some.injEq, Prod.mk.injEq] at h
          obtain ⟨rfl, rfl⟩ := h
          refine ⟨⟨c, t.takeWhile Text.isBlank, hc, ?_, by simp⟩, ?_⟩
          · exact fun x hx => List.all_eq_true.1 List.all_takeWhile x hx
          · have ht := List.takeWhile_append_dropWhile (p := Text.isBlank) (l := t)
            rw [hrest] at ht
            simp [ht]
        · simp at h
      · simp at h
    · simp at h
  · rintro ⟨⟨c, ws, hc, hws, rfl⟩, rfl⟩
    -- the blanks end at the `>`, so the reader takes all of them and no more
    have hgt : ∀ x ∈ ('>' :: r).head?, Text.isBlank x = false := by
      intro x hx
      obtain rfl : '>' = x := by simpa using hx
      decide
    have hdrop := Text.dropWhile_append_of_forall hws hgt
    have htake := Text.takeWhile_append_of_forall hws hgt
    simp [closeTag?, hc, hdrop, htake]

/-- A closing tag holds no `<` but its first character. -/
lemma IsClosing.not_mem_tail {closing : Text} (h : IsClosing closing) : '<' ∉ closing.tail := by
  obtain ⟨c, ws, hc, hws, rfl⟩ := h
  simp only [List.tail_cons, List.mem_cons, List.mem_append, List.not_mem_nil, or_false]
  rintro (h | rfl | h | h)
  · simp at h
  · exact absurd hc (by decide)
  · exact absurd (hws '<' h) (by decide)
  · simp at h

/-- A closing tag begins with `<`. -/
lemma IsClosing.exists_cons {closing : Text} (h : IsClosing closing) :
    ∃ t, closing = '<' :: t := by
  obtain ⟨c, ws, -, -, rfl⟩ := h
  exact ⟨_, rfl⟩

/-- No closing tag begins in a nonempty text and ends beyond the `<` that follows it. -/
lemma IsClosing.prefix_of_prefix_append {closing a s : Text} (h : IsClosing closing) (ha : a ≠ [])
    (hpre : closing <+: a ++ '<' :: s) : closing <+: a := by
  rcases List.prefix_or_prefix_of_prefix hpre (List.prefix_append a ('<' :: s)) with hle | hle
  · exact hle
  · obtain ⟨u, rfl⟩ := hle
    cases u with
    | nil => simp
    | cons x u =>
      obtain rfl : x = '<' := by
        have := (List.prefix_append_right_inj a).1 hpre
        exact (List.cons_prefix_cons.1 this).1
      obtain ⟨y, a, rfl⟩ := List.exists_cons_of_ne_nil ha
      exact absurd (by simp) h.not_mem_tail

/-- Content ends at the first closing tag. -/
lemma content?_append {a closing : Text} (hopen : IsOpenContent a) (hcl : IsClosing closing)
    (r : Text) : content? (a ++ closing ++ r) = some (a, closing, r) := by
  obtain ⟨u, hu⟩ := hcl.exists_cons
  induction a with
  | nil =>
    have hclose : closeTag? (closing ++ r) = some (closing, r) :=
      closeTag?_eq_some_iff.2 ⟨hcl, rfl⟩
    rw [List.nil_append]
    rw [hu, List.cons_append] at hclose ⊢
    simp [content?, hclose]
  | cons d a ih =>
    have hclose : closeTag? (d :: (a ++ closing ++ r)) = none := by
      rw [Option.eq_none_iff_forall_ne_some]
      rintro ⟨x, rest⟩ h
      obtain ⟨hx, heq⟩ := closeTag?_eq_some_iff.1 h
      have hpre : x <+: (d :: a) ++ '<' :: (u ++ r) := ⟨rest, by simp [← heq, hu]⟩
      exact hopen x hx (hx.prefix_of_prefix_append (by simp) hpre).isInfix
    have htail : content? (a ++ closing ++ r) = some (a, closing, r) :=
      ih fun x hx hinf => hopen x hx (hinf.trans (List.suffix_cons d a).isInfix)
    simp only [List.cons_append, content?, hclose, htail, Option.map_some]

/-- The content that is found holds no closing tag and has one behind it. -/
lemma append_of_content? {t a closing r : Text} (h : content? t = some (a, closing, r)) :
    IsOpenContent a ∧ IsClosing closing ∧ t = a ++ closing ++ r := by
  induction t generalizing a with
  | nil => simp [content?] at h
  | cons c t ih =>
    unfold content? at h
    split at h
    · rename_i cl rest hclose
      simp only [Option.some.injEq, Prod.mk.injEq] at h
      obtain ⟨rfl, rfl, rfl⟩ := h
      obtain ⟨hcl, heq⟩ := closeTag?_eq_some_iff.1 hclose
      exact ⟨isOpenContent_nil, hcl, by simpa using heq⟩
    · rename_i hnone
      simp only [Option.map_eq_some_iff, Prod.exists, Prod.mk.injEq] at h
      obtain ⟨a', cl, rest, h', rfl, rfl, rfl⟩ := h
      obtain ⟨hopen, hcl, rfl⟩ := ih h'
      refine ⟨fun x hx hinf => ?_, hcl, by simp⟩
      rcases List.infix_cons_iff.1 hinf with hpre | hinf
      · -- a closing tag at the start would have been found there
        obtain ⟨u, hu⟩ := hpre
        have hfound : closeTag? (c :: (a' ++ cl ++ rest)) = some (x, u ++ (cl ++ rest)) := by
          refine closeTag?_eq_some_iff.2 ⟨hx, ?_⟩
          rw [← List.append_assoc, hu]
          simp
        rw [hfound] at hnone
        exact absurd hnone (by simp)
      · exact hopen x hx hinf

/-! ### Anchors -/

/-- An anchor that the scanner finds where its text stands. -/
structure Anchor.Formed (a : Anchor) : Prop where
  opening : ∃ c, isAnchorLetter c = true ∧ a.opening = ['<', c]
  apart : ∀ d ∈ a.attributes.head?, Text.isBlank d = true
  tag : IsTagText a.attributes
  content : IsOpenContent a.content
  closing : IsClosing a.closing

/-- The scanner finds an anchor exactly where a formed one stands. -/
lemma anchor?_eq_some_iff {t r : Text} {a : Anchor} :
    anchor? t = some (a, r) ↔ a.Formed ∧ t = a.raw ++ r := by
  constructor
  · intro h
    unfold anchor? at h
    simp only [Option.bind_eq_bind, Option.bind_eq_some_iff, Prod.exists, Option.some.injEq,
      Prod.mk.injEq] at h
    obtain ⟨o, as, t', hopen, c, cl, rest, hcontent, rfl, rfl⟩ := h
    obtain ⟨ho, hhead, htext, rfl⟩ := openTag?_eq_some_iff.1 hopen
    obtain ⟨hc, hcl, rfl⟩ := append_of_content? hcontent
    exact ⟨⟨ho, hhead, htext, hc, hcl⟩, by simp [Anchor.raw]⟩
  · rintro ⟨h, rfl⟩
    have hopen : openTag? (a.raw ++ r) =
        some (a.opening, a.attributes, a.content ++ a.closing ++ r) :=
      openTag?_eq_some_iff.2 ⟨h.opening, h.apart, h.tag, by simp [Anchor.raw]⟩
    have hcontent : content? (a.content ++ a.closing ++ r) = some (a.content, a.closing, r) :=
      content?_append h.content h.closing r
    simp only [anchor?, hopen, Option.bind_eq_bind, Option.bind_some, hcontent]

lemma anchor?_eq_none {t : Text} (h : ¬ OpensAnchor t) : anchor? t = none := by
  simp [anchor?, openTag?_eq_none h]

/-- No text begins with two different anchors. -/
lemma Anchor.Formed.inj {a b : Anchor} {s t : Text} (ha : a.Formed) (hb : b.Formed)
    (h : a.raw ++ s = b.raw ++ t) : a = b ∧ s = t := by
  have h₁ : anchor? (a.raw ++ s) = some (a, s) := anchor?_eq_some_iff.2 ⟨ha, rfl⟩
  have h₂ : anchor? (a.raw ++ s) = some (b, t) := anchor?_eq_some_iff.2 ⟨hb, h⟩
  simpa using h₁.symm.trans h₂

lemma Anchor.Formed.exists_cons {a : Anchor} (h : a.Formed) : ∃ t, a.raw = '<' :: t := by
  obtain ⟨c, -, ho⟩ := h.opening
  exact ⟨_, by simp only [Anchor.raw, ho, List.cons_append]; rfl⟩

/-! ### Documents -/

lemma pieces_nil : pieces [] = [] := by rw [pieces]

/-- An anchor at the start of a text is its first piece. -/
lemma pieces_anchor {a : Anchor} (h : a.Formed) (t : Text) :
    pieces (a.raw ++ t) = .anchor a :: pieces t := by
  have hfound : anchor? (a.raw ++ t) = some (a, t) := anchor?_eq_some_iff.2 ⟨h, rfl⟩
  obtain ⟨u, hu⟩ := h.exists_cons
  rw [hu, List.cons_append] at hfound ⊢
  rw [pieces]
  split
  · rename_i a' rest h'
    obtain ⟨rfl, rfl⟩ : a' = a ∧ rest = t := by simpa [h'] using hfound
    rfl
  · rename_i h'
    simp [h'] at hfound

/-- A character at which no anchor begins is a piece of its own. -/
lemma pieces_char {c : Char} {t : Text} (h : anchor? (c :: t) = none) :
    pieces (c :: t) = .char c :: pieces t := by
  rw [pieces]
  split
  · rename_i h'
    simp [h] at h'
  · rfl

/-- Anchors one after the other are pieces one after the other. -/
lemma pieces_anchors {as : List Anchor} (h : ∀ a ∈ as, a.Formed) (t : Text) :
    pieces (as.flatMap Anchor.raw ++ t) = as.map .anchor ++ pieces t := by
  induction as with
  | nil => rfl
  | cons a as ih =>
    obtain ⟨ha, has⟩ := List.forall_mem_cons.1 h
    rw [List.flatMap_cons, List.append_assoc, pieces_anchor ha, ih has, List.map_cons,
      List.cons_append]

/-- The pieces of a document hold all of its text. -/
lemma flatMap_raw_pieces (t : Text) : (pieces t).flatMap Piece.raw = t := by
  induction t using pieces.induct with
  | case1 => simp [pieces_nil]
  | case2 c t a rest hfound ih =>
    obtain ⟨ha, heq⟩ := anchor?_eq_some_iff.1 hfound
    rw [heq, pieces_anchor ha, List.flatMap_cons, ih]
    rfl
  | case3 c t hnone ih =>
    rw [pieces_char hnone, List.flatMap_cons, ih]
    rfl

/-- The anchors among the pieces of a document are formed. -/
lemma formed_of_mem_pieces {t : Text} {a : Anchor} (h : .anchor a ∈ pieces t) : a.Formed := by
  induction t using pieces.induct with
  | case1 => simp [pieces_nil] at h
  | case2 c t b rest hfound ih =>
    obtain ⟨hb, heq⟩ := anchor?_eq_some_iff.1 hfound
    rw [heq, pieces_anchor hb] at h
    rcases List.mem_cons.1 h with h | h
    · obtain rfl := Piece.anchor.inj h
      exact hb
    · exact ih h
  | case3 c t hnone ih =>
    rw [pieces_char hnone] at h
    exact ih (by simpa using h)

end NoteLinks.Html
