import Mathlib.Data.Bool.AllAny
import NoteLinks.Proofs.Chains

/-!
# What rewriting a document does

Three questions about `LinkContext.expandHtml`.

*Which text is rewritten.*  An `AnchoredText` is a document put together from anchors with quoted
attributes and text in which no anchor is opened.  Of such a document exactly the annotated anchors
are rewritten (`expandHtml_anchoredText`).

*Which documents are not looked at.*  A document without `#` is returned before its anchors are
looked for.  That is the right answer exactly if none of its anchors is annotated
(`expandHtml_eq_expandAnchors_iff`), which can only go wrong where a tag spells the marker with
`&num;`; `expandHtml_ne_expandAnchors` is such a document.

*What a second pass does.*  It changes nothing exactly if it finds no anchor that it would rewrite
(`expandHtml_expandHtml_eq_iff`).  Where no rewritten anchor stands behind an unfinished opening
tag, the anchors it finds are those that the first pass wrote, and it leaves them alone if none of
their addresses is annotated.  An address may well be: `expandHtml_expandHtml_ne` is an annotation
whose value holds the marker.
-/

namespace NoteLinks

open Html

namespace Html

/-! ## Documents of quoted anchors -/

/-- An attribute with a value between quotes, as it is written in a tag. -/
structure QuotedAttribute where
  name : Text
  quote : Char
  /-- The text between the quotes, with its references. -/
  value : Text
  name_ne_nil : name ≠ []
  name_plain : ∀ c ∈ name, Text.isBlank c = false ∧ c ∉ ['"', '\'', '<', '>', '/', '=']
  isQuote : IsQuote quote
  quote_not_mem : quote ∉ value

namespace QuotedAttribute

def raw (a : QuotedAttribute) : Text := ' ' :: (a.name ++ '=' :: a.quote :: (a.value ++ [a.quote]))

/-- The attribute with the references of its value undone. -/
def decoded (a : QuotedAttribute) : Attribute := ⟨a.name, some (unescape a.value)⟩

lemma isAttributeName (a : QuotedAttribute) : IsAttributeName a.name := by
  refine ⟨a.name_ne_nil, fun c hc => ?_⟩
  obtain ⟨hblank, hmem⟩ := a.name_plain c hc
  simp [isNameChar, hblank, hmem]

/-- A quoted attribute is an attribute in one of the spellings. -/
def spelling (a : QuotedAttribute) : AttributeText :=
  .spaced a.name a.isAttributeName (some (.quoted a.quote a.value a.isQuote a.quote_not_mem))

lemma flatMap_raw_spelling (as : List QuotedAttribute) :
    (as.map spelling).flatMap AttributeText.raw = as.flatMap raw := by
  rw [List.flatMap_map]
  refine List.flatMap_congr fun a _ => ?_
  simp [spelling, AttributeText.raw_spaced, ValueText.raw, raw]

lemma readAttributes_flatMap_raw (as : List QuotedAttribute) :
    readAttributes (as.flatMap raw) = as.map decoded := by
  rw [← flatMap_raw_spelling, AttributeText.readAttributes_flatMap_raw, List.map_map]
  rfl

/-- Quoted attributes do not end a tag, whatever their values hold. -/
lemma isTagText_flatMap_raw (as : List QuotedAttribute) : IsTagText (as.flatMap raw) := by
  rw [← flatMap_raw_spelling]
  exact AttributeText.isTagText_flatMap_raw _

lemma isBlank_head_flatMap_raw (as : List QuotedAttribute) :
    ∀ c ∈ (as.flatMap raw).head?, Text.isBlank c = true := by
  rw [← flatMap_raw_spelling]
  exact AttributeText.isBlank_head_flatMap_raw _

end QuotedAttribute

/-- An anchor whose attributes are all quoted. -/
structure QuotedAnchor where
  attributes : List QuotedAttribute
  content : Text
  isOpenContent : IsOpenContent content

namespace QuotedAnchor

def raw (a : QuotedAnchor) : Text :=
  "<a" ++ a.attributes.flatMap QuotedAttribute.raw ++ ">" ++ a.content ++ "</a>"

/-- The attributes of the anchor in order, references undone. -/
def decoded (a : QuotedAnchor) : List Attribute := a.attributes.map QuotedAttribute.decoded

/-- The anchor as the scanner sees it. -/
def anchor (a : QuotedAnchor) : Anchor where
  opening := ['<', 'a']
  attributes := a.attributes.flatMap QuotedAttribute.raw
  content := a.content
  closing := ['<', '/', 'a', '>']

lemma raw_anchor (a : QuotedAnchor) : a.anchor.raw = a.raw := by
  simp [anchor, Anchor.raw, raw]

lemma readAttributes_anchor (a : QuotedAnchor) : readAttributes a.anchor.attributes = a.decoded :=
  QuotedAttribute.readAttributes_flatMap_raw a.attributes

/-- The scanner finds anchors with quoted attributes. -/
lemma formed_anchor (a : QuotedAnchor) : a.anchor.Formed where
  opening := ⟨'a', by decide, rfl⟩
  apart := QuotedAttribute.isBlank_head_flatMap_raw a.attributes
  tag := QuotedAttribute.isTagText_flatMap_raw a.attributes
  content := a.isOpenContent
  closing := ⟨'a', [], by decide, by simp, rfl⟩

end QuotedAnchor

/-- A text in which no anchor is opened. -/
def IsPlain (t : Text) : Prop := ∀ s, s <:+ t → ¬ OpensAnchor s

lemma isPlain_of_not_mem {t : Text} (h : '<' ∉ t) : IsPlain t := by
  rintro s hs ⟨c, d, u, -, -, rfl⟩
  exact h (hs.subset (by simp))

/-- A plain text is plain behind a character at which no anchor is opened. -/
lemma isPlain_cons {c : Char} {t : Text} (hc : ¬ OpensAnchor (c :: t)) (ht : IsPlain t) :
    IsPlain (c :: t) := by
  intro s hs
  rcases List.suffix_cons_iff.1 hs with rfl | hs
  · exact hc
  · exact ht s hs

/-- A plain text is plain behind a text without `<`. -/
lemma isPlain_append {s t : Text} (hs : '<' ∉ s) (ht : IsPlain t) : IsPlain (s ++ t) := by
  induction s with
  | nil => exact ht
  | cons c s ih =>
    obtain ⟨hc, hs⟩ := not_or.1 (mt List.mem_cons.2 hs)
    refine isPlain_cons ?_ (ih hs)
    rintro ⟨_, _, _, -, -, heq⟩
    exact hc (List.cons.inj heq).1.symm

/-- A document of anchors with quoted attributes and plain text around them. -/
structure AnchoredText where
  start : Text
  /-- Each anchor with the plain text behind it. -/
  parts : List (QuotedAnchor × Text)
  isPlain_start : IsPlain start
  isPlain_parts : ∀ p ∈ parts, IsPlain p.2

def AnchoredText.raw (d : AnchoredText) : Text :=
  d.start ++ d.parts.flatMap fun p => p.1.raw ++ p.2

/-- An opening tag does not begin in a text and end beyond a `<` that follows it. -/
lemma opensAnchor_of_append {t s : Text} (hs : ∀ c ∈ s.head?, c = '<') (ht : t ≠ [])
    (h : OpensAnchor (t ++ s)) : OpensAnchor t := by
  have hlt : ∀ {x : Char} {u : Text}, s = x :: u → x = '<' := by
    rintro x u rfl
    exact hs x rfl
  obtain ⟨l, d, u, hl, hd, heq⟩ := h
  match t, ht with
  | [_], _ =>
    obtain ⟨-, heq⟩ := List.cons.inj heq
    obtain rfl := hlt heq
    exact absurd hl (by decide)
  | [_, _], _ =>
    obtain ⟨-, heq⟩ := List.cons.inj heq
    obtain ⟨-, heq⟩ := List.cons.inj heq
    obtain rfl := hlt heq
    rcases hd with hd | hd
    · exact absurd hd (by decide)
    · exact absurd hd (by decide)
  | _ :: _ :: _ :: v, _ =>
    obtain ⟨rfl, heq₁⟩ := List.cons.inj heq
    obtain ⟨rfl, heq₂⟩ := List.cons.inj heq₁
    obtain ⟨rfl, -⟩ := List.cons.inj heq₂
    exact ⟨_, _, v, hl, hd, rfl⟩

end Html

namespace LinkContext

variable {cx : LinkContext}

/-- A page of the tree `demo` under the initial settings, without records. -/
def demoPage : LinkContext where
  settings := .initial
  catalog := .empty
  page := ⟨"demo", none⟩
  store := none

/-- Plain text in front of an anchor, or at the end, is kept. -/
lemma expandAnchors_plain {t s : Text} (ht : IsPlain t) (hs : ∀ c ∈ s.head?, c = '<') :
    cx.expandAnchors (t ++ s) = t ++ cx.expandAnchors s := by
  induction t with
  | nil => rfl
  | cons c t ih =>
    have hnone : anchor? (c :: (t ++ s)) = none :=
      anchor?_eq_none fun h =>
        ht (c :: t) List.suffix_rfl (opensAnchor_of_append hs (by simp) h)
    have htail : IsPlain t := fun u hu => ht u (hu.trans (List.suffix_cons c t))
    rw [List.cons_append, expandAnchors_char hnone, ih htail, List.cons_append]

/-- The text that takes the place of an anchor with quoted attributes.  The anchor stays as it is if
its first `href` is missing, has no marker in it, or has an annotation without keys. -/
def rewriteQuoted (cx : LinkContext) (a : QuotedAnchor) : Text :=
  match attribute? "href" a.decoded with
  | none => a.raw
  | some href =>
    match splitAnnotation? href with
    | none => a.raw
    | some (base, annotation) =>
      let f := Fragment.read .link annotation
      if f.isEmpty then a.raw else (cx.expansion base f).write a.decoded a.content

lemma expandAnchor_anchor (cx : LinkContext) (a : QuotedAnchor) :
    cx.expandAnchor a.anchor = cx.rewriteQuoted a := by
  unfold expandAnchor rewriteQuoted
  simp only [a.readAttributes_anchor, a.raw_anchor]
  cases attribute? "href" a.decoded with
  | none => rfl
  | some href =>
    simp only [Option.bind_some, expand?]
    cases splitAnnotation? href with
    | none => rfl
    | some split =>
      obtain ⟨base, annotation⟩ := split
      by_cases hempty : (Fragment.read .link annotation).isEmpty = true
      · simp [hempty]
      · simp only [hempty, Option.bind_eq_bind, Option.bind_some]
        rfl

lemma expandHtml_of_mem {html : Text} (h : '#' ∈ html) :
    cx.expandHtml html = cx.expandAnchors html := by
  simp [expandHtml, h]

lemma expandHtml_of_not_mem {html : Text} (h : '#' ∉ html) : cx.expandHtml html = html := by
  simp [expandHtml, h]

lemma expandHtml_of_isPlain {html : Text} (h : IsPlain html) : cx.expandHtml html = html := by
  by_cases hmem : '#' ∈ html
  · have hplain : cx.expandAnchors (html ++ []) = html ++ cx.expandAnchors [] :=
      expandAnchors_plain h (by simp)
    simpa [expandHtml_of_mem hmem, expandAnchors_nil] using hplain
  · exact expandHtml_of_not_mem hmem

/-- Quoted anchors with plain text behind them are rewritten one after the other. -/
lemma expandAnchors_parts (cx : LinkContext) (parts : List (QuotedAnchor × Text))
    (h : ∀ p ∈ parts, IsPlain p.2) :
    cx.expandAnchors (parts.flatMap fun p => p.1.raw ++ p.2) =
        parts.flatMap (fun p => cx.rewriteQuoted p.1 ++ p.2) ∧
      ∀ c ∈ (parts.flatMap fun p => p.1.raw ++ p.2).head?, c = '<' := by
  induction parts with
  | nil => exact ⟨expandAnchors_nil, by simp⟩
  | cons p parts ih =>
    obtain ⟨hp, hparts⟩ := List.forall_mem_cons.1 h
    obtain ⟨hrest, hhead⟩ := ih hparts
    obtain ⟨u, hu⟩ := p.1.formed_anchor.exists_cons
    rw [p.1.raw_anchor] at hu
    constructor
    · rw [List.flatMap_cons, List.append_assoc, ← p.1.raw_anchor,
        expandAnchors_anchor p.1.formed_anchor, flatMap_raw_chain, expandAnchor_anchor,
        expandAnchors_plain hp hhead, hrest, List.flatMap_cons, List.append_assoc]
    · simp [hu]

/-- Of a document of quoted anchors exactly the annotated anchors are rewritten, each in its place;
all other text stays as it is. -/
theorem expandHtml_anchoredText (cx : LinkContext) (d : AnchoredText) (h : '#' ∈ d.raw) :
    cx.expandHtml d.raw =
      d.start ++ d.parts.flatMap fun p => cx.rewriteQuoted p.1 ++ p.2 := by
  obtain ⟨hparts, hhead⟩ := cx.expandAnchors_parts d.parts d.isPlain_parts
  rw [expandHtml_of_mem h, AnchoredText.raw, expandAnchors_plain d.isPlain_start hhead, hparts]

/-- Two anchors, the second one annotated.  The value of its `rel` holds a closing tag, the marker
of its address is spelled with a reference, and the name of the address is in upper case. -/
def twoAnchors : AnchoredText where
  start := "See "
  parts :=
    [(⟨[⟨"href", '"', "#top", by decide, List.all_iff_forall_prop.1 (by decide),
            .inl rfl, by decide⟩],
        "here", isOpenContent_of_not_mem (by decide)⟩, " and "),
      (⟨[⟨"rel", '\'', "x</a>", by decide, List.all_iff_forall_prop.1 (by decide),
            .inr rfl, by decide⟩,
          ⟨"HREF", '"', "b&#35;@gov=A", by decide, List.all_iff_forall_prop.1 (by decide),
            .inl rfl, by decide⟩],
        "there", isOpenContent_of_not_mem (by decide)⟩, ".")]
  isPlain_start := isPlain_of_not_mem (by decide)
  isPlain_parts := List.forall_mem_cons.2
    ⟨isPlain_of_not_mem (by decide), List.forall_mem_singleton.2 (isPlain_of_not_mem (by decide))⟩

/-- Of the two anchors the annotated one is rewritten. -/
theorem expandHtml_twoAnchors :
    '#' ∈ twoAnchors.raw ∧
      demoPage.expandHtml twoAnchors.raw =
        "See <a href=\"#top\">here</a> and " ++
          "<a rel=\"x&lt;/a&gt;\" HREF=\"https://gov.genealogy.net/item/show/A\" ".toList ++
            "title=\"GOV: A\" class=\"link-gov\">there</a>." :=
  ⟨by decide, (expandHtml_anchoredText demoPage twoAnchors (by decide)).trans (by decide +kernel)⟩

/-! ## Documents without a number sign -/

/-- A tag spells the marker of its address with a number sign or with the name of one. -/
lemma mem_or_infix_of_expansionOf? {a : Anchor} {e : Expansion}
    (h : cx.expansionOf? a = some e) :
    '#' ∈ a.attributes ∨ ['&', 'n', 'u', 'm', ';'] <:+: a.attributes := by
  obtain ⟨href, hattr, hexp⟩ := Option.bind_eq_some_iff.1 h
  obtain ⟨b, hfind, hval⟩ := Option.bind_eq_some_iff.1 hattr
  obtain ⟨v, hv, rfl⟩ :=
    exists_infix_of_mem_readAttributes (List.mem_of_find?_eq_some hfind) hval
  rcases mem_or_infix_of_mem_unescape (mem_of_expand? hexp) with hmem | hinf
  · exact Or.inl (hv.subset hmem)
  · exact Or.inr (hinf.trans hv)

lemma raw_infix_of_mem_pieces {html : Text} {a : Anchor} (h : .anchor a ∈ pieces html) :
    a.raw <:+: html := by
  obtain ⟨ps, qs, hpieces⟩ := List.append_of_mem h
  refine ⟨ps.flatMap Piece.raw, qs.flatMap Piece.raw, ?_⟩
  have hall := flatMap_raw_pieces html
  rw [hpieces] at hall
  simpa [Piece.raw] using hall

lemma attributes_infix_of_mem_pieces {html : Text} {a : Anchor} (h : .anchor a ∈ pieces html) :
    a.attributes <:+: html := by
  refine List.IsInfix.trans ⟨a.opening, ">" ++ a.content ++ a.closing, ?_⟩
    (raw_infix_of_mem_pieces h)
  simp [Anchor.raw]

/-- The sign that an annotated anchor needs stands in its document, in one spelling or the other. -/
lemma mem_or_infix_of_mem_pieces {html : Text} {a : Anchor} {e : Expansion}
    (ha : .anchor a ∈ pieces html) (h : cx.expansionOf? a = some e) :
    '#' ∈ html ∨ ['&', 'n', 'u', 'm', ';'] <:+: html := by
  have hinf := attributes_infix_of_mem_pieces ha
  rcases mem_or_infix_of_expansionOf? h with hsign | hname
  · exact Or.inl (hinf.subset hsign)
  · exact Or.inr (hname.trans hinf)

/-- Replacing the anchors of a document without `#` changes it as soon as one of them is annotated:
an annotated anchor that stays as it is has the sign in its text. -/
lemma expandAnchors_eq_self_of_not_mem_iff {html : Text} (h : '#' ∉ html) :
    cx.expandAnchors html = html ↔ ∀ a, .anchor a ∈ pieces html → cx.expansionOf? a = none := by
  rw [expandAnchors_eq_self_iff]
  constructor
  · intro hself a ha
    by_contra hne
    obtain ⟨e, he⟩ := Option.ne_none_iff_exists'.1 hne
    -- an anchor that is its own chain is written as chains are, with the sign not spelled out
    have hsign : '#' ∈ a.attributes := mem_of_mem_chain he (by simp [hself a ha]) he
    exact h ((attributes_infix_of_mem_pieces ha).subset hsign)
  · exact fun hnone a ha => chain_of_none (hnone a ha)

/-- Not looking at a document without `#` is right exactly if none of its anchors is annotated; and
none is unless a tag spells the marker with the name `&num;`. -/
theorem expandHtml_eq_expandAnchors_iff (cx : LinkContext) (html : Text) :
    (cx.expandHtml html = cx.expandAnchors html ↔
      '#' ∈ html ∨ ∀ a, .anchor a ∈ pieces html → cx.expansionOf? a = none) ∧
    (¬ ("&num;" : Text) <:+: html → cx.expandHtml html = cx.expandAnchors html) := by
  have hiff : cx.expandHtml html = cx.expandAnchors html ↔
      '#' ∈ html ∨ ∀ a, .anchor a ∈ pieces html → cx.expansionOf? a = none := by
    by_cases hmem : '#' ∈ html
    · simp [expandHtml_of_mem hmem, hmem]
    · rw [expandHtml_of_not_mem hmem, eq_comm, expandAnchors_eq_self_of_not_mem_iff hmem,
        or_iff_right hmem]
  refine ⟨hiff, fun hnum => hiff.2 ?_⟩
  by_cases hmem : '#' ∈ html
  · exact Or.inl hmem
  · refine Or.inr fun a ha => ?_
    by_contra hne
    obtain ⟨e, he⟩ := Option.ne_none_iff_exists'.1 hne
    rcases mem_or_infix_of_mem_pieces ha he with hsign | hname
    · exact hmem hsign
    · exact hnum hname

/-- A document that spells the marker with names stays as it is, although its anchor is
annotated. -/
theorem expandHtml_ne_expandAnchors :
    demoPage.expandHtml "<a href=\"&num;&commat;gov=A\">x</a>" ≠
      demoPage.expandAnchors "<a href=\"&num;&commat;gov=A\">x</a>" := by
  decide +kernel

/-! ## A second pass -/

/-- A document is left as it is exactly if it is not looked at or no anchor in it is rewritten. -/
lemma expandHtml_eq_self_iff {html : Text} :
    cx.expandHtml html = html ↔
      ('#' ∈ html → ∀ a, .anchor a ∈ pieces html → cx.chain a = [a]) := by
  by_cases hmem : '#' ∈ html
  · simp [expandHtml_of_mem hmem, hmem, expandAnchors_eq_self_iff]
  · simp [expandHtml_of_not_mem hmem, hmem]

/-- An anchor of a rewritten document belongs to the chain of one that stood there. -/
lemma anchor_mem_flatMap_chainPieces {b : Anchor} {ps : List Piece} :
    .anchor b ∈ ps.flatMap cx.chainPieces ↔ ∃ a, .anchor a ∈ ps ∧ b ∈ cx.chain a := by
  rw [List.mem_flatMap]
  constructor
  · rintro ⟨p, hp, hb⟩
    cases p with
    | char c => simp [chainPieces] at hb
    | anchor a => exact ⟨a, hp, by simpa [chainPieces] using hb⟩
  · rintro ⟨a, ha, hb⟩
    exact ⟨.anchor a, ha, by simpa [chainPieces] using hb⟩

lemma mem_links_of_replacement {e : Expansion} {l : Link} (h : e.replacement = some l) :
    l ∈ e.links :=
  List.mem_append_left _ (List.mem_of_head? h)

lemma mem_links_of_followers {e : Expansion} {l : Link} (h : l ∈ e.followers) : l ∈ e.links := by
  unfold Expansion.followers at h
  split at h
  · exact List.mem_of_mem_drop h
  · exact h

/-- Where no link of an expansion leads to an annotated address, every anchor of its chain is left
alone. -/
lemma chain_eq_self_of_mem_chain {a b : Anchor} {e : Expansion} (h : cx.expansionOf? a = some e)
    (hlinks : ∀ l ∈ e.links, ∀ href, l.href = some href → cx.expand? href = none)
    (hb : b ∈ cx.chain a) : cx.chain b = [b] := by
  have hlink : ∀ l ∈ e.links, l.href.bind cx.expand? = none := by
    intro l hl
    cases hhref : l.href with
    | none => rfl
    | some href => exact hlinks l hl href hhref
  have hnamed := areNamed_readAttributes a.attributes
  rw [chain_of_some h, Expansion.anchors, List.mem_cons, List.mem_map] at hb
  apply chain_of_none
  rcases hb with rfl | ⟨l, hl, rfl⟩
  · -- the first anchor leads to the first link or to the base, which is not annotated
    rw [expansionOf?_writtenAnchor (areNamed_leadingAttributes hnamed e)]
    unfold Expansion.leadingAttributes
    split
    · rename_i first hfirst
      rw [attribute?_href_applyTo]
      exact hlink first (mem_links_of_replacement hfirst)
    · rw [attribute?_href_unannotated]
      obtain ⟨href, -, hexp⟩ := Option.bind_eq_some_iff.1 h
      split
      · rfl
      · exact expand?_base hexp
  · rw [Link.sibling, expansionOf?_writtenAnchor (areNamed_applyTo areNamed_nil l),
      attribute?_href_applyTo]
    exact hlink l (mem_links_of_followers hl)

/-- Where no rewritten anchor stands behind an unfinished opening tag, a second pass finds the
anchors that the first one wrote. -/
lemma expandHtml_expandHtml_eq_iff_of_sparesUnfinished {html : Text}
    (hspares : cx.SparesUnfinished html) :
    cx.expandHtml (cx.expandHtml html) = cx.expandHtml html ↔
      ('#' ∈ html → ∀ a, .anchor a ∈ pieces html → ∀ b ∈ cx.chain a, cx.chain b = [b]) := by
  by_cases hmem : '#' ∈ html
  · rw [expandHtml_eq_self_iff, expandHtml_of_mem hmem, pieces_expandAnchors hspares]
    constructor
    · intro h _ a ha b hb
      by_contra hne
      -- the anchor is annotated, so the marker stands in the document and the anchor is looked at
      obtain ⟨e', he'⟩ := Option.ne_none_iff_exists'.1 (mt chain_of_none hne)
      have hpiece := anchor_mem_flatMap_chainPieces.2 ⟨a, ha, hb⟩
      have hsign : '#' ∈ cx.expandAnchors html := by
        cases he : cx.expansionOf? a with
        | none =>
          rw [chain_of_none he, List.mem_singleton] at hb
          simp [hb ▸ he'] at he
        | some e =>
          rw [← pieces_expandAnchors hspares] at hpiece
          exact (attributes_infix_of_mem_pieces hpiece).subset (mem_of_mem_chain he hb he')
      exact hne (h hsign b hpiece)
    · intro h _ b hb
      obtain ⟨a, ha, hba⟩ := anchor_mem_flatMap_chainPieces.1 hb
      exact h hmem a ha b hba
  · simp [expandHtml_of_not_mem hmem, hmem]

/-- A second pass changes nothing exactly if it finds no anchor that it would rewrite.  Where no
rewritten anchor stands behind an unfinished opening tag, it finds the anchors that the first pass
wrote; so it changes nothing exactly if each of these is left alone, and that is the case if no link
leads to an annotated address. -/
theorem expandHtml_expandHtml_eq_iff (cx : LinkContext) (html : Text) :
    (cx.expandHtml (cx.expandHtml html) = cx.expandHtml html ↔
      ('#' ∈ cx.expandHtml html →
        ∀ a, .anchor a ∈ pieces (cx.expandHtml html) → cx.chain a = [a])) ∧
    (cx.SparesUnfinished html →
      (cx.expandHtml (cx.expandHtml html) = cx.expandHtml html ↔
        ('#' ∈ html → ∀ a, .anchor a ∈ pieces html → ∀ b ∈ cx.chain a, cx.chain b = [b])) ∧
      ((∀ a e, .anchor a ∈ pieces html → cx.expansionOf? a = some e →
          ∀ l ∈ e.links, ∀ href, l.href = some href → cx.expand? href = none) →
        cx.expandHtml (cx.expandHtml html) = cx.expandHtml html)) := by
  refine ⟨expandHtml_eq_self_iff, fun hspares => ?_⟩
  have hiff := expandHtml_expandHtml_eq_iff_of_sparesUnfinished hspares
  refine ⟨hiff, fun hlinks => hiff.2 fun _ a ha b hb => ?_⟩
  cases he : cx.expansionOf? a with
  | none =>
    rw [chain_of_none he, List.mem_singleton] at hb
    rw [hb, chain_of_none he]
  | some e => exact chain_eq_self_of_mem_chain he (hlinks a e ha he) hb

/-- The value of the annotation holds the marker, so the first pass writes an annotated address. -/
theorem expandHtml_expandHtml_ne :
    demoPage.expandHtml (demoPage.expandHtml "<a href=\"#@www=x%23@gov=1\">x</a>") ≠
      demoPage.expandHtml "<a href=\"#@www=x%23@gov=1\">x</a>" := by
  decide +kernel

/-- The first tag is unfinished.  The quotes that the first pass writes behind it finish it, and the
second pass finds an anchor that did not stand there before. -/
example :
    demoPage.expandHtml
        (demoPage.expandHtml "<a \"<a href='#@it%27s'>x</a> ' href=#@zz>y</a>") ≠
      demoPage.expandHtml "<a \"<a href='#@it%27s'>x</a> ' href=#@zz>y</a>" := by
  decide +kernel

end LinkContext

end NoteLinks
