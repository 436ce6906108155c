import NoteLinks.Link.Markup
import NoteLinks.Proofs.Anchors
import NoteLinks.Proofs.Expansions

/-!
# Chains of anchors

The text that takes the place of an anchor is a chain of formed anchors (`LinkContext.chain`,
`flatMap_raw_chain`): the anchor itself if it is not annotated, and otherwise one anchor for every
link of its expansion.  The address of such an anchor is the address of its link
(`attribute?_href_applyTo`).

From this follows which documents the replacement of anchors leaves as they are: those in which
every anchor is its own chain (`expandAnchors_eq_self_iff`).  The argument is that a chain has
nonempty text, so a document that grew somewhere could not be made good further on.

The last part scans a rewritten document again.  Where every anchor behind an unfinished opening tag
is left alone, its pieces are the old ones with each anchor replaced by its chain
(`pieces_expandAnchors`).
-/

namespace NoteLinks

open Html

/-! ### Changing attributes -/

namespace Html

variable {name other value : Text} {as : List Attribute}

/-- An attribute that is set has the value it is set to. -/
lemma attribute?_setAttribute (name value : Text) (as : List Attribute) :
    attribute? name (setAttribute name value as) = some value := by
  induction as with
  | nil => simp [attribute?, setAttribute, Attribute.isNamed, Text.sameLetters]
  | cons a as ih =>
    by_cases ha : a.isNamed name = true
    · have ha' : Attribute.isNamed name { a with value := some value } = true := ha
      simp [attribute?, setAttribute, ha, ha']
    · unfold attribute? at ih
      simp [attribute?, setAttribute, ha, ih]

/-- Setting an attribute leaves those of other names as they are. -/
lemma attribute?_setAttribute_of_ne (h : Text.sameLetters other name = false) :
    attribute? name (setAttribute other value as) = attribute? name as := by
  have hne : ∀ a : Attribute, a.isNamed other = true → a.isNamed name = false := by
    intro a ha
    simp only [Attribute.isNamed, Text.sameLetters, beq_iff_eq, beq_eq_false_iff_ne] at ha h ⊢
    rwa [ha]
  induction as with
  | nil =>
    have hother : Attribute.isNamed name ⟨other, some value⟩ = false :=
      hne ⟨other, some value⟩ (by simp [Attribute.isNamed, Text.sameLetters])
    simp [attribute?, setAttribute, hother]
  | cons a as ih =>
    unfold attribute? at ih ⊢
    by_cases ha : a.isNamed other = true
    · have ha' : Attribute.isNamed name { a with value := some value } = false := hne _ ha
      simp [setAttribute, ha, ha', hne a ha]
    · by_cases hname : a.isNamed name = true
      · simp [setAttribute, ha, hname]
      · simp [setAttribute, ha, hname, ih]

lemma attribute?_removeAttribute (name : Text) (as : List Attribute) :
    attribute? name (removeAttribute name as) = none := by
  have hnone : (removeAttribute name as).find? (·.isNamed name) = none := by
    rw [List.find?_eq_none]
    intro a ha
    simpa using (List.mem_filter.1 ha).2
  simp [attribute?, hnone]

/-- An attribute that is set keeps its place behind attributes of other names. -/
lemma setAttribute_append (h : ∀ a ∈ as, a.isNamed name = false) (bs : List Attribute) :
    setAttribute name value (as ++ bs) = as ++ setAttribute name value bs := by
  induction as with
  | nil => rfl
  | cons a as ih =>
    obtain ⟨ha, has⟩ := List.forall_mem_cons.1 h
    have hne : ¬ a.isNamed name = true := by simp [ha]
    rw [List.cons_append, setAttribute, if_neg hne, ih has, List.cons_append]

lemma removeAttribute_append (h : ∀ a ∈ as, a.isNamed name = false) (bs : List Attribute) :
    removeAttribute name (as ++ bs) = as ++ removeAttribute name bs := by
  have hself : as.filter (fun a => !a.isNamed name) = as := by
    refine List.filter_eq_self.2 fun a ha => ?_
    simp [h a ha]
  unfold removeAttribute
  rw [List.filter_append, hself]

/-- Attributes of other names do not matter for the value of an attribute. -/
lemma attribute?_append (h : ∀ a ∈ as, a.isNamed name = false) (bs : List Attribute) :
    attribute? name (as ++ bs) = attribute? name bs := by
  have hnone : as.find? (·.isNamed name) = none := by
    rw [List.find?_eq_none]
    intro a ha
    simp [h a ha]
  unfold attribute?
  rw [List.find?_append, hnone, Option.none_or]

/-- The value of an attribute stands in the text of the attributes, its special characters apart. -/
lemma mem_writeAttributes_of_attribute? {c : Char} (hc : c ∉ ['"', '&', '<', '>'])
    (h : attribute? name as = some value) (hmem : c ∈ value) : c ∈ writeAttributes as := by
  obtain ⟨a, hfind, ha⟩ := Option.bind_eq_some_iff.1 h
  refine List.mem_flatMap.2 ⟨a, List.mem_of_find?_eq_some hfind, ?_⟩
  obtain ⟨n, v⟩ := a
  obtain rfl : v = some value := ha
  rw [writeAttribute_value]
  simp [mem_escapeValue hc hmem]

end Html

/-! ### Attributes of links -/

/-- The attributes of a link's anchor have names. -/
lemma areNamed_applyTo {as : List Attribute} (h : AreNamed as) (l : Link) :
    AreNamed (l.applyTo as) := by
  have hhref : AreNamed (l.setHref as) := by
    unfold Link.setHref
    split
    · exact h.setAttribute (by decide)
    · exact ((h.removeAttribute _).setAttribute (by decide)).setAttribute (by decide)
  exact (hhref.setAttribute (by decide)).setAttribute (by decide)

/-- The anchor of a link leads where the link leads. -/
lemma attribute?_href_applyTo (l : Link) (as : List Attribute) :
    attribute? "href" (l.applyTo as) = l.href := by
  unfold Link.applyTo
  rw [attribute?_setAttribute_of_ne (by decide), attribute?_setAttribute_of_ne (by decide)]
  unfold Link.setHref
  cases l.href with
  | some href => exact attribute?_setAttribute "href" href as
  | none =>
    simp only
    rw [attribute?_setAttribute_of_ne (by decide), attribute?_setAttribute_of_ne (by decide),
      attribute?_removeAttribute]

/-- An anchor that loses its annotation keeps its names. -/
lemma areNamed_unannotated {as : List Attribute} (h : AreNamed as) (base : Text) :
    AreNamed (unannotated base as) := by
  unfold unannotated
  split
  · exact h.removeAttribute _
  · exact h.setAttribute (by decide)

/-- An anchor that loses its annotation leads to the base of its address, if there is one. -/
lemma attribute?_href_unannotated (base : Text) (as : List Attribute) :
    attribute? "href" (unannotated base as) = if base = [] then none else some base := by
  unfold unannotated
  split
  · exact attribute?_removeAttribute "href" as
  · exact attribute?_setAttribute "href" base as

/-! ### Written anchors -/

/-- The anchor that `writeAnchor` writes. -/
def writtenAnchor (as : List Attribute) (content : Text) : Anchor where
  opening := ['<', 'a']
  attributes := writeAttributes as
  content := content
  closing := ['<', '/', 'a', '>']

lemma raw_writtenAnchor (as : List Attribute) (content : Text) :
    (writtenAnchor as content).raw = writeAnchor as content := by
  simp [writtenAnchor, Anchor.raw, writeAnchor]

/-- The scanner finds the anchors that are written. -/
lemma formed_writtenAnchor {as : List Attribute} {content : Text} (h : AreNamed as)
    (hcontent : IsOpenContent content) : (writtenAnchor as content).Formed where
  opening := ⟨'a', by decide, rfl⟩
  apart := isBlank_head_writeAttributes h
  tag := isTagText_writeAttributes h
  content := hcontent
  closing := ⟨'a', [], by decide, by simp, rfl⟩

/-- The anchor of a link that follows the first one. -/
def Link.sibling (l : Link) : Anchor := writtenAnchor (l.applyTo []) []

lemma raw_sibling (l : Link) : l.sibling.raw = l.writeSibling := raw_writtenAnchor _ _

lemma formed_sibling (l : Link) : l.sibling.Formed :=
  formed_writtenAnchor (areNamed_applyTo areNamed_nil l) isOpenContent_nil

/-- The first attributes of an expansion's chain. -/
def Expansion.leadingAttributes (e : Expansion) (as : List Attribute) : List Attribute :=
  match e.replacement with
  | some first => first.applyTo as
  | none => unannotated e.base as

/-- The links of an expansion's chain behind the first anchor. -/
def Expansion.followers (e : Expansion) : List Link :=
  match e.replacement with
  | some _ => e.links.drop 1
  | none => e.links

/-- The anchors of an expansion's chain. -/
def Expansion.anchors (e : Expansion) (as : List Attribute) (content : Text) : List Anchor :=
  writtenAnchor (e.leadingAttributes as) content :: e.followers.map Link.sibling

lemma areNamed_leadingAttributes {as : List Attribute} (h : AreNamed as) (e : Expansion) :
    AreNamed (e.leadingAttributes as) := by
  unfold Expansion.leadingAttributes
  split
  · exact areNamed_applyTo h _
  · exact areNamed_unannotated h _

/-- The anchors of a chain are what is written for the expansion. -/
lemma flatMap_raw_anchors (e : Expansion) (as : List Attribute) (content : Text) :
    (e.anchors as content).flatMap Anchor.raw = e.write as content := by
  have hsib : ∀ ls : List Link,
      (ls.map Link.sibling).flatMap Anchor.raw = ls.flatMap Link.writeSibling := by
    intro ls
    rw [List.flatMap_map]
    exact List.flatMap_congr fun l _ => raw_sibling l
  rw [Expansion.anchors, List.flatMap_cons, raw_writtenAnchor, hsib]
  unfold Expansion.leadingAttributes Expansion.followers Expansion.write
  cases e.replacement with
  | some first => rfl
  | none => rfl

namespace LinkContext

variable {cx : LinkContext} {a b : Anchor} {t : Text}

/-! ### The chain of an anchor -/

/-- The expansion of an anchor's address, if it is annotated. -/
def expansionOf? (cx : LinkContext) (a : Anchor) : Option Expansion :=
  (attribute? "href" (readAttributes a.attributes)).bind cx.expand?

/-- The anchors that take the place of an anchor. -/
def chain (cx : LinkContext) (a : Anchor) : List Anchor :=
  match cx.expansionOf? a with
  | some e => e.anchors (readAttributes a.attributes) a.content
  | none => [a]

lemma chain_of_none (h : cx.expansionOf? a = none) : cx.chain a = [a] := by
  simp [chain, h]

lemma chain_of_some {e : Expansion} (h : cx.expansionOf? a = some e) :
    cx.chain a = e.anchors (readAttributes a.attributes) a.content := by
  simp [chain, h]

/-- The chain of an anchor is the text that takes its place. -/
lemma flatMap_raw_chain (cx : LinkContext) (a : Anchor) :
    (cx.chain a).flatMap Anchor.raw = cx.expandAnchor a := by
  cases h : cx.expansionOf? a with
  | some e =>
    rw [chain_of_some h, flatMap_raw_anchors]
    unfold expansionOf? at h
    simp only [expandAnchor, h]
  | none =>
    rw [chain_of_none h]
    unfold expansionOf? at h
    simp only [expandAnchor, h, List.flatMap_singleton]

lemma chain_ne_nil (cx : LinkContext) (a : Anchor) : cx.chain a ≠ [] := by
  unfold chain
  split
  · simp [Expansion.anchors]
  · simp

/-- The scanner finds every anchor of a chain. -/
lemma formed_of_mem_chain (ha : a.Formed) (hb : b ∈ cx.chain a) : b.Formed := by
  cases h : cx.expansionOf? a with
  | none =>
    rw [chain_of_none h, List.mem_singleton] at hb
    rwa [hb]
  | some e =>
    rw [chain_of_some h, Expansion.anchors, List.mem_cons, List.mem_map] at hb
    rcases hb with rfl | ⟨l, -, rfl⟩
    · exact formed_writtenAnchor
        (areNamed_leadingAttributes (areNamed_readAttributes _) e) ha.content
    · exact formed_sibling l

lemma expansionOf?_writtenAnchor {as : List Attribute} (h : AreNamed as) (content : Text) :
    cx.expansionOf? (writtenAnchor as content) = (attribute? "href" as).bind cx.expand? := by
  simp only [expansionOf?, writtenAnchor, readAttributes_writeAttributes h]

lemma mem_of_expansionOf?_writtenAnchor {as : List Attribute} {content : Text} {e : Expansion}
    (hnamed : AreNamed as) (h : cx.expansionOf? (writtenAnchor as content) = some e) :
    '#' ∈ (writtenAnchor as content).attributes := by
  rw [expansionOf?_writtenAnchor hnamed, Option.bind_eq_some_iff] at h
  obtain ⟨href, hattr, hexp⟩ := h
  exact mem_writeAttributes_of_attribute? (by decide) hattr (mem_of_expand? hexp)

/-- The anchors of a chain are written, unless the chain is the anchor itself. -/
lemma written_of_mem_chain {e : Expansion} (h : cx.expansionOf? a = some e)
    (hb : b ∈ cx.chain a) : ∃ as content, AreNamed as ∧ b = writtenAnchor as content := by
  rw [chain_of_some h, Expansion.anchors, List.mem_cons, List.mem_map] at hb
  rcases hb with rfl | ⟨l, -, rfl⟩
  · exact ⟨_, _, areNamed_leadingAttributes (areNamed_readAttributes _) e, rfl⟩
  · exact ⟨_, _, areNamed_applyTo areNamed_nil l, rfl⟩

/-- An annotated anchor of a chain has the marker in its text, unless the chain is the anchor
itself. -/
lemma mem_of_mem_chain {e e' : Expansion} (h : cx.expansionOf? a = some e)
    (hb : b ∈ cx.chain a) (hexp : cx.expansionOf? b = some e') : '#' ∈ b.attributes := by
  obtain ⟨as, content, hnamed, rfl⟩ := written_of_mem_chain h hb
  exact mem_of_expansionOf?_writtenAnchor hnamed hexp

/-! ### Documents that are left as they are -/

lemma expandAnchors_nil : cx.expandAnchors [] = [] := by
  simp [expandAnchors, pieces_nil]

lemma expandAnchors_char {c : Char} (h : anchor? (c :: t) = none) :
    cx.expandAnchors (c :: t) = c :: cx.expandAnchors t := by
  simp [expandAnchors, pieces_char h, expandPiece]

lemma expandAnchors_anchor (ha : a.Formed) :
    cx.expandAnchors (a.raw ++ t) = (cx.chain a).flatMap Anchor.raw ++ cx.expandAnchors t := by
  simp [expandAnchors, pieces_anchor ha, expandPiece, flatMap_raw_chain]

/-- Anchors one after the other are replaced one after the other. -/
lemma expandAnchors_anchors {bs : List Anchor} (hbs : ∀ b ∈ bs, b.Formed) :
    cx.expandAnchors (bs.flatMap Anchor.raw ++ t) =
      (bs.flatMap cx.chain).flatMap Anchor.raw ++ cx.expandAnchors t := by
  induction bs with
  | nil => simp
  | cons b bs ih =>
    obtain ⟨hb, hbs⟩ := List.forall_mem_cons.1 hbs
    rw [List.flatMap_cons, List.append_assoc, expandAnchors_anchor hb, ih hbs, List.flatMap_cons,
      List.flatMap_append, List.append_assoc]

/-- A rewritten text does not fall behind the text by anchors: in front of what a text is rewritten
to, no anchor can stand such that the text results. -/
lemma raw_append_expandAnchors_ne {bs : List Anchor} (hbs : ∀ b ∈ bs, b.Formed) (hne : bs ≠ [])
    (t : Text) : bs.flatMap Anchor.raw ++ cx.expandAnchors t ≠ t := by
  -- the text begins with the anchors, so the rest of it has the same form and is shorter
  induction h : t.length using Nat.strongRecOn generalizing bs t with
  | ind n ih =>
    intro heq
    obtain ⟨b, bs', rfl⟩ := List.exists_cons_of_ne_nil hne
    set bs := b :: bs' with hbsdef
    obtain ⟨u, hu⟩ := (hbs b List.mem_cons_self).exists_cons
    have hshort : (cx.expandAnchors t).length < t.length := by
      have hlen := congrArg List.length heq
      rw [hbsdef, List.flatMap_cons, hu] at hlen
      simp only [List.cons_append, List.length_cons, List.length_append] at hlen
      omega
    have hrest : (bs.flatMap cx.chain).flatMap Anchor.raw ++
        cx.expandAnchors (cx.expandAnchors t) = cx.expandAnchors t := by
      rw [← expandAnchors_anchors hbs, heq]
    have hformed : ∀ x ∈ bs.flatMap cx.chain, x.Formed := by
      intro x hx
      obtain ⟨y, hy, hxy⟩ := List.mem_flatMap.1 hx
      exact formed_of_mem_chain (hbs y hy) hxy
    have hne' : bs.flatMap cx.chain ≠ [] := by
      rw [hbsdef, List.flatMap_cons]
      exact fun hnil => chain_ne_nil cx b (List.append_eq_nil_iff.1 hnil).1
    exact ih _ (h ▸ hshort) hformed hne' _ rfl hrest

/-- A document is left as it is exactly if every anchor in it is. -/
lemma expandAnchors_eq_self_iff :
    cx.expandAnchors t = t ↔ ∀ a, .anchor a ∈ pieces t → cx.chain a = [a] := by
  induction t using pieces.induct with
  | case1 => simp [expandAnchors_nil, pieces_nil]
  | case2 c t a rest hfound ih =>
    obtain ⟨ha, heq⟩ := anchor?_eq_some_iff.1 hfound
    rw [heq, pieces_anchor ha, expandAnchors_anchor ha]
    constructor
    · intro h
      -- the chain begins with the anchor itself, and nothing can follow it
      obtain ⟨b, bs, hchain⟩ := List.exists_cons_of_ne_nil (chain_ne_nil cx a)
      have hformed : ∀ x ∈ b :: bs, x.Formed :=
        fun x hx => formed_of_mem_chain ha (hchain ▸ hx)
      rw [hchain, List.flatMap_cons, List.append_assoc] at h
      obtain ⟨rfl, hrest⟩ := (hformed b List.mem_cons_self).inj ha h
      obtain rfl : bs = [] := by
        by_contra hne
        exact raw_append_expandAnchors_ne
          (fun x hx => hformed x (List.mem_cons_of_mem b hx)) hne rest hrest
      rintro x hx
      rcases List.mem_cons.1 hx with hx | hx
      · obtain rfl : x = b := by simpa using hx
        exact hchain
      · exact ih.1 (by simpa using hrest) x hx
    · intro h
      rw [h a List.mem_cons_self, ih.2 fun x hx => h x (List.mem_cons_of_mem _ hx)]
      simp
  | case3 c t hnone ih =>
    rw [expandAnchors_char hnone, pieces_char hnone, List.cons.injEq]
    simpa using ih

/-! ### Scanning a rewritten document -/

/-- Behind an opening tag that begins no anchor, no anchor is rewritten. -/
def SparesUnfinished (cx : LinkContext) (t : Text) : Prop :=
  ∀ ps c qs, pieces t = ps ++ .char c :: qs → OpensAnchor (c :: qs.flatMap Piece.raw) →
    ∀ a, .anchor a ∈ qs → cx.chain a = [a]

/-- The pieces that take the place of a piece. -/
def chainPieces (cx : LinkContext) : Piece → List Piece
  | .char c => [.char c]
  | .anchor a => (cx.chain a).map .anchor

lemma SparesUnfinished.tail {p : Piece} {u : Text} (h : cx.SparesUnfinished t)
    (hp : pieces t = p :: pieces u) : cx.SparesUnfinished u :=
  fun ps c qs hu => h (p :: ps) c qs (by rw [hp, hu, List.cons_append])

/-- A rewritten text begins with a `<` or as the text did. -/
lemma cons_of_expandAnchors {x : Char} {u : Text} (h : cx.expandAnchors t = x :: u)
    (hx : x ≠ '<') : ∃ s, t = x :: s ∧ cx.expandAnchors s = u := by
  cases t with
  | nil => simp [expandAnchors_nil] at h
  | cons c t =>
    cases hfound : anchor? (c :: t) with
    | none =>
      rw [expandAnchors_char hfound, List.cons.injEq] at h
      exact ⟨t, by rw [h.1], h.2⟩
    | some ar =>
      obtain ⟨a, rest⟩ := ar
      obtain ⟨ha, heq⟩ := anchor?_eq_some_iff.1 hfound
      obtain ⟨b, bs, hchain⟩ := List.exists_cons_of_ne_nil (chain_ne_nil cx a)
      have hb : b.Formed := formed_of_mem_chain ha (hchain ▸ List.mem_cons_self)
      obtain ⟨v, hv⟩ := hb.exists_cons
      rw [heq, expandAnchors_anchor ha, hchain, List.flatMap_cons, hv] at h
      exact absurd (List.cons.inj h).1.symm hx

/-- Rewriting makes no opening tag. -/
lemma opensAnchor_of_expandAnchors {c : Char} (h : OpensAnchor (c :: cx.expandAnchors t)) :
    OpensAnchor (c :: t) := by
  obtain ⟨l, d, u, hl, hd, heq⟩ := h
  obtain ⟨rfl, htail⟩ := List.cons.inj heq
  have hl' : l ≠ '<' := by
    rintro rfl
    exact absurd hl (by decide)
  have hd' : d ≠ '<' := by
    rintro rfl
    rcases hd with hd | hd
    · exact absurd hd (by decide)
    · exact absurd hd (by decide)
  obtain ⟨s, rfl, hs⟩ := cons_of_expandAnchors htail hl'
  obtain ⟨r, rfl, -⟩ := cons_of_expandAnchors hs hd'
  exact ⟨l, d, r, hl, hd, rfl⟩

/-- The scanner finds in a rewritten document the chains that were written, and nothing else. -/
lemma pieces_expandAnchors (h : cx.SparesUnfinished t) :
    pieces (cx.expandAnchors t) = (pieces t).flatMap cx.chainPieces := by
  induction t using pieces.induct with
  | case1 => simp [expandAnchors_nil, pieces_nil]
  | case2 c t a rest hfound ih =>
    obtain ⟨ha, heq⟩ := anchor?_eq_some_iff.1 hfound
    rw [heq] at h ⊢
    rw [expandAnchors_anchor ha, pieces_anchor ha, List.flatMap_cons,
      pieces_anchors fun b hb => formed_of_mem_chain ha hb, ih (h.tail (pieces_anchor ha rest))]
    rfl
  | case3 c t hnone ih =>
    rw [expandAnchors_char hnone, pieces_char hnone, List.flatMap_cons,
      ← ih (h.tail (pieces_char hnone))]
    refine pieces_char ?_
    by_cases hopen : OpensAnchor (c :: t)
    · -- the tag is unfinished, so all that follows it is as it was
      have hself : cx.expandAnchors t = t := by
        refine expandAnchors_eq_self_iff.2 (h [] c (pieces t) (pieces_char hnone) ?_)
        rwa [flatMap_raw_pieces]
      rwa [hself]
    · exact anchor?_eq_none fun h' => hopen (opensAnchor_of_expandAnchors h')

end LinkContext

end NoteLinks
