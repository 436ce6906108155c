import NoteLinks.Proofs.Rewriting

/-!
# Scanning what rewriting wrote

The chain that takes the place of an annotated anchor is text again, made from values that an author
chose.  This module scans that text with the grammar of anchors, and finds in it the links of the
expansion and nothing else (`pieces_expandHtml_annotatedAnchor`).

An anchor of a link keeps the attributes whose names it does not state itself, and has those of the
link behind them (`Link.applyTo_append`, `Link.applyTo_of_isTidy`).  For this the classes of the
link must be written as lists of classes are merged, and those of an expansion's links are
(`LinkContext.isTidy_of_mem_links`).  So the chain is known anchor by anchor
(`LinkContext.chain_scannedAnchor`), and `Anchor.Says` sums up what each of them says.
-/

namespace NoteLinks

open Html

namespace Html

/-! ## Annotated anchors -/

/-- An anchor with an address behind further attributes, as it is written. -/
def annotatedAnchor (further : List AttributeText) (href content : Text) : Text :=
  "<a" ++ further.flatMap AttributeText.raw ++ " href=\"" ++ escapeValue href ++ "\">" ++ content ++
    "</a>"

lemma isAttributeName_href : IsAttributeName "href" := by decide

/-- The anchor as the scanner sees it. -/
def scannedAnchor (further : List AttributeText) (href content : Text) : Anchor where
  opening := ['<', 'a']
  attributes :=
    (further ++ [AttributeText.ofAttribute ⟨"href", some href⟩ isAttributeName_href]).flatMap
      AttributeText.raw
  content := content
  closing := ['<', '/', 'a', '>']

section ScannedAnchor

variable {further : List AttributeText} {href content : Text}

lemma raw_scannedAnchor : (scannedAnchor further href content).raw =
    annotatedAnchor further href content := by
  unfold annotatedAnchor
  simp [scannedAnchor, Anchor.raw, AttributeText.raw_ofAttribute, writeAttribute_value]

lemma readAttributes_scannedAnchor :
    readAttributes (scannedAnchor further href content).attributes =
      further.map AttributeText.decoded ++ [⟨"href", some href⟩] := by
  rw [scannedAnchor, AttributeText.readAttributes_flatMap_raw, List.map_append, List.map_singleton,
    AttributeText.decoded_ofAttribute]

lemma formed_scannedAnchor (hcontent : '<' ∉ content) :
    (scannedAnchor further href content).Formed where
  opening := ⟨'a', by decide, rfl⟩
  apart := AttributeText.isBlank_head_flatMap_raw _
  tag := AttributeText.isTagText_flatMap_raw _
  content := isOpenContent_of_not_mem hcontent
  closing := ⟨'a', [], by decide, by simp, rfl⟩

end ScannedAnchor

end Html

/-! ## Attributes of a link's anchor -/

namespace Link

variable {l : Link} {as : List Attribute}

/-- The names of the attributes that the anchor of a link states itself. -/
def attributeNames : List Text := ["href", "title", "class", "role", "aria-disabled"]

/-- The attributes by which an anchor says what a link says. -/
def attributes (l : Link) : List Attribute :=
  (match l.href with
    | some href => [⟨"href", some href⟩]
    | none => [⟨"role", some "link"⟩, ⟨"aria-disabled", some "true"⟩]) ++
    [⟨"title", some l.title⟩, ⟨"class", some l.cssClass⟩]

/-- The attributes have other names than those that the anchor of a link states itself, in whatever
letter case. -/
def AreFurther (as : List Attribute) : Prop :=
  ∀ a ∈ as, ∀ name ∈ attributeNames, a.isNamed name = false

instance (as : List Attribute) : Decidable (AreFurther as) :=
  inferInstanceAs (Decidable (∀ a ∈ as, ∀ name ∈ attributeNames, a.isNamed name = false))

lemma areFurther_nil : AreFurther [] := by simp [AreFurther]

/-- Further attributes stay in front of those that a link changes. -/
lemma applyTo_append (h : AreFurther as) (bs : List Attribute) :
    l.applyTo (as ++ bs) = as ++ l.applyTo bs := by
  have hother : ∀ name ∈ attributeNames, ∀ a ∈ as, a.isNamed name = false :=
    fun name hname a ha => h a ha name hname
  have hclass : ∀ a ∈ as, a.isNamed "class" = false := hother _ (by decide)
  have htitle : ∀ a ∈ as, a.isNamed "title" = false := hother _ (by decide)
  have hhref : ∀ a ∈ as, a.isNamed "href" = false := hother _ (by decide)
  have hset : l.setHref (as ++ bs) = as ++ l.setHref bs := by
    unfold setHref
    split
    · exact setAttribute_append hhref bs
    · rw [removeAttribute_append hhref, setAttribute_append (hother _ (by decide)),
        setAttribute_append (hother _ (by decide))]
  simp only [applyTo, hset, setAttribute_append htitle, attribute?_append hclass,
    setAttribute_append hclass]

/-- The classes are written as lists of classes are merged: each once, with a space in between. -/
def IsTidy (l : Link) : Prop := l.classesOver [] = l.cssClass

/-- An anchor without attributes, or with an address only, gets the attributes of the link. -/
lemma applyTo_of_isTidy (h : l.IsTidy) {bs : List Attribute}
    (hbs : bs = [] ∨ ∃ href, bs = [⟨"href", some href⟩]) : l.applyTo bs = l.attributes := by
  obtain ⟨href, title, cssClass⟩ := l
  have hclasses : classesOver ⟨href, title, cssClass⟩ [] = cssClass := h
  have happly : applyTo ⟨href, title, cssClass⟩ bs =
      attributes ⟨href, title, classesOver ⟨href, title, cssClass⟩ []⟩ := by
    rcases hbs with rfl | ⟨old, rfl⟩
    · cases href <;> rfl
    · cases href <;> rfl
  rw [happly, hclasses]

lemma areNamed_attributes (l : Link) : AreNamed l.attributes := by
  obtain ⟨href, title, cssClass⟩ := l
  cases href with
  | none => simp [AreNamed, attributes]; decide
  | some href => simp [AreNamed, attributes]; decide

end Link

/-! ## Links of an expansion -/

/-- The class lists of a provider's links. -/
def Provider.classLists (p : Provider) : List Text :=
  [p.cssClass, Link.errorClass ++ " " ++ p.cssClass, p.cssClass ++ " " ++ Link.currentClass,
    p.cssClass ++ " " ++ Link.diagramClass]

lemma Provider.join_distinct_words :
    ∀ p ∈ Provider.table, ∀ cssClass ∈ p.classLists,
      Text.join " " (Text.distinct (Text.words cssClass)) = cssClass := by
  decide +kernel

namespace LinkContext

variable {cx : LinkContext} {e : Expansion} {l : Link} {href content : Text}

/-- The link of a provider's value has one of the provider's class lists. -/
lemma cssClass_providerLink (cx : LinkContext) (p : Provider) (value : Text) :
    (cx.providerLink p value).cssClass ∈ p.classLists := by
  unfold providerLink
  simp only
  split
  · simp [Provider.classLists, Link.leading]
  · simp [Provider.classLists, Link.error]

/-- So have the links of a cross-reference. -/
lemma cssClass_crossReferenceLinks {p : Provider} {value : Text}
    (h : l ∈ cx.crossReferenceLinks p value) : l.cssClass ∈ p.classLists := by
  unfold crossReferenceLinks at h
  split at h
  · obtain rfl := List.mem_singleton.1 h
    simp [Provider.classLists, Link.error]
  · split at h
    · obtain rfl := List.mem_singleton.1 h
      simp [Provider.classLists, Link.error]
    · rcases List.mem_cons.1 h with rfl | h
      · unfold recordLink Link.leading
        split
        · simp [Provider.classLists]
        · simp [Provider.classLists]
      · split at h
        · obtain rfl := List.mem_singleton.1 h
          simp [Provider.classLists, diagramLink, Link.leading]
        · simp at h

/-- So have the links of every key. -/
lemma cssClass_group {key value : Text} (h : l ∈ cx.group key value) :
    ∃ p ∈ Provider.table, l.cssClass ∈ p.classLists := by
  unfold group at h
  cases hkey : Provider.ofKey? key with
  | none => simp [hkey] at h
  | some p =>
    refine ⟨p, (Provider.mem_table_of_ofKey? hkey).1, ?_⟩
    simp only [hkey] at h
    split at h
    · exact cssClass_crossReferenceLinks h
    · obtain rfl := List.mem_singleton.1 h
      exact cx.cssClass_providerLink p value

/-- The classes of an expansion's links are written as lists of classes are merged. -/
lemma isTidy_of_mem_links (h : cx.expand? href = some e) (hl : l ∈ e.links) : l.IsTidy := by
  obtain ⟨base, raw, -, -, -, rfl⟩ := expand?_eq_some_iff.1 h
  rw [links_expansion, groups_expansion, List.mem_append] at hl
  rcases hl with hl | hl
  · obtain ⟨ls, hls, hl⟩ := List.mem_flatten.1 hl
    obtain ⟨key, -, rfl⟩ := List.mem_map.1 hls
    obtain ⟨p, hp, hclass⟩ := cssClass_group hl
    exact Provider.join_distinct_words p hp _ hclass
  · split at hl
    · simp at hl
    · obtain rfl := List.mem_singleton.1 hl
      have herror : Text.join " " (Text.distinct (Text.words Link.errorClass)) =
          Link.errorClass := by decide
      exact herror

/-! ## The chain of an annotated anchor -/

/-- Where a key is recognized, the chain has one anchor for every link.  Each has the attributes of
its link, the first one behind those that stood there, and the first one alone has content. -/
lemma chain_scannedAnchor {further : List AttributeText} (h : cx.expand? href = some e)
    (hrec : 0 < e.recognized) (hfurther : Link.AreFurther (further.map AttributeText.decoded)) :
    ∃ first links, e.links = first :: links ∧
      cx.chain (scannedAnchor further href content) =
        writtenAnchor (further.map AttributeText.decoded ++ first.attributes) content ::
          links.map fun l => writtenAnchor l.attributes [] := by
  obtain ⟨first, ls, hflat⟩ : ∃ first ls, e.groups.flatten = first :: ls :=
    List.exists_cons_of_ne_nil (List.ne_nil_of_length_pos hrec)
  have hlinks : e.links = first :: (ls ++ e.unknown.toList) := by
    rw [Expansion.links, hflat, List.cons_append]
  have hreplacement : e.replacement = some first := by rw [Expansion.replacement, hflat]; rfl
  -- the classes of the links are tidy, so setting them leaves what the link states
  have htidy : ∀ l ∈ e.links, l.IsTidy := fun l hl => isTidy_of_mem_links h hl
  obtain ⟨hfirst, hrest⟩ := List.forall_mem_cons.1 (hlinks ▸ htidy)
  have hexp : cx.expansionOf? (scannedAnchor further href content) = some e := by
    have hhref : ∀ a ∈ further.map AttributeText.decoded, a.isNamed "href" = false :=
      fun a ha => hfurther a ha _ (by decide)
    rw [expansionOf?, readAttributes_scannedAnchor, attribute?_append hhref]
    exact h
  have hsibling : ∀ l ∈ ls ++ e.unknown.toList, l.sibling = writtenAnchor l.attributes [] := by
    intro l hl
    rw [Link.sibling, Link.applyTo_of_isTidy (hrest l hl) (Or.inl rfl)]
  refine ⟨first, ls ++ e.unknown.toList, hlinks, ?_⟩
  rw [chain_of_some hexp, readAttributes_scannedAnchor, Expansion.anchors]
  simp only [Expansion.leadingAttributes, Expansion.followers, hreplacement]
  rw [Link.applyTo_append hfurther, Link.applyTo_of_isTidy hfirst (Or.inr ⟨_, rfl⟩), hlinks,
    List.drop_one, List.tail_cons, List.map_congr_left hsibling]
  rfl

end LinkContext

/-- An anchor says what a link says, and besides has only further attributes and a content. -/
structure Html.Anchor.Says (a : Anchor) (l : Link) (further : List Attribute) (content : Text) :
    Prop where
  href_eq : attribute? "href" (readAttributes a.attributes) = l.href
  title_eq : attribute? "title" (readAttributes a.attributes) = some l.title
  class_eq : attribute? "class" (readAttributes a.attributes) = some l.cssClass
  /-- The anchor of a link that cannot be followed has no address, not even an empty one, and is
  marked as disabled. -/
  disabled : l.href = none →
    (∀ b ∈ readAttributes a.attributes, b.isNamed "href" = false) ∧
      attribute? "role" (readAttributes a.attributes) = some "link" ∧
      attribute? "aria-disabled" (readAttributes a.attributes) = some "true"
  attributes_eq : readAttributes a.attributes = further ++ l.attributes
  content_eq : a.content = content

/-- An anchor that is written with the attributes of a link says what the link says. -/
lemma says_writtenAnchor {further : List Attribute} (hnamed : AreNamed further)
    (hfurther : Link.AreFurther further) (l : Link) (content : Text) :
    (writtenAnchor (further ++ l.attributes) content).Says l further content := by
  have hread : readAttributes (writtenAnchor (further ++ l.attributes) content).attributes =
      further ++ l.attributes := by
    refine readAttributes_writeAttributes fun a ha => ?_
    rcases List.mem_append.1 ha with ha | ha
    · exact hnamed a ha
    · exact l.areNamed_attributes a ha
  -- none of the further attributes has a name of the link, so these are found behind them
  have hvalue : ∀ name ∈ Link.attributeNames,
      attribute? name (further ++ l.attributes) = attribute? name l.attributes :=
    fun name hname => attribute?_append (fun a ha => hfurther a ha name hname) _
  obtain ⟨href, title, cssClass⟩ := l
  refine ⟨?_, ?_, ?_, ?_, hread, rfl⟩
  · rw [hread, hvalue _ (by decide)]
    cases href <;> rfl
  · rw [hread, hvalue _ (by decide)]
    cases href <;> rfl
  · rw [hread, hvalue _ (by decide)]
    cases href <;> rfl
  · rintro rfl
    rw [hread, hvalue _ (by decide), hvalue _ (by decide)]
    refine ⟨fun b hb => ?_, rfl, rfl⟩
    rcases List.mem_append.1 hb with hb | hb
    · exact hfurther b hb _ (by decide)
    · simp only [Link.attributes, List.cons_append, List.nil_append, List.mem_cons,
        List.not_mem_nil, or_false] at hb
      rcases hb with rfl | rfl | rfl | rfl <;> rfl

namespace LinkContext

/-- An annotated anchor is rewritten to anchors that say what the links of its expansion say, one
for every link, and nothing stands between them.  This is so whatever characters the address, the
titles and the attributes hold. -/
theorem pieces_expandHtml_annotatedAnchor {cx : LinkContext} {e : Expansion} {href content : Text}
    {further : List AttributeText} (h : cx.expand? href = some e) (hrec : 0 < e.recognized)
    (hfurther : Link.AreFurther (further.map AttributeText.decoded)) (hcontent : '<' ∉ content) :
    ∃ anchors : List Anchor,
      pieces (cx.expandHtml (annotatedAnchor further href content)) = anchors.map .anchor ∧
        anchors.length = e.links.length ∧
        ∀ (k : Nat) (a : Anchor) (l : Link), anchors[k]? = some a → e.links[k]? = some l →
          a.Says l (if k = 0 then further.map AttributeText.decoded else [])
            (if k = 0 then content else []) := by
  have hformed : (scannedAnchor further href content).Formed := formed_scannedAnchor hcontent
  have hnamed : AreNamed (further.map AttributeText.decoded) := by
    intro a ha
    obtain ⟨t, -, rfl⟩ := List.mem_map.1 ha
    exact t.isAttributeName
  have hmem : '#' ∈ annotatedAnchor further href content := by
    have hsign : '#' ∈ escapeValue href := mem_escapeValue (by decide) (mem_of_expand? h)
    unfold annotatedAnchor
    simp [hsign]
  -- the document is a single anchor, so it gives way to the chain of that anchor
  have hhtml : cx.expandHtml (annotatedAnchor further href content) =
      (cx.chain (scannedAnchor further href content)).flatMap Anchor.raw := by
    have hdoc : annotatedAnchor further href content =
        (scannedAnchor further href content).raw ++ [] := by
      rw [raw_scannedAnchor, List.append_nil]
    rw [expandHtml_of_mem hmem, hdoc, expandAnchors_anchor hformed, expandAnchors_nil,
      List.append_nil]
  refine ⟨cx.chain (scannedAnchor further href content), ?_, ?_⟩
  · have hbs : ∀ b ∈ cx.chain (scannedAnchor further href content), b.Formed :=
      fun b hb => formed_of_mem_chain hformed hb
    have hpieces := pieces_anchors hbs []
    rwa [List.append_nil, pieces_nil, List.append_nil, ← hhtml] at hpieces
  · obtain ⟨first, links, hlinks, hchain⟩ := chain_scannedAnchor h hrec hfurther
    rw [hlinks, hchain]
    refine ⟨by simp, ?_⟩
    -- only the first anchor has the further attributes and the content
    rintro (_ | k) a l ha hl
    · obtain rfl : writtenAnchor _ content = a := by simpa using ha
      obtain rfl : first = l := by simpa using hl
      exact says_writtenAnchor hnamed hfurther first content
    · rw [List.getElem?_cons_succ] at ha hl
      rw [List.getElem?_map, hl, Option.map_some, Option.some.injEq] at ha
      rw [← ha]
      exact says_writtenAnchor areNamed_nil Link.areFurther_nil l []

/-- Attributes in three spellings: without a value, without quotes, and with characters between the
quotes that would end the tag or the other kind of quotes elsewhere. -/
def threeSpellings : List AttributeText :=
  [.spaced "download" (by decide) none,
    ⟨"\n", "REL",
      some ⟨" ", " ", .bare "nofollow" (by decide) (List.all_iff_forall_prop.1 (by decide)),
        List.forall_mem_singleton.2 (by decide), List.forall_mem_singleton.2 (by decide)⟩,
      by decide, List.forall_mem_singleton.2 (by decide), by decide⟩,
    .spaced "data-note" (by decide)
      (some (.quoted '\'' "a > \"b\" &amp;c</a>" isQuote_single (by decide)))]

/-- The links of an annotation with a value that is no cross-reference, a value with special
characters, and a key with one. -/
def specialCharacters : Expansion where
  base := "a"
  groups :=
    [[⟨none, "Invalid cross-reference syntax: I\"1", "link-error link-wt"⟩],
      [⟨some "https://gov.genealogy.net/item/show/'><", "GOV: '><", "link-gov"⟩]]
  unknown := some ⟨none, "Unknown annotation keys: zz&", "link-error"⟩

/-- Nothing of it escapes into the text: an anchor with these attributes is rewritten to three
anchors that say what these links say. -/
theorem pieces_expandHtml_specialCharacters :
    demoPage.expand? "a#@wt=I\"1&gov='><&zz%26" = some specialCharacters ∧
      0 < specialCharacters.recognized ∧
      Link.AreFurther (threeSpellings.map AttributeText.decoded) ∧ '<' ∉ ("x" : Text) ∧
      ∃ anchors : List Anchor,
        pieces (demoPage.expandHtml
            (annotatedAnchor threeSpellings "a#@wt=I\"1&gov='><&zz%26" "x")) =
          anchors.map .anchor ∧
        anchors.length = specialCharacters.links.length ∧
        ∀ (k : Nat) (a : Anchor) (l : Link), anchors[k]? = some a →
          specialCharacters.links[k]? = some l →
            a.Says l (if k = 0 then threeSpellings.map AttributeText.decoded else [])
              (if k = 0 then "x" else []) := by
  have hexp : demoPage.expand? "a#@wt=I\"1&gov='><&zz%26" = some specialCharacters := by
    decide +kernel
  have hrec : 0 < specialCharacters.recognized := by decide
  have hfurther : Link.AreFurther (threeSpellings.map AttributeText.decoded) := by decide +kernel
  have hcontent : '<' ∉ ("x" : Text) := by decide
  exact ⟨hexp, hrec, hfurther, hcontent,
    pieces_expandHtml_annotatedAnchor hexp hrec hfurther hcontent⟩

end LinkContext

end NoteLinks
