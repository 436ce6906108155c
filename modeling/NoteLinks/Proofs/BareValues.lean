import NoteLinks.Proofs.KeptAttributes
import NoteLinks.Proofs.Rescanning
import NoteLinks.Proofs.Trimming

/-!
# Addresses without quotes

A value that holds no blank, no quote, no angle bracket and no backtick can be written between
double quotes, between single quotes and without quotes (`IsUnquoted`).  Between quotes it is read
as it is.  Without quotes it is read up to its first equals sign, and what stands behind the sign is
read as the names of further attributes (`readAttributes_bare`).

So an annotated anchor is replaced by the same chain in all three spellings if its address has no
equals sign, but not in general (`LinkContext.expandHtml_addressAnchor`): a bare address `#@gov=1`
is taken for `#@gov` (`LinkContext.expandHtml_addressAnchor_ne`).  As a chain keeps the attributes
that it does not state itself (`LinkContext.filter_isFurther_chain`), every other name behind the
sign makes a difference.
-/

namespace NoteLinks

open Html

namespace Html

/-! ## Values in three spellings -/

/-- A value that may stand without quotes: it has a character, and none that ends a value or a tag.
An equals sign is no such character. -/
structure IsUnquoted (v : Text) : Prop where
  ne_nil : v ≠ []
  plain : ∀ c ∈ v, Text.isBlank c = false ∧ c ∉ ['"', '\'', '<', '>', Char.ofNat 96]

instance (v : Text) : Decidable (IsUnquoted v) :=
  have : Decidable (∀ c ∈ v, Text.isBlank c = false ∧ c ∉ ['"', '\'', '<', '>', Char.ofNat 96]) :=
    List.decidableBAll _ v
  decidable_of_iff (v ≠ [] ∧ ∀ c ∈ v, _) ⟨fun h => ⟨h.1, h.2⟩, fun h => ⟨h.ne_nil, h.plain⟩⟩

def quotedValue (q : Char) (v : Text) : Text := q :: (v ++ [q])

/-- An anchor with an address and nothing else; the address is written with its quotes, if it has
any. -/
def addressAnchor (written content : Text) : Text :=
  "<a href=" ++ written ++ ">" ++ content ++ "</a>"

def hrefText (written : Text) : Text := " href=" ++ written

/-- The anchor as the scanner sees it. -/
def scannedAddressAnchor (written content : Text) : Anchor where
  opening := ['<', 'a']
  attributes := hrefText written
  content := content
  closing := ['<', '/', 'a', '>']

variable {v w u written content : Text} {q : Char}

lemma raw_scannedAddressAnchor : (scannedAddressAnchor written content).raw =
    addressAnchor written content := by
  have hopening : ['<', 'a'] ++ hrefText written = "<a href=".toList ++ written := rfl
  exact congrArg (fun t => t ++ ">" ++ content ++ "</a>") hopening

/-- The scanner finds the anchor, if the address ends where it is meant to. -/
lemma formed_scannedAddressAnchor (htag : IsTagText (hrefText written)) (hcontent : '<' ∉ content) :
    (scannedAddressAnchor written content).Formed where
  opening := ⟨'a', by decide, rfl⟩
  apart d hd := by
    obtain rfl : ' ' = d := Option.some.inj hd
    decide
  tag := htag
  content := isOpenContent_of_not_mem hcontent
  closing := ⟨'a', [], by decide, by simp, rfl⟩

lemma IsUnquoted.quote_not_mem (hv : IsUnquoted v) (hq : IsQuote q) : q ∉ v := by
  intro hmem
  obtain ⟨-, hplain⟩ := hv.plain q hmem
  rcases hq with rfl | rfl
  · exact hplain (by decide)
  · exact hplain (by decide)

/-- The characters of the value that end no bare value are those other than the equals sign. -/
lemma IsUnquoted.isBareChar (hv : IsUnquoted v) {c : Char} (hc : c ∈ v) (hne : c ≠ '=') :
    isBareChar c = true := by
  obtain ⟨hblank, hplain⟩ := hv.plain c hc
  simp only [List.mem_cons, List.not_mem_nil, or_false, not_or] at hplain
  simp [Html.isBareChar, hblank, hplain, hne]

/-- The address between quotes, as an attribute in one of its spellings. -/
def quotedHref (q : Char) (v : Text) (hq : IsQuote q) (hv : q ∉ v) : AttributeText :=
  .spaced "href" isAttributeName_href (some (.quoted q v hq hv))

lemma flatMap_raw_quotedHref (hq : IsQuote q) (hv : q ∉ v) :
    [quotedHref q v hq hv].flatMap AttributeText.raw = hrefText (quotedValue q v) := by
  simp [quotedHref, AttributeText.raw_spaced, ValueText.raw, hrefText, quotedValue]

lemma readAttributes_quoted (hq : IsQuote q) (hv : q ∉ v) :
    readAttributes (hrefText (quotedValue q v)) = [⟨"href", some (unescape v)⟩] := by
  rw [← flatMap_raw_quotedHref hq hv, AttributeText.readAttributes_flatMap_raw]
  rfl

lemma isTagText_quoted (hq : IsQuote q) (hv : q ∉ v) : IsTagText (hrefText (quotedValue q v)) := by
  rw [← flatMap_raw_quotedHref hq hv]
  exact AttributeText.isTagText_flatMap_raw _

/-- Without quotes the value does not end the tag either. -/
lemma isTagText_bare (hv : IsUnquoted v) : IsTagText (hrefText v) := by
  have hname : (" href=".toList.all fun c => decide (c ≠ '>' ∧ ¬ IsQuote c)) = true := by decide
  have hplain : ∀ c ∈ hrefText v, c ≠ '>' ∧ ¬ IsQuote c := by
    refine List.forall_mem_append.2
      ⟨fun c hc => of_decide_eq_true (List.all_eq_true.1 hname c hc), fun c hc => ?_⟩
    obtain ⟨-, hmem⟩ := hv.plain c hc
    simp only [List.mem_cons, List.not_mem_nil, or_false, not_or] at hmem
    exact ⟨hmem.2.2.2.1, not_or.2 ⟨hmem.1, hmem.2.1⟩⟩
  have hquote := quoteAfter?_plain hplain []
  rwa [List.append_nil] at hquote

/-- Behind the equals sign of the address a bare value is read up to the next equals sign. -/
lemma value?_bare (hv : IsUnquoted (w ++ u)) (hw : '=' ∉ w) (hu : ∀ c ∈ u.head?, c = '=') :
    value? ('=' :: (w ++ u)) = if w = [] then none else some (w, u) := by
  obtain ⟨c, t, hct⟩ := List.exists_cons_of_ne_nil hv.ne_nil
  obtain ⟨hblank, hplain⟩ := hv.plain c (by simp [hct])
  simp only [List.mem_cons, List.not_mem_nil, or_false, not_or] at hplain
  have hbare : ∀ x ∈ w, isBareChar x = true :=
    fun x hx => hv.isBareChar (List.mem_append_left u hx) fun heq => hw (heq ▸ hx)
  have hend : ∀ x ∈ u.head?, isBareChar x = false := by
    intro x hx
    obtain rfl := hu x hx
    decide
  have hvalue : bareValue? (w ++ u) = if w = [] then none else some (w, u) := by
    unfold bareValue?
    rw [Text.takeWhile_append_of_forall hbare hend, Text.dropWhile_append_of_forall hbare hend]
    cases w <;> rfl
  have hafter : valueAfterEquals? (w ++ u) = bareValue? (w ++ u) := by
    have htrim : Text.trimStart (w ++ u) = w ++ u :=
      Text.trimStart_eq_self fun x hx => by
        obtain rfl : c = x := by simpa [hct] using hx
        exact hblank
    rw [valueAfterEquals?, htrim]
    -- the value does not begin with a quote, so it is read as a bare one
    split
    · rename_i heq
      exact absurd (List.cons.inj (hct.symm.trans heq)).1 hplain.1
    · rename_i heq
      exact absurd (List.cons.inj (hct.symm.trans heq)).1 hplain.2.1
    · rfl
  have hsign : Text.trimStart ('=' :: (w ++ u)) = '=' :: (w ++ u) :=
    Text.trimStart_eq_self fun x hx => by
      obtain rfl : '=' = x := by simpa using hx
      decide
  rw [value?, hsign]
  exact hafter.trans hvalue

/-- A bare value is read up to its first equals sign, and what stands behind the sign as further
attributes. -/
lemma readAttributes_bare (hv : IsUnquoted (w ++ u)) (hw : '=' ∉ w) (hu : ∀ c ∈ u.head?, c = '=') :
    readAttributes (hrefText (w ++ u)) =
      ⟨"href", if w = [] then none else some (unescape w)⟩ :: readAttributes u := by
  have htext : hrefText (w ++ u) = ' ' :: ("href".toList ++ '=' :: (w ++ u)) := by
    simp [hrefText]
  have hsign : ∀ c ∈ ('=' :: (w ++ u)).head?, isNameChar c = false := by
    intro c hc
    obtain rfl : '=' = c := by simpa using hc
    decide
  rw [htext, readAttributes_skip (by decide), readAttributes_name isAttributeName_href hsign,
    value?_bare hv hw hu]
  by_cases hnil : w = []
  · rw [if_pos hnil, if_pos hnil, hnil, List.nil_append, readAttributes_skip (by decide)]
  · rw [if_neg hnil, if_neg hnil]

/-! ## Further attributes -/

/-- An attribute that an expansion neither sets nor removes. -/
def isFurther (a : Attribute) : Bool := Link.attributeNames.all fun name => !a.isNamed name

/-- Settings of the names that a link states keep all further attributes. -/
lemma SetsOnly.filter_isFurther {settings : List (Text × Text)} {as bs : List Attribute}
    (h : SetsOnly settings as bs) (hnames : settings.map Prod.fst ⊆ Link.attributeNames) :
    bs.filter isFurther = as.filter isFurther := by
  have hclass : ∀ l : List Attribute, l.filter isFurther =
      (l.filter fun a => settings.all fun s => !a.isNamed s.1).filter isFurther := by
    intro l
    rw [List.filter_filter]
    apply List.filter_congr
    intro a _
    by_cases ha : isFurther a = true
    · have hall : (settings.all fun s => !a.isNamed s.1) = true :=
        List.all_eq_true.2 fun s hs =>
          List.all_eq_true.1 ha s.1 (hnames (List.mem_map_of_mem hs))
      rw [ha, hall]
      rfl
    · simp [ha]
  rw [hclass bs, h.others, ← hclass as]

/-- Addresses are not further attributes. -/
lemma filter_isFurther_withoutHref (as : List Attribute) :
    (withoutHref as).filter isFurther = as.filter isFurther := by
  rw [withoutHref, List.filter_filter]
  apply List.filter_congr
  intro a _
  by_cases ha : isFurther a = true
  · have hhref : (!a.isNamed "href") = true := List.all_eq_true.1 ha _ (by decide)
    rw [ha, hhref]
    rfl
  · simp [ha]

end Html

/-- An expansion keeps all further attributes. -/
lemma Expansion.Changes.filter_isFurther {e : Expansion} {as bs : List Attribute}
    (h : e.Changes as bs) : bs.filter isFurther = as.filter isFurther := by
  have hleads : (["href", "title", "class"] : List Text) ⊆ Link.attributeNames := by decide
  have hdisables : (["role", "aria-disabled", "title", "class"] : List Text) ⊆
      Link.attributeNames := by decide
  have hshortens : (["href"] : List Text) ⊆ Link.attributeNames := by decide
  cases h with
  | leads _ _ _ hsets => exact hsets.filter_isFurther hleads
  | disables _ _ _ hsets _ =>
    rw [hsets.filter_isFurther hdisables, filter_isFurther_withoutHref]
  | shortens _ _ hsets => exact hsets.filter_isFurther hshortens
  | removes _ _ heq => rw [heq, filter_isFurther_withoutHref]

namespace LinkContext

variable {cx : LinkContext} {e : Expansion} {v w u written content : Text} {q : Char}

/-- The first anchor of a chain keeps the further attributes of the anchor that stood there. -/
lemma filter_isFurther_chain (cx : LinkContext) (a : Anchor) :
    ∃ b bs, cx.chain a = b :: bs ∧
      (readAttributes b.attributes).filter isFurther =
        (readAttributes a.attributes).filter isFurther := by
  cases he : cx.expansionOf? a with
  | none => exact ⟨a, [], chain_of_none he, rfl⟩
  | some e =>
    refine ⟨_, _, chain_of_some he, ?_⟩
    have hnamed := areNamed_leadingAttributes (areNamed_readAttributes a.attributes) e
    have hread : readAttributes (writtenAnchor
        (e.leadingAttributes (readAttributes a.attributes)) a.content).attributes =
          e.leadingAttributes (readAttributes a.attributes) :=
      readAttributes_writeAttributes hnamed
    rw [hread]
    exact (e.changes_leadingAttributes _).filter_isFurther

/-- Anchors with the same chain have the same further attributes. -/
lemma filter_isFurther_of_chain_eq {a b : Anchor} (ha : a.Formed) (hb : b.Formed)
    (h : (cx.chain a).flatMap Anchor.raw = (cx.chain b).flatMap Anchor.raw) :
    (readAttributes a.attributes).filter isFurther =
      (readAttributes b.attributes).filter isFurther := by
  obtain ⟨x, xs, hx, hxkeep⟩ := cx.filter_isFurther_chain a
  obtain ⟨y, ys, hy, hykeep⟩ := cx.filter_isFurther_chain b
  have hxformed : x.Formed := formed_of_mem_chain ha (hx ▸ List.mem_cons_self)
  have hyformed : y.Formed := formed_of_mem_chain hb (hy ▸ List.mem_cons_self)
  rw [hx, hy, List.flatMap_cons, List.flatMap_cons] at h
  obtain ⟨rfl, -⟩ := hxformed.inj hyformed h
  rw [← hxkeep, hykeep]

/-! ## Addresses in three spellings -/

/-- A document that is a single anchor is replaced by the chain of this anchor. -/
lemma expandHtml_scannedAddressAnchor (htag : IsTagText (hrefText written))
    (hcontent : '<' ∉ content) (hsign : '#' ∈ written ∨ '#' ∈ content) :
    cx.expandHtml (addressAnchor written content) =
      (cx.chain (scannedAddressAnchor written content)).flatMap Anchor.raw := by
  have hmem : '#' ∈ addressAnchor written content := by
    unfold addressAnchor
    rcases hsign with h | h
    · simp [h]
    · simp [h]
  have hdoc : addressAnchor written content =
      (scannedAddressAnchor written content).raw ++ [] := by
    rw [raw_scannedAddressAnchor, List.append_nil]
  rw [expandHtml_of_mem hmem, hdoc,
    expandAnchors_anchor (formed_scannedAddressAnchor htag hcontent), expandAnchors_nil,
    List.append_nil]

/-- What the chain of an anchor is follows from the attributes that are read. -/
lemma flatMap_raw_chain_scannedAddressAnchor {value : Option Text} {as : List Attribute}
    (hread : readAttributes (hrefText written) = ⟨"href", value⟩ :: as) :
    (cx.chain (scannedAddressAnchor written content)).flatMap Anchor.raw =
      match value.bind cx.expand? with
      | some e => e.write (⟨"href", value⟩ :: as) content
      | none => addressAnchor written content := by
  have hattribute : attribute? "href" (⟨"href", value⟩ :: as) = value := by
    have hnamed : Attribute.isNamed "href" ⟨"href", value⟩ = true := rfl
    rw [attribute?, List.find?_cons_of_pos hnamed]
    rfl
  have hattributes : (scannedAddressAnchor written content).attributes = hrefText written := rfl
  rw [flatMap_raw_chain, expandAnchor, hattributes, hread, hattribute, raw_scannedAddressAnchor]
  rfl

lemma mem_quotedValue {c : Char} (hc : c ∈ v) (q : Char) : c ∈ quotedValue q v := by
  unfold quotedValue
  simp [hc]

/-- Between quotes of either kind the address is expanded as it is. -/
lemma expandHtml_quotedAddress (hv : IsUnquoted v) (hcontent : '<' ∉ content)
    (he : cx.expand? (unescape v) = some e) (hsign : '#' ∈ v ∨ '#' ∈ content) (hq : IsQuote q) :
    cx.expandHtml (addressAnchor (quotedValue q v) content) =
      e.write [⟨"href", some (unescape v)⟩] content := by
  have hquote := hv.quote_not_mem hq
  rw [expandHtml_scannedAddressAnchor (isTagText_quoted hq hquote) hcontent
      (hsign.imp_left fun h => mem_quotedValue h q),
    flatMap_raw_chain_scannedAddressAnchor (readAttributes_quoted hq hquote), Option.bind_some, he]

/-- Without quotes the address is expanded up to its first equals sign. -/
lemma expandHtml_bareAddress (cx : LinkContext) (hv : IsUnquoted (w ++ u))
    (hcontent : '<' ∉ content) (hw : '=' ∉ w) (hu : ∀ c ∈ u.head?, c = '=')
    (hsign : '#' ∈ w ++ u ∨ '#' ∈ content) :
    cx.expandHtml (addressAnchor (w ++ u) content) =
      match cx.expand? (unescape w) with
      | some e => e.write (⟨"href", some (unescape w)⟩ :: readAttributes u) content
      | none => addressAnchor (w ++ u) content := by
  rw [expandHtml_scannedAddressAnchor (isTagText_bare hv) hcontent hsign,
    flatMap_raw_chain_scannedAddressAnchor (readAttributes_bare hv hw hu)]
  by_cases hnil : w = []
  · -- nothing stands in front of the sign, so there is no value, and the empty one is not annotated
    have hempty : cx.expand? (unescape []) = none := by
      rw [unescape]
      rfl
    rw [if_pos hnil, hnil, hempty]
    rfl
  · rw [if_neg hnil, Option.bind_some]

/-- If a bare address has the chain of the quoted one, only names that a link states itself stand
behind its equals sign. -/
lemma isFurther_of_expandHtml_eq (hv : IsUnquoted (w ++ u)) (hcontent : '<' ∉ content)
    (hw : '=' ∉ w) (hu : ∀ c ∈ u.head?, c = '=') (hsign : '#' ∈ w ++ u ∨ '#' ∈ content)
    (h : cx.expandHtml (addressAnchor (w ++ u) content) =
      cx.expandHtml (addressAnchor (quotedValue '"' (w ++ u)) content)) :
    ∀ a ∈ readAttributes u, isFurther a = false := by
  have hquote : '"' ∉ w ++ u := hv.quote_not_mem isQuote_double
  have hbare := isTagText_bare hv
  have hquoted := isTagText_quoted isQuote_double hquote
  rw [expandHtml_scannedAddressAnchor hbare hcontent hsign,
    expandHtml_scannedAddressAnchor hquoted hcontent
      (hsign.imp_left fun h => mem_quotedValue h '"')] at h
  have hfilter := filter_isFurther_of_chain_eq (formed_scannedAddressAnchor hbare hcontent)
    (formed_scannedAddressAnchor hquoted hcontent) h
  have hhref : ∀ value, ¬ isFurther ⟨"href", value⟩ = true := fun _ => Bool.false_ne_true
  have hnone : (readAttributes u).filter isFurther = [] := by
    have hread := readAttributes_bare hv hw hu
    have hread' := readAttributes_quoted isQuote_double hquote
    simp only [scannedAddressAnchor] at hfilter
    rwa [hread, hread', List.filter_cons_of_neg (hhref _), List.filter_cons_of_neg (hhref _),
      List.filter_nil] at hfilter
  intro a ha
  simpa using List.filter_eq_nil_iff.1 hnone a ha

/-- An address that is annotated is replaced by the same chain in all three spellings if it has no
equals sign.  Where it has one, the bare address ends there and what stands behind it is read as
further names; so the chain is another one as soon as one of these names is not among those that a
link states itself.  None of the spellings is looked at in a document without a number sign. -/
theorem expandHtml_addressAnchor (hv : IsUnquoted v) (hcontent : '<' ∉ content)
    (he : cx.expand? (unescape v) = some e) :
    (('#' ∈ v ∨ '#' ∈ content) →
      (∀ q, IsQuote q → cx.expandHtml (addressAnchor (quotedValue q v) content) =
        e.write [⟨"href", some (unescape v)⟩] content) ∧
      ('=' ∉ v → cx.expandHtml (addressAnchor v content) =
        e.write [⟨"href", some (unescape v)⟩] content) ∧
      ∀ w u, v = w ++ '=' :: u → '=' ∉ w →
        (cx.expandHtml (addressAnchor v content) =
          match cx.expand? (unescape w) with
          | some e' => e'.write (⟨"href", some (unescape w)⟩ :: readAttributes u) content
          | none => addressAnchor v content) ∧
        (cx.expandHtml (addressAnchor v content) =
            cx.expandHtml (addressAnchor (quotedValue '"' v) content) →
          ∀ a ∈ readAttributes u, isFurther a = false)) ∧
    ('#' ∉ v → '#' ∉ content → ∀ written ∈ [v, quotedValue '"' v, quotedValue '\'' v],
      cx.expandHtml (addressAnchor written content) = addressAnchor written content) := by
  have hskip : ∀ u, readAttributes ('=' :: u) = readAttributes u :=
    fun u => readAttributes_skip (by decide) u
  refine ⟨fun hsign => ⟨fun q hq => ?_, fun hequals => ?_, ?_⟩, fun hvalue hmem => ?_⟩
  · exact expandHtml_quotedAddress hv hcontent he hsign hq
  · -- the whole value stands in front of the equals sign that is not there
    have hself : v ++ [] = v := List.append_nil v
    have hread : cx.expandHtml (addressAnchor (v ++ []) content) = _ :=
      cx.expandHtml_bareAddress (hself.symm ▸ hv) hcontent hequals (by simp) (hself.symm ▸ hsign)
    rw [hself, he, readAttributes_nil] at hread
    exact hread
  · rintro w u rfl hw
    have hread := cx.expandHtml_bareAddress hv hcontent hw (by simp) hsign
    rw [hskip] at hread
    refine ⟨hread, fun heq => ?_⟩
    rw [← hskip]
    exact isFurther_of_expandHtml_eq hv hcontent hw (by simp) hsign heq
  · have hnone : ∀ written, '#' ∉ written → '#' ∉ addressAnchor written content := by
      intro written hwritten
      unfold addressAnchor
      simp [hwritten, hmem]
    have hquoted : ∀ q, IsQuote q → '#' ∉ quotedValue q v := by
      intro q hq hsign
      simp only [quotedValue, List.mem_cons, List.mem_append, List.not_mem_nil, or_false] at hsign
      rcases hq with rfl | rfl
      · simp [hvalue] at hsign
      · simp [hvalue] at hsign
    refine List.forall_mem_cons.2 ⟨?_, List.forall_mem_cons.2 ⟨?_, List.forall_mem_singleton.2 ?_⟩⟩
    · exact expandHtml_of_not_mem (hnone _ hvalue)
    · exact expandHtml_of_not_mem (hnone _ (hquoted _ isQuote_double))
    · exact expandHtml_of_not_mem (hnone _ (hquoted _ isQuote_single))

/-- The expansion of a short address with an equals sign. -/
def numberOne : Expansion where
  base := []
  groups := [[.leading "https://gov.genealogy.net/item/show/1" "GOV: 1" "link-gov"]]
  unknown := none

/-- Between quotes the address leads to the entry with the number; without quotes the number is
lost, and stands among the attributes of an anchor that leads nowhere. -/
theorem expandHtml_addressAnchor_numberOne :
    IsUnquoted "#@gov=1" ∧ '<' ∉ ("x" : Text) ∧
      demoPage.expand? (unescape "#@gov=1") = some numberOne ∧
      '#' ∈ ("#@gov=1" : Text) ∧ '=' ∉ ("#@gov" : Text) ∧
      (∀ q, IsQuote q → demoPage.expandHtml (addressAnchor (quotedValue q "#@gov=1") "x") =
        "<a href=\"https://gov.genealogy.net/item/show/1\" title=\"GOV: 1\" ".toList ++
          "class=\"link-gov\">x</a>") ∧
      demoPage.expandHtml (addressAnchor "#@gov=1" "x") =
        "<a 1 role=\"link\" aria-disabled=\"true\" ".toList ++
          "title=\"GOV:  - Invalid gov link syntax: \" class=\"link-error link-gov\">x</a>" := by
  have hv : IsUnquoted "#@gov=1" := by decide
  have he : demoPage.expand? (unescape "#@gov=1") = some numberOne := by decide +kernel
  have hsign : '#' ∈ ("#@gov=1" : Text) := by decide
  have hcontent : '<' ∉ ("x" : Text) := by decide
  obtain ⟨hquoted, -, hbare⟩ := (expandHtml_addressAnchor hv hcontent he).1 (Or.inl hsign)
  refine ⟨hv, hcontent, he, hsign, by decide, fun q hq => ?_, ?_⟩
  · exact (hquoted q hq).trans (by decide +kernel)
  · exact (hbare "#@gov" "1" rfl (by decide)).1.trans (by decide +kernel)

/-- So this address, which may stand without quotes, has another chain without them. -/
theorem expandHtml_addressAnchor_ne :
    IsUnquoted "#@gov=1" ∧ '<' ∉ ("x" : Text) ∧ demoPage.expand? (unescape "#@gov=1") ≠ none ∧
      demoPage.expandHtml (addressAnchor "#@gov=1" "x") ≠
        demoPage.expandHtml (addressAnchor (quotedValue '"' "#@gov=1") "x") :=
  ⟨by decide, by decide, by decide +kernel, by decide +kernel⟩

end LinkContext

end NoteLinks
