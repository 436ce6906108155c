import Mathlib.Data.List.Sort
import Mathlib.Data.Set.Basic
import NoteLinks.Help.Match
import NoteLinks.Proofs.Cutting
import NoteLinks.Proofs.Trimming

/-!
# Scopes are sets of tags

The texts that state the scopes of a rule or a page stand for a set of tags (`tagsOf`): what is left
of their pieces between commas and bars when the blanks around them are dropped, where anything is
left.  `normalizeScopes` lists this set in increasing order (`mem_normalizeScopes`), and as only one
increasing list has given members, texts have the same normal form exactly if they state the same
tags (`normalizeScopes_eq_iff`).  So neither the order nor the repetition of the texts counts, nor
which of the tags stand in one text (`tagsOf_join`), and a generic rule matches a page exactly if
the two state the same tags (`normalizeScopes_canonical`).
-/

namespace NoteLinks

lemma Text.eq_of_mem_iff {ts us : List Text} (hts : ts.Pairwise (· < ·)) (hus : us.Pairwise (· < ·))
    (h : ∀ t, t ∈ ts ↔ t ∈ us) : ts = us := by
  have hirrefl : Std.Irrefl (fun a b : Text => a < b) := ⟨List.lt_irrefl⟩
  have hantisymm : Std.Antisymm (fun a b : Text => a < b) :=
    ⟨fun a b hab hba => absurd (List.lt_trans hab hba) (List.lt_irrefl a)⟩
  exact hts.eq_of_mem_iff hus h

namespace Help

variable {tag text : Text} {texts texts' : List Text} {c : Char}

/-! ### Tags -/

/-- A character between two tags. -/
def IsTagSeparator (c : Char) : Prop := c = ',' ∨ c = '|'

/-- A tag is a trimmed text with something in it, and without commas and bars. -/
structure IsTag (tag : Text) : Prop where
  ne_nil : tag ≠ []
  trimmed : IsTrimmed Text.isBlank tag
  comma_not_mem : ',' ∉ tag
  bar_not_mem : '|' ∉ tag

/-- The text states the tag: with blanks around it, the tag reaches from a comma, a bar or the start
of the text to a comma, a bar or the end of it. -/
def States (text tag : Text) : Prop :=
  IsTag tag ∧ ∃ before left right after, text = before ++ (left ++ tag ++ right) ++ after ∧
    (∀ c ∈ left, Text.isBlank c = true) ∧ (∀ c ∈ right, Text.isBlank c = true) ∧
    (∀ c ∈ before.getLast?, IsTagSeparator c) ∧ ∀ c ∈ after.head?, IsTagSeparator c

/-- The tags that are stated by some texts. -/
def tagsOf (texts : List Text) : Set Text := {tag | ∃ text ∈ texts, States text tag}

/-- The class of characters at which tags are cut apart. -/
def isTagSeparator (c : Char) : Bool := c == ',' || c == '|'

lemma isTagSeparator_iff : isTagSeparator c = true ↔ IsTagSeparator c := by
  simp [isTagSeparator, IsTagSeparator]

lemma scopesOf_eq (text : Text) :
    scopesOf text = ((Text.splitWhere isTagSeparator text).map Text.trim).filter (· != []) :=
  rfl

lemma isTagSeparator_of_isBlank (h : Text.isBlank c = true) : isTagSeparator c = false := by
  rw [Bool.eq_false_iff, Ne, isTagSeparator_iff]
  rintro (rfl | rfl)
  · exact absurd h (by decide)
  · exact absurd h (by decide)

/-- The separators are absent from a text exactly if commas and bars are. -/
lemma forall_isTagSeparator_eq_false_iff :
    (∀ c ∈ text, isTagSeparator c = false) ↔ ',' ∉ text ∧ '|' ∉ text := by
  constructor
  · intro h
    constructor
    · intro hmem
      exact absurd (h ',' hmem) (by decide)
    · intro hmem
      exact absurd (h '|' hmem) (by decide)
  · rintro ⟨hcomma, hbar⟩ c hc
    rw [Bool.eq_false_iff, Ne, isTagSeparator_iff]
    rintro (rfl | rfl)
    · exact hcomma hc
    · exact hbar hc

/-- The tags that are found in a text are those that it states. -/
lemma mem_scopesOf : tag ∈ scopesOf text ↔ States text tag := by
  rw [scopesOf_eq, List.mem_filter, List.mem_map, bne_iff_ne]
  constructor
  · rintro ⟨⟨piece, hpiece, htrim⟩, hne⟩
    obtain ⟨huncut, before, after, rfl, hbefore, hafter⟩ := Text.mem_splitWhere_iff.1 hpiece
    obtain ⟨htrimmed, left, right, rfl, hleft, hright⟩ := Text.trim_eq_iff.1 htrim
    have hsigns := forall_isTagSeparator_eq_false_iff.1 fun c (hc : c ∈ tag) =>
      huncut c (List.mem_append_left _ (List.mem_append_right _ hc))
    refine ⟨⟨hne, htrimmed, hsigns.1, hsigns.2⟩, before, left, right, after, rfl, hleft, hright,
      ?_, ?_⟩
    · exact fun c hc => isTagSeparator_iff.1 (hbefore c hc)
    · exact fun c hc => isTagSeparator_iff.1 (hafter c hc)
  · rintro ⟨htag, before, left, right, after, rfl, hleft, hright, hbefore, hafter⟩
    refine ⟨⟨left ++ tag ++ right, Text.mem_splitWhere_iff.2 ⟨?_, before, after, rfl, ?_, ?_⟩, ?_⟩,
      htag.ne_nil⟩
    · intro c hc
      rcases List.mem_append.1 hc with hc | hc
      · rcases List.mem_append.1 hc with hc | hc
        · exact isTagSeparator_of_isBlank (hleft c hc)
        · exact forall_isTagSeparator_eq_false_iff.2 ⟨htag.comma_not_mem, htag.bar_not_mem⟩ c hc
      · exact isTagSeparator_of_isBlank (hright c hc)
    · exact fun c hc => isTagSeparator_iff.2 (hbefore c hc)
    · exact fun c hc => isTagSeparator_iff.2 (hafter c hc)
    · exact Text.trim_eq_iff.2 ⟨htag.trimmed, left, right, rfl, hleft, hright⟩

/-! ### Normal forms -/

lemma mem_normalizeScopes : tag ∈ normalizeScopes texts ↔ tag ∈ tagsOf texts := by
  simp only [normalizeScopes, Text.mem_sortDistinct, List.mem_flatMap, mem_scopesOf]
  rfl

lemma pairwise_normalizeScopes (texts : List Text) : (normalizeScopes texts).Pairwise (· < ·) :=
  Text.pairwise_sortDistinct _

/-- Texts have the same normal form exactly if they state the same tags. -/
lemma normalizeScopes_eq_iff :
    normalizeScopes texts = normalizeScopes texts' ↔ tagsOf texts = tagsOf texts' := by
  constructor
  · intro h
    ext tag
    rw [← mem_normalizeScopes, h, mem_normalizeScopes]
  · intro h
    apply Text.eq_of_mem_iff (pairwise_normalizeScopes texts) (pairwise_normalizeScopes texts')
    intro tag
    rw [mem_normalizeScopes, h, mem_normalizeScopes]

lemma IsTag.scopesOf_eq (h : IsTag tag) : scopesOf tag = [tag] := by
  have huncut := forall_isTagSeparator_eq_false_iff.2 ⟨h.comma_not_mem, h.bar_not_mem⟩
  rw [Help.scopesOf_eq, Text.splitWhere_of_forall huncut, List.map_singleton,
    Text.trim_eq_self_iff.2 h.trimmed]
  simp [h.ne_nil]

/-- A list of tags states its members. -/
lemma tagsOf_eq_of_forall (h : ∀ text ∈ texts, IsTag text) : tagsOf texts = {tag | tag ∈ texts} := by
  ext tag
  constructor
  · rintro ⟨text, htext, hstates⟩
    rw [← mem_scopesOf, (h text htext).scopesOf_eq, List.mem_singleton] at hstates
    rwa [hstates]
  · intro htag
    refine ⟨tag, htag, ?_⟩
    rw [← mem_scopesOf, (h tag htag).scopesOf_eq]
    exact List.mem_singleton_self tag

/-- The tags before a separator and the tags behind it. -/
lemma scopesOf_append_cons (hc : IsTagSeparator c) (text text' : Text) :
    scopesOf (text ++ c :: text') = scopesOf text ++ scopesOf text' := by
  rw [scopesOf_eq, Text.splitWhere_append (isTagSeparator_iff.2 hc), List.map_append,
    List.filter_append]
  rfl

/-- Texts that are joined with a separator state the tags that they state one by one. -/
lemma scopesOf_join (hc : IsTagSeparator c) (texts : List Text) :
    scopesOf (Text.join [c] texts) = texts.flatMap scopesOf := by
  induction texts with
  | nil => rfl
  | cons text texts ih =>
    cases texts with
    | nil => simp [Text.join, List.intercalate]
    | cons next texts =>
      have hjoin : Text.join [c] (text :: next :: texts) =
          text ++ c :: Text.join [c] (next :: texts) := by
        simp [Text.join, List.intercalate]
      rw [hjoin, scopesOf_append_cons hc, ih]
      exact List.flatMap_cons.symm

/-- It does not count which of the tags stand in one text. -/
lemma tagsOf_join (hc : IsTagSeparator c) (texts : List Text) :
    tagsOf [Text.join [c] texts] = tagsOf texts := by
  rw [← normalizeScopes_eq_iff, normalizeScopes, normalizeScopes, List.flatMap_singleton,
    scopesOf_join hc]

/-- Scopes compare as sets.  The normal form of some texts is the increasing list of the tags that
they state; it is its own normal form, and it depends neither on the order and the number of the
texts nor on whether they are written one by one or in one text with commas or bars between them.
So a generic rule matches a page exactly if it states the tags that the page states. -/
theorem normalizeScopes_canonical (texts : List Text) :
    (normalizeScopes texts).Pairwise (· < ·) ∧
    (∀ tag ∈ normalizeScopes texts, IsTag tag) ∧
    (∀ tag, tag ∈ normalizeScopes texts ↔ ∃ text ∈ texts, States text tag) ∧
    normalizeScopes (normalizeScopes texts) = normalizeScopes texts ∧
    (∀ texts', (∀ text, text ∈ texts' ↔ text ∈ texts) →
      normalizeScopes texts' = normalizeScopes texts) ∧
    (∀ c, IsTagSeparator c →
      normalizeScopes [Text.join [c] texts] = normalizeScopes texts) ∧
    ∀ (rule : Rule) (route : Route), Tier.generic.holds rule route = true ↔
      rule.category = .generic ∧ tagsOf [rule.extras] = tagsOf route.scopes := by
  have htags : ∀ tag ∈ normalizeScopes texts, IsTag tag := by
    intro tag htag
    obtain ⟨text, -, hstates⟩ := mem_normalizeScopes.1 htag
    exact hstates.1
  refine ⟨pairwise_normalizeScopes texts, htags, fun tag => mem_normalizeScopes, ?_, ?_, ?_, ?_⟩
  · -- normal forms are equal if they state the same tags, and each tag states itself
    rw [normalizeScopes_eq_iff, tagsOf_eq_of_forall htags]
    ext tag
    exact mem_normalizeScopes
  · intro texts' hsame
    rw [normalizeScopes_eq_iff]
    ext tag
    simp only [tagsOf, hsame]
  · intro c hc
    rw [normalizeScopes_eq_iff, tagsOf_join hc]
  · intro rule route
    rw [Tier.holds, Bool.and_eq_true, beq_iff_eq, beq_iff_eq, normalizeScopes_eq_iff]

/-- The scopes `admin` and `auth`, in another order and in one text. -/
theorem normalizeScopes_canonical_admin :
    (∀ text : Text, text ∈ ([" admin", "auth|admin,"] : List Text) ↔
      text ∈ (["auth|admin,", " admin"] : List Text)) ∧
    IsTagSeparator ',' ∧
    normalizeScopes [" admin", "auth|admin,"] = ["admin", "auth"] ∧
    normalizeScopes [Text.join [','] ["auth|admin,", " admin"]] = ["admin", "auth"] := by
  have hsame : ∀ text : Text, text ∈ ([" admin", "auth|admin,"] : List Text) ↔
      text ∈ (["auth|admin,", " admin"] : List Text) := by
    intro text
    rw [List.mem_pair, List.mem_pair, or_comm]
  obtain ⟨-, -, -, -, hreorder, hjoin, -⟩ := normalizeScopes_canonical ["auth|admin,", " admin"]
  have hform : normalizeScopes ["auth|admin,", " admin"] = ["admin", "auth"] := by decide
  exact ⟨hsame, Or.inl rfl, (hreorder _ hsame).trans hform, (hjoin ',' (Or.inl rfl)).trans hform⟩

end Help

end NoteLinks
