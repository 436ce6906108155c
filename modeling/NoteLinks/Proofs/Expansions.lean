import Mathlib.Algebra.Ring.Nat
import NoteLinks.Link.Expansion
import NoteLinks.Proofs.Fragments

/-!
# The shape of an expansion

An address is expanded exactly if its annotation states a key.  Its links then are groups of links,
one for every recognized key in the order of first occurrence, followed by one link that names the
other keys if there are such keys (`IsExpansion`, `expand?_spec`).

A group belongs to a provider (`IsGroup`).  It is one link, or for a cross-reference possibly two;
a link that cannot be followed stands alone and is marked by its class.
-/

namespace NoteLinks

/-! ## Classes -/

lemma Provider.words_cssClass :
    ∀ p ∈ Provider.table, Text.words p.cssClass = [p.cssClass] ∧ Link.errorClass ≠ p.cssClass := by
  decide

lemma Provider.mem_table_of_ofKey? {key : Text} {p : Provider}
    (h : Provider.ofKey? key = some p) : p ∈ Provider.table ∧ p.key = key :=
  ⟨List.mem_of_find?_eq_some h, by simpa using List.find?_some h⟩

/-- A key is recognized in links exactly if a provider has it. -/
lemma Place.recognizes_link_iff {key : Text} :
    Place.link.recognizes key = true ↔ ∃ p ∈ Provider.table, p.key = key := by
  simp [Place.recognizes, Provider.ofKey?]

section Classes

variable {p : Provider}

lemma words_error (hp : p ∈ Provider.table) (title : Text) :
    Text.words (Link.error title p.cssClass).cssClass = [Link.errorClass, p.cssClass] := by
  have hword : Text.words Link.errorClass = [Link.errorClass] := by decide
  rw [Link.error, Text.words_append_space, hword, (Provider.words_cssClass p hp).1]
  rfl

lemma words_cssClass_append (hp : p ∈ Provider.table) {cls : Text} (hcls : Text.words cls = [cls]) :
    Text.words (p.cssClass ++ " " ++ cls) = [p.cssClass, cls] := by
  rw [Text.words_append_space, (Provider.words_cssClass p hp).1, hcls]
  rfl

end Classes

namespace LinkContext

variable {cx : LinkContext} {p : Provider} {value : Text}

/-! ## Groups -/

/-- The links of a provider's value.  A group is one link, or for a cross-reference a link to the
record and one to its interactive tree. -/
structure IsGroup (cx : LinkContext) (p : Provider) (value : Text) (ls : List Link) : Prop where
  /-- There are two links only for a cross-reference, and both can be followed. -/
  shape : (∃ l, ls = [l]) ∨
    p.key = Provider.crossReferenceKey ∧ ∃ l c, CrossReference.read? value = some c ∧
      ls = [l, cx.diagramLink p c] ∧ l.isError = false ∧ (cx.diagramLink p c).isError = false
  /-- Each link has the class of the provider. -/
  carries : ∀ l ∈ ls, p.cssClass ∈ Text.words l.cssClass
  /-- The links without an address are those with the class of errors. -/
  error_iff : ∀ l ∈ ls, l.href = none ↔ Link.errorClass ∈ Text.words l.cssClass
  /-- A link without an address stands alone. -/
  alone : ∀ l ∈ ls, l.href = none → ls = [l]

/-- A link that cannot be followed is a group of its provider. -/
lemma isGroup_error (hp : p ∈ Provider.table) (title : Text) :
    cx.IsGroup p value [.error title p.cssClass] where
  shape := Or.inl ⟨_, rfl⟩
  carries := by simp [words_error hp]
  error_iff := by
    rw [List.forall_mem_singleton, words_error hp]
    simp [Link.error]
  alone := by simp

/-- A link that can be followed is a group of its provider, if its further class is not that of
errors. -/
lemma isGroup_leading {l : Link} (hhref : l.href ≠ none)
    (hcarries : p.cssClass ∈ Text.words l.cssClass)
    (herror : Link.errorClass ∉ Text.words l.cssClass) : cx.IsGroup p value [l] where
  shape := Or.inl ⟨l, rfl⟩
  carries := by simpa using hcarries
  error_iff := by simp [hhref, herror]
  alone := by simp

/-- The link of a provider's value is a group. -/
lemma isGroup_providerLink (cx : LinkContext) (hp : p ∈ Provider.table) (value : Text) :
    cx.IsGroup p value [cx.providerLink p value] := by
  obtain ⟨hword, hne⟩ := Provider.words_cssClass p hp
  cases htarget : (p.target cx.settings.wikipediaLanguage value).url? with
  | none =>
    simp only [providerLink, htarget]
    exact isGroup_error hp _
  | some url =>
    simp only [providerLink, htarget]
    refine isGroup_leading (by simp [Link.leading]) ?_ ?_
    · simp [Link.leading, hword]
    · simpa [Link.leading, hword] using hne

/-- The classes of the link to a record. -/
lemma words_recordLink (cx : LinkContext) (hp : p ∈ Provider.table) (c : CrossReference) :
    p.cssClass ∈ Text.words (cx.recordLink p c).cssClass ∧
      Link.errorClass ∉ Text.words (cx.recordLink p c).cssClass := by
  obtain ⟨hword, hne⟩ := Provider.words_cssClass p hp
  have hcurrent : Link.errorClass ≠ Link.currentClass := by decide
  unfold recordLink Link.leading
  split
  · rw [words_cssClass_append hp (by decide)]
    simp [hne, hcurrent]
  · rw [hword]
    simp [hne]

/-- The classes of the link to an interactive tree. -/
lemma words_diagramLink (cx : LinkContext) (hp : p ∈ Provider.table) (c : CrossReference) :
    p.cssClass ∈ Text.words (cx.diagramLink p c).cssClass ∧
      Link.errorClass ∉ Text.words (cx.diagramLink p c).cssClass := by
  obtain ⟨-, hne⟩ := Provider.words_cssClass p hp
  have hdiagram : Link.errorClass ≠ Link.diagramClass := by decide
  unfold diagramLink Link.leading
  rw [words_cssClass_append hp (by decide)]
  simp [hne, hdiagram]

/-- The link to a record and the one to its interactive tree are a group of cross-references. -/
lemma isGroup_diagram (cx : LinkContext) (hp : p ∈ Provider.table)
    (hkey : p.key = Provider.crossReferenceKey) {c : CrossReference}
    (hread : CrossReference.read? value = some c) :
    cx.IsGroup p value [cx.recordLink p c, cx.diagramLink p c] := by
  obtain ⟨hrecord, hrecord'⟩ := cx.words_recordLink hp c
  obtain ⟨hdiagram, hdiagram'⟩ := cx.words_diagramLink hp c
  refine ⟨Or.inr ⟨hkey, _, c, hread, rfl, rfl, rfl⟩, ?_, ?_, ?_⟩
  · simp [hrecord, hdiagram]
  · simp [recordLink, diagramLink, Link.leading] at hrecord' hdiagram' ⊢
    exact ⟨hrecord', hdiagram'⟩
  · simp [recordLink, diagramLink, Link.leading]

/-- The links of a cross-reference are a group. -/
lemma isGroup_crossReferenceLinks (cx : LinkContext) (hp : p ∈ Provider.table)
    (hkey : p.key = Provider.crossReferenceKey) (value : Text) :
    cx.IsGroup p value (cx.crossReferenceLinks p value) := by
  unfold crossReferenceLinks
  cases hread : CrossReference.read? value with
  | none => exact isGroup_error hp _
  | some c =>
    cases hfault : cx.fault? c (cx.treeOf c) with
    | some fault =>
      simp only [hfault]
      exact isGroup_error hp _
    | none =>
      obtain ⟨hcarries, herror⟩ := cx.words_recordLink hp c
      simp only [hfault]
      split
      · exact cx.isGroup_diagram hp hkey hread
      · exact isGroup_leading (by simp [recordLink, Link.leading]) hcarries herror

/-- The links of a provider's key are a group of the provider. -/
lemma isGroup_group (cx : LinkContext) {key : Text} (h : Provider.ofKey? key = some p)
    (value : Text) : cx.IsGroup p value (cx.group key value) := by
  obtain ⟨hp, -⟩ := Provider.mem_table_of_ofKey? h
  rw [group, h]
  by_cases hkey : p.key = Provider.crossReferenceKey
  · simp only [hkey, if_true]
    exact cx.isGroup_crossReferenceLinks hp hkey value
  · simp only [hkey, if_false]
    exact cx.isGroup_providerLink hp value

lemma IsGroup.ne_nil {ls : List Link} (h : cx.IsGroup p value ls) : ls ≠ [] := by
  rcases h.shape with ⟨l, rfl⟩ | ⟨-, l, c, -, rfl, -, -⟩
  · simp
  · simp

/-! ## Expansions -/

/-- The recognized keys of an annotation in the order of their first occurrence, each once. -/
def recognizedKeys (raw : Text) : List Text :=
  Text.distinct ((Fragment.keys raw).filter Place.link.recognizes)

/-- The value of a key, stated by the last pair with that key. -/
def valueOf (raw key : Text) : Text := Fragment.lastValue (Fragment.pairs raw) key

/-- What the expansion of an annotated address says, where `raw` is the annotation. -/
structure IsExpansion (cx : LinkContext) (href raw : Text) (e : Expansion) : Prop where
  /-- The annotation stands behind the first marker. -/
  href_eq : href = e.base ++ marker ++ raw
  not_infix_base : ¬ marker <:+: e.base
  /-- There is one group for every recognized key. -/
  groups_eq : e.groups = (recognizedKeys raw).map fun key => cx.group key (valueOf raw key)
  isGroup : ∀ key ∈ recognizedKeys raw, ∃ p ∈ Provider.table, p.key = key ∧
    cx.IsGroup p (valueOf raw key) (cx.group key (valueOf raw key))
  /-- One more link names the keys that no provider has. -/
  links_eq : ∃ unknown : List Text, unknown.Pairwise (· < ·) ∧
    (∀ key, key ∈ unknown ↔ key ∈ Fragment.keys raw ∧ ∀ p ∈ Provider.table, p.key ≠ key) ∧
    e.links = e.groups.flatten ++
      if unknown = [] then []
      else [⟨none, cx.catalog.format .unknownKeys [Text.join ", " unknown], Link.errorClass⟩]
  links_ne_nil : e.links ≠ []
  recognized_eq : e.recognized = (e.groups.map List.length).sum
  /-- The first link takes the place of the annotated one, if a key is recognized. -/
  replacement_isSome : e.replacement.isSome ↔ recognizedKeys raw ≠ []
  replacement_eq : ∀ l, e.replacement = some l → e.links[0]? = some l

/-- An address with an annotation, and its parts. -/
lemma splitAnnotation?_eq_some_iff {href base raw : Text} :
    splitAnnotation? href = some (base, raw) ↔
      href = base ++ marker ++ raw ∧ ¬ marker <:+: base := by
  constructor
  · intro h
    exact ⟨Text.append_of_cut? h, Text.not_infix_of_cut? (by decide) h⟩
  · rintro ⟨rfl, hbase⟩
    exact Text.cut?_append (by decide) hbase

/-- An address is expanded if it has an annotation that states a key. -/
lemma expand?_eq_some_iff {href : Text} {e : Expansion} :
    cx.expand? href = some e ↔
      ∃ base raw, href = base ++ marker ++ raw ∧ ¬ marker <:+: base ∧ Fragment.keys raw ≠ [] ∧
        cx.expansion base (Fragment.read .link raw) = e := by
  simp only [expand?, Option.bind_eq_bind, Option.bind_eq_some_iff, Prod.exists,
    splitAnnotation?_eq_some_iff, and_assoc]
  refine exists_congr fun base => exists_congr fun raw => and_congr_right fun _ =>
    and_congr_right fun _ => ?_
  by_cases hkeys : Fragment.keys raw = []
  · simp [(Fragment.isEmpty_read .link raw).2 hkeys, hkeys]
  · have hempty : ¬ (Fragment.read .link raw).isEmpty = true :=
      mt (Fragment.isEmpty_read .link raw).1 hkeys
    simp [hempty, hkeys]

/-- Two pages expand the same addresses, and their expansions are related as those of all annotations
are. -/
lemma expand?_rel {cx' : LinkContext} {href : Text} {related : Text → Expansion → Expansion → Prop}
    (h : ∀ base raw, href = base ++ marker ++ raw → ¬ marker <:+: base → Fragment.keys raw ≠ [] →
      related raw (cx.expansion base (Fragment.read .link raw))
        (cx'.expansion base (Fragment.read .link raw))) :
    Option.Rel (fun e e' => ∃ raw, related raw e e') (cx.expand? href) (cx'.expand? href) := by
  cases hleft : cx.expand? href with
  | some e =>
    obtain ⟨base, raw, hhref, hbase, hkeys, rfl⟩ := expand?_eq_some_iff.1 hleft
    have hright : cx'.expand? href = some (cx'.expansion base (Fragment.read .link raw)) :=
      expand?_eq_some_iff.2 ⟨base, raw, hhref, hbase, hkeys, rfl⟩
    rw [hright]
    exact .some ⟨raw, h base raw hhref hbase hkeys⟩
  | none =>
    have hright : cx'.expand? href = none := by
      rw [Option.eq_none_iff_forall_ne_some] at hleft ⊢
      intro e he
      obtain ⟨base, raw, hhref, hbase, hkeys, -⟩ := expand?_eq_some_iff.1 he
      exact hleft _ (expand?_eq_some_iff.2 ⟨base, raw, hhref, hbase, hkeys, rfl⟩)
    rw [hright]
    exact .none

lemma mem_of_expand? {href : Text} {e : Expansion} (h : cx.expand? href = some e) :
    '#' ∈ href := by
  obtain ⟨base, raw, rfl, -, -, -⟩ := expand?_eq_some_iff.1 h
  simp [marker]

lemma expand?_base {href : Text} {e : Expansion} (h : cx.expand? href = some e) :
    cx.expand? e.base = none := by
  obtain ⟨base, raw, -, hbase, -, rfl⟩ := expand?_eq_some_iff.1 h
  have hnone : splitAnnotation? base = none := Text.cut?_eq_none_iff.2 hbase
  simp [expansion, expand?, hnone]

/-- The groups of an annotation's expansion belong to its recognized keys. -/
lemma groups_expansion (cx : LinkContext) (base raw : Text) :
    (cx.expansion base (Fragment.read .link raw)).groups =
      (recognizedKeys raw).map fun key => cx.group key (valueOf raw key) := by
  rw [expansion, Fragment.read, Fragment.entries_ofPairs, Fragment.map_fst_pairs, List.map_map]
  rfl

/-- A recognized key has a provider, and its links are a group of that provider. -/
lemma exists_isGroup (cx : LinkContext) {key raw : Text} (h : key ∈ recognizedKeys raw)
    (value : Text) :
    ∃ p ∈ Provider.table, p.key = key ∧ cx.IsGroup p value (cx.group key value) := by
  have hknown : Place.link.recognizes key = true :=
    (List.mem_filter.1 (Text.mem_distinct.1 h)).2
  obtain ⟨p, hofKey⟩ := Option.isSome_iff_exists.1 hknown
  obtain ⟨hp, hkey⟩ := Provider.mem_table_of_ofKey? hofKey
  exact ⟨p, hp, hkey, cx.isGroup_group hofKey value⟩

/-- The groups hold a link as soon as a key is recognized. -/
lemma flatten_groups_ne_nil_iff (cx : LinkContext) (base raw : Text) :
    (cx.expansion base (Fragment.read .link raw)).groups.flatten ≠ [] ↔
      recognizedKeys raw ≠ [] := by
  rw [groups_expansion]
  constructor
  · intro h hnil
    exact h (by rw [hnil]; rfl)
  · intro h
    obtain ⟨key, hkey⟩ := List.exists_mem_of_ne_nil _ h
    obtain ⟨p, -, -, hgroup⟩ := cx.exists_isGroup hkey (valueOf raw key)
    obtain ⟨l, hl⟩ := List.exists_mem_of_ne_nil _ hgroup.ne_nil
    exact List.ne_nil_of_mem (List.mem_flatten.2 ⟨_, List.mem_map_of_mem hkey, hl⟩)

/-- The keys that are kept apart are those that no provider has. -/
lemma mem_unknown_read {key raw : Text} :
    key ∈ (Fragment.read .link raw).unknown ↔
      key ∈ Fragment.keys raw ∧ ∀ p ∈ Provider.table, p.key ≠ key := by
  rw [Fragment.mem_unknown_read, ← Bool.not_eq_true, Place.recognizes_link_iff]
  simp

/-- The links of an annotation's expansion are those of its groups and one that names the keys that
are kept apart. -/
lemma links_expansion (cx : LinkContext) (base raw : Text) :
    (cx.expansion base (Fragment.read .link raw)).links =
      (cx.expansion base (Fragment.read .link raw)).groups.flatten ++
        if (Fragment.read .link raw).unknown = [] then []
        else [cx.unknownLink (Fragment.read .link raw).unknown] := by
  rw [Expansion.links, expansion]
  split
  · rfl
  · rfl

/-- The expansion of an annotation with a key has a link. -/
lemma links_expansion_ne_nil (cx : LinkContext) (base : Text) {raw : Text}
    (hkeys : Fragment.keys raw ≠ []) :
    (cx.expansion base (Fragment.read .link raw)).links ≠ [] := by
  obtain ⟨key, hkey⟩ := List.exists_mem_of_ne_nil _ hkeys
  rw [links_expansion, Ne, List.append_eq_nil_iff, not_and_or]
  by_cases hknown : Place.link.recognizes key = true
  · have hmem := Text.mem_distinct.2 (List.mem_filter.2 ⟨hkey, hknown⟩)
    exact Or.inl ((cx.flatten_groups_ne_nil_iff base raw).2 (List.ne_nil_of_mem hmem))
  · have hnone : ∀ p ∈ Provider.table, p.key ≠ key :=
      fun p hp heq => hknown (Place.recognizes_link_iff.2 ⟨p, hp, heq⟩)
    rw [if_neg (List.ne_nil_of_mem (mem_unknown_read.2 ⟨hkey, hnone⟩))]
    exact Or.inr (by simp)

/-- The expansion of an annotation with a key has the shape of an expansion. -/
lemma isExpansion_expansion (cx : LinkContext) {base raw : Text} (hbase : ¬ marker <:+: base)
    (hkeys : Fragment.keys raw ≠ []) :
    cx.IsExpansion (base ++ marker ++ raw) raw (cx.expansion base (Fragment.read .link raw)) where
  href_eq := rfl
  not_infix_base := hbase
  groups_eq := cx.groups_expansion base raw
  isGroup := fun key hkey => cx.exists_isGroup hkey _
  links_eq := ⟨_, Fragment.pairwise_unknown_ofPairs _ _, fun key => mem_unknown_read,
    cx.links_expansion base raw⟩
  links_ne_nil := cx.links_expansion_ne_nil base hkeys
  recognized_eq := List.length_flatten
  replacement_isSome := by
    rw [Expansion.replacement, List.isSome_head?, ← cx.flatten_groups_ne_nil_iff base raw]
  replacement_eq := by
    intro l hl
    obtain ⟨ls, hls⟩ := List.head?_eq_some_iff.1 hl
    rw [Expansion.links, hls]
    rfl

/-- An address is expanded exactly if some piece of its annotation states a key; and the expansion
has one group of links for every recognized key, and a link that names the other keys. -/
theorem expand?_spec (cx : LinkContext) (href : Text) :
    ((cx.expand? href).isSome ↔
      ∃ base raw, href = base ++ marker ++ raw ∧ ¬ marker <:+: base ∧
        ∃ piece ∈ Text.splitAt '&' raw, Fragment.keyOf piece ≠ []) ∧
    ∀ e, cx.expand? href = some e → ∃ raw, cx.IsExpansion href raw e := by
  constructor
  · simp only [Option.isSome_iff_exists, expand?_eq_some_iff, ← Fragment.keys_ne_nil_iff]
    constructor
    · rintro ⟨e, base, raw, hhref, hbase, hkeys, -⟩
      exact ⟨base, raw, hhref, hbase, hkeys⟩
    · rintro ⟨base, raw, hhref, hbase, hkeys⟩
      exact ⟨_, base, raw, hhref, hbase, hkeys, rfl⟩
  · intro e he
    obtain ⟨base, raw, rfl, hbase, hkeys, rfl⟩ := expand?_eq_some_iff.1 he
    exact ⟨raw, cx.isExpansion_expansion hbase hkeys⟩

end LinkContext

end NoteLinks
