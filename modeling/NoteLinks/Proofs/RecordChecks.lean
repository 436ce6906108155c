import NoteLinks.Proofs.Expansions

/-!
# Expansions with records at hand

A page that has the records checks every cross-reference before it becomes a link; a page that has
none takes every cross-reference that is well formed.  Both expand the same addresses, and the
expansions differ in the links of cross-references only (`expand?_withoutArchive_rel`): there the
check leaves the links as they are or puts a single link in their place that cannot be followed, and
which of the two happens is decided by the record that is asked for (`IsCheckedGroup`).

Of that record the check sees the kind and nothing else (`fault?_withArchive`), so archives that
agree on the kinds give the same expansions (`expand?_withArchive_congr`).
-/

namespace NoteLinks

/-! ## Requests for records -/

namespace Archive

/-- A request for a record is granted: the record can be had, and it is of the kind asked for.  A
request without a code asks for a record of any kind. -/
def Grants (a : Archive) (wanted : RecordKind) (tree xref : Text) : Prop :=
  ∃ record, a.lookup tree xref = .ok record ∧ (wanted = .generic ∨ wanted = record.kind)

/-- The kind of a record, or why the record cannot be had. -/
def kindOf (a : Archive) (tree xref : Text) : Except LookupError RecordKind :=
  (a.lookup tree xref).map Record.kind

lemma grants_iff {a : Archive} {wanted : RecordKind} {tree xref : Text} :
    a.Grants wanted tree xref ↔
      ∃ kind, a.kindOf tree xref = .ok kind ∧ wanted.accepts kind = true := by
  unfold Grants kindOf
  cases hlookup : a.lookup tree xref with
  | error e => simp [Except.map]
  | ok record => simp [Except.map, RecordKind.accepts]

end Archive

namespace LinkContext

variable {cx : LinkContext} {a b : Archive} {c : CrossReference} {p : Provider}
  {value tree : Text}

def withArchive (cx : LinkContext) (a : Archive) : LinkContext := { cx with store := some a }

def withoutArchive (cx : LinkContext) : LinkContext := { cx with store := none }

/-- The record of a cross-reference can be had from an archive, in the tree that the cross-reference
names or else in that of the page. -/
def Reaches (cx : LinkContext) (a : Archive) (c : CrossReference) : Prop :=
  a.Grants c.kind (c.tree.getD cx.page.tree) c.xref

/-! ## The check of a cross-reference -/

/-- What is found against a cross-reference depends on the kind of its record only. -/
lemma fault?_withArchive (cx : LinkContext) (a : Archive) (c : CrossReference) (tree : Text) :
    (cx.withArchive a).fault? c tree =
      match a.kindOf tree c.xref with
      | .ok kind => if c.kind.accepts kind then none else some (.notFound c.xref)
      | .error .notFound => some (.notFound c.xref)
      | .error .unknownTree => some (.unknownTree tree)
      | .error (.accessDenied reason) => some (.accessDenied c.xref reason) := by
  unfold fault? Archive.kindOf
  simp only [withArchive]
  cases hlookup : a.lookup tree c.xref with
  | ok record => rfl
  | error e => cases e <;> rfl

/-- Nothing is found against a cross-reference exactly if its request is granted. -/
lemma fault?_withArchive_eq_none_iff :
    (cx.withArchive a).fault? c tree = none ↔ a.Grants c.kind tree c.xref := by
  rw [fault?_withArchive, Archive.grants_iff]
  cases hkind : a.kindOf tree c.xref with
  | ok kind => simp
  | error e => cases e <;> simp

lemma fault?_withoutArchive : cx.withoutArchive.fault? c tree = none := rfl

/-- A value that is no cross-reference has the same links with and without records. -/
lemma crossReferenceLinks_of_read?_eq_none (hread : CrossReference.read? value = none) :
    (cx.withArchive a).crossReferenceLinks p value =
      cx.withoutArchive.crossReferenceLinks p value := by
  simp only [crossReferenceLinks, hread]
  rfl

/-- Without records a cross-reference has a link to its record, and one to the interactive tree if
it asks for it. -/
lemma crossReferenceLinks_withoutArchive (hread : CrossReference.read? value = some c) :
    cx.withoutArchive.crossReferenceLinks p value =
      cx.recordLink p c :: if c.diagram && !cx.isCurrent c then [cx.diagramLink p c] else [] := by
  simp only [crossReferenceLinks, hread, fault?_withoutArchive]
  rfl

/-- A cross-reference whose record can be had has the same links with and without records. -/
lemma crossReferenceLinks_of_reaches (hread : CrossReference.read? value = some c)
    (hreach : cx.Reaches a c) :
    (cx.withArchive a).crossReferenceLinks p value =
      cx.withoutArchive.crossReferenceLinks p value := by
  have hnone : (cx.withArchive a).fault? c ((cx.withArchive a).treeOf c) = none :=
    fault?_withArchive_eq_none_iff.2 hreach
  rw [crossReferenceLinks_withoutArchive hread]
  simp only [crossReferenceLinks, hread, hnone]
  rfl

/-- A cross-reference whose record cannot be had has one link that cannot be followed. -/
lemma crossReferenceLinks_of_not_reaches (hread : CrossReference.read? value = some c)
    (hreach : ¬ cx.Reaches a c) :
    ∃ title, (cx.withArchive a).crossReferenceLinks p value = [.error title p.cssClass] := by
  have hfault : (cx.withArchive a).fault? c ((cx.withArchive a).treeOf c) ≠ none :=
    fun hnone => hreach (fault?_withArchive_eq_none_iff.1 hnone)
  obtain ⟨fault, hfault⟩ := Option.ne_none_iff_exists'.1 hfault
  exact ⟨fault.message cx.catalog, by simp only [crossReferenceLinks, hread, hfault]; rfl⟩

/-! ## Groups -/

/-- The links of a cross-reference's value: `plain` without records, `checked` with them. -/
structure IsCheckedGroup (cx : LinkContext) (a : Archive) (value : Text)
    (plain checked : List Link) : Prop where
  /-- The check leaves the links as they are, or puts one in their place that cannot be followed. -/
  eq_or_error : checked = plain ∨ ∃ title, checked = [⟨none, title, "link-error link-wt"⟩]
  /-- They stay as they are where there is nothing to check, or the record can be had. -/
  eq_iff : checked = plain ↔
    CrossReference.read? value = none ∨
      ∃ c, CrossReference.read? value = some c ∧ cx.Reaches a c
  /-- A link that can be followed leads to a record that can be had, or to its interactive tree. -/
  reaches : ∀ l ∈ checked, l.href ≠ none → ∃ c, CrossReference.read? value = some c ∧
    cx.Reaches a c ∧ (l = cx.recordLink Provider.records c ∨ l = cx.diagramLink Provider.records c)

/-- The links of a cross-reference's value stay as they are unless its record cannot be had. -/
lemma isCheckedGroup_crossReferenceLinks (cx : LinkContext) (a : Archive) (value : Text) :
    cx.IsCheckedGroup a value (cx.withoutArchive.crossReferenceLinks Provider.records value)
      ((cx.withArchive a).crossReferenceLinks Provider.records value) := by
  cases hread : CrossReference.read? value with
  | none =>
    have heq : (cx.withArchive a).crossReferenceLinks Provider.records value =
        cx.withoutArchive.crossReferenceLinks Provider.records value :=
      crossReferenceLinks_of_read?_eq_none hread
    refine ⟨Or.inl heq, iff_of_true heq (Or.inl hread), ?_⟩
    intro l hl hhref
    simp only [crossReferenceLinks, hread, List.mem_singleton] at hl
    exact absurd (by rw [hl]; rfl) hhref
  | some c =>
    have hplain : cx.withoutArchive.crossReferenceLinks Provider.records value =
        cx.recordLink Provider.records c ::
          if c.diagram && !cx.isCurrent c then [cx.diagramLink Provider.records c] else [] :=
      crossReferenceLinks_withoutArchive hread
    by_cases hreach : cx.Reaches a c
    · have heq := crossReferenceLinks_of_reaches (p := Provider.records) hread hreach
      refine ⟨Or.inl heq, iff_of_true heq (Or.inr ⟨c, hread, hreach⟩), ?_⟩
      intro l hl _
      rw [heq, hplain, List.mem_cons] at hl
      refine ⟨c, hread, hreach, hl.imp_right fun hdiagram => ?_⟩
      split at hdiagram
      · exact List.mem_singleton.1 hdiagram
      · simp at hdiagram
    · obtain ⟨title, herror⟩ :=
        crossReferenceLinks_of_not_reaches (p := Provider.records) hread hreach
      -- the first link without records can be followed, the one with records cannot
      have hne : (cx.withArchive a).crossReferenceLinks Provider.records value ≠
          cx.withoutArchive.crossReferenceLinks Provider.records value := by
        rw [herror, hplain]
        intro heq
        have hhref := congrArg Link.href (List.cons.inj heq).1
        exact absurd hhref (by simp [Link.error, recordLink, Link.leading])
      refine ⟨Or.inr ⟨title, herror⟩, iff_of_false hne ?_, ?_⟩
      · rintro (hnone | ⟨d, hd, hd'⟩)
        · rw [hread] at hnone
          exact absurd hnone (by simp)
        · rw [hread] at hd
          exact hreach (Option.some.inj hd ▸ hd')
      · intro l hl hhref
        rw [herror, List.mem_singleton] at hl
        exact absurd (by rw [hl]; rfl) hhref

lemma group_crossReferenceKey (cx : LinkContext) (value : Text) :
    cx.group Provider.crossReferenceKey value = cx.crossReferenceLinks Provider.records value := by
  have hofKey : Provider.ofKey? Provider.crossReferenceKey = some Provider.records := by decide
  rw [group, hofKey]
  exact if_pos rfl

/-- The links of other keys depend on the settings and the catalog alone. -/
lemma group_congr_of_ne {cx' : LinkContext} (hsettings : cx.settings = cx'.settings)
    (hcatalog : cx.catalog = cx'.catalog) {key : Text} (hkey : key ≠ Provider.crossReferenceKey)
    (value : Text) : cx.group key value = cx'.group key value := by
  unfold group
  cases hofKey : Provider.ofKey? key with
  | none => rfl
  | some p =>
    have hne : p.key ≠ Provider.crossReferenceKey :=
      fun heq => hkey ((Provider.mem_table_of_ofKey? hofKey).2.symm.trans heq)
    simp only [if_neg hne, providerLink, hsettings, hcatalog]

lemma group_of_ne {key : Text} (hkey : key ≠ Provider.crossReferenceKey) (value : Text) :
    (cx.withArchive a).group key value = cx.withoutArchive.group key value := by
  refine group_congr_of_ne ?_ ?_ hkey value
  · rfl
  · rfl

/-! ## Expansions -/

/-- The expansion of an address with the annotation `raw`: `plain` without records, `checked` with
them. -/
structure IsCheckedExpansion (cx : LinkContext) (a : Archive) (href raw : Text)
    (plain checked : Expansion) : Prop where
  /-- Both have the shape of an expansion, with one group for each of the same keys. -/
  isExpansion_plain : cx.withoutArchive.IsExpansion href raw plain
  isExpansion_checked : (cx.withArchive a).IsExpansion href raw checked
  base_eq : checked.base = plain.base
  /-- The link that names the keys that are not recognized is the same. -/
  unknown_eq : checked.unknown = plain.unknown
  /-- All links of keys other than that of cross-references are the same. -/
  group_eq : ∀ key ∈ recognizedKeys raw, key ≠ Provider.crossReferenceKey →
    (cx.withArchive a).group key (valueOf raw key) =
      cx.withoutArchive.group key (valueOf raw key)
  isCheckedGroup : Provider.crossReferenceKey ∈ recognizedKeys raw →
    cx.IsCheckedGroup a (valueOf raw Provider.crossReferenceKey)
      (cx.withoutArchive.group Provider.crossReferenceKey (valueOf raw Provider.crossReferenceKey))
      ((cx.withArchive a).group Provider.crossReferenceKey (valueOf raw Provider.crossReferenceKey))

/-- The same addresses are expanded with and without records, and the expansions differ in nothing
but the links of cross-references whose records cannot be had. -/
theorem expand?_withoutArchive_rel (cx : LinkContext) (a : Archive) (href : Text) :
    Option.Rel (fun plain checked => ∃ raw, cx.IsCheckedExpansion a href raw plain checked)
      (cx.withoutArchive.expand? href) ((cx.withArchive a).expand? href) := by
  -- whether an address is expanded does not depend on the records, so only expansions are compared
  refine expand?_rel fun base raw hhref hbase hkeys => ?_
  subst hhref
  exact {
    isExpansion_plain := cx.withoutArchive.isExpansion_expansion hbase hkeys
    isExpansion_checked := (cx.withArchive a).isExpansion_expansion hbase hkeys
    base_eq := rfl
    unknown_eq := rfl
    group_eq := fun key _ hne => group_of_ne hne _
    isCheckedGroup := fun _ => by
      rw [group_crossReferenceKey, group_crossReferenceKey]
      exact cx.isCheckedGroup_crossReferenceLinks a _ }

/-! ## Archives that agree on kinds -/

/-- A cross-reference has the same links under archives that agree on the kinds of records. -/
lemma crossReferenceLinks_withArchive_congr
    (h : ∀ tree xref, a.kindOf tree xref = b.kindOf tree xref) (p : Provider) (value : Text) :
    (cx.withArchive a).crossReferenceLinks p value =
      (cx.withArchive b).crossReferenceLinks p value := by
  unfold crossReferenceLinks
  cases hread : CrossReference.read? value with
  | none => rfl
  | some c =>
    have hfault : (cx.withArchive a).fault? c ((cx.withArchive a).treeOf c) =
        (cx.withArchive b).fault? c ((cx.withArchive b).treeOf c) := by
      rw [fault?_withArchive, fault?_withArchive, h]
      rfl
    simp only [hfault]
    rfl

/-- An address has the same expansion under archives that agree on the kinds of records. -/
lemma expand?_withArchive_congr (h : ∀ tree xref, a.kindOf tree xref = b.kindOf tree xref)
    (href : Text) : (cx.withArchive a).expand? href = (cx.withArchive b).expand? href := by
  have hgroup : ∀ key value,
      (cx.withArchive a).group key value = (cx.withArchive b).group key value := by
    intro key value
    by_cases hkey : key = Provider.crossReferenceKey
    · rw [hkey, group_crossReferenceKey, group_crossReferenceKey,
        crossReferenceLinks_withArchive_congr h]
    · rw [group_of_ne hkey, group_of_ne hkey]
  have hexpansion : ∀ base f,
      (cx.withArchive a).expansion base f = (cx.withArchive b).expansion base f := by
    intro base f
    simp only [expansion, hgroup]
    rfl
  simp only [expand?, hexpansion]

end LinkContext

end NoteLinks
