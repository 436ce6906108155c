import NoteLinks.Proofs.RecordChecks

/-!
# The record that a page shows

A page knows its tree and, if it shows a record, the identifier of that record.  The record changes
one thing only: the links of a cross-reference that leads to it (`expand?_showing_rel`).  There is a
single link then, marked as leading to the page itself; any other cross-reference that is followed
has its plain link, and the one to the interactive tree if that is asked for (`IsFollowedGroup`).
-/

namespace NoteLinks.LinkContext

variable {cx : LinkContext} {c : CrossReference} {p : Provider} {current x y : Option Text}
  {value : Text}

/-- The page when it shows the record with a given identifier, or none. -/
def showing (cx : LinkContext) (current : Option Text) : LinkContext :=
  { cx with page := { cx.page with current := current } }

/-! ## Cross-references that are followed -/

/-- Nothing speaks against following a cross-reference: where the records are at hand, its record can
be had. -/
def Passes (cx : LinkContext) (c : CrossReference) : Prop :=
  ∀ a, cx.store = some a → cx.Reaches a c

/-- The cross-reference names no tree or that of the page. -/
def StaysInTree (cx : LinkContext) (c : CrossReference) : Prop :=
  c.tree = none ∨ c.tree = some cx.page.tree

/-- The cross-reference leads to the record that a page of the tree shows. -/
structure LeadsToShown (cx : LinkContext) (current : Option Text) (c : CrossReference) : Prop where
  staysInTree : cx.StaysInTree c
  current_eq : current = some c.xref

/-- Nothing is found against a cross-reference exactly if it passes. -/
lemma fault?_eq_none_iff : cx.fault? c (cx.treeOf c) = none ↔ cx.Passes c := by
  cases hstore : cx.store with
  | none => simp [fault?, Passes, hstore]
  | some a =>
    have hcx : cx = cx.withArchive a := by
      rw [withArchive, ← hstore]
    have hpasses : cx.Passes c ↔ a.Grants c.kind (cx.treeOf c) c.xref := by
      simp [Passes, hstore, Reaches, treeOf]
    rw [hpasses, hcx]
    exact fault?_withArchive_eq_none_iff

/-- The record is recognized as the one that the page shows. -/
lemma isCurrent_showing_iff : (cx.showing current).isCurrent c = true ↔ cx.LeadsToShown current c := by
  have htree : c.tree.getD cx.page.tree = cx.page.tree ↔ cx.StaysInTree c := by
    cases htree : c.tree with
    | none => simp [StaysInTree, htree]
    | some tree => simp [StaysInTree, htree]
  have hcurrent : (cx.showing current).isCurrent c = true ↔
      c.tree.getD cx.page.tree = cx.page.tree ∧ current = some c.xref := by
    simp [isCurrent, leadsAway, treeOf, showing]
  rw [hcurrent, htree]
  exact ⟨fun h => ⟨h.1, h.2⟩, fun h => ⟨h.1, h.2⟩⟩

/-- The links of a cross-reference that passes. -/
lemma crossReferenceLinks_of_passes (hread : CrossReference.read? value = some c)
    (h : cx.Passes c) :
    cx.crossReferenceLinks p value =
      cx.recordLink p c :: if c.diagram && !cx.isCurrent c then [cx.diagramLink p c] else [] := by
  simp only [crossReferenceLinks, hread, fault?_eq_none_iff.2 h]

/-- The links of a cross-reference that is followed, on a page that shows `current`. -/
structure IsFollowedGroup (cx : LinkContext) (current : Option Text) (c : CrossReference)
    (ls : List Link) : Prop where
  /-- A link to the record that the page shows is marked, and none leads to its interactive tree. -/
  shown : cx.LeadsToShown current c → ls =
    [⟨some (cx.route cx.settings.recordRoute (cx.treeOf c) c.kind c.xref),
      cx.recordTitle Provider.records c, "link-wt link-xref-current"⟩]
  /-- A link to any other record is plain, and the interactive tree has a link if it is asked for. -/
  other : ¬ cx.LeadsToShown current c → ls =
    ⟨some (cx.route cx.settings.recordRoute (cx.treeOf c) c.kind c.xref),
      cx.recordTitle Provider.records c, "link-wt"⟩ ::
    if c.diagram = true then
      [⟨some (cx.route cx.settings.diagramRoute (cx.treeOf c) c.kind c.xref),
        cx.catalog.format .diagram [c.xref], "link-wt link-xref-diagram"⟩]
    else []

/-- The links of a cross-reference that passes are those of one that is followed. -/
lemma isFollowedGroup_group (hread : CrossReference.read? value = some c) (h : cx.Passes c)
    (current : Option Text) :
    cx.IsFollowedGroup current c ((cx.showing current).group Provider.crossReferenceKey value) := by
  have hpasses : (cx.showing current).Passes c := h
  rw [group_crossReferenceKey, crossReferenceLinks_of_passes hread hpasses]
  constructor
  · intro hshown
    simp only [recordLink, isCurrent_showing_iff.2 hshown, if_true, Bool.not_true, Bool.and_false,
      Bool.false_eq_true, if_false]
    rfl
  · intro hother
    have hcurrent : (cx.showing current).isCurrent c = false :=
      Bool.eq_false_iff.2 (mt isCurrent_showing_iff.1 hother)
    simp only [recordLink, hcurrent, Bool.not_false, Bool.and_true, Bool.false_eq_true, if_false]
    rfl

/-! ## Two pages of one tree -/

/-- Pages that show the record of a cross-reference, or both do not, have the same links for it. -/
lemma crossReferenceLinks_showing_congr
    (h : ∀ c, CrossReference.read? value = some c → cx.Passes c →
      (cx.LeadsToShown x c ↔ cx.LeadsToShown y c)) :
    (cx.showing x).crossReferenceLinks p value = (cx.showing y).crossReferenceLinks p value := by
  cases hread : CrossReference.read? value with
  | none =>
    simp only [crossReferenceLinks, hread]
    rfl
  | some c =>
    cases hfault : cx.fault? c (cx.treeOf c) with
    | some fault =>
      -- a cross-reference with a fault has the same link on every page
      have hlinks : ∀ current, (cx.showing current).crossReferenceLinks p value =
          [.error (fault.message cx.catalog) p.cssClass] := by
        intro current
        have hfault' : (cx.showing current).fault? c ((cx.showing current).treeOf c) =
            some fault := hfault
        simp only [crossReferenceLinks, hread, hfault']
        rfl
      rw [hlinks, hlinks]
    | none =>
      have hpasses : cx.Passes c := fault?_eq_none_iff.1 hfault
      have hcurrent : (cx.showing x).isCurrent c = (cx.showing y).isCurrent c := by
        rw [Bool.eq_iff_iff, isCurrent_showing_iff, isCurrent_showing_iff]
        exact h c hread hpasses
      have hpasses' : ∀ current, (cx.showing current).Passes c := fun _ => hpasses
      rw [crossReferenceLinks_of_passes hread (hpasses' x),
        crossReferenceLinks_of_passes hread (hpasses' y), recordLink, recordLink, hcurrent]
      rfl

/-- A page that shows the record of a cross-reference has other links for it than one that does
not. -/
lemma group_showing_ne (hread : CrossReference.read? value = some c) (hpasses : cx.Passes c)
    (hx : cx.LeadsToShown x c) (hy : ¬ cx.LeadsToShown y c) :
    (cx.showing x).group Provider.crossReferenceKey value ≠
      (cx.showing y).group Provider.crossReferenceKey value := by
  intro heq
  rw [(isFollowedGroup_group hread hpasses x).shown hx,
    (isFollowedGroup_group hread hpasses y).other hy] at heq
  have hclass : ("link-wt link-xref-current" : Text) = "link-wt" :=
    congrArg Link.cssClass (List.cons.inj heq).1
  exact absurd hclass (by decide)

/-- The links of a cross-reference are different on two pages exactly if it is followed to the record
that one of them shows and the other does not. -/
lemma group_showing_ne_iff :
    (cx.showing x).group Provider.crossReferenceKey value ≠
        (cx.showing y).group Provider.crossReferenceKey value ↔
      ∃ c, CrossReference.read? value = some c ∧ cx.Passes c ∧ cx.StaysInTree c ∧
        (x = some c.xref ∧ y ≠ some c.xref ∨ y = some c.xref ∧ x ≠ some c.xref) := by
  constructor
  · intro hne
    have hnot : ¬ ∀ c, CrossReference.read? value = some c → cx.Passes c →
        (cx.LeadsToShown x c ↔ cx.LeadsToShown y c) := by
      intro h
      rw [group_crossReferenceKey, group_crossReferenceKey] at hne
      exact hne (crossReferenceLinks_showing_congr h)
    push Not at hnot
    obtain ⟨c, hread, hpasses, hshown⟩ := hnot
    refine ⟨c, hread, hpasses, ?_⟩
    rcases hshown with ⟨hx, hy⟩ | ⟨hx, hy⟩
    · exact ⟨hx.staysInTree, Or.inl ⟨hx.current_eq, fun h => hy ⟨hx.staysInTree, h⟩⟩⟩
    · exact ⟨hy.staysInTree, Or.inr ⟨hy.current_eq, fun h => hx ⟨hy.staysInTree, h⟩⟩⟩
  · rintro ⟨c, hread, hpasses, hstays, ⟨hx, hy⟩ | ⟨hy, hx⟩⟩
    · exact group_showing_ne hread hpasses ⟨hstays, hx⟩ fun h => hy h.current_eq
    · exact (group_showing_ne hread hpasses ⟨hstays, hy⟩ fun h => hx h.current_eq).symm

/-- The links of other keys do not depend on the record that a page shows. -/
lemma group_showing_of_ne {key : Text} (hkey : key ≠ Provider.crossReferenceKey) (value : Text) :
    (cx.showing x).group key value = (cx.showing y).group key value := by
  refine group_congr_of_ne ?_ ?_ hkey value
  · rfl
  · rfl

/-- The expansions `e` and `e'` of an address on two pages of one tree, where `raw` is the annotation
and the pages show the records `x` and `y`. -/
structure AgreeButForShown (cx : LinkContext) (x y : Option Text) (href raw : Text)
    (e e' : Expansion) : Prop where
  /-- Both have the shape of an expansion, with one group for each of the same keys. -/
  isExpansion_left : (cx.showing x).IsExpansion href raw e
  isExpansion_right : (cx.showing y).IsExpansion href raw e'
  base_eq : e.base = e'.base
  /-- The link that names the keys that are not recognized is the same. -/
  unknown_eq : e.unknown = e'.unknown
  /-- All links of keys other than that of cross-references are the same. -/
  group_eq : ∀ key ∈ recognizedKeys raw, key ≠ Provider.crossReferenceKey →
    (cx.showing x).group key (valueOf raw key) = (cx.showing y).group key (valueOf raw key)
  /-- The links of the cross-reference are different only if it passes, stays in the tree and leads
  to the record of one page. -/
  group_ne_iff : (cx.showing x).group Provider.crossReferenceKey
        (valueOf raw Provider.crossReferenceKey) ≠
      (cx.showing y).group Provider.crossReferenceKey (valueOf raw Provider.crossReferenceKey) ↔
    ∃ c, CrossReference.read? (valueOf raw Provider.crossReferenceKey) = some c ∧ cx.Passes c ∧
      cx.StaysInTree c ∧ (x = some c.xref ∧ y ≠ some c.xref ∨ y = some c.xref ∧ x ≠ some c.xref)

/-- The record that a page shows makes a difference to no link but those of a cross-reference that is
followed to that record. -/
theorem expand?_showing_rel (cx : LinkContext) :
    (∀ (x y : Option Text) (href : Text),
      Option.Rel (fun e e' => ∃ raw, cx.AgreeButForShown x y href raw e e')
        ((cx.showing x).expand? href) ((cx.showing y).expand? href)) ∧
    ∀ (current : Option Text) (value : Text) (c : CrossReference),
      CrossReference.read? value = some c → cx.Passes c → cx.IsFollowedGroup current c
        ((cx.showing current).group Provider.crossReferenceKey value) := by
  refine ⟨fun x y href => expand?_rel fun base raw hhref hbase hkeys => ?_,
    fun current value c hread hpasses => isFollowedGroup_group hread hpasses current⟩
  subst hhref
  exact {
    isExpansion_left := (cx.showing x).isExpansion_expansion hbase hkeys
    isExpansion_right := (cx.showing y).isExpansion_expansion hbase hkeys
    base_eq := rfl
    unknown_eq := rfl
    group_eq := fun key _ hne => group_showing_of_ne hne _
    group_ne_iff := group_showing_ne_iff }

end NoteLinks.LinkContext
