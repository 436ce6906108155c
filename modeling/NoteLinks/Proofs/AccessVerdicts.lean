import NoteLinks.Note
import NoteLinks.Proofs.FragmentWriting
import NoteLinks.Proofs.ImageMarkup
import NoteLinks.Proofs.ImageSources
import NoteLinks.Proofs.RecordChecks

/-!
# Links and images agree on access

A record can be asked for by a link, which takes a record of any kind, and by an image, which takes
a medium.  Each has its own annotation, its own faults and its own messages, but both ask for the
record in the tree of the page, and they agree on whether it can be had (`SameVerdict`).  Where it
cannot, the link and the note in place of the image say so in the same words, whatever the catalog
is (`denial`); where it can, the link leads to it, and what is said about the image is about the
record and its files.
-/

namespace NoteLinks

open CrossReference (IsIdentifier)

/-- An identifier between two `@` stands for itself in an annotation. -/
lemma CrossReference.IsIdentifier.isBare {xref : Text} (h : IsIdentifier xref) :
    Fragment.IsBare ("@" ++ xref ++ "@") := by
  intro c hc
  have hcases : c = '@' ∨ c.isAlphanum = true := by
    simp only [List.mem_append] at hc
    rcases hc with (hc | hc) | hc
    · exact Or.inl (by simpa using hc)
    · exact Or.inr (h.2 c hc)
    · exact Or.inl (by simpa using hc)
  have hnone : ∀ x ∈ ['&', '=', '%', '+'], ¬ (x = '@' ∨ x.isAlphanum = true) :=
    List.all_iff_forall_prop.1 (by decide)
  exact fun hmem => hnone c hmem hcases

/-- The cross-reference to a record of any kind in the tree of the page. -/
def CrossReference.toRecord (xref : Text) : CrossReference := ⟨.generic, xref, none, false⟩

/-- Its value is the identifier between two `@`. -/
lemma CrossReference.read?_toRecord {xref : Text} (h : IsIdentifier xref) :
    CrossReference.read? ("@" ++ xref ++ "@") = some (.toRecord xref) := by
  have hwritable : (CrossReference.toRecord xref).IsWritable :=
    { kind := Or.inr rfl
      xref_ne_nil := h.1
      isAlphanum := h.2
      tree_ne_nil := by simp [toRecord]
      trim_tree := by simp [toRecord]
      line_feed_not_mem := by simp [toRecord]
      not_endsInDiagram := by simp [toRecord] }
  have hwrite : (CrossReference.toRecord xref).write = "@" ++ xref ++ "@" := by
    simp [write, toRecord, RecordKind.code?]
  rw [← hwrite, hwritable.read?_write]

namespace ImageContext

variable {cx : ImageContext} {xref : Text}

/-! ## Why a record cannot be had -/

/-- Why the record cannot be had, in the words of the catalog; a reason that is given for denied
access is repeated as it is. -/
def denial (cx : ImageContext) (xref : Text) : LookupError → Text
  | .unknownTree => cx.catalog.format .unknownTree [cx.page.tree]
  | .notFound => cx.catalog.format .recordNotFound [xref]
  | .accessDenied (some reason) => reason
  | .accessDenied none => cx.catalog.format .accessDenied [xref]

/-- The fault of a link to a record that cannot be had. -/
def linkFault (cx : ImageContext) (xref : Text) : LookupError → LinkFault
  | .unknownTree => .unknownTree cx.page.tree
  | .notFound => .notFound xref
  | .accessDenied reason => .accessDenied xref reason

lemma message_linkFault (cx : ImageContext) (xref : Text) (e : LookupError) :
    (cx.linkFault xref e).message cx.catalog = cx.denial xref e := by
  cases e with
  | unknownTree => rfl
  | notFound => rfl
  | accessDenied reason => cases reason <;> rfl

lemma message_lookupFault (cx : ImageContext) (xref : Text) (e : LookupError) :
    (cx.lookupFault xref e).message cx.catalog = cx.denial xref e := by
  cases e with
  | unknownTree => rfl
  | notFound => rfl
  | accessDenied reason => cases reason <;> rfl

/-! ## Links -/

/-- The only links for the identifier of a record are those of the cross-reference to it. -/
lemma expand?_toRecord (lcx : LinkContext) (hxref : IsIdentifier xref) :
    lcx.expand? ("#@wt=@" ++ xref ++ "@") =
      some ⟨[], [lcx.crossReferenceLinks Provider.records ("@" ++ xref ++ "@")], none⟩ := by
  have hread : Fragment.read .link ("wt" ++ "=" ++ ("@" ++ xref ++ "@")) =
      ⟨[("wt", "@" ++ xref ++ "@")], []⟩ :=
    Fragment.read_of_isBare (by simp [Fragment.IsBare]) hxref.isBare (by decide) (by decide)
  refine LinkContext.expand?_eq_some_iff.2
    ⟨[], "wt" ++ "=" ++ ("@" ++ xref ++ "@"), by simp [marker], by decide, ?_, ?_⟩
  · exact Fragment.keys_ne_nil_of_entries_ne_nil (by rw [hread]; simp)
  · rw [hread, LinkContext.expansion, List.map_singleton]
    exact congrArg (fun ls => Expansion.mk [] [ls] none) (lcx.group_crossReferenceKey _)

lemma linkContext_eq (cx : ImageContext) : cx.linkContext.withArchive cx.store = cx.linkContext :=
  rfl

/-- The one link to a record that cannot be had says why. -/
lemma crossReferenceLinks_of_error (hxref : IsIdentifier xref) {e : LookupError}
    (hlookup : cx.store.lookup cx.page.tree xref = .error e) :
    cx.linkContext.crossReferenceLinks Provider.records ("@" ++ xref ++ "@") =
      [⟨none, cx.denial xref e, "link-error link-wt"⟩] := by
  -- the check asks for the kind of the record, and fails where the lookup does
  have hkind : cx.store.kindOf cx.page.tree (CrossReference.toRecord xref).xref = .error e := by
    rw [Archive.kindOf, CrossReference.toRecord, hlookup]
    rfl
  have hfault : cx.linkContext.fault? (.toRecord xref) cx.page.tree =
      some (cx.linkFault xref e) := by
    rw [← linkContext_eq, LinkContext.fault?_withArchive, hkind]
    cases e <;> rfl
  have htree : cx.linkContext.treeOf (.toRecord xref) = cx.page.tree := rfl
  simp only [LinkContext.crossReferenceLinks, CrossReference.read?_toRecord hxref, htree, hfault]
  rw [← message_linkFault]
  rfl

/-- The one link to a record that can be had leads to it, of whatever kind it is. -/
lemma crossReferenceLinks_of_ok (hxref : IsIdentifier xref) {record : Record}
    (hlookup : cx.store.lookup cx.page.tree xref = .ok record) :
    cx.linkContext.crossReferenceLinks Provider.records ("@" ++ xref ++ "@") =
      [cx.linkContext.recordLink Provider.records (.toRecord xref)] := by
  have hread := CrossReference.read?_toRecord hxref
  have hreach : cx.linkContext.Reaches cx.store (.toRecord xref) := ⟨record, hlookup, Or.inl rfl⟩
  rw [← linkContext_eq, LinkContext.crossReferenceLinks_of_reaches hread hreach,
    LinkContext.crossReferenceLinks_withoutArchive hread]
  rfl

/-! ## Images -/

/-- The image for the identifier of a record has its source in that record. -/
lemma resolve?_record (cx : ImageContext) (hxref : IsIdentifier xref) :
    cx.resolve? ("#@id=@" ++ xref ++ "@") =
      some (cx.image ⟨[("id", "@" ++ xref ++ "@")], []⟩) := by
  have hread : Fragment.read .image ("id" ++ "=" ++ ("@" ++ xref ++ "@")) =
      ⟨[("id", "@" ++ xref ++ "@")], []⟩ :=
    Fragment.read_of_isBare (by simp [Fragment.IsBare]) hxref.isBare (by decide) (by decide)
  have hsrc : ("#@id=@" ++ xref ++ "@" : Text) =
      [] ++ marker ++ ("id" ++ "=" ++ ("@" ++ xref ++ "@") : Text) := by simp [marker]
  rw [hsrc, resolve?_eq_some (by decide)
    (Fragment.keys_ne_nil_of_entries_ne_nil (by rw [hread]; simp)), hread]

lemma asksFor_record (hxref : IsIdentifier xref) :
    AsksFor ⟨[("id", "@" ++ xref ++ "@")], []⟩ xref where
  id_eq := rfl
  public_eq := rfl
  isIdentifier := hxref

/-! ## The verdict -/

/-- The links to a record and the image from it are judged alike. -/
structure SameVerdict (cx : ImageContext) (xref : Text) (links : List Link) (i : Image) :
    Prop where
  /-- Where the record cannot be had there is one link, which cannot be followed, and the image has
  a fault; both say the same. -/
  denied : ∀ e, cx.store.lookup cx.page.tree xref = .error e →
    links = [⟨none, cx.denial xref e, "link-error link-wt"⟩] ∧
      i.source = .error (cx.lookupFault xref e) ∧
      (cx.lookupFault xref e).message cx.catalog = cx.denial xref e
  /-- Where the record can be had there is one link, which leads to it whatever its kind is, and the
  image is found in the record, or the record is no medium or has no image; its fault is never one
  of the above. -/
  had : ∀ record, cx.store.lookup cx.page.tree xref = .ok record →
    (∃ l, links = [l] ∧ l.isError = false ∧
      l.href = some (cx.linkContext.route cx.settings.recordRoute cx.page.tree .generic xref)) ∧
      ((∃ file, i.source = .ok (.media record.xref record.name file)) ∨
        i.source = .error (.notMedia xref) ∨ i.source = .error (.noImage xref)) ∧
      ∀ e, i.source ≠ .error (cx.lookupFault xref e)

/-- A link to a record of any kind and an image from that record agree on whether the record can be
had; and where it cannot, they say so in the same words. -/
theorem expand?_resolve?_sameVerdict (cx : ImageContext) (hxref : IsIdentifier xref) :
    ∃ e i, cx.linkContext.expand? ("#@wt=@" ++ xref ++ "@") = some e ∧
      cx.resolve? ("#@id=@" ++ xref ++ "@") = some i ∧ cx.SameVerdict xref e.links i := by
  refine ⟨_, _, expand?_toRecord _ hxref, cx.resolve?_record hxref, ?_, ?_⟩
  · intro e hlookup
    refine ⟨?_, (asksFor_record hxref).source_of_error hlookup, message_lookupFault _ _ _⟩
    rw [crossReferenceLinks_of_error hxref hlookup]
    rfl
  · intro record hlookup
    have hsource := (asksFor_record hxref).finds_of_ok hlookup
    simp only [← source_eq_iff] at hsource
    refine ⟨⟨cx.linkContext.recordLink Provider.records (.toRecord xref), ?_, rfl, rfl⟩,
      hsource, ?_⟩
    · rw [crossReferenceLinks_of_ok hxref hlookup]
      rfl
    · intro e he
      -- a record that can be had leaves only faults that the lookup does not have
      rcases hsource with ⟨file, hsource⟩ | hsource | hsource
      · cases hsource.symm.trans he
      · cases e <;> cases hsource.symm.trans he
      · cases e <;> cases hsource.symm.trans he

/-- A page of a tree with one record, which is private. -/
def familyPage : ImageContext :=
  ofSettings .initial ⟨"demo", none⟩
    (RecordStore.empty.insertPrivate "demo" ⟨"X1", .media, [], []⟩ (some "For the family only"))
    .empty ⟨fun _ => []⟩

/-- The private record is kept from the reader by a link and by an image in the same words. -/
theorem sameVerdict_familyPage :
    IsIdentifier "X1" ∧ ∃ e i, familyPage.linkContext.expand? "#@wt=@X1@" = some e ∧
      familyPage.resolve? "#@id=@X1@" = some i ∧
      e.links = [⟨none, "For the family only", "link-error link-wt"⟩] ∧
      i.source = .error (.accessDenied "X1" (some "For the family only")) := by
  have hxref : IsIdentifier "X1" := CrossReference.isIdentifier_eq_true_iff.1 (by decide)
  have hlookup : familyPage.store.lookup familyPage.page.tree "X1" =
      .error (.accessDenied (some "For the family only")) := by decide
  obtain ⟨e, i, he, hi, hverdict⟩ := expand?_resolve?_sameVerdict familyPage hxref
  obtain ⟨hlinks, hsource, -⟩ := hverdict.denied _ hlookup
  exact ⟨hxref, e, i, he, hi, hlinks, hsource⟩

end ImageContext

end NoteLinks
