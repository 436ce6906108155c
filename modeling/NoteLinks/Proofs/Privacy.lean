import Mathlib.Data.List.Forall2
import NoteLinks.Note
import NoteLinks.Proofs.RecordChecks
import NoteLinks.Proofs.Rewriting

/-!
# What private records give away

Two stores match where a reader stands before the same records and the same closed doors: in every
tree the records have, place by place, the same identifier, are private or not alike and deny access
for the same reason, and those that are not private are the same record.  A private record may be of
any kind, under any name and with any files.

A reader cannot tell such stores apart, neither by asking for records nor by the links, images and
notes of any page (`sameForReader_of_matches`).  Links tell even less: they do not show the names
and the files of records that the reader may see.

The argument is that the answer to a request is made from the stored record by
`StoredRecord.answer`, which looks at the access before it looks at the record.
-/

namespace NoteLinks

/-! ## Answers -/

namespace StoredRecord

/-- What the reader gets when a request finds a stored record. -/
def answer (r : StoredRecord) : Except LookupError Record :=
  if r.isPrivate then .error (.accessDenied r.denialReason) else .ok r.record

/-- Stored records that give a link the same target: as far as the reader may see the record, it is
of the same kind. -/
structure LinksAlike (r s : StoredRecord) : Prop where
  xref_eq : r.record.xref = s.record.xref
  isPrivate_eq : r.isPrivate = s.isPrivate
  denialReason_eq : r.denialReason = s.denialReason
  kind_eq : r.isPrivate = false → r.record.kind = s.record.kind

/-- Stored records that read alike: as far as the reader may see the record, it is the same. -/
structure ReadsAlike (r s : StoredRecord) : Prop extends LinksAlike r s where
  name_eq : r.isPrivate = false → r.record.name = s.record.name
  mediaFiles_eq : r.isPrivate = false → r.record.mediaFiles = s.record.mediaFiles

variable {r s : StoredRecord}

/-- Of a record that links alike the answer gives away the same kind. -/
lemma LinksAlike.kind_answer (h : LinksAlike r s) :
    r.answer.map Record.kind = s.answer.map Record.kind := by
  unfold answer
  rw [← h.isPrivate_eq, ← h.denialReason_eq]
  cases hprivate : r.isPrivate with
  | true => rfl
  | false => exact congrArg Except.ok (h.kind_eq hprivate)

/-- Records that read alike have the same answer. -/
lemma ReadsAlike.answer_eq (h : ReadsAlike r s) : r.answer = s.answer := by
  unfold answer
  rw [← h.isPrivate_eq, ← h.denialReason_eq]
  cases hprivate : r.isPrivate with
  | true => rfl
  | false =>
    have hrecord : r.record = s.record := by
      have hxref := h.xref_eq
      have hkind := h.kind_eq hprivate
      have hname := h.name_eq hprivate
      have hfiles := h.mediaFiles_eq hprivate
      cases hr : r.record
      cases hs : s.record
      simp_all
    exact congrArg Except.ok hrecord

end StoredRecord

/-! ## Pages -/

/-- The page with the records of an archive. -/
def ImageContext.withArchive (cx : ImageContext) (a : Archive) : ImageContext :=
  { cx with store := a }

/-- A document is rewritten as the addresses in it are expanded. -/
lemma LinkContext.expandHtml_congr {cx cx' : LinkContext}
    (h : ∀ href, cx.expand? href = cx'.expand? href) (html : Text) :
    cx.expandHtml html = cx'.expandHtml html := by
  have hexpand : cx.expand? = cx'.expand? := funext h
  have hanchor : cx.expandAnchor = cx'.expandAnchor := by
    funext a
    unfold expandAnchor
    rw [hexpand]
  have hpiece : cx.expandPiece = cx'.expandPiece := by
    funext piece
    cases piece with
    | char c => rfl
    | anchor a => exact congrFun hanchor a
  unfold expandHtml expandAnchors
  rw [hpiece]

/-! ## Matching stores -/

namespace RecordStore

variable {R : StoredRecord → StoredRecord → Prop} {s t : RecordStore}

/-- The stores have the same trees, and in each of them the records match place by place. -/
def Matches (R : StoredRecord → StoredRecord → Prop) (s t : RecordStore) : Prop :=
  ∀ tree, Option.Rel (List.Forall₂ R) (s.tree? tree) (t.tree? tree)

/-- Stores whose trees are listed in the same order match if the lists do. -/
lemma matches_of_forall₂
    (h : List.Forall₂ (fun a b => a.1 = b.1 ∧ List.Forall₂ R a.2 b.2) s.trees t.trees) :
    s.Matches R t := by
  intro tree
  unfold tree?
  generalize s.trees = ss at h ⊢
  generalize t.trees = ts at h ⊢
  induction h with
  | nil => exact .none
  | cons hab _ ih =>
    obtain ⟨hname, hrecords⟩ := hab
    rw [List.find?_cons, List.find?_cons, ← hname]
    split
    · exact .some hrecords
    · exact ih

/-- In matching lists the first records with an identifier match. -/
lemma find?_rel (hxref : ∀ r r', R r r' → r.record.xref = r'.record.xref)
    {rs rs' : List StoredRecord} (h : List.Forall₂ R rs rs') (xref : Text) :
    Option.Rel R (rs.find? (·.record.xref == xref)) (rs'.find? (·.record.xref == xref)) := by
  induction h with
  | nil => exact .none
  | cons hrr' _ ih =>
    rw [List.find?_cons, List.find?_cons, ← hxref _ _ hrr']
    split
    · exact .some hrr'
    · exact ih

/-- Options that are related have in common what related members have in common. -/
lemma elim_congr {α β γ δ : Type} {P : α → β → Prop} {f : γ → δ} {a : Option α} {b : Option β}
    {g : α → γ} {g' : β → γ} (h : Option.Rel P a b) (hg : ∀ x y, P x y → f (g x) = f (g' y))
    (d : γ) : f (a.elim d g) = f (b.elim d g') := by
  cases h with
  | none => rfl
  | some hxy => exact hg _ _ hxy

/-- A request is answered by the first record with the identifier in the tree. -/
lemma lookup_eq_elim (s : RecordStore) (tree xref : Text) :
    s.lookup tree xref =
      (s.tree? tree).elim (.error .unknownTree) fun records =>
        (records.find? (·.record.xref == xref)).elim (.error .notFound) StoredRecord.answer := by
  unfold lookup
  cases s.tree? tree with
  | none => rfl
  | some records =>
    cases hfind : records.find? (·.record.xref == xref) with
    | none => simp only [hfind, Option.elim]
    | some r => simp only [hfind, Option.elim, StoredRecord.answer]

/-- What answers to matching records have in common, the answers of matching stores have. -/
lemma lookup_congr {α : Type} {f : Except LookupError Record → α}
    (hxref : ∀ r r', R r r' → r.record.xref = r'.record.xref)
    (hanswer : ∀ r r', R r r' → f r.answer = f r'.answer) (h : s.Matches R t) (tree xref : Text) :
    f (s.lookup tree xref) = f (t.lookup tree xref) := by
  rw [lookup_eq_elim, lookup_eq_elim]
  refine elim_congr (h tree) ?_ _
  intro records records' hrecords
  exact elim_congr (find?_rel hxref hrecords xref) hanswer _

/-! ## What a reader gets -/

/-- A reader gets the same out of two stores: the same answer to every request, and on every page
the same links, images and notes. -/
structure SameForReader (s t : RecordStore) : Prop where
  lookup_eq : ∀ tree xref, s.lookup tree xref = t.lookup tree xref
  expand?_eq : ∀ (cx : LinkContext) href,
    (cx.withArchive s.archive).expand? href = (cx.withArchive t.archive).expand? href
  expandHtml_eq : ∀ (cx : LinkContext) html,
    (cx.withArchive s.archive).expandHtml html = (cx.withArchive t.archive).expandHtml html
  image_eq : ∀ (cx : ImageContext) f,
    (cx.withArchive s.archive).image f = (cx.withArchive t.archive).image f
  resolve?_eq : ∀ (cx : ImageContext) src,
    (cx.withArchive s.archive).resolve? src = (cx.withArchive t.archive).resolve? src
  render_eq : ∀ (cx : ImageContext) src alt title,
    (cx.withArchive s.archive).render src alt title =
      (cx.withArchive t.archive).render src alt title
  renderNote_eq : ∀ (cx : ImageContext) note,
    (cx.withArchive s.archive).renderNote note = (cx.withArchive t.archive).renderNote note

/-- Stores that read alike give every request the same answer. -/
lemma lookup_eq_of_readsAlike (h : s.Matches StoredRecord.ReadsAlike t) (tree xref : Text) :
    s.lookup tree xref = t.lookup tree xref :=
  lookup_congr (f := id) (fun _ _ hr => hr.xref_eq) (fun _ _ hr => hr.answer_eq) h tree xref

lemma kindOf_eq_of_linksAlike (h : s.Matches StoredRecord.LinksAlike t) (tree xref : Text) :
    s.archive.kindOf tree xref = t.archive.kindOf tree xref :=
  lookup_congr (f := Except.map Record.kind) (fun _ _ hr => hr.xref_eq)
    (fun _ _ hr => hr.kind_answer) h tree xref

/-- A reader cannot tell stores apart that differ in private records only; and by links alone not
even stores that differ in the names and files of the other records. -/
theorem sameForReader_of_matches (s t : RecordStore) :
    (s.Matches StoredRecord.ReadsAlike t → s.SameForReader t) ∧
      (s.Matches StoredRecord.LinksAlike t → ∀ cx : LinkContext,
        (∀ href,
          (cx.withArchive s.archive).expand? href = (cx.withArchive t.archive).expand? href) ∧
        ∀ html, (cx.withArchive s.archive).expandHtml html =
          (cx.withArchive t.archive).expandHtml html) := by
  constructor
  · intro h
    have hlookup := lookup_eq_of_readsAlike h
    -- a page sees nothing of a store but its archive, which is what lookups say
    have harchive : s.archive = t.archive := by
      unfold archive
      congr 1
      funext tree xref
      exact hlookup tree xref
    refine ⟨hlookup, ?_, ?_, ?_, ?_, ?_, ?_⟩ <;> intros <;> rw [harchive]
  · intro h cx
    have hexpand : ∀ href,
        (cx.withArchive s.archive).expand? href = (cx.withArchive t.archive).expand? href :=
      LinkContext.expand?_withArchive_congr (kindOf_eq_of_linksAlike h)
    exact ⟨hexpand, LinkContext.expandHtml_congr hexpand⟩

/-- A store with a private record `X1`, in front of another one with its identifier, and with a
picture that everyone may see. -/
def household (hidden : Record) (caption : Text) : RecordStore where
  trees :=
    [("demo",
      [⟨hidden, true, some "For the family only"⟩,
        ⟨⟨"X1", .individual, "Jane", []⟩, false, none⟩,
        ⟨⟨"M1", .media, caption, [⟨"/m1.png", "image/png", none⟩]⟩, false, none⟩])]

/-- Whether the private record of the household is a picture or a note, the reader gets the same;
and links do not tell what the picture that everyone may see is called. -/
theorem sameForReader_household :
    (household ⟨"X1", .media, "Portrait", [⟨"/x1.png", "image/png", none⟩]⟩ "House").SameForReader
        (household ⟨"X1", .note, [], []⟩ "House") ∧
      (LinkContext.demoPage.withArchive
          (household ⟨"X1", .note, [], []⟩ "House").archive).expandHtml
          "<a href=\"#@wt=@M1@\">see</a>" =
        (LinkContext.demoPage.withArchive
          (household ⟨"X1", .note, [], []⟩ "Garden").archive).expandHtml
          "<a href=\"#@wt=@M1@\">see</a>" := by
  have hreads : (household ⟨"X1", .media, "Portrait", [⟨"/x1.png", "image/png", none⟩]⟩
      "House").Matches StoredRecord.ReadsAlike (household ⟨"X1", .note, [], []⟩ "House") := by
    refine matches_of_forall₂ (.cons ⟨rfl, .cons ?_ (.cons ?_ (.cons ?_ .nil))⟩ .nil)
    · exact ⟨⟨rfl, rfl, rfl, by simp⟩, by simp, by simp⟩
    · exact ⟨⟨rfl, rfl, rfl, fun _ => rfl⟩, fun _ => rfl, fun _ => rfl⟩
    · exact ⟨⟨rfl, rfl, rfl, fun _ => rfl⟩, fun _ => rfl, fun _ => rfl⟩
  have hlinks : (household ⟨"X1", .note, [], []⟩ "House").Matches StoredRecord.LinksAlike
      (household ⟨"X1", .note, [], []⟩ "Garden") := by
    refine matches_of_forall₂ (.cons ⟨rfl, .cons ?_ (.cons ?_ (.cons ?_ .nil))⟩ .nil)
    · exact ⟨rfl, rfl, rfl, fun _ => rfl⟩
    · exact ⟨rfl, rfl, rfl, fun _ => rfl⟩
    · exact ⟨rfl, rfl, rfl, fun _ => rfl⟩
  exact ⟨(sameForReader_of_matches _ _).1 hreads,
    ((sameForReader_of_matches _ _).2 hlinks LinkContext.demoPage).2 _⟩

end RecordStore

end NoteLinks
