import NoteLinks.Image
import NoteLinks.Proofs.CrossReferences
import NoteLinks.Proofs.FragmentMeaning
import NoteLinks.Proofs.Numerals

/-!
# What comes of an annotated image

An annotation names the source of its image by `id` or by `public`.  What is found there is stated
as a table (`ImageContext.Finds`): each row has the conditions under which it applies, and exactly
one row applies to an annotation (`source_eq_iff`).  An image of a media record is found just where
the record can be had, is of that kind and has an attachment that is an image; the first such
attachment is shown.

Whatever is found, the size, the classes and the keys that are not recognized are those that the
annotation states (`ImageContext.IsImageOf`).
-/

namespace NoteLinks

open CrossReference (IsIdentifier)

/-! ## Attachments -/

/-- The type of the file says that it is an image. -/
def MediaFile.HasImageType (file : MediaFile) : Prop := ("image/" : Text) <+: file.mime

lemma MediaFile.isImage_eq_true_iff {file : MediaFile} :
    file.isImage = true ↔ file.HasImageType := by
  rw [isImage, HasImageType, Option.isSome_iff_ne_none, ne_eq, Text.after?_eq_none_iff, not_not]

namespace Record

variable {record : Record} {file : MediaFile}

/-- The file is an image among the attachments, and none before it is one. -/
def IsFirstImage (record : Record) (file : MediaFile) : Prop :=
  file.HasImageType ∧ ∃ front back, record.mediaFiles = front ++ file :: back ∧
    ∀ other ∈ front, ¬ other.HasImageType

lemma firstImage?_eq_some_iff : record.firstImage? = some file ↔ record.IsFirstImage file := by
  rw [firstImage?, List.find?_eq_some_iff_append, IsFirstImage, MediaFile.isImage_eq_true_iff]
  simp only [← MediaFile.isImage_eq_true_iff, Bool.not_eq_true, Bool.not_eq_eq_eq_not,
    Bool.not_true]

lemma firstImage?_eq_none_iff :
    record.firstImage? = none ↔ ∀ file ∈ record.mediaFiles, ¬ file.HasImageType := by
  rw [firstImage?, List.find?_eq_none]
  simp only [MediaFile.isImage_eq_true_iff]

end Record

/-! ## Sizes and classes -/

namespace Image

/-- The number for a size: the number below `2^32` that the value states in digits, or the default
where it states none. -/
structure IsSize (value : Option Text) (default n : UInt32) : Prop where
  stated : ∀ t, value = some t → Decimal.IsUInt32 t → n.toNat = Decimal.denoted t
  default : (∀ t, value = some t → ¬ Decimal.IsUInt32 t) → n = default

lemma isSize_dimension (value : Option Text) (default : UInt32) :
    IsSize value default (dimension value default) where
  stated := by
    rintro t rfl ht
    have hnumber : (UInt32.ofNat (Decimal.denoted t)).toNat = Decimal.denoted t :=
      UInt32.toNat_ofNat_of_lt' ht.denoted_lt
    rw [dimension, Option.bind_some, Decimal.readUInt32?_eq_some_iff.2 ⟨ht, hnumber⟩,
      Option.getD_some, hnumber]
  default := by
    intro hnone
    have hread : value.bind Decimal.readUInt32? = none := by
      rw [Option.bind_eq_none_iff]
      intro t ht
      rw [Option.eq_none_iff_forall_ne_some]
      exact fun m hm => hnone t ht (Decimal.readUInt32?_eq_some_iff.1 hm).1
    rw [dimension, hread, Option.getD_none]

/-- Leading zeros do not count, and `2^32` is too large. -/
example : dimension (some "00640") 320 = 640 ∧ dimension (some "4294967296") 320 = 320 := by decide

/-- The classes are the words of the named ones and the standard ones, each once and in the order in
which they occur first. -/
structure IsClassList (named : Option Text) (standard classes : List Text) : Prop where
  mem_iff : ∀ c, c ∈ classes ↔ c ∈ Text.words (named.getD []) ∨ c ∈ standard
  ordered : classes.Pairwise fun c d =>
    (Text.words (named.getD []) ++ standard).idxOf c <
      (Text.words (named.getD []) ++ standard).idxOf d

lemma isClassList_mergeClasses (named : Option Text) (standard : List Text) :
    IsClassList named standard (mergeClasses named standard) where
  mem_iff c := by rw [mergeClasses, Text.mem_distinct, List.mem_append]
  ordered := Text.pairwise_idxOf_distinct _

end Image

namespace ImageContext

variable {cx : ImageContext} {f : Fragment} {id xref path : Text}
  {found : Except ImageFault ImageSource}

/-! ## Sources -/

/-- The annotation asks for a media record, by `id` alone. -/
structure AsksFor (f : Fragment) (xref : Text) : Prop where
  id_eq : f.get? "id" = some ("@" ++ xref ++ "@")
  public_eq : f.get? "public" = none
  isIdentifier : IsIdentifier xref

/-- What is found for an annotation. -/
inductive Finds (cx : ImageContext) (f : Fragment) : Except ImageFault ImageSource → Prop
  | idOrPublic (h : (f.get? "id").isSome = (f.get? "public").isSome) :
      Finds cx f (.error .idOrPublic)
  | idSyntax {id : Text} (hid : f.get? "id" = some id) (hpublic : f.get? "public" = none)
      (hform : ∀ xref, IsIdentifier xref → id ≠ "@" ++ xref ++ "@") :
      Finds cx f (.error (.idSyntax id))
  | unknownTree {xref : Text} (hasks : AsksFor f xref)
      (hlookup : cx.store.lookup cx.page.tree xref = .error .unknownTree) :
      Finds cx f (.error (.unknownTree cx.page.tree))
  | recordNotFound {xref : Text} (hasks : AsksFor f xref)
      (hlookup : cx.store.lookup cx.page.tree xref = .error .notFound) :
      Finds cx f (.error (.recordNotFound xref))
  | accessDenied {xref : Text} {reason : Option Text} (hasks : AsksFor f xref)
      (hlookup : cx.store.lookup cx.page.tree xref = .error (.accessDenied reason)) :
      Finds cx f (.error (.accessDenied xref reason))
  | notMedia {xref : Text} {record : Record} (hasks : AsksFor f xref)
      (hlookup : cx.store.lookup cx.page.tree xref = .ok record) (hkind : record.kind ≠ .media) :
      Finds cx f (.error (.notMedia xref))
  | noImage {xref : Text} {record : Record} (hasks : AsksFor f xref)
      (hlookup : cx.store.lookup cx.page.tree xref = .ok record) (hkind : record.kind = .media)
      (hfiles : ∀ file ∈ record.mediaFiles, ¬ file.HasImageType) :
      Finds cx f (.error (.noImage xref))
  | media {xref : Text} {record : Record} {file : MediaFile} (hasks : AsksFor f xref)
      (hlookup : cx.store.lookup cx.page.tree xref = .ok record) (hkind : record.kind = .media)
      (hfile : record.IsFirstImage file) :
      Finds cx f (.ok (.media record.xref record.name file))
  | refused {path : Text} {fault : PublicFileFault} (hid : f.get? "id" = none)
      (hpublic : f.get? "public" = some path)
      (hfile : PublicFile.resolve cx.registry cx.files cx.settings path = .error fault) :
      Finds cx f (.error (.file fault))
  | publicFile {path : Text} {file : PublicFile} (hid : f.get? "id" = none)
      (hpublic : f.get? "public" = some path)
      (hfile : PublicFile.resolve cx.registry cx.files cx.settings path = .ok file) :
      Finds cx f (.ok (.publicFile file))

/-- A value that is no identifier between two `@` is not followed. -/
lemma media_of_not (cx : ImageContext)
    (hid : ∀ xref, IsIdentifier xref → id ≠ "@" ++ xref ++ "@") :
    cx.media id = .error (.idSyntax id) := by
  have hread : CrossReference.readMedia? id = none := by
    rw [Option.eq_none_iff_forall_ne_some]
    intro xref hxref
    obtain ⟨heq, hidentifier⟩ := CrossReference.readMedia?_eq_some_iff.1 hxref
    exact hid xref hidentifier heq
  rw [media, hread]

lemma source_of_id (hid : f.get? "id" = some id) (hpublic : f.get? "public" = none) :
    cx.source f = cx.media id := by
  simp only [source, hid, hpublic]

lemma source_of_public (hid : f.get? "id" = none) (hpublic : f.get? "public" = some path) :
    cx.source f = cx.publicFile path := by
  simp only [source, hid, hpublic]

lemma AsksFor.source_eq (cx : ImageContext) (h : AsksFor f xref) :
    cx.source f = cx.media ("@" ++ xref ++ "@") ∧
      CrossReference.readMedia? ("@" ++ xref ++ "@") = some xref :=
  ⟨source_of_id h.id_eq h.public_eq,
    CrossReference.readMedia?_eq_some_iff.2 ⟨rfl, h.isIdentifier⟩⟩

/-- The fault of an image from a record that cannot be had. -/
def lookupFault (cx : ImageContext) (xref : Text) : LookupError → ImageFault
  | .unknownTree => .unknownTree cx.page.tree
  | .notFound => .recordNotFound xref
  | .accessDenied reason => .accessDenied xref reason

/-- An image from a record that cannot be had has the fault of the lookup. -/
lemma AsksFor.source_of_error (h : AsksFor f xref) {e : LookupError}
    (hlookup : cx.store.lookup cx.page.tree xref = .error e) :
    cx.source f = .error (cx.lookupFault xref e) := by
  obtain ⟨hsource, hread⟩ := h.source_eq cx
  simp only [hsource, media, hread, hlookup]
  cases e <;> rfl

/-- There is no source where both keys or none of them are stated. -/
lemma source_of_isSome_eq (h : (f.get? "id").isSome = (f.get? "public").isSome) :
    cx.source f = .error .idOrPublic := by
  unfold source
  cases hid : f.get? "id" with
  | none =>
    rw [hid, eq_comm, Option.isSome_none, Option.isSome_eq_false_iff,
      Option.isNone_iff_eq_none] at h
    rw [h]
  | some id =>
    rw [hid, eq_comm, Option.isSome_some, Option.isSome_iff_exists] at h
    obtain ⟨path, hpublic⟩ := h
    rw [hpublic]

/-- A row that applies says what is found. -/
lemma Finds.source_eq (h : cx.Finds f found) : cx.source f = found := by
  cases h with
  | idOrPublic h => exact source_of_isSome_eq h
  | idSyntax hid hpublic hform => rw [source_of_id hid hpublic, cx.media_of_not hform]
  | unknownTree hasks hlookup => exact hasks.source_of_error hlookup
  | recordNotFound hasks hlookup => exact hasks.source_of_error hlookup
  | accessDenied hasks hlookup => exact hasks.source_of_error hlookup
  | notMedia hasks hlookup hkind =>
    obtain ⟨hsource, hread⟩ := hasks.source_eq cx
    simp only [hsource, ImageContext.media, hread, hlookup, if_pos hkind]
  | noImage hasks hlookup hkind hfiles =>
    obtain ⟨hsource, hread⟩ := hasks.source_eq cx
    simp only [hsource, ImageContext.media, hread, hlookup, if_neg (not_not.2 hkind),
      Record.firstImage?_eq_none_iff.2 hfiles]
  | media hasks hlookup hkind hfile =>
    obtain ⟨hsource, hread⟩ := hasks.source_eq cx
    simp only [hsource, ImageContext.media, hread, hlookup, if_neg (not_not.2 hkind),
      Record.firstImage?_eq_some_iff.2 hfile]
  | refused hid hpublic hfile =>
    simp only [source_of_public hid hpublic, ImageContext.publicFile, hfile]
  | publicFile hid hpublic hfile =>
    simp only [source_of_public hid hpublic, ImageContext.publicFile, hfile]

/-- An annotation that asks for a record that can be had is decided by its kind and its files. -/
lemma AsksFor.finds_of_ok (h : AsksFor f xref) {record : Record}
    (hlookup : cx.store.lookup cx.page.tree xref = .ok record) :
    (∃ file, cx.Finds f (.ok (.media record.xref record.name file))) ∨
      cx.Finds f (.error (.notMedia xref)) ∨ cx.Finds f (.error (.noImage xref)) := by
  by_cases hkind : record.kind = .media
  · cases hfile : record.firstImage? with
    | none =>
      have hfiles := Record.firstImage?_eq_none_iff.1 hfile
      exact Or.inr (Or.inr (.noImage h hlookup hkind hfiles))
    | some file =>
      exact Or.inl ⟨file, .media h hlookup hkind (Record.firstImage?_eq_some_iff.1 hfile)⟩
  · exact Or.inr (Or.inl (.notMedia h hlookup hkind))

/-- Some row applies to an annotation that asks for a record. -/
lemma AsksFor.exists_finds (cx : ImageContext) (h : AsksFor f xref) :
    ∃ found, cx.Finds f found := by
  cases hlookup : cx.store.lookup cx.page.tree xref with
  | error e =>
    cases e with
    | unknownTree => exact ⟨_, .unknownTree h hlookup⟩
    | notFound => exact ⟨_, .recordNotFound h hlookup⟩
    | accessDenied reason => exact ⟨_, .accessDenied h hlookup⟩
  | ok record =>
    rcases h.finds_of_ok hlookup with ⟨_, hfinds⟩ | hfinds | hfinds
    · exact ⟨_, hfinds⟩
    · exact ⟨_, hfinds⟩
    · exact ⟨_, hfinds⟩

/-- Some row applies to every annotation. -/
lemma exists_finds (cx : ImageContext) (f : Fragment) : ∃ found, cx.Finds f found := by
  cases hid : f.get? "id" with
  | none =>
    cases hpublic : f.get? "public" with
    | none => exact ⟨_, .idOrPublic (by rw [hid, hpublic])⟩
    | some path =>
      cases hfile : PublicFile.resolve cx.registry cx.files cx.settings path with
      | error fault => exact ⟨_, .refused hid hpublic hfile⟩
      | ok file => exact ⟨_, .publicFile hid hpublic hfile⟩
  | some id =>
    cases hpublic : f.get? "public" with
    | some path => exact ⟨_, .idOrPublic (by rw [hid, hpublic]; rfl)⟩
    | none =>
      by_cases hform : ∃ xref, IsIdentifier xref ∧ id = "@" ++ xref ++ "@"
      · obtain ⟨xref, hxref, rfl⟩ := hform
        exact AsksFor.exists_finds cx ⟨hid, hpublic, hxref⟩
      · exact ⟨_, .idSyntax hid hpublic fun xref hxref heq => hform ⟨xref, hxref, heq⟩⟩

/-- The source of an annotation is what the table says. -/
lemma source_eq_iff : cx.source f = found ↔ cx.Finds f found := by
  constructor
  · rintro rfl
    obtain ⟨found, hfound⟩ := cx.exists_finds f
    rwa [hfound.source_eq]
  · exact Finds.source_eq

/-! ## Images -/

/-- The image is what an annotation asks for: what is found as its source, and, whatever that is,
the size, the classes and the keys that are not recognized. -/
structure IsImageOf (cx : ImageContext) (f : Fragment) (i : Image) : Prop where
  source_iff : ∀ found, i.source = found ↔ cx.Finds f found
  width : Image.IsSize (f.get? "w") cx.settings.defaultWidth i.width
  height : Image.IsSize (f.get? "h") cx.settings.defaultHeight i.height
  classes : Image.IsClassList (f.get? "cname") cx.settings.imageClasses i.classes
  unknown_eq : i.unknown = f.unknown

/-- The record is a medium that the annotation asks for by `id` alone, and it can be had. -/
def FindsMedia (cx : ImageContext) (f : Fragment) (record : Record) : Prop :=
  ∃ xref, AsksFor f xref ∧ cx.store.lookup cx.page.tree xref = .ok record ∧ record.kind = .media

/-- A source in a record is the first image of a medium that is found. -/
lemma source_eq_media_iff {name : Text} {file : MediaFile} :
    cx.source f = .ok (.media xref name file) ↔
      ∃ record, cx.FindsMedia f record ∧ record.xref = xref ∧ record.name = name ∧
        record.IsFirstImage file := by
  rw [source_eq_iff]
  constructor
  · intro h
    cases h with
    | media hasks hlookup hkind hfile => exact ⟨_, ⟨_, hasks, hlookup, hkind⟩, rfl, rfl, hfile⟩
  · rintro ⟨record, ⟨asked, hasks, hlookup, hkind⟩, rfl, rfl, hfile⟩
    exact .media hasks hlookup hkind hfile

/-- There is a source in a record just if a medium is found that has an image. -/
lemma exists_source_eq_media_iff :
    (∃ xref name file, cx.source f = .ok (.media xref name file)) ↔
      ∃ record, cx.FindsMedia f record ∧ ∃ file ∈ record.mediaFiles, file.HasImageType := by
  simp only [source_eq_media_iff]
  constructor
  · rintro ⟨_, _, file, record, hrecord, -, -, hfile, front, back, heq, -⟩
    exact ⟨record, hrecord, file, by simp [heq], hfile⟩
  · rintro ⟨record, hrecord, hsome⟩
    cases hfirst : record.firstImage? with
    | none =>
      obtain ⟨file, hmem, hfile⟩ := hsome
      exact absurd hfile (Record.firstImage?_eq_none_iff.1 hfirst file hmem)
    | some file =>
      exact ⟨_, _, file, record, hrecord, rfl, rfl, Record.firstImage?_eq_some_iff.1 hfirst⟩

/-- An annotation is decided by the table.  It has a source in a record just if it asks, by `id`
alone, for a medium that can be had and has an image, and the first image is the source.  Whatever
is found, the size, the classes and the keys that are not recognized are those that it states; these
keys stand in increasing order. -/
theorem image_decided (cx : ImageContext) :
    (∀ f, cx.IsImageOf f (cx.image f)) ∧
    (∀ f, (∃ xref name file, (cx.image f).source = .ok (.media xref name file)) ↔
      ∃ record, cx.FindsMedia f record ∧ ∃ file ∈ record.mediaFiles, file.HasImageType) ∧
    (∀ f xref name file, (cx.image f).source = .ok (.media xref name file) ↔
      ∃ record, cx.FindsMedia f record ∧ record.xref = xref ∧ record.name = name ∧
        record.IsFirstImage file) ∧
    ∀ raw, (cx.image (.read .image raw)).unknown.Pairwise (· < ·) ∧
      ∀ key, key ∈ (cx.image (.read .image raw)).unknown ↔
        key ∈ Fragment.keys raw ∧ key ∉ Place.imageKeys := by
  refine ⟨fun f => ?_, fun f => exists_source_eq_media_iff,
    fun f xref name file => source_eq_media_iff, fun raw =>
      ⟨Fragment.pairwise_unknown_ofPairs _ _, fun key => Fragment.mem_unknown_read_image⟩⟩
  exact {
    source_iff := fun found => source_eq_iff
    width := Image.isSize_dimension _ _
    height := Image.isSize_dimension _ _
    classes := Image.isClassList_mergeClasses _ _
    unknown_eq := rfl }

end ImageContext

end NoteLinks
