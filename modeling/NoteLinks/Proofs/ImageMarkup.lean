import NoteLinks.Image
import NoteLinks.Proofs.Markup
import NoteLinks.Proofs.Numerals

/-!
# The markup of images

What is shown for an annotated image is made from values that an author chose, from the records and
from the words of a catalog.  Whatever characters these hold, the markup says to its reader just
what was computed: a figure or a note about the image, and one more note if the annotation states a
key that is not recognized (`markup`, `readMarkup_render`).

The markup is written from tags and texts (`write_eq_writeMarkup`) whose names are fixed
(`areFormed_markup`), so what holds of all markup that is written that way holds of it: its tokens
are tight, and no anchor is found in it.
-/

namespace NoteLinks

open Html

/-- Digits are written as they are. -/
lemma escapeValue_write (n : Nat) : escapeValue (Decimal.write n) = Decimal.write n := by
  have hself : ∀ c ∈ Decimal.write n, escapeValueChar c = [c] := by
    intro c hc
    have hdigit : c.isDigit = true := Decimal.isDigit_of_mem_write n c hc
    rcases escapeValueChar_cases c with ⟨hmem, -⟩ | ⟨-, hself⟩
    · have hnone : ∀ x ∈ ['"', '&', '<', '>'], x.isDigit = false :=
        List.all_iff_forall_prop.1 (by decide)
      simp [hnone c hmem] at hdigit
    · exact hself
  rw [escapeValue, List.flatMap_congr hself, List.flatMap_singleton']

namespace ImageContext

variable {cx : ImageContext} {i : Image}

/-! ## What the markup says -/

/-- The attributes of the image in a figure. -/
def imgAttributes (i : Image) (url : Text) (mime : Option Text) (alt title : Text) :
    List Attribute :=
  [⟨"src", some url⟩, ⟨"width", some (Decimal.write i.width.toNat)⟩,
    ⟨"height", some (Decimal.write i.height.toNat)⟩, ⟨"class", some i.classList⟩,
    ⟨"alt", some alt⟩] ++
    (mime.map fun mime => ⟨"data-mime", some mime⟩).toList ++
    if title = [] then [] else [⟨"title", some title⟩]

/-- The caption of a figure, if there is a title. -/
def captionMarkup (cx : ImageContext) (title : Text) : List Markup :=
  if title = [] then []
  else
    element "figcaption" [⟨"class", some (Text.join " " cx.settings.imageTitleClasses)⟩]
      [.text title]

/-- A figure holds an image, and behind it perhaps a caption. -/
def figureMarkup (cx : ImageContext) (i : Image) (url : Text) (mime : Option Text)
    (alt title : Text) : List Markup :=
  element "figure" [⟨"class", some "md-figure"⟩]
    (.opening "img" (imgAttributes i url mime alt title) :: cx.captionMarkup title)

/-- A note holds a message and is marked as an alert. -/
def noteMarkup (message classes : Text) : List Markup :=
  element "span"
    [⟨"class", some (if classes = [] then noteClass else noteClass ++ " " ++ classes)⟩,
      ⟨"role", some "alert"⟩]
    (textMarkup message)

/-- The figure of an image or the note in its place.  What the author left out is taken from the
record and its file. -/
def bodyMarkup (cx : ImageContext) (i : Image) (alt title : Text) : List Markup :=
  match i.source with
  | .ok (.media _ name file) =>
    cx.figureMarkup i file.url none (if alt = [] then name else alt)
      (if title = [] then file.title.getD [] else title)
  | .ok (.publicFile file) => cx.figureMarkup i file.url (some file.mime) alt title
  | .error fault => noteMarkup (fault.message cx.catalog) i.classList

/-- The note that names the keys that are not recognized, if there are such keys. -/
def unknownMarkup (cx : ImageContext) (keys : List Text) : List Markup :=
  if keys = [] then [] else noteMarkup ((LinkFault.unknownKeys keys).message cx.catalog) []

/-- What the markup of an image says. -/
def markup (cx : ImageContext) (i : Image) (alt title : Text) : List Markup :=
  cx.bodyMarkup i alt title ++ cx.unknownMarkup i.unknown

/-! ## The markup is written that way -/

lemma valueAttribute_eq (name value : Text) :
    valueAttribute name value = writeAttribute ⟨name, some value⟩ := rfl

lemma numberAttribute_eq (name : Text) (n : UInt32) :
    numberAttribute name n = writeAttribute ⟨name, some (Decimal.write n.toNat)⟩ := by
  rw [← valueAttribute_eq, numberAttribute, valueAttribute, escapeValue_write]

/-- The attributes in a figure are written one after the other. -/
lemma writeAttributes_imgAttributes (i : Image) (url : Text) (mime : Option Text)
    (alt title : Text) :
    writeAttributes (imgAttributes i url mime alt title) =
      valueAttribute "src" url ++ numberAttribute "width" i.width ++
        numberAttribute "height" i.height ++ valueAttribute "class" i.classList ++
        valueAttribute "alt" alt ++ (mime.map (valueAttribute "data-mime")).getD [] ++
        if title = [] then [] else valueAttribute "title" title := by
  simp only [writeAttributes, imgAttributes, valueAttribute_eq, numberAttribute_eq,
    List.flatMap_append, List.flatMap_cons, List.flatMap_nil, List.append_assoc, List.append_nil]
  cases mime with
  | none => split <;> simp
  | some mime => split <;> simp [valueAttribute_eq]

/-- The end of a figure's image, with the title as an attribute and in the caption. -/
lemma title_eq_writeMarkup (cx : ImageContext) (title : Text) :
    (if title = [] then (">" : Text)
      else
        valueAttribute "title" title ++ "><figcaption" ++
          valueAttribute "class" (Text.join " " cx.settings.imageTitleClasses) ++ ">" ++
          escapeText title ++ "</figcaption>") =
      (if title = [] then [] else valueAttribute "title" title) ++
        (">" ++ writeMarkup (cx.captionMarkup title)) := by
  unfold captionMarkup
  split
  · rfl
  · have hopening : ("><figcaption" : Text) = ">" ++ ("<" ++ "figcaption") := by decide
    have hclosing : ("</figcaption>" : Text) = "</" ++ ("figcaption" ++ ">") := by decide
    have htext : writeMarkup [.text title] = escapeText title := List.append_nil _
    rw [writeMarkup_element, htext, writeAttributes, List.flatMap_singleton, ← valueAttribute_eq,
      hopening, hclosing]
    simp only [List.append_assoc]

lemma figure_eq_writeMarkup (cx : ImageContext) (i : Image) (url : Text) (mime : Option Text)
    (alt title : Text) :
    cx.figure i url mime alt title = writeMarkup (cx.figureMarkup i url mime alt title) := by
  have hopening : ("<figure class=\"md-figure\"><img" : Text) =
      "<" ++ ("figure" ++ (writeAttributes [⟨"class", some "md-figure"⟩] ++
        (">" ++ ("<" ++ "img")))) := by decide
  have hclosing : ("</figure>" : Text) = "</" ++ ("figure" ++ ">") := by decide
  have himg : ∀ as, (Markup.opening "img" as).token.raw =
      "<" ++ "img" ++ writeAttributes as ++ ">" := fun _ => rfl
  unfold figure figureMarkup
  rw [writeMarkup_element, writeMarkup_cons, himg, writeAttributes_imgAttributes,
    title_eq_writeMarkup, hopening, hclosing]
  cases mime with
  | none => simp only [List.append_assoc, Option.map_none, Option.getD_none]
  | some mime => simp only [List.append_assoc, Option.map_some, Option.getD_some]

lemma note_eq_writeMarkup (message classes : Text) :
    note message classes = writeMarkup (noteMarkup message classes) := by
  have hopening : ("<span" : Text) = "<" ++ "span" := by decide
  have hclosing : ("</span>" : Text) = "</" ++ ("span" ++ ">") := by decide
  have hrole : (" role=\"alert\">" : Text) = writeAttribute ⟨"role", some "alert"⟩ ++ ">" := by
    decide
  unfold note noteMarkup
  rw [writeMarkup_element, writeMarkup_textMarkup, valueAttribute_eq, hrole, hopening, hclosing,
    writeAttributes, List.flatMap_cons, List.flatMap_singleton]
  simp only [List.append_assoc]

/-- The markup of an image is written from its tags and texts. -/
lemma write_eq_writeMarkup (cx : ImageContext) (i : Image) (alt title : Text) :
    cx.write i alt title = writeMarkup (cx.markup i alt title) := by
  have hbody : cx.body i alt title = writeMarkup (cx.bodyMarkup i alt title) := by
    unfold body bodyMarkup
    cases i.source with
    | error fault => exact note_eq_writeMarkup _ _
    | ok source =>
      cases source with
      | media xref name file => exact cx.figure_eq_writeMarkup i _ _ _ _
      | publicFile file => exact cx.figure_eq_writeMarkup i _ _ _ _
  rw [write, markup, unknownMarkup, writeMarkup_append, hbody]
  split
  · rfl
  · rw [note_eq_writeMarkup]

/-! ## Its names are fixed -/

lemma areNamed_imgAttributes (i : Image) (url : Text) (mime : Option Text) (alt title : Text) :
    AreNamed (imgAttributes i url mime alt title) := by
  have hnames : ∀ name ∈ (["src", "width", "height", "class", "alt", "data-mime", "title"] :
      List Text), IsAttributeName name := by decide
  have hmem : (imgAttributes i url mime alt title).map Attribute.name ⊆
      ["src", "width", "height", "class", "alt", "data-mime", "title"] := by
    unfold imgAttributes
    cases mime with
    | none => split <;> simp
    | some mime => split <;> simp
  exact fun a ha => hnames a.name (hmem (List.mem_map_of_mem ha))

lemma isAttributeName_class : IsAttributeName "class" := by decide

lemma areNamed_class (classes : Text) : AreNamed [⟨"class", some classes⟩] :=
  List.forall_mem_singleton.2 isAttributeName_class

/-- Behind a figure any further markup can stand. -/
lemma areFormed_figureMarkup_append {url : Text} {mime : Option Text} {alt title : Text}
    {ms : List Markup} (hms : AreFormed ms) :
    AreFormed (cx.figureMarkup i url mime alt title ++ ms) := by
  have hcaption : AreFormed (cx.captionMarkup title) := by
    unfold captionMarkup
    split
    · exact areFormed_nil
    · rename_i htitle
      have htext : AreFormed [.text title] :=
        ⟨List.forall_mem_singleton.2 htitle, List.isChain_singleton _⟩
      simpa using areFormed_element_append (by decide) (areNamed_class _) htext areFormed_nil
  have himg : (Markup.opening "img" (imgAttributes i url mime alt title)).Formed :=
    ⟨by decide, areNamed_imgAttributes i url mime alt title⟩
  have hcontent := areFormed_nil.append_tag himg rfl hcaption
  exact areFormed_element_append (by decide) (areNamed_class _) hcontent hms

/-- And so it is behind a note. -/
lemma areFormed_noteMarkup_append {message classes : Text} {ms : List Markup}
    (hms : AreFormed ms) : AreFormed (noteMarkup message classes ++ ms) := by
  have hnamed : ∀ classes, AreNamed [⟨"class", some classes⟩, ⟨"role", some "alert"⟩] :=
    fun _ => List.forall_mem_cons.2
      ⟨isAttributeName_class, List.forall_mem_singleton.2 (by decide)⟩
  exact areFormed_element_append (by decide) (hnamed _) (areFormed_textMarkup _) hms

/-- The tags and texts of an image can be told apart. -/
lemma areFormed_markup (cx : ImageContext) (i : Image) (alt title : Text) :
    AreFormed (cx.markup i alt title) := by
  have hunknown : AreFormed (cx.unknownMarkup i.unknown) := by
    unfold unknownMarkup
    split
    · exact areFormed_nil
    · simpa using areFormed_noteMarkup_append areFormed_nil
  unfold markup bodyMarkup
  cases i.source with
  | error fault => exact areFormed_noteMarkup_append hunknown
  | ok source =>
    cases source with
    | media xref name file => exact areFormed_figureMarkup_append hunknown
    | publicFile file => exact areFormed_figureMarkup_append hunknown

/-- The elements of the markup of images. -/
def elementNames : List Text := ["figure", "img", "figcaption", "span"]

lemma elementName_figureMarkup {url : Text} {mime : Option Text} {alt title : Text} {m : Markup}
    (h : m ∈ cx.figureMarkup i url mime alt title) : m.elementName ∈ [] :: elementNames := by
  rcases elementName_of_mem_element h with hname | h
  · simp [hname, elementNames]
  · rcases List.mem_cons.1 h with rfl | h
    · simp [Markup.elementName, elementNames]
    · unfold captionMarkup at h
      split at h
      · simp at h
      · rcases elementName_of_mem_element h with hname | h
        · simp [hname, elementNames]
        · obtain rfl := List.mem_singleton.1 h
          simp [Markup.elementName]

lemma elementName_noteMarkup {message classes : Text} {m : Markup}
    (h : m ∈ noteMarkup message classes) : m.elementName ∈ [] :: elementNames := by
  rcases elementName_of_mem_element h with hname | h
  · simp [hname, elementNames]
  · unfold textMarkup at h
    split at h
    · simp at h
    · obtain rfl := List.mem_singleton.1 h
      simp [Markup.elementName]

/-- No other elements stand in the markup of an image, and so no anchors. -/
lemma elementName_markup {alt title : Text} {m : Markup} (h : m ∈ cx.markup i alt title) :
    m.elementName ∈ [] :: elementNames := by
  rcases List.mem_append.1 h with h | h
  · unfold bodyMarkup at h
    split at h
    · exact elementName_figureMarkup h
    · exact elementName_figureMarkup h
    · exact elementName_noteMarkup h
  · unfold unknownMarkup at h
    split at h
    · simp at h
    · exact elementName_noteMarkup h

/-! ## What is shown for an address -/

lemma resolve?_eq (cx : ImageContext) (src : Text) :
    cx.resolve? src = (splitAnnotation? src).bind fun p =>
      if (Fragment.read .image p.2).isEmpty then none
      else some (cx.image (Fragment.read .image p.2)) := rfl

lemma resolve?_eq_some {base raw : Text} (hbase : ¬ marker <:+: base)
    (hkeys : Fragment.keys raw ≠ []) :
    cx.resolve? (base ++ marker ++ raw) = some (cx.image (Fragment.read .image raw)) := by
  have hsplit : splitAnnotation? (base ++ marker ++ raw) = some (base, raw) :=
    LinkContext.splitAnnotation?_eq_some_iff.2 ⟨rfl, hbase⟩
  rw [resolve?_eq, hsplit, Option.bind_some, if_neg]
  exact mt (Fragment.isEmpty_read .image raw).1 hkeys

/-- Nothing is asked for without an annotation, or with one that states no key. -/
lemma resolve?_eq_none_iff {src : Text} :
    cx.resolve? src = none ↔
      ∀ base raw, src = base ++ marker ++ raw → ¬ marker <:+: base → Fragment.keys raw = [] := by
  constructor
  · rintro h base raw rfl hbase
    by_contra hkeys
    rw [resolve?_eq_some hbase hkeys] at h
    exact absurd h (by simp)
  · intro h
    cases hsplit : splitAnnotation? src with
    | none => rw [resolve?_eq, hsplit, Option.bind_none]
    | some p =>
      obtain ⟨hsrc, hbase⟩ := LinkContext.splitAnnotation?_eq_some_iff.1 hsplit
      rw [resolve?_eq, hsplit, Option.bind_some, if_pos]
      exact (Fragment.isEmpty_read .image p.2).2 (h p.1 p.2 hsrc hbase)

/-- The keys that are named in a note are those that mean nothing for images. -/
lemma unknown_image_ne_nil_iff {raw : Text} :
    (cx.image (Fragment.read .image raw)).unknown ≠ [] ↔
      ∃ key ∈ Fragment.keys raw, key ∉ Place.imageKeys := by
  have hne : (cx.image (Fragment.read .image raw)).unknown ≠ [] ↔
      ∃ key, key ∈ (Fragment.read .image raw).unknown := by
    constructor
    · exact List.exists_mem_of_ne_nil _
    · rintro ⟨_, hkey⟩
      exact List.ne_nil_of_mem hkey
  rw [hne]
  exact exists_congr fun _ => Fragment.mem_unknown_read_image

/-- What is shown for an image is not nothing. -/
lemma writeMarkup_markup_ne_nil (cx : ImageContext) (i : Image) (alt title : Text) :
    writeMarkup (cx.markup i alt title) ≠ [] := by
  have helement : ∀ name as content ms, writeMarkup (element name as content ++ ms) ≠ [] :=
    fun _ _ _ _ => List.cons_ne_nil _ _
  unfold markup bodyMarkup
  split
  · exact helement _ _ _ _
  · exact helement _ _ _ _
  · exact helement _ _ _ _

/-- Whatever is shown for an address is written from tags and texts that can be told apart and open
no anchor. -/
lemma exists_render_eq_writeMarkup (cx : ImageContext) (src alt : Text) (title : Option Text) :
    ∃ ms, cx.render src alt title = writeMarkup ms ∧ AreFormed ms ∧
      ∀ m ∈ ms, m.elementName ∈ [] :: elementNames := by
  cases himage : cx.resolve? src with
  | none => exact ⟨[], by simp [render, himage, writeMarkup_nil], areFormed_nil, by simp⟩
  | some i =>
    refine ⟨cx.markup i alt (title.getD []), ?_, areFormed_markup _ _ _ _,
      fun m hm => elementName_markup hm⟩
    rw [← write_eq_writeMarkup]
    simp [render, himage]

/-- The markup for an image.  There is some exactly if the address has an annotation that states a
key.  It says what was computed for the image, with one more note exactly if a key means nothing for
images; it consists of tags and texts in which no value adds a bracket or a quote; and it holds no
anchor that could be rewritten. -/
theorem readMarkup_render (cx : ImageContext) (src alt : Text) (title : Option Text) :
    (cx.render src alt title = [] ↔
      ∀ base raw, src = base ++ marker ++ raw → ¬ marker <:+: base →
        ∀ piece ∈ Text.splitAt '&' raw, Fragment.keyOf piece = []) ∧
    (∀ base raw, src = base ++ marker ++ raw → ¬ marker <:+: base → Fragment.keys raw ≠ [] →
      readMarkup (cx.render src alt title) =
          cx.markup (cx.image (Fragment.read .image raw)) alt (title.getD []) ∧
        ((cx.image (Fragment.read .image raw)).unknown ≠ [] ↔
          ∃ key ∈ Fragment.keys raw, key ∉ Place.imageKeys)) ∧
    (tokens (cx.render src alt title)).flatMap Token.raw = cx.render src alt title ∧
    (∀ k ∈ tokens (cx.render src alt title), k.IsTight) ∧
    ∀ lcx : LinkContext, lcx.expandHtml (cx.render src alt title) = cx.render src alt title := by
  obtain ⟨ms, hrender, hformed, helements⟩ := cx.exists_render_eq_writeMarkup src alt title
  refine ⟨?_, ?_, flatMap_raw_tokens _, ?_, fun lcx => ?_⟩
  · have hkeys : ∀ raw, Fragment.keys raw = [] ↔
        ∀ piece ∈ Text.splitAt '&' raw, Fragment.keyOf piece = [] := by
      intro raw
      simpa using not_congr (@Fragment.keys_ne_nil_iff raw)
    -- an image is never written as nothing, so the text is empty only where no image is asked for
    have hnone : cx.render src alt title = [] ↔ cx.resolve? src = none := by
      cases himage : cx.resolve? src with
      | none => simp [render, himage]
      | some i =>
        have hne := cx.writeMarkup_markup_ne_nil i alt (title.getD [])
        rw [← write_eq_writeMarkup] at hne
        simpa [render, himage] using hne
    simp only [hnone, resolve?_eq_none_iff, hkeys]
  · rintro base raw rfl hbase hkeys
    have himage := cx.resolve?_eq_some hbase hkeys
    refine ⟨?_, unknown_image_ne_nil_iff⟩
    have hwrite : cx.render (base ++ marker ++ raw) alt title =
        cx.write (cx.image (Fragment.read .image raw)) alt (title.getD []) := by
      rw [render, himage]
    rw [hwrite, write_eq_writeMarkup, readMarkup_writeMarkup (areFormed_markup _ _ _ _)]
  · rw [hrender]
    exact isTight_of_mem_tokens hformed
  · -- no element of the markup is an anchor, so the links have nothing to do
    have hother : ∀ name ∈ [] :: elementNames, Text.sameLetters name "a" = false := by decide
    rw [hrender]
    exact LinkContext.expandHtml_of_isPlain
      (isPlain_writeMarkup hformed.formed fun m hm => hother _ (helements m hm))

end ImageContext

end NoteLinks
