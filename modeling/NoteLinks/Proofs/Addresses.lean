import NoteLinks.Markdown.Writer
import NoteLinks.Proofs.Percent
import NoteLinks.Proofs.Rewriting

/-!
# Annotated addresses in written Markdown

The address of a link is written byte by byte: a byte is a safe character that stands for itself, a
character that is written as a reference, or an escape.  The references are undone when the
attribute is read, and what is left is the address with some of its bytes escaped
(`unescape_writeAddress`, `respell`).

If the letters, the digits and the marks of annotations are safe (`KeepsAnnotations`), such an
address is annotated where the address was (`splitAnnotation?_respell`) and its annotation states
the same pairs (`pairs_respell`): neither the marks nor what escapes are made of is escaped, so each
component is read as before (`decodeComponent_respell`).  So a written address stands for the same
links, and so does the anchor of a link in a document (`expansionOf?_linkAnchor`,
`expand_unescape_writeAddress`).
-/

namespace NoteLinks

namespace Markdown

open Utf8 (Bytes)

variable {safe : Char → Bool} {c : Char} {b : UInt8}

/-! ### Kept characters -/

/-- The characters that annotations consist of, besides `&`, stand for themselves. -/
def KeepsAnnotations (safe : Char → Bool) : Prop :=
  ∀ c : Char, c.isAlphanum = true ∨ c ∈ ("#@=%+/:.-_" : Text) → safe c = true

/-- A character that is no escape when the references of a written address are undone. -/
def isKept (safe : Char → Bool) (c : Char) : Bool :=
  c == '&' || c == '\'' || (decide (c.toNat < 0x80) && safe c)

/-- A character of a written address when the references are undone. -/
def respellChar (safe : Char → Bool) (c : Char) : Text :=
  if isKept safe c then [c] else (Utf8.encodeChar c).flatMap Percent.escape

/-- An address with the bytes of the characters escaped that are not kept. -/
def respell (safe : Char → Bool) (t : Text) : Text := t.flatMap (respellChar safe)

lemma lt_of_isKept (h : isKept safe c = true) : c.toNat < 0x80 := by
  simp only [isKept, Bool.or_eq_true, beq_iff_eq, Bool.and_eq_true, decide_eq_true_eq] at h
  rcases h with (rfl | rfl) | h
  · decide
  · decide
  · exact h.1

/-- A letter or digit lies in ASCII. -/
lemma lt_of_isAlphanum (h : c.isAlphanum = true) : c.toNat < 0x80 := by
  have hletter : (c.isUpper || c.isLower || c.isDigit) = true := h
  rw [Bool.or_eq_true, Bool.or_eq_true] at hletter
  have hz : c.val ≤ 'z'.val := by
    rcases hletter with (hupper | hlower) | hdigit
    · exact UInt32.le_trans (of_decide_eq_true hupper).2 (by decide)
    · exact of_decide_eq_true (Bool.and_eq_true_iff.1 hlower).2
    · exact UInt32.le_trans (of_decide_eq_true (Bool.and_eq_true_iff.1 hdigit).2) (by decide)
  exact Nat.lt_of_le_of_lt (UInt32.le_iff_toNat_le.1 hz) (by decide)

/-- The letters, the digits and the marks of annotations are kept. -/
lemma KeepsAnnotations.isKept (h : KeepsAnnotations safe)
    (hc : c.isAlphanum = true ∨ c ∈ ['&', '#', '@', '=', '%', '+']) : isKept safe c = true := by
  have hsafe : c.toNat < 0x80 → safe c = true → Markdown.isKept safe c = true := by
    intro hlt hc
    simp [Markdown.isKept, hlt, hc]
  rcases hc with halpha | hmark
  · exact hsafe (lt_of_isAlphanum halpha) (h c (Or.inl halpha))
  · simp only [List.mem_cons, List.not_mem_nil, or_false] at hmark
    rcases hmark with rfl | rfl | rfl | rfl | rfl | rfl
    · rfl
    all_goals exact hsafe (by decide) (h _ (Or.inr (by decide)))

/-! ### Escapes -/

lemma toNat_charOfByte (b : UInt8) : (Char.ofNat b.toNat).toNat = b.toNat := by
  have hlt : b.toNat < 256 := b.toNat_lt
  have hvalid : b.toNat.isValidChar := Or.inl (by omega)
  rw [Char.ofNat, dif_pos hvalid]
  rfl

/-- An escape consists of `%` and digits. -/
lemma mem_escape {x : Char} (h : x ∈ Percent.escape b) : x = '%' ∨ x.isAlphanum = true := by
  have hdigit : ∀ n < 16, (Percent.hexDigit n).isAlphanum = true := by decide
  obtain ⟨hhigh, hlow, -⟩ := Percent.toNat_digits b
  simp only [Percent.escape, List.mem_cons, List.not_mem_nil, or_false] at h
  rcases h with rfl | rfl | rfl
  · exact Or.inl rfl
  · exact Or.inr (hdigit _ hhigh)
  · exact Or.inr (hdigit _ hlow)

lemma not_mem_escapes {x : Char} (hx : ¬ (x = '%' ∨ x.isAlphanum = true)) (bs : Bytes) :
    x ∉ bs.flatMap Percent.escape := by
  intro h
  obtain ⟨b, -, hb⟩ := List.mem_flatMap.1 h
  exact hx (mem_escape hb)

/-- A character that is not kept is written in escapes. -/
lemma writeAddressByte_eq_escape (hc : isKept safe c = false) (hb : b ∈ Utf8.encodeChar c) :
    writeAddressByte safe b = Percent.escape b := by
  have hplain : isKept safe (Char.ofNat b.toNat) = false := by
    by_cases hlt : c.toNat < 0x80
    · rw [Percent.encodeChar_of_lt hlt, List.mem_singleton] at hb
      rwa [hb, Utf8.toNat_ofNat (by omega), Char.ofNat_toNat]
    · have hlarge := Utf8.le_of_mem_encodeChar (Nat.not_lt.1 hlt) hb
      rw [← Bool.not_eq_true]
      intro hkept
      have hsmall := lt_of_isKept hkept
      rw [toNat_charOfByte] at hsmall
      omega
  simp only [isKept, toNat_charOfByte, Bool.or_eq_false_iff, beq_eq_false_iff_ne] at hplain
  have hsafe : ¬ (decide (b < 0x80) && safe (Char.ofNat b.toNat)) = true := by
    rw [Bool.not_eq_true]
    exact hplain.2
  rw [writeAddressByte, if_neg hplain.1.1, if_neg hplain.1.2, if_neg hsafe]

/-! ### Undoing the references -/

/-- The reference of a kept character is undone. -/
lemma unescape_writeAddressByte (hc : isKept safe c = true) (rest : Text) :
    Html.unescape (writeAddressByte safe (UInt8.ofNat c.toNat) ++ rest) =
      c :: Html.unescape rest := by
  have hlt := lt_of_isKept hc
  have hchar : Char.ofNat (UInt8.ofNat c.toNat).toNat = c := by
    rw [Utf8.toNat_ofNat (by omega), Char.ofNat_toNat]
  by_cases hamp : c = '&'
  · rw [writeAddressByte, hchar, if_pos hamp, hamp]
    exact Html.unescape_named "amp" (by decide) (by decide) rest
  · by_cases hquote : c = '\''
    · rw [writeAddressByte, hchar, if_neg hamp, if_pos hquote, hquote]
      exact Html.unescape_named "#x27" (by decide) (by decide) rest
    · have hascii : UInt8.ofNat c.toNat < 0x80 := by
        rw [UInt8.lt_iff_toNat_lt, Utf8.toNat_ofNat (by omega)]
        exact hlt
      have hsafe : (decide (UInt8.ofNat c.toNat < 0x80) && safe c) = true := by
        simpa [isKept, hamp, hquote, hlt, hascii] using hc
      rw [writeAddressByte, hchar, if_neg hamp, if_neg hquote, if_pos hsafe]
      exact Html.unescape_cons hamp rest

lemma unescape_append {t : Text} (ht : '&' ∉ t) (rest : Text) :
    Html.unescape (t ++ rest) = t ++ Html.unescape rest := by
  induction t with
  | nil => rfl
  | cons c t ih =>
    rw [List.mem_cons, not_or] at ht
    rw [List.cons_append, Html.unescape_cons (Ne.symm ht.1), ih ht.2, List.cons_append]

/-- The references of a written address are undone. -/
lemma unescape_writeAddress (safe : Char → Bool) (t : Text) :
    Html.unescape (writeAddress safe t) = respell safe t := by
  rw [writeAddress, Utf8.encode, List.flatMap_assoc, respell]
  induction t with
  | nil => simp [Html.unescape]
  | cons c t ih =>
    rw [List.flatMap_cons, List.flatMap_cons, ← ih, respellChar]
    by_cases hc : isKept safe c = true
    · rw [if_pos hc, Percent.encodeChar_of_lt (lt_of_isKept hc), List.flatMap_singleton]
      exact unescape_writeAddressByte hc _
    · have hescapes : (Utf8.encodeChar c).flatMap (writeAddressByte safe) =
          (Utf8.encodeChar c).flatMap Percent.escape :=
        List.flatMap_congr fun b hb => writeAddressByte_eq_escape (Bool.eq_false_iff.2 hc) hb
      rw [if_neg hc, hescapes]
      exact unescape_append (not_mem_escapes (by decide) _) _

/-! ### Cutting respelled addresses -/

/-- Respelling keeps a class of marks: they are kept, and none of them occurs in an escape. -/
lemma KeepsAnnotations.keepsClass (h : KeepsAnnotations safe) {p : Char → Bool}
    (hp : ∀ c, p c = true → c ∈ ['&', '#', '@', '=']) :
    Text.KeepsClass p (respellChar safe) where
  eq_self {c} hc := by
    have hmark := hp c hc
    refine if_pos (h.isKept (Or.inr ?_))
    simp only [List.mem_cons, List.not_mem_nil, or_false] at hmark ⊢
    rcases hmark with rfl | rfl | rfl | rfl <;> simp
  ne_nil c := by
    rw [respellChar]
    split
    · exact List.cons_ne_nil _ _
    · obtain ⟨b, bs, hbytes⟩ := List.exists_cons_of_ne_nil (Utf8.encodeChar_ne_nil c)
      rw [hbytes, List.flatMap_cons]
      exact List.append_ne_nil_of_left_ne_nil (List.cons_ne_nil _ _) _
  eq_false {c} hc x hx := by
    rw [respellChar] at hx
    split at hx
    · rw [List.mem_singleton.1 hx]
      exact hc
    · rw [← Bool.not_eq_true]
      intro hpx
      have hmark := hp x hpx
      simp only [List.mem_cons, List.not_mem_nil, or_false] at hmark
      -- an escape holds the percent sign and digits, so none of the marks
      rcases hmark with rfl | rfl | rfl | rfl <;> exact not_mem_escapes (by decide) _ hx

/-- A respelled address is annotated where the address is. -/
lemma splitAnnotation?_respell (h : KeepsAnnotations safe) (t : Text) :
    splitAnnotation? (respell safe t) =
      (splitAnnotation? t).map fun (base, raw) => (respell safe base, respell safe raw) := by
  have hclass : Text.KeepsClass (fun c => decide (c ∈ marker)) (respellChar safe) :=
    h.keepsClass (by simp [marker])
  exact Text.cut?_flatMap hclass (by decide) (by simp) t

/-! ### Components of respelled annotations -/

/-- Bytes that are no part of an escape may be escaped. -/
lemma respelled_escape {bs : Bytes} (h : ∀ b ∈ bs, b ≠ 0x25 ∧ Percent.hexValue? b = none) :
    Percent.Respelled bs (Utf8.encode (bs.flatMap Percent.escape)) := by
  induction bs with
  | nil => exact .nil
  | cons b bs ih =>
    obtain ⟨⟨hpercent, hdigit⟩, hbs⟩ := List.forall_mem_cons.1 h
    rw [List.flatMap_cons, Utf8.encode_append]
    exact .escaped hpercent hdigit (ih hbs)

/-- The bytes of a character that is not kept are no part of an escape. -/
lemma KeepsAnnotations.no_part_of_escape (h : KeepsAnnotations safe)
    (hc : Markdown.isKept safe c = false) (hb : b ∈ Utf8.encodeChar c) :
    b ≠ 0x25 ∧ Percent.hexValue? b = none := by
  -- in ASCII the percent sign and the digits are kept; the bytes of other characters are no ASCII
  by_cases hlt : c.toNat < 0x80
  · have hdigit : ∀ n < 0x80, Percent.hexValue? (UInt8.ofNat n) ≠ none →
        (Char.ofNat n).isAlphanum = true := by decide
    have hother : ¬ (c.isAlphanum = true ∨ c ∈ ['&', '#', '@', '=', '%', '+']) := by
      intro hkept
      exact absurd ((h.isKept hkept).symm.trans hc) (by decide)
    rw [not_or] at hother
    rw [Percent.encodeChar_of_lt hlt, List.mem_singleton] at hb
    subst hb
    constructor
    · intro hpercent
      have hnat := congrArg UInt8.toNat hpercent
      rw [Utf8.toNat_ofNat (by omega)] at hnat
      have hchar : c = '%' := by rw [← Char.ofNat_toNat c, hnat]; rfl
      exact hother.2 (by simp [hchar])
    · by_contra hvalue
      have halnum := hdigit _ hlt hvalue
      rw [Char.ofNat_toNat] at halnum
      exact hother.1 halnum
  · have hlarge := Utf8.le_of_mem_encodeChar (Nat.not_lt.1 hlt) hb
    constructor
    · rintro rfl
      exact absurd hlarge (by decide)
    · simp only [Percent.hexValue?]
      rw [if_neg (by omega), if_neg (by omega), if_neg (by omega)]

/-- The bytes of a respelled component are those of the component, some of them escaped. -/
lemma KeepsAnnotations.respelled (h : KeepsAnnotations safe) (t : Text) :
    Percent.Respelled (Utf8.encode (Percent.plusToSpace t))
      (Utf8.encode (Percent.plusToSpace (respell safe t))) := by
  have hencode : ∀ a b : Text, Utf8.encode (Percent.plusToSpace (a ++ b)) =
      Utf8.encode (Percent.plusToSpace a) ++ Utf8.encode (Percent.plusToSpace b) := by
    intro a b
    rw [Percent.plusToSpace, List.map_append, Utf8.encode_append]
    rfl
  -- by induction on the text: each character is kept or escaped by itself
  induction t with
  | nil => exact .nil
  | cons c t ih =>
    have hhead : Percent.Respelled (Utf8.encode (Percent.plusToSpace [c]))
        (Utf8.encode (Percent.plusToSpace (respellChar safe c))) := by
      rw [respellChar]
      split
      · exact .refl _
      · rename_i hc
        have hplus : '+' ∉ [c] := by
          intro hmem
          refine hc (h.isKept (Or.inr ?_))
          simp [← List.mem_singleton.1 hmem]
        rw [Percent.plusToSpace_eq_self hplus,
          Percent.plusToSpace_eq_self (not_mem_escapes (by decide) _), Utf8.encode,
          List.flatMap_singleton]
        exact respelled_escape fun b hb => h.no_part_of_escape (Bool.eq_false_iff.2 hc) hb
    rw [← List.singleton_append, hencode, List.singleton_append, respell, List.flatMap_cons,
      hencode]
    exact hhead.append ih

lemma decodeComponent_respell (h : KeepsAnnotations safe) (t : Text) :
    Percent.decodeComponent (respell safe t) = Percent.decodeComponent t := by
  rw [Percent.decodeComponent, Percent.decode, Percent.decodeBytes_respelled (h.respelled t)]
  rfl

/-! ### Respelled annotations -/

/-- A piece of a respelled annotation states the same pair. -/
lemma pair?_respell (h : KeepsAnnotations safe) (t : Text) :
    Fragment.pair? (respell safe t) = Fragment.pair? t := by
  have hcut := Text.cutWhere?_flatMap (h.keepsClass (p := (· == '=')) (by simp)) t
  rw [Fragment.pair?, Fragment.pair?, respell, hcut]
  cases Text.cutWhere? (· == '=') t with
  | none =>
    have hkey := decodeComponent_respell h t
    rw [respell] at hkey
    simp [hkey]
  | some kv =>
    have hkey := decodeComponent_respell h kv.1
    have hvalue := decodeComponent_respell h kv.2
    rw [respell] at hkey hvalue
    simp [hkey, hvalue]

lemma pairs_respell (h : KeepsAnnotations safe) (t : Text) :
    Fragment.pairs (respell safe t) = Fragment.pairs t := by
  have hsplit := Text.splitWhere_flatMap (h.keepsClass (p := (· == '&')) (by simp)) t
  rw [Fragment.pairs, Text.splitAt, respell, hsplit, List.filterMap_map]
  exact List.filterMap_congr fun piece _ => pair?_respell h piece

/-- An address stands for the same links if it is respelled; only its base is respelled with it. -/
lemma expand?_respell (h : KeepsAnnotations safe) (cx : LinkContext) (t : Text) :
    cx.expand? (respell safe t) =
      (cx.expand? t).map fun e => { e with base := respell safe e.base } := by
  simp only [LinkContext.expand?, splitAnnotation?_respell h]
  cases splitAnnotation? t with
  | none => rfl
  | some parts =>
    obtain ⟨base, raw⟩ := parts
    have hread : Fragment.read .link (respell safe raw) = Fragment.read .link raw := by
      rw [Fragment.read, pairs_respell h, Fragment.read]
    simp only [Option.map_some, Option.bind_eq_bind, Option.bind_some, hread]
    split
    · rfl
    · rfl

/-! ### Written addresses -/

/-- The characters that annotations consist of are safe. -/
lemma keepsAnnotations_isSafe : KeepsAnnotations isSafe := by
  intro c hc
  rw [isSafe, Bool.or_eq_true]
  refine hc.imp id fun hmark => ?_
  have hsub : ("#@=%+/:.-_" : Text) ⊆ ['!', '#', '$', '%', '(', ')', '*', '+', ',', '-', '.', '/',
      ':', ';', '=', '?', '@', '^', '_', '~'] := by decide
  exact List.contains_iff_mem.2 (hsub hmark)

/-! ### Links in a document -/
section Documents

open Html

/-- A written address has no double quote. -/
lemma quote_not_mem_writeHref (t : Text) : '"' ∉ writeHref t := by
  intro hmem
  obtain ⟨b, -, hb⟩ := List.mem_flatMap.1 hmem
  rw [writeAddressByte] at hb
  split at hb
  · exact absurd hb (by decide)
  split at hb
  · exact absurd hb (by decide)
  split at hb
  · rename_i hsafe
    rw [Bool.and_eq_true, ← List.mem_singleton.1 hb] at hsafe
    exact absurd hsafe.2 (by decide)
  · rcases mem_escape hb with hquote | hquote <;> exact absurd hquote (by decide)

lemma quote_not_mem_escapeAttribute (t : Text) : '"' ∉ escapeAttribute t := by
  intro hmem
  obtain ⟨c, -, hc⟩ := List.mem_flatMap.1 hmem
  rw [escapeAttributeChar.eq_def] at hc
  split at hc
  · exact absurd hc (by decide)
  · exact not_mem_escapeValue (c := '"') (by decide) [c] (by simpa [escapeValue] using hc)

lemma linkNames_plain : ∀ name ∈ (["href", "title"] : List Text), name ≠ [] ∧
    ∀ c ∈ name, Text.isBlank c = false ∧ c ∉ ['"', '\'', '<', '>', '/', '='] := by
  intro name hname
  simp only [List.mem_cons, List.not_mem_nil, or_false] at hname
  rcases hname with rfl | rfl
  · exact ⟨by decide, List.all_iff_forall_prop.1 (by decide)⟩
  · exact ⟨by decide, List.all_iff_forall_prop.1 (by decide)⟩

/-- An attribute of a link between double quotes. -/
def linkAttribute {name value : Text} (hname : name ∈ (["href", "title"] : List Text))
    (hvalue : '"' ∉ value) : QuotedAttribute where
  name := name
  quote := '"'
  value := value
  name_ne_nil := (linkNames_plain name hname).1
  name_plain := (linkNames_plain name hname).2
  isQuote := isQuote_double
  quote_not_mem := hvalue

/-- The attributes of the anchor that is written for a link. -/
def linkAttributes (destination title : Text) : List QuotedAttribute :=
  linkAttribute List.mem_cons_self (quote_not_mem_writeHref destination) ::
    if title = [] then []
    else [linkAttribute (List.mem_cons_of_mem _ List.mem_cons_self)
      (quote_not_mem_escapeAttribute title)]

/-- The anchor that is written for a link around a text. -/
def linkAnchor (destination title : Text) {content : Text} (h : IsOpenContent content) :
    QuotedAnchor where
  attributes := linkAttributes destination title
  content := content
  isOpenContent := h

/-- It is what the writer puts around the text. -/
lemma raw_linkAnchor (s : WriterState) (destination title : Text) {content : Text}
    (h : IsOpenContent content) : (linkAnchor destination title h).raw =
      (writeStart s (.link destination title)).1 ++ content ++ (writeStop s .link).1 := by
  have hstart : (writeStart s (.link destination title)).1 =
      "<a href=\"" ++ writeHref destination ++ titleAttribute title ++ "\">" := rfl
  have hstop : (writeStop s .link).1 = "</a>" := rfl
  rw [hstart, hstop, QuotedAnchor.raw, linkAnchor, linkAttributes, titleAttribute]
  split
  · simp [QuotedAttribute.raw, linkAttribute]
  · simp [QuotedAttribute.raw, linkAttribute]

/-- The anchor that is written for a link stands for the links of its destination. -/
lemma expansionOf?_linkAnchor (cx : LinkContext) (destination title : Text) {content : Text}
    (h : IsOpenContent content) :
    cx.expansionOf? (linkAnchor destination title h).anchor =
      (cx.expand? destination).map fun e => { e with base := Html.unescape (writeHref e.base) } := by
  have hvalue : attribute? "href" (linkAnchor destination title h).decoded =
      some (Html.unescape (writeHref destination)) := rfl
  rw [LinkContext.expansionOf?, QuotedAnchor.readAttributes_anchor, hvalue, Option.bind_some]
  simp only [writeHref, unescape_writeAddress, expand?_respell keepsAnnotations_isSafe]

end Documents

/-! ### The same links -/

/-- A written address is annotated exactly if the address is, and it stands for the same links: as
many of them come from recognized keys, and the same one takes the place of the annotated link.
What stands before the annotation is written like any address.  The writer puts such an address in
the anchor of a link, and this anchor stands for the links of the destination. -/
theorem expand_unescape_writeAddress (h : KeepsAnnotations safe) (cx : LinkContext) (t : Text) :
    (cx.expand? (Html.unescape (writeAddress safe t)) = none ↔ cx.expand? t = none) ∧
    (cx.expand? (Html.unescape (writeAddress safe t))).map Expansion.links =
      (cx.expand? t).map Expansion.links ∧
    (cx.expand? (Html.unescape (writeAddress safe t))).map Expansion.recognized =
      (cx.expand? t).map Expansion.recognized ∧
    (cx.expand? (Html.unescape (writeAddress safe t))).map Expansion.replacement =
      (cx.expand? t).map Expansion.replacement ∧
    (cx.expand? (Html.unescape (writeAddress safe t))).map Expansion.base =
      (cx.expand? t).map (fun e => Html.unescape (writeAddress safe e.base)) ∧
    ∀ (s : WriterState) (title : Text) {content : Text} (hcontent : Html.IsOpenContent content),
      (linkAnchor t title hcontent).raw =
        (writeStart s (.link t title)).1 ++ content ++ (writeStop s .link).1 ∧
      cx.expansionOf? (linkAnchor t title hcontent).anchor =
        (cx.expand? t).map fun e => { e with base := Html.unescape (writeHref e.base) } := by
  have hanchor := fun (s : WriterState) (title : Text) {content : Text}
      (hcontent : Html.IsOpenContent content) =>
    And.intro (raw_linkAnchor s t title hcontent) (expansionOf?_linkAnchor cx t title hcontent)
  simp only [unescape_writeAddress, expand?_respell h]
  cases hexpand : cx.expand? t with
  | none => exact ⟨Iff.rfl, rfl, rfl, rfl, rfl, hexpand ▸ hanchor⟩
  | some e => exact ⟨by simp, rfl, rfl, rfl, rfl, hexpand ▸ hanchor⟩

/-- An address with a space, quotes and letters outside ASCII, and with `%` without two digits. -/
def strayAddress : Text := "ü.html#@gov=K \"ö%zz%2&it's=%e+c%"

/-- The address is written with other bytes, and stands for the same links. -/
theorem expand_unescape_strayAddress :
    KeepsAnnotations isSafe ∧
    Html.unescape (writeAddress isSafe strayAddress) =
      ("%C3%BC.html#@gov=K%20%22%C3%B6%zz%2&it's=%e+c%" : Text) ∧
    (LinkContext.demoPage.expand? strayAddress).map Expansion.recognized = some 1 ∧
    (LinkContext.demoPage.expand? (Html.unescape (writeAddress isSafe strayAddress))).map
      Expansion.links = (LinkContext.demoPage.expand? strayAddress).map Expansion.links :=
  ⟨keepsAnnotations_isSafe, by decide +kernel, by decide +kernel,
    (expand_unescape_writeAddress keepsAnnotations_isSafe .demoPage strayAddress).2.1⟩

end Markdown

end NoteLinks
