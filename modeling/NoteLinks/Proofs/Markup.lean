import Mathlib.Data.List.Chain
import NoteLinks.Proofs.Rewriting

/-!
# Tags and running text

The library writes markup into pages that others read.  This module reads markup as such a reader
does.  `tokens` cuts a text into its tags and the texts between them, and no part of the text is
lost (`flatMap_raw_tokens`); `readMarkup` says what each of them means, with the attributes of the
tags read and the references of the texts undone.

What is written from names, attributes and texts is read back as just these, if no two texts stand
side by side (`readMarkup_writeMarkup`).  Its tokens are *tight* (`isTight_token`): no value or text
adds an angle bracket or a quote of its own.  And if none of its elements is an anchor, no anchor is
found in it (`isPlain_writeMarkup`).
-/

namespace NoteLinks.Html

/-! ## Cutting a text into tokens -/

/-- A character that does not end the name of an element. -/
def isElementChar (c : Char) : Bool := !Text.isBlank c && c != '/' && c != '>'

/-- A tag or a text between tags, as it is written. -/
inductive Token where
  /-- The name of the element and the text behind it up to the end of the tag. -/
  | opening (name attributes : Text)
  /-- The text between `</` and `>`. -/
  | closing (name : Text)
  | text (t : Text)
deriving DecidableEq, Repr

namespace Token

def raw : Token → Text
  | opening name attributes => '<' :: (name ++ attributes ++ ['>'])
  | closing name => '<' :: '/' :: (name ++ ['>'])
  | text t => t

def isTag : Token → Bool
  | text _ => false
  | _ => true

end Token

/-- The tag at the start of a text and the text after it.  The name of an element begins with a
letter, and the tag goes up to the first `>` outside quotes. -/
def tag? : Text → Option (Token × Text)
  | '<' :: '/' :: c :: t =>
    if c.isAlpha then
      (Text.cutWhere? (· == '>') (c :: t)).map fun (name, rest) => (.closing name, rest)
    else none
  | '<' :: c :: t =>
    if c.isAlpha then
      (tagRest? none (t.dropWhile isElementChar)).map fun (attributes, rest) =>
        (.opening (c :: t.takeWhile isElementChar) attributes, rest)
    else none
  | _ => none

/-- The text of a tag that is found is what stands in front of the rest. -/
lemma append_of_tag? {t rest : Text} {k : Token} (h : tag? t = some (k, rest)) :
    k.isTag = true ∧ t = k.raw ++ rest := by
  unfold tag? at h
  split at h
  · split at h
    · simp only [Option.map_eq_some_iff, Prod.exists, Prod.mk.injEq] at h
      obtain ⟨name, rest, hcut, rfl, rfl⟩ := h
      obtain ⟨x, hx, -, heq⟩ := Text.cutWhere?_eq_some_iff.1 hcut
      obtain rfl : x = '>' := by simpa using hx
      exact ⟨rfl, by simp [Token.raw, heq]⟩
    · simp at h
  · rename_i c t _
    split at h
    · simp only [Option.map_eq_some_iff, Prod.exists, Prod.mk.injEq] at h
      obtain ⟨attributes, rest, htag, rfl, rfl⟩ := h
      obtain ⟨-, heq⟩ := append_of_tagRest? htag
      have ht : t = t.takeWhile isElementChar ++ (attributes ++ '>' :: rest) := by
        rw [← heq, List.takeWhile_append_dropWhile]
      refine ⟨rfl, ?_⟩
      simp only [Token.raw, List.cons_append, List.append_assoc, List.nil_append]
      rw [← ht]
    · simp at h
  · simp at h

lemma length_of_tag? {t rest : Text} {k : Token} (h : tag? t = some (k, rest)) :
    rest.length < t.length := by
  obtain ⟨hk, rfl⟩ := append_of_tag? h
  have hne : k.raw ≠ [] := by cases k <;> simp_all [Token.raw, Token.isTag]
  simpa using List.length_pos_iff.2 hne

/-- Tokens with a character in front, which begins a text or belongs to the text at the start. -/
def prependChar (c : Char) : List Token → List Token
  | .text t :: ts => .text (c :: t) :: ts
  | ts => .text [c] :: ts

/-- The tags of a text and the texts between them. -/
def tokens : Text → List Token
  | [] => []
  | c :: t =>
    match _h : tag? (c :: t) with
    | some (k, rest) => k :: tokens rest
    | none => prependChar c (tokens t)
termination_by t => t.length
decreasing_by
  · exact length_of_tag? ‹_›
  · simp

lemma tokens_nil : tokens [] = [] := by rw [tokens]

/-- A tag at the start of a text is its first token. -/
lemma tokens_tag {t rest : Text} {k : Token} (h : tag? t = some (k, rest)) :
    tokens t = k :: tokens rest := by
  cases t with
  | nil => simp [tag?] at h
  | cons c t =>
    rw [tokens]
    split
    · rename_i h'
      obtain ⟨rfl, rfl⟩ : _ = k ∧ _ = rest := by simpa [h] using h'.symm
      rfl
    · rename_i h'
      simp [h] at h'

lemma tokens_char {c : Char} {t : Text} (h : tag? (c :: t) = none) :
    tokens (c :: t) = prependChar c (tokens t) := by
  rw [tokens]
  split
  · rename_i h'
    simp [h] at h'
  · rfl

lemma flatMap_raw_prependChar (c : Char) (ts : List Token) :
    (prependChar c ts).flatMap Token.raw = c :: ts.flatMap Token.raw := by
  unfold prependChar
  split
  · simp [Token.raw]
  · simp [Token.raw]

/-- The tokens of a text hold all of it. -/
lemma flatMap_raw_tokens (t : Text) : (tokens t).flatMap Token.raw = t := by
  induction t using tokens.induct with
  | case1 => simp [tokens_nil]
  | case2 c t k rest h ih =>
    rw [tokens_tag h, List.flatMap_cons, ih]
    exact (append_of_tag? h).2.symm
  | case3 c t h ih => rw [tokens_char h, flatMap_raw_prependChar, ih]

lemma tag?_eq_none {c : Char} (hc : c ≠ '<') (t : Text) : tag? (c :: t) = none := by
  unfold tag?
  split <;> simp_all

/-- A text without `<` is one token, if there is no further text behind it. -/
lemma tokens_text {t rest : Text} (hne : t ≠ []) (ht : '<' ∉ t)
    (hrest : ∀ k ∈ (tokens rest).head?, k.isTag = true) :
    tokens (t ++ rest) = .text t :: tokens rest := by
  induction t with
  | nil => exact absurd rfl hne
  | cons c t ih =>
    obtain ⟨hc, ht⟩ := not_or.1 (mt List.mem_cons.2 ht)
    rw [List.cons_append, tokens_char (tag?_eq_none (Ne.symm hc) _)]
    cases t with
    | nil =>
      rw [List.nil_append]
      unfold prependChar
      split
      · rename_i heq
        simp [heq, Token.isTag] at hrest
      · rfl
    | cons d t => rw [ih (by simp) ht]; rfl

/-! ## Elements -/

lemma not_mem_of_isAttributeName {name : Text} (h : IsAttributeName name) :
    ∀ c ∈ ['"', '<', '>'], c ∉ name := by
  have hname : ∀ c ∈ ['"', '<', '>'], isNameChar c = false :=
    List.all_iff_forall_prop.1 (by decide)
  intro c hc hmem
  simpa [hname c hc] using h.2 c hmem

/-- A name that an element can be written with. -/
def IsElementName (name : Text) : Prop :=
  IsAttributeName name ∧ name.head?.all Char.isAlpha = true

instance (name : Text) : Decidable (IsElementName name) :=
  inferInstanceAs (Decidable (_ ∧ _))

namespace IsElementName

variable {name : Text}

/-- The name is a letter and further characters that do not end it. -/
lemma exists_cons (h : IsElementName name) :
    ∃ c n, name = c :: n ∧ c.isAlpha = true ∧ ∀ x ∈ n, isElementChar x = true := by
  obtain ⟨⟨hne, hchars⟩, hhead⟩ := h
  obtain ⟨c, n, rfl⟩ := List.exists_cons_of_ne_nil hne
  refine ⟨c, n, rfl, by simpa using hhead, fun x hx => ?_⟩
  have hx : isNameChar x = true := hchars x (List.mem_cons_of_mem c hx)
  have hblank : Text.isBlank x = false := isBlank_of_isNameChar hx
  have hslash : x ≠ '/' := by
    rintro rfl
    exact absurd hx (by decide)
  have hgt : x ≠ '>' := (isNameChar_plain hx).1
  simp [isElementChar, hblank, hslash, hgt]

/-- An element whose name begins with a letter can be closed. -/
lemma tag?_closing (h : IsElementName name) (rest : Text) :
    tag? ((Token.closing name).raw ++ rest) = some (.closing name, rest) := by
  have hcut : Text.cutWhere? (· == '>') (name ++ '>' :: rest) = some (name, rest) := by
    refine Text.cutWhere?_append (fun x hx => ?_) (by simp)
    simpa using fun heq : x = '>' => not_mem_of_isAttributeName h.1 '>' (by decide) (heq ▸ hx)
  have hraw : (Token.closing name).raw ++ rest = '<' :: '/' :: (name ++ '>' :: rest) := by
    simp [Token.raw]
  obtain ⟨c, n, rfl, hc, -⟩ := h.exists_cons
  rw [hraw]
  rw [List.cons_append] at hcut ⊢
  simp [tag?, hc, hcut]

/-- An element can be opened with any text of a tag that does not go on with its name. -/
lemma tag?_opening (h : IsElementName name) {attributes : Text} (ht : IsTagText attributes)
    (hhead : ∀ c ∈ attributes.head?, isElementChar c = false) (rest : Text) :
    tag? ((Token.opening name attributes).raw ++ rest) =
      some (.opening name attributes, rest) := by
  obtain ⟨c, n, rfl, hc, hn⟩ := h.exists_cons
  have hend : ∀ x ∈ (attributes ++ '>' :: rest).head?, isElementChar x = false := by
    cases attributes with
    | nil => simp [isElementChar]
    | cons d a => simpa using hhead
  have htag : tagRest? none (attributes ++ '>' :: rest) = some (attributes, rest) :=
    tagRest?_append ht rest
  have hslash : c ≠ '/' := by
    rintro rfl
    exact absurd hc (by decide)
  have hraw : (Token.opening (c :: n) attributes).raw ++ rest =
      '<' :: c :: (n ++ (attributes ++ '>' :: rest)) := by
    simp [Token.raw]
  rw [hraw]
  unfold tag?
  split
  · rename_i heq
    exact absurd (List.cons.inj (List.cons.inj heq).2).1 hslash
  · rename_i heq
    obtain ⟨rfl, rfl⟩ := List.cons.inj (List.cons.inj heq).2
    have htake := Text.takeWhile_append_of_forall hn hend
    have hdrop := Text.dropWhile_append_of_forall hn hend
    simp [hc, htake, hdrop, htag]
  · rename_i hno
    exact absurd rfl (hno _ _)

end IsElementName

/-! ## What tokens mean -/

/-- What a token means. -/
inductive Markup where
  | opening (name : Text) (attributes : List Attribute)
  | closing (name : Text)
  | text (t : Text)
deriving DecidableEq, Repr

/-- The attributes of a token that opens an element. -/
def Token.attributes : Token → List Attribute
  | .opening _ attributes => readAttributes attributes
  | _ => []

/-- The meaning of a token: its attributes are read, and the references of a text undone. -/
def Token.meaning : Token → Markup
  | .opening name attributes => .opening name (readAttributes attributes)
  | .closing name => .closing name
  | .text t => .text (unescape t)

def readMarkup (t : Text) : List Markup := (tokens t).map Token.meaning

namespace Markup

/-- The token by which a meaning is written. -/
def token : Markup → Token
  | opening name attributes => .opening name (writeAttributes attributes)
  | closing name => .closing name
  | text t => .text (escapeText t)

/-- The element that is opened or closed; a text belongs to none. -/
def elementName : Markup → Text
  | opening name _ => name
  | closing name => name
  | text _ => []

/-- Names are such that they can be read, and a text has a character. -/
def Formed : Markup → Prop
  | opening name attributes => IsElementName name ∧ AreNamed attributes
  | closing name => IsElementName name
  | text t => t ≠ []

end Markup

def writeMarkup (ms : List Markup) : Text := ms.flatMap fun m => m.token.raw

lemma writeMarkup_nil : writeMarkup [] = [] := rfl

lemma writeMarkup_cons (m : Markup) (ms : List Markup) :
    writeMarkup (m :: ms) = m.token.raw ++ writeMarkup ms := rfl

lemma writeMarkup_append (ms ns : List Markup) :
    writeMarkup (ms ++ ns) = writeMarkup ms ++ writeMarkup ns := List.flatMap_append

/-- Tags and texts that can be told apart once they are written. -/
structure AreFormed (ms : List Markup) : Prop where
  formed : ∀ m ∈ ms, m.Formed
  /-- No two texts stand side by side. -/
  apart : ms.IsChain fun m n => m.token.isTag = true ∨ n.token.isTag = true

lemma areFormed_nil : AreFormed [] := ⟨by simp, List.IsChain.nil⟩

/-- A tag can stand anywhere. -/
lemma AreFormed.append_tag {ms ns : List Markup} {m : Markup} (hms : AreFormed ms) (hm : m.Formed)
    (htag : m.token.isTag = true) (hns : AreFormed ns) : AreFormed (ms ++ m :: ns) where
  formed := List.forall_mem_append.2 ⟨hms.formed, List.forall_mem_cons.2 ⟨hm, hns.formed⟩⟩
  apart := by
    have hbehind : (m :: ns).IsChain fun m n => m.token.isTag = true ∨ n.token.isTag = true :=
      List.isChain_cons.2 ⟨fun _ _ => Or.inl htag, hns.apart⟩
    refine List.isChain_append.2 ⟨hms.apart, hbehind, fun _ _ n hn => Or.inr ?_⟩
    obtain rfl : m = n := by simpa using hn
    exact htag

/-! ## Elements with content -/

/-- An element from its opening to its closing tag. -/
def element (name : Text) (attributes : List Attribute) (content : List Markup) : List Markup :=
  .opening name attributes :: (content ++ [.closing name])

/-- A text that may be empty. -/
def textMarkup (t : Text) : List Markup := if t = [] then [] else [.text t]

lemma writeMarkup_element (name : Text) (attributes : List Attribute) (content : List Markup) :
    writeMarkup (element name attributes content) =
      "<" ++ name ++ writeAttributes attributes ++ ">" ++ writeMarkup content ++ "</" ++ name ++
        ">" := by
  simp [element, writeMarkup, Markup.token, Token.raw]

lemma writeMarkup_textMarkup (t : Text) : writeMarkup (textMarkup t) = escapeText t := by
  unfold textMarkup
  split
  · rename_i ht
    rw [ht]
    rfl
  · simp [writeMarkup, Markup.token, Token.raw]

lemma areFormed_textMarkup (t : Text) : AreFormed (textMarkup t) := by
  unfold textMarkup
  split
  · exact areFormed_nil
  · rename_i ht
    exact ⟨List.forall_mem_singleton.2 ht, List.isChain_singleton _⟩

/-- An element can stand in front of anything, as its content can be anything. -/
lemma areFormed_element_append {name : Text} {attributes : List Attribute}
    {content ms : List Markup} (hname : IsElementName name) (hattributes : AreNamed attributes)
    (hcontent : AreFormed content) (hms : AreFormed ms) :
    AreFormed (element name attributes content ++ ms) := by
  have hclosing : AreFormed (content ++ .closing name :: ms) := hcontent.append_tag hname rfl hms
  have hopening : (Markup.opening name attributes).Formed := ⟨hname, hattributes⟩
  simpa [element] using areFormed_nil.append_tag hopening rfl hclosing

/-- What stands in an element belongs to it or to its content. -/
lemma elementName_of_mem_element {name : Text} {attributes : List Attribute}
    {content : List Markup} {m : Markup} (h : m ∈ element name attributes content) :
    m.elementName = name ∨ m ∈ content := by
  simp only [element, List.mem_cons, List.mem_append, List.not_mem_nil, or_false] at h
  rcases h with rfl | h | rfl
  · exact Or.inl rfl
  · exact Or.inr h
  · exact Or.inl rfl

/-! ## Reading back what was written -/

lemma escapeTextChar_eq {c : Char} (hc : c ≠ '"') : escapeTextChar c = escapeValueChar c := by
  unfold escapeValueChar
  split
  · exact absurd rfl hc
  · rfl

/-- An escaped text holds no angle brackets. -/
lemma not_mem_escapeText {c : Char} (hc : c ∈ ['<', '>']) (t : Text) : c ∉ escapeText t := by
  intro hmem
  obtain ⟨x, -, hx⟩ := List.mem_flatMap.1 hmem
  by_cases hquote : x = '"'
  · subst hquote
    obtain rfl : c = '"' := by simpa [escapeTextChar] using hx
    exact absurd hc (by decide)
  · rw [escapeTextChar_eq hquote] at hx
    have hvalue : c ∉ escapeValue [x] := not_mem_escapeValue (List.mem_cons_of_mem _ hc) [x]
    exact hvalue (by simpa [escapeValue] using hx)

lemma unescape_escapeText (t : Text) : unescape (escapeText t) = t := by
  unfold escapeText
  induction t with
  | nil => simp [unescape]
  | cons c t ih => rw [List.flatMap_cons, unescape_escapeTextChar, ih]

lemma escapeText_ne_nil {t : Text} (h : t ≠ []) : escapeText t ≠ [] := by
  intro hnil
  have ht := unescape_escapeText t
  rw [hnil] at ht
  exact h (by simpa [unescape] using ht.symm)

/-- Written attributes are no part of the name in front of them. -/
lemma isElementChar_head_writeAttributes {as : List Attribute} (h : AreNamed as) :
    ∀ c ∈ (writeAttributes as).head?, isElementChar c = false := by
  intro c hc
  simp [isElementChar, isBlank_head_writeAttributes h c hc]

/-- The tokens of what is written are those that were written. -/
lemma tokens_writeMarkup {ms : List Markup} (h : AreFormed ms) :
    tokens (writeMarkup ms) = ms.map Markup.token := by
  induction ms with
  | nil => exact tokens_nil
  | cons m ms ih =>
    obtain ⟨hm, hms⟩ := List.forall_mem_cons.1 h.formed
    have htail := ih ⟨hms, h.apart.tail⟩
    rw [writeMarkup_cons, List.map_cons]
    cases m with
    | opening name as =>
      have htag : IsTagText (writeAttributes as) := isTagText_writeAttributes hm.2
      rw [Markup.token,
        tokens_tag (hm.1.tag?_opening htag (isElementChar_head_writeAttributes hm.2) _), htail]
    | closing name => rw [Markup.token, tokens_tag (hm.tag?_closing _), htail]
    | text t =>
      -- a tag follows the text, or nothing does, so the text is a token by itself
      have hrest : ∀ k ∈ (tokens (writeMarkup ms)).head?, k.isTag = true := by
        cases ms with
        | nil => simp [htail]
        | cons n ms =>
          have hn : n.token.isTag = true :=
            (List.isChain_cons_cons.1 h.apart).1.resolve_left (by simp [Markup.token, Token.isTag])
          simpa [htail] using hn
      rw [Markup.token, Token.raw,
        tokens_text (escapeText_ne_nil hm) (not_mem_escapeText (by simp) t) hrest, htail]

/-- A token means what it was written for. -/
lemma meaning_token {m : Markup} (h : m.Formed) : m.token.meaning = m := by
  cases m with
  | opening name as => rw [Markup.token, Token.meaning, readAttributes_writeAttributes h.2]
  | closing name => rfl
  | text t => rw [Markup.token, Token.meaning, unescape_escapeText]

/-- Tags and texts are read back as they were written. -/
lemma readMarkup_writeMarkup {ms : List Markup} (h : AreFormed ms) :
    readMarkup (writeMarkup ms) = ms := by
  rw [readMarkup, tokens_writeMarkup h, List.map_map]
  calc ms.map (Token.meaning ∘ Markup.token)
      = ms.map id := List.map_congr_left fun m hm => meaning_token (h.formed m hm)
    _ = ms := List.map_id ms

/-! ## Tight tokens -/

/-- The angle brackets of a tag are the only ones in it, a text has none, and the double quotes of a
tag are those around the values of its attributes. -/
structure Token.IsTight (k : Token) : Prop where
  count_lt : k.raw.count '<' = if k.isTag then 1 else 0
  count_gt : k.raw.count '>' = if k.isTag then 1 else 0
  count_quote : k.isTag = true →
    k.raw.count '"' = 2 * k.attributes.countP (·.value.isSome)

lemma count_of_forall {t : Text} (h : ∀ c ∈ ['"', '<', '>'], c ∉ t) :
    t.count '<' = 0 ∧ t.count '>' = 0 ∧ t.count '"' = 0 :=
  ⟨List.count_eq_zero.2 (h _ (by decide)), List.count_eq_zero.2 (h _ (by decide)),
    List.count_eq_zero.2 (h _ (by decide))⟩

/-- Written attributes hold no angle brackets, and two quotes for every value. -/
lemma count_writeAttributes {as : List Attribute} (h : AreNamed as) :
    (writeAttributes as).count '<' = 0 ∧ (writeAttributes as).count '>' = 0 ∧
      (writeAttributes as).count '"' = 2 * as.countP (·.value.isSome) := by
  induction as with
  | nil => simp [writeAttributes]
  | cons a as ih =>
    obtain ⟨ha, has⟩ := List.forall_mem_cons.1 h
    obtain ⟨hlt, hgt, hquote⟩ := ih has
    have hname := count_of_forall (not_mem_of_isAttributeName ha)
    have hcons : writeAttributes (a :: as) = writeAttribute a ++ writeAttributes as := rfl
    obtain ⟨name, value⟩ := a
    cases value with
    | none => simp [hcons, writeAttribute, hlt, hgt, hquote, hname]
    | some v =>
      have hvalue := count_of_forall fun c hc => not_mem_escapeValue hc v
      rw [hcons, writeAttribute_value]
      simp [hlt, hgt, hquote, hname, hvalue]
      omega

/-- What is written keeps its markers apart from those of values and texts. -/
lemma isTight_token {m : Markup} (h : m.Formed) : m.token.IsTight := by
  cases m with
  | opening name as =>
    obtain ⟨hname, has⟩ := h
    obtain ⟨hlt, hgt, hquote⟩ := count_writeAttributes has
    have hzero := count_of_forall (not_mem_of_isAttributeName hname.1)
    constructor
    · simp [Markup.token, Token.raw, Token.isTag, hlt, hzero]
    · simp [Markup.token, Token.raw, Token.isTag, hgt, hzero]
    · simp [Markup.token, Token.raw, Token.attributes, readAttributes_writeAttributes has, hquote,
        hzero]
  | closing name =>
    have hzero := count_of_forall (not_mem_of_isAttributeName h.1)
    constructor
    · simp [Markup.token, Token.raw, Token.isTag, hzero]
    · simp [Markup.token, Token.raw, Token.isTag, hzero]
    · simp [Markup.token, Token.raw, Token.attributes, hzero]
  | text t =>
    have hzero : ∀ c ∈ ['<', '>'], (escapeText t).count c = 0 :=
      fun c hc => List.count_eq_zero.2 (not_mem_escapeText hc t)
    constructor
    · exact hzero '<' (by simp)
    · exact hzero '>' (by simp)
    · simp [Markup.token, Token.isTag]

lemma isTight_of_mem_tokens {ms : List Markup} (h : AreFormed ms) :
    ∀ k ∈ tokens (writeMarkup ms), k.IsTight := by
  rw [tokens_writeMarkup h]
  exact List.forall_mem_map.2 fun m hm => isTight_token (h.formed m hm)

/-! ## Anchors in what is written -/

/-- A tag opens no anchor if it opens another element. -/
lemma not_opensAnchor_opening {name : Text} (h : IsElementName name)
    (hother : Text.sameLetters name "a" = false) (attributes t : Text) :
    ¬ OpensAnchor ((Token.opening name attributes).raw ++ t) := by
  rintro ⟨c, d, u, hc, hd, heq⟩
  obtain ⟨x, n, rfl, hx, hn⟩ := h.exists_cons
  obtain ⟨rfl, hrest⟩ : x = c ∧ n ++ (attributes ++ '>' :: t) = d :: u := by
    simpa [Token.raw] using heq
  cases n with
  | nil =>
    -- the name is a single letter, other than `a`
    simp only [isAnchorLetter, Bool.or_eq_true, beq_iff_eq] at hc
    rcases hc with rfl | rfl
    · exact absurd hother (by decide)
    · exact absurd hother (by decide)
  | cons y n =>
    obtain rfl : y = d := (List.cons.inj hrest).1
    have hy : isElementChar y = true := hn y List.mem_cons_self
    rcases hd with hd | rfl
    · simp [isElementChar, hd] at hy
    · exact absurd hy (by decide)

/-- So it is with the tags that are written. -/
lemma not_opensAnchor_raw {m : Markup} (h : m.Formed) (htag : m.token.isTag = true)
    (hother : Text.sameLetters m.elementName "a" = false) (t : Text) :
    ¬ OpensAnchor (m.token.raw ++ t) := by
  cases m with
  | opening name as => exact not_opensAnchor_opening h.1 hother _ t
  | closing name =>
    rintro ⟨c, d, u, hc, -, heq⟩
    obtain ⟨rfl, -⟩ : '/' = c ∧ name ++ '>' :: t = d :: u := by
      simpa [Markup.token, Token.raw] using heq
    exact absurd hc (by decide)
  | text t => simp [Markup.token, Token.isTag] at htag

/-- Where no anchor is written, none is opened. -/
lemma isPlain_writeMarkup {ms : List Markup} (h : ∀ m ∈ ms, m.Formed)
    (hother : ∀ m ∈ ms, Text.sameLetters m.elementName "a" = false) : IsPlain (writeMarkup ms) := by
  induction ms with
  | nil => exact isPlain_of_not_mem (by simp [writeMarkup])
  | cons m ms ih =>
    obtain ⟨hm, hms⟩ := List.forall_mem_cons.1 h
    obtain ⟨helement, hothers⟩ := List.forall_mem_cons.1 hother
    have hrest : IsPlain (writeMarkup ms) := ih hms hothers
    have hcount := (isTight_token hm).count_lt
    rw [writeMarkup_cons]
    by_cases htag : m.token.isTag = true
    · have hopen := not_opensAnchor_raw hm htag helement (writeMarkup ms)
      obtain ⟨r, hr⟩ : ∃ r, m.token.raw = '<' :: r := by
        cases m <;> simp_all [Markup.token, Token.raw, Token.isTag]
      rw [hr] at hopen hcount ⊢
      have htail : '<' ∉ r := by
        rw [← List.count_eq_zero]
        simpa [htag] using hcount
      exact isPlain_cons hopen (isPlain_append htail hrest)
    · have htext : '<' ∉ m.token.raw := by
        rw [← List.count_eq_zero]
        simpa [htag] using hcount
      exact isPlain_append htext hrest

end NoteLinks.Html
