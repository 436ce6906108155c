import NoteLinks.Html.Attribute
import NoteLinks.Proofs.Cutting

/-!
# Reading attributes

Escaping is undone by reading references, whatever text follows (`unescape_escapeValue`), and an
escaped value holds no character that could end it.

The attributes of a tag are read from left to right: what belongs to no name is passed over
(`readAttributes_skip`), and a name is read as far as it goes, with the value behind it
(`readAttributes_name`).  Names are nonempty and hold none of the characters that end a name
(`IsAttributeName`).  Every attribute that is read has such a name, and changing attributes keeps it
so.
-/

namespace NoteLinks.Html

/-! ### References -/

lemma unescape_cons {c : Char} (hc : c ≠ '&') (t : Text) : unescape (c :: t) = c :: unescape t := by
  rw [unescape]
  simp [hc]

/-- A reference that means something is replaced by what it means. -/
lemma unescape_reference {t d rest : Text} (h : reference? t = some (d, rest)) :
    unescape ('&' :: t) = d ++ unescape rest := by
  rw [unescape]
  simp only [if_true]
  split
  · rename_i d' rest' h'
    obtain ⟨rfl, rfl⟩ : d' = d ∧ rest' = rest := by simpa [h'] using h
    rfl
  · rename_i h'
    simp [h'] at h

/-- The text between `&` and `;` is what a reference is looked up by. -/
lemma reference?_append {body : Text} (h : ∀ c ∈ body, isReferenceChar c = true) (rest : Text) :
    reference? (body ++ ';' :: rest) = (referenceText? body).map (·, rest) := by
  have hsemi : ∀ c ∈ (';' :: rest).head?, isReferenceChar c = false := by
    intro c hc
    obtain rfl : ';' = c := by simpa using hc
    decide
  simp only [reference?, Text.dropWhile_append_of_forall h hsemi,
    Text.takeWhile_append_of_forall h hsemi]

lemma unescape_named (name : Text) {c : Char} (h : name.all isReferenceChar = true)
    (hname : referenceText? name = some [c]) (rest : Text) :
    unescape ('&' :: (name ++ ';' :: rest)) = c :: unescape rest := by
  have href := reference?_append (List.all_eq_true.1 h) rest
  rw [hname] at href
  exact unescape_reference href

/-- Escaping a character of a text is undone, whatever follows. -/
lemma unescape_escapeTextChar (c : Char) (rest : Text) :
    unescape (escapeTextChar c ++ rest) = c :: unescape rest := by
  unfold escapeTextChar
  split
  · exact unescape_named ['a', 'm', 'p'] (by decide) (by decide) rest
  · exact unescape_named ['l', 't'] (by decide) (by decide) rest
  · exact unescape_named ['g', 't'] (by decide) (by decide) rest
  · rename_i hamp _ _
    exact unescape_cons hamp rest

lemma unescape_escapeValueChar (c : Char) (rest : Text) :
    unescape (escapeValueChar c ++ rest) = c :: unescape rest := by
  unfold escapeValueChar
  split
  · exact unescape_named ['q', 'u', 'o', 't'] (by decide) (by decide) rest
  · exact unescape_escapeTextChar _ rest

/-- An escaped value is read as it was. -/
lemma unescape_escapeValue (t : Text) : unescape (escapeValue t) = t := by
  unfold escapeValue
  induction t with
  | nil => simp [unescape]
  | cons c t ih => rw [List.flatMap_cons, unescape_escapeValueChar, ih]

/-- A character of a value is escaped if it is one of four, and stands for itself otherwise. -/
lemma escapeValueChar_cases (c : Char) :
    (c ∈ ['"', '&', '<', '>'] ∧ '"' ∉ escapeValueChar c ∧ '<' ∉ escapeValueChar c ∧
        '>' ∉ escapeValueChar c) ∨
      c ∉ ['"', '&', '<', '>'] ∧ escapeValueChar c = [c] := by
  unfold escapeValueChar
  split
  · exact Or.inl (by decide)
  · rename_i hquot
    unfold escapeTextChar
    split
    · exact Or.inl (by decide)
    · exact Or.inl (by decide)
    · exact Or.inl (by decide)
    · rename_i hamp hlt hgt
      refine Or.inr ⟨?_, rfl⟩
      simp only [List.mem_cons, List.not_mem_nil, or_false, not_or]
      exact ⟨hquot, hamp, hlt, hgt⟩

/-- The characters that could end a value between double quotes, or its tag, do not occur in an
escaped value. -/
lemma not_mem_escapeValue {c : Char} (hc : c ∈ ['"', '<', '>']) (t : Text) :
    c ∉ escapeValue t := by
  intro hmem
  obtain ⟨x, -, hx⟩ := List.mem_flatMap.1 hmem
  simp only [List.mem_cons, List.not_mem_nil, or_false] at hc
  rcases escapeValueChar_cases x with ⟨-, hquot, hlt, hgt⟩ | ⟨hne, hself⟩
  · rcases hc with rfl | rfl | rfl
    · exact hquot hx
    · exact hlt hx
    · exact hgt hx
  · obtain rfl : c = x := by simpa [hself] using hx
    rcases hc with rfl | rfl | rfl <;> simp at hne

lemma mem_escapeValue {c : Char} (hc : c ∉ ['"', '&', '<', '>']) {t : Text} (h : c ∈ t) :
    c ∈ escapeValue t := by
  refine List.mem_flatMap.2 ⟨c, h, ?_⟩
  rcases escapeValueChar_cases c with ⟨hin, -⟩ | ⟨-, hself⟩
  · exact absurd hin hc
  · simp [hself]

/-! ### Spellings of the number sign -/

/-- Only one of the common names stands for the number sign. -/
lemma name_of_numberSign :
    ∀ e ∈ entities, Char.ofNat e.2 = '#' → e.1 = "num" := by decide +kernel

lemma furtherNames_ne_numberSign :
    ∀ table ∈ furtherNames, ∀ e ∈ table, Char.ofNat e.2 ≠ '#' := by decide +kernel

lemma pairNames_ne_numberSign :
    ∀ e ∈ pairNames, Char.ofNat e.2.1 ≠ '#' ∧ Char.ofNat e.2.2 ≠ '#' := by decide +kernel

lemma mem_of_lookUp? {α : Type} {table : List (String × α)} {name : Text} {x : α}
    (h : lookUp? table name = some x) : ∃ e ∈ table, e.1.toList = name ∧ e.2 = x := by
  obtain ⟨e, hfind, rfl⟩ := Option.map_eq_some_iff.1 h
  exact ⟨e, List.mem_of_find?_eq_some hfind, by simpa using List.find?_some hfind, rfl⟩

/-- The name of the number sign is the only one that stands for it. -/
lemma eq_num_of_named? {name d : Text} (h : named? name = some d) (hd : '#' ∈ d) :
    name = ['n', 'u', 'm'] := by
  unfold named? at h
  split at h
  · rename_i n hn
    obtain rfl : [Char.ofNat n] = d := by simpa using h
    have hsign : Char.ofNat n = '#' := by simpa [eq_comm] using hd
    cases hcommon : lookUp? entities name with
    | some m =>
      obtain rfl : m = n := by simpa [hcommon] using hn
      obtain ⟨e, he, rfl, rfl⟩ := mem_of_lookUp? hcommon
      rw [name_of_numberSign e he hsign]
      decide
    | none =>
      replace hn : (furtherNames.findSome? (lookUp? · name)) = some n := by simpa [hcommon] using hn
      obtain ⟨table, htable, hn⟩ := List.exists_of_findSome?_eq_some hn
      obtain ⟨e, he, -, rfl⟩ := mem_of_lookUp? hn
      exact absurd hsign (furtherNames_ne_numberSign table htable e he)
  · -- a name of a character and a mark stands for two characters, neither of them the sign
    obtain ⟨⟨m, n⟩, hmn, rfl⟩ := Option.map_eq_some_iff.1 h
    obtain ⟨e, he, -, hval⟩ := mem_of_lookUp? hmn
    obtain ⟨hm, hn⟩ := pairNames_ne_numberSign e he
    rw [hval] at hm hn
    simp only [List.mem_cons, List.not_mem_nil, or_false] at hd
    rcases hd with hd | hd
    · exact absurd hd.symm hm
    · exact absurd hd.symm hn

/-- A reference that means a text with the number sign begins with one, or is its name. -/
lemma mem_or_eq_num_of_referenceText? {body d : Text} (h : referenceText? body = some d)
    (hd : '#' ∈ d) : '#' ∈ body ∨ body = ['n', 'u', 'm'] := by
  unfold referenceText? at h
  split at h
  · exact Or.inl (by simp)
  · exact Or.inl (by simp)
  · exact Or.inl (by simp)
  · exact Or.inr (eq_num_of_named? h hd)

/-- A reference ends at the first semicolon behind its text. -/
lemma exists_of_reference? {t d rest : Text} (h : reference? t = some (d, rest)) :
    ∃ body, referenceText? body = some d ∧ t = body ++ ';' :: rest := by
  unfold reference? at h
  split at h
  · rename_i r hr
    simp only [Option.map_eq_some_iff, Prod.mk.injEq] at h
    obtain ⟨d', hd', rfl, rfl⟩ := h
    refine ⟨t.takeWhile isReferenceChar, hd', ?_⟩
    rw [← hr, List.takeWhile_append_dropWhile]
  · simp at h

/-- A number sign that reading finds was there, or was written by its name. -/
lemma mem_or_infix_of_mem_unescape {t : Text} (h : '#' ∈ unescape t) :
    '#' ∈ t ∨ ['&', 'n', 'u', 'm', ';'] <:+: t := by
  -- by induction along the reader of references; only a reference can bring in a number sign
  induction t using unescape.induct with
  | case1 => simp [unescape] at h
  | case2 t d rest href ih =>
    rw [unescape_reference href, List.mem_append] at h
    obtain ⟨body, hbody, rfl⟩ := exists_of_reference? href
    rcases h with h | h
    · rcases mem_or_eq_num_of_referenceText? hbody h with hmem | rfl
      · exact Or.inl (by simp [hmem])
      · exact Or.inr ⟨[], rest, by simp⟩
    · rcases ih h with hmem | hinf
      · exact Or.inl (by simp [hmem])
      · exact Or.inr (hinf.trans ⟨'&' :: (body ++ [';']), [], by simp⟩)
  | case3 t hnone ih =>
    rw [unescape] at h
    simp only [if_true] at h
    split at h
    · rename_i hsome
      simp [hnone] at hsome
    · rcases ih (by simpa using h) with hmem | hinf
      · exact Or.inl (by simp [hmem])
      · exact Or.inr (hinf.trans (List.suffix_cons '&' t).isInfix)
  | case4 c t hc ih =>
    rw [unescape_cons hc, List.mem_cons] at h
    rcases h with rfl | h
    · exact Or.inl List.mem_cons_self
    · rcases ih h with hmem | hinf
      · exact Or.inl (by simp [hmem])
      · exact Or.inr (hinf.trans (List.suffix_cons c t).isInfix)

/-! ### Names -/

/-- A name that an attribute can be read with. -/
def IsAttributeName (name : Text) : Prop := name ≠ [] ∧ ∀ c ∈ name, isNameChar c = true

/-- The characters of the name are looked at one after the other. -/
instance (name : Text) : Decidable (IsAttributeName name) :=
  decidable_of_iff (name ≠ [] ∧ name.all isNameChar = true) (by simp [IsAttributeName])

lemma isNameChar_of_isBlank {c : Char} (h : Text.isBlank c = true) : isNameChar c = false := by
  simp [isNameChar, h]

lemma isBlank_of_isNameChar {c : Char} (h : isNameChar c = true) : Text.isBlank c = false := by
  simp only [isNameChar, Bool.and_eq_true, Bool.not_eq_true'] at h
  exact h.1

/-- Every attribute has a name that it can be read with. -/
def AreNamed (as : List Attribute) : Prop := ∀ a ∈ as, IsAttributeName a.name

lemma areNamed_nil : AreNamed [] := by simp [AreNamed]

/-- Setting an attribute keeps the names in order. -/
lemma AreNamed.setAttribute {name value : Text} {as : List Attribute} (h : AreNamed as)
    (hname : IsAttributeName name) : AreNamed (setAttribute name value as) := by
  induction as with
  | nil => simpa [Html.setAttribute, AreNamed] using hname
  | cons a as ih =>
    have ha : IsAttributeName a.name := h a List.mem_cons_self
    have has : AreNamed as := fun b hb => h b (List.mem_cons_of_mem a hb)
    unfold Html.setAttribute
    split
    · exact List.forall_mem_cons.2 ⟨ha, has⟩
    · exact List.forall_mem_cons.2 ⟨ha, ih has⟩

lemma AreNamed.removeAttribute {as : List Attribute} (h : AreNamed as) (name : Text) :
    AreNamed (removeAttribute name as) :=
  fun a ha => h a (List.mem_of_mem_filter ha)

/-! ### Reading attributes -/

lemma readAttributes_nil : readAttributes [] = [] := readAttributes.eq_def []

/-- A character that belongs to no name is passed over. -/
lemma readAttributes_skip {c : Char} (hc : isNameChar c = false) (t : Text) :
    readAttributes (c :: t) = readAttributes t := by
  rw [readAttributes.eq_def]
  simp [hc]

/-- A character of a name begins an attribute: the name goes as far as it can, and what follows it
may be a value. -/
lemma readAttributes_cons {c : Char} (hc : isNameChar c = true) (t : Text) :
    readAttributes (c :: t) =
      match value? (t.dropWhile isNameChar) with
      | some (v, rest) => ⟨c :: t.takeWhile isNameChar, some (unescape v)⟩ :: readAttributes rest
      | none => ⟨c :: t.takeWhile isNameChar, none⟩ :: readAttributes (t.dropWhile isNameChar) := by
  rw [readAttributes.eq_def]
  simp only [hc, if_true]
  split
  · rename_i h
    rw [h]
  · rename_i h
    rw [h]

/-- A name is read as far as it goes, then the value after it if there is one. -/
lemma readAttributes_name {name rest : Text} (hname : IsAttributeName name)
    (hrest : ∀ c ∈ rest.head?, isNameChar c = false) :
    readAttributes (name ++ rest) =
      match value? rest with
      | some (v, r) => ⟨name, some (unescape v)⟩ :: readAttributes r
      | none => ⟨name, none⟩ :: readAttributes rest := by
  obtain ⟨hne, hchars⟩ := hname
  obtain ⟨c, n, rfl⟩ := List.exists_cons_of_ne_nil hne
  have hn : ∀ x ∈ n, isNameChar x = true := fun x hx => hchars x (List.mem_cons_of_mem c hx)
  rw [List.cons_append, readAttributes_cons (hchars c List.mem_cons_self),
    Text.takeWhile_append_of_forall hn hrest, Text.dropWhile_append_of_forall hn hrest]

/-- The attributes that are read have names. -/
lemma areNamed_readAttributes (t : Text) : AreNamed (readAttributes t) := by
  have hrun : ∀ {c : Char} {t : Text}, isNameChar c = true →
      IsAttributeName (c :: t.takeWhile isNameChar) := by
    intro c t hc
    refine ⟨by simp, List.forall_mem_cons.2 ⟨hc, fun x hx => ?_⟩⟩
    exact List.all_eq_true.1 List.all_takeWhile x hx
  induction t using readAttributes.induct with
  | case1 => simp [readAttributes_nil, AreNamed]
  | case2 c t hc v rest h ih =>
    rw [readAttributes_cons hc, h]
    exact List.forall_mem_cons.2 ⟨hrun hc, ih⟩
  | case3 c t hc h ih =>
    rw [readAttributes_cons hc, h]
    exact List.forall_mem_cons.2 ⟨hrun hc, ih⟩
  | case4 c t hc ih =>
    rw [readAttributes_skip (by simpa using hc)]
    exact ih

/-! ### Where values come from -/

/-- A value stands in the text it is read from, and what follows it ends that text. -/
lemma append_of_value? {t v rest : Text} (h : value? t = some (v, rest)) :
    ∃ u w, t = u ++ v ++ w ++ rest := by
  have htrim : ∀ s : Text, ∃ ws, s = ws ++ Text.trimStart s := fun s =>
    ⟨s.takeWhile Text.isBlank, List.takeWhile_append_dropWhile.symm⟩
  unfold value? at h
  obtain ⟨ws, hws⟩ := htrim t
  split at h
  · rename_i s hs
    obtain ⟨ws', hws'⟩ := htrim s
    have ht : t = ws ++ '=' :: (ws' ++ Text.trimStart s) := by rw [← hws', ← hs, ← hws]
    unfold valueAfterEquals? at h
    split at h
    · rename_i s' hs'
      obtain ⟨c, -, -, rfl⟩ := Text.cutWhere?_eq_some_iff.1 h
      exact ⟨ws ++ '=' :: (ws' ++ ['"']), [c], by simp [ht, hs']⟩
    · rename_i s' hs'
      obtain ⟨c, -, -, rfl⟩ := Text.cutWhere?_eq_some_iff.1 h
      exact ⟨ws ++ '=' :: (ws' ++ ['\'']), [c], by simp [ht, hs']⟩
    · unfold bareValue? at h
      split at h
      · simp at h
      · obtain ⟨rfl, rfl⟩ : _ = v ∧ _ = rest := by simpa using h
        exact ⟨ws ++ '=' :: ws', [], by simp [ht, List.takeWhile_append_dropWhile]⟩
  · simp at h

/-- The value of an attribute is the meaning of a part of the text it is read from. -/
lemma exists_infix_of_mem_readAttributes {t v : Text} {a : Attribute}
    (ha : a ∈ readAttributes t) (hv : a.value = some v) : ∃ u, u <:+: t ∧ v = unescape u := by
  induction t using readAttributes.induct with
  | case1 => simp [readAttributes_nil] at ha
  | case2 c t hc v' rest hval ih =>
    obtain ⟨u, w, hu⟩ := append_of_value? hval
    -- the text of the value stands behind the name and the equals sign
    have ht : c :: t = (c :: (t.takeWhile isNameChar ++ u)) ++ v' ++ (w ++ rest) :=
      calc c :: t = c :: (t.takeWhile isNameChar ++ t.dropWhile isNameChar) := by
            rw [List.takeWhile_append_dropWhile]
        _ = (c :: (t.takeWhile isNameChar ++ u)) ++ v' ++ (w ++ rest) := by simp [hu]
    rw [readAttributes_cons hc, hval] at ha
    rcases List.mem_cons.1 ha with rfl | ha
    · obtain rfl : unescape v' = v := by simpa using hv
      exact ⟨v', ⟨_, _, ht.symm⟩, rfl⟩
    · obtain ⟨x, hx, rfl⟩ := ih ha
      refine ⟨x, hx.trans ?_, rfl⟩
      rw [ht, ← List.append_assoc]
      exact (List.suffix_append _ rest).isInfix
  | case3 c t hc hnone ih =>
    rw [readAttributes_cons hc, hnone] at ha
    rcases List.mem_cons.1 ha with rfl | ha
    · simp at hv
    · obtain ⟨x, hx, rfl⟩ := ih ha
      refine ⟨x, hx.trans ?_, rfl⟩
      exact ((List.dropWhile_suffix isNameChar).trans (List.suffix_cons c t)).isInfix
  | case4 c t hc ih =>
    rw [readAttributes_skip (by simpa using hc)] at ha
    obtain ⟨x, hx, rfl⟩ := ih ha
    exact ⟨x, hx.trans (List.suffix_cons c t).isInfix, rfl⟩

end NoteLinks.Html
