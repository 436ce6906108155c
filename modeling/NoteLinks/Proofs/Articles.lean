import NoteLinks.Proofs.Cutting
import NoteLinks.Proofs.Percent
import NoteLinks.Proofs.Trimming
import NoteLinks.Provider

/-!
# The addresses of articles

A value names an article of the encyclopedia.  If the text before its first colon is the code of a
language, the article is the rest in that language; otherwise it is the whole text in the language
of articles that state none (`Article.Names`).  Blanks around the value and around the title do not
count.

The address of the article is that of a page of the encyclopedia: the language is part of the host
name, and the title is one percent-coded segment, so no title leads to another place
(`IsArticleUrl`).
-/

namespace NoteLinks

variable {c : Char} {t value : Text}

/-! ## Values -/

namespace Article

variable {language title default : Text} {a b : Article}

/-- Two or three small ASCII letters, and possibly a hyphen with more small letters behind it. -/
def IsLanguage (t : Text) : Prop :=
  ∃ base region, (base.length = 2 ∨ base.length = 3) ∧ (∀ c ∈ base, 'a' ≤ c ∧ c ≤ 'z') ∧
    (region = [] ∨ ∃ letters, letters ≠ [] ∧ (∀ c ∈ letters, 'a' ≤ c ∧ c ≤ 'z') ∧
      region = '-' :: letters) ∧
    t = base ++ region

/-- The article that a value names; `default` is the language of a value that states none. -/
inductive Names (default value : Text) : Article → Prop
  /-- The code of a language stands before the first colon, and the title behind it. -/
  | stated {language title : Text} (hfirst : ':' ∉ language)
      (hvalue : Text.trim value = language ++ ':' :: title) (hlanguage : IsLanguage language) :
      Names default value ⟨language, Text.trim title⟩
  /-- The text before the first colon is no code of a language, or there is no colon. -/
  | unstated (h : ∀ language title, ':' ∉ language →
      Text.trim value = language ++ ':' :: title → ¬ IsLanguage language) :
      Names default value ⟨default, Text.trim value⟩

lemma isSmallLetter_iff : isSmallLetter c = true ↔ 'a' ≤ c ∧ c ≤ 'z' := by
  rw [isSmallLetter, Bool.and_eq_true, decide_eq_true_eq, decide_eq_true_eq]

/-- The check for a language decides whether it is one. -/
lemma isLanguage_iff : isLanguage t = true ↔ IsLanguage t := by
  constructor
  · intro h
    simp only [isLanguage, Bool.and_eq_true, Bool.or_eq_true, beq_iff_eq] at h
    obtain ⟨hlength, hrest⟩ := h
    refine ⟨t.takeWhile isSmallLetter, t.dropWhile isSmallLetter, hlength, ?_, ?_,
      List.takeWhile_append_dropWhile.symm⟩
    · exact fun c hc => isSmallLetter_iff.1 (List.mem_takeWhile_imp hc)
    · split at hrest
      · rename_i hnil
        exact Or.inl hnil
      · rename_i c letters hcons
        rw [Bool.and_eq_true, Bool.and_eq_true, beq_iff_eq, bne_iff_ne, List.all_eq_true] at hrest
        obtain ⟨⟨rfl, hne⟩, hletters⟩ := hrest
        exact Or.inr ⟨letters, hne, fun c hc => isSmallLetter_iff.1 (hletters c hc), hcons⟩
  · rintro ⟨base, region, hlength, hbase, hregion, rfl⟩
    have hsmall : ∀ c ∈ base, isSmallLetter c = true := fun c hc => isSmallLetter_iff.2 (hbase c hc)
    have hhead : ∀ c ∈ region.head?, isSmallLetter c = false := by
      rcases hregion with rfl | ⟨letters, -, -, rfl⟩
      · simp
      · intro c hc
        obtain rfl : '-' = c := by simpa using hc
        decide
    -- the letters in front end where the region begins, so the reader cuts the code there too
    rw [isLanguage, Text.takeWhile_append_of_forall hsmall hhead,
      Text.dropWhile_append_of_forall hsmall hhead]
    rcases hregion with rfl | ⟨letters, hne, hletters, rfl⟩
    · simpa using hlength
    · have hall : letters.all isSmallLetter = true :=
        List.all_eq_true.2 fun c hc => isSmallLetter_iff.2 (hletters c hc)
      simpa [hne, hall] using hlength

/-- The article is the title behind the first colon if a language stands before the colon, and else
the whole value. -/
lemma names_iff :
    Names default value a ↔
      match Text.cutWhere? (· == ':') (Text.trim value) with
      | some (language, title) =>
        a = if isLanguage language then ⟨language, Text.trim title⟩
          else ⟨default, Text.trim value⟩
      | none => a = ⟨default, Text.trim value⟩ := by
  split
  · rename_i language title hcut
    obtain ⟨hfirst, hvalue⟩ := Text.cutWhere?_char_eq_some_iff.1 hcut
    -- the value has one first colon, so both readings cut it at the same place
    have honly : ∀ language' title', ':' ∉ language' →
        Text.trim value = language' ++ ':' :: title' → language' = language ∧ title' = title := by
      intro language' title' hfirst' hvalue'
      have hcut' := Text.cutWhere?_char_eq_some_iff.2 ⟨hfirst', hvalue'⟩
      exact Prod.mk.inj (Option.some.inj (hcut'.symm.trans hcut))
    split
    · rename_i hlanguage
      rw [isLanguage_iff] at hlanguage
      constructor
      · rintro (⟨hfirst', hvalue', -⟩ | hnone)
        · obtain ⟨rfl, rfl⟩ := honly _ _ hfirst' hvalue'
          rfl
        · exact absurd hlanguage (hnone _ _ hfirst hvalue)
      · rintro rfl
        exact .stated hfirst hvalue hlanguage
    · rename_i hlanguage
      rw [isLanguage_iff] at hlanguage
      constructor
      · rintro (⟨hfirst', hvalue', hlanguage'⟩ | -)
        · obtain ⟨rfl, rfl⟩ := honly _ _ hfirst' hvalue'
          exact absurd hlanguage' hlanguage
        · rfl
      · rintro rfl
        refine .unstated fun language' title' hfirst' hvalue' => ?_
        rwa [(honly _ _ hfirst' hvalue').1]
  · rename_i hcut
    have hcolon := Text.cutWhere?_char_eq_none_iff.1 hcut
    constructor
    · rintro (⟨-, hvalue, -⟩ | -)
      · exact absurd (hvalue ▸ by simp) hcolon
      · rfl
    · rintro rfl
      exact .unstated fun language' title' _ hvalue _ => hcolon (hvalue ▸ by simp)

/-- Every value names one article. -/
lemma existsUnique_names (default value : Text) : ∃! a, Names default value a := by
  simp only [names_iff]
  split <;> exact existsUnique_eq

/-- An article is read from the values of one line. -/
lemma read?_eq_of_names (h : Names default value a) :
    read? default value = if '\n' ∈ Text.trim value then none else some a := by
  rw [names_iff] at h
  simp only [read?, Text.trim_trim]
  cases hcut : Text.cutWhere? (· == ':') (Text.trim value) with
  | none =>
    rw [hcut] at h
    rw [h]
  | some parts =>
    obtain ⟨language, title⟩ := parts
    rw [hcut] at h
    simp only [h]
    split
    · rfl
    · split <;> rfl

/-- A colon belongs to the title where no code of a language stands before it. -/
example : read? "en" " de-At:a " = some ⟨"en", "de-At:a"⟩ ∧
    read? "en" "de-at: a:b" = some ⟨"de-at", "a:b"⟩ := by
  decide

end Article

/-! ## Addresses -/

namespace Provider

open Article (Names)

variable {a : Article} {language url : Text}

/-- A title as it stands in the address of a page: with underscores in place of spaces. -/
def pageName (title : Text) : Text := title.map fun c => if c = ' ' then '_' else c

/-- The address of an article: a page of the encyclopedia in its language, under the percent-coded
title. -/
def IsArticleUrl (a : Article) (url : Text) : Prop :=
  ∃ page, Percent.IsCoded page ∧ ('/' ∉ page ∧ '?' ∉ page ∧ '#' ∉ page) ∧
    Percent.decode page = pageName a.title ∧
    url = "https://" ++ a.language ++ ".wikipedia.org/wiki/" ++ page

/-- The title of a link to an article; it states the language. -/
def articleTitle (language title : Text) : Text := "Wikipedia (" ++ language ++ "): " ++ title

/-- The template of the encyclopedia is filled with the language and the title, each in its place,
if the language has no place for a title in it. -/
lemma titleFor_wikipedia (h : ¬ ("$ID" : Text) <:+: language) (title : Text) :
    titleFor (Text.replaceAll "%s" language wikipedia.title) title =
      articleTitle language title := by
  have hrest : Text.replaceAll ['%', 's'] language (("): " : Text) ++ ['$', 'I', 'D']) =
      ("): " : Text) ++ ['$', 'I', 'D'] :=
    Text.replaceAll_eq_self (Text.cut?_eq_none_iff.1 (by decide))
  have hlanguage : Text.replaceAll ['%', 's'] language
        (("Wikipedia (" : Text) ++ ['%', 's'] ++ (("): " : Text) ++ ['$', 'I', 'D'])) =
      ("Wikipedia (" : Text) ++ language ++
        Text.replaceAll ['%', 's'] language (("): " : Text) ++ ['$', 'I', 'D']) :=
    Text.replaceAll_append_mark (by decide) (Text.cut?_eq_none_iff.1 (by decide))
  -- the place for the title is the first one, also behind the language
  have hfirst : ¬ ['$', 'I', 'D'] <:+: ("Wikipedia (" : Text) ++ (language ++ "): ") := by
    intro hmark
    rcases Text.infix_or_infix_of_infix_cons (by decide)
      (Text.infix_of_infix_append (by decide) hmark) with hmark | hmark
    · exact h hmark
    · exact Text.cut?_eq_none_iff.1 (by decide) hmark
  have htitle : Text.replaceAll ['$', 'I', 'D'] title
        (("Wikipedia (" : Text) ++ (language ++ "): ") ++ ['$', 'I', 'D'] ++ ([] : Text)) =
      ("Wikipedia (" : Text) ++ (language ++ "): ") ++ title ++
        Text.replaceAll ['$', 'I', 'D'] title [] :=
    Text.replaceAll_append_mark (by decide) hfirst
  have hnil : Text.replaceAll ['$', 'I', 'D'] title [] = [] :=
    Text.replaceAll_eq_self (Text.cut?_eq_none_iff.1 (by decide))
  calc titleFor (Text.replaceAll "%s" language wikipedia.title) title
      = Text.replaceAll ['$', 'I', 'D'] title (Text.replaceAll ['%', 's'] language
          (("Wikipedia (" : Text) ++ ['%', 's'] ++ (("): " : Text) ++ ['$', 'I', 'D']))) := rfl
    _ = Text.replaceAll ['$', 'I', 'D'] title
          (("Wikipedia (" : Text) ++ (language ++ "): ") ++ ['$', 'I', 'D'] ++ ([] : Text)) := by
        rw [hlanguage, hrest]
        simp only [List.append_assoc, List.append_nil]
    _ = ("Wikipedia (" : Text) ++ (language ++ "): ") ++ title := by
        rw [htitle, hnil, List.append_nil]
    _ = articleTitle language title := by
        unfold articleTitle
        simp only [List.append_assoc]

lemma replaceAll_space (title : Text) : Text.replaceAll " " "_" title = pageName title :=
  Text.replaceAll_char ' ' '_' title

/-- The percent-coded title is the page of the article. -/
lemma isArticleUrl (a : Article) :
    IsArticleUrl a ("https://" ++ a.language ++ ".wikipedia.org/wiki/" ++
      Percent.encode (Text.replaceAll " " "_" a.title)) := by
  refine ⟨_, Percent.isCoded_encode _, ⟨?_, ?_, ?_⟩, ?_, rfl⟩
  · exact Percent.not_mem_encode (by decide) (by decide) _
  · exact Percent.not_mem_encode (by decide) (by decide) _
  · exact Percent.not_mem_encode (by decide) (by decide) _
  · rw [Percent.decode_encode, replaceAll_space]

/-- A value leads nowhere exactly if it has more than one line or its article has no title, and
otherwise to the page of the article that it names.  The title of the link states the article, or
the whole value if that has more lines; a language with a place for a title in it would be filled
too. -/
theorem target_wikipedia (language value : Text) :
    ∃ a, Names language value a ∧ (∀ b, Names language value b → b = a) ∧
      ((wikipedia.target language value).url? = none ↔
        '\n' ∈ Text.trim value ∨ a.title = []) ∧
      (∀ url, (wikipedia.target language value).url? = some url → IsArticleUrl a url) ∧
      ('\n' ∉ Text.trim value → ¬ ("$ID" : Text) <:+: a.language →
        (wikipedia.target language value).title = articleTitle a.language a.title) ∧
      ('\n' ∈ Text.trim value → ¬ ("$ID" : Text) <:+: language →
        (wikipedia.target language value).title = articleTitle language value) := by
  obtain ⟨a, ha, honly⟩ := Article.existsUnique_names language value
  have htarget : wikipedia.target language value =
      articleTarget language wikipedia.title value := rfl
  refine ⟨a, ha, honly, ?_⟩
  rw [htarget, articleTarget, Article.read?_eq_of_names ha]
  -- a value fails by a line feed or else by a blank title, and the link is titled accordingly
  by_cases hline : '\n' ∈ Text.trim value
  · simp only [if_pos hline]
    refine ⟨by simp [hline], by simp, fun hnot => absurd hline hnot, fun _ h => ?_⟩
    exact titleFor_wikipedia h value
  · simp only [if_neg hline]
    by_cases htitle : a.title = []
    · rw [if_pos htitle]
      refine ⟨by simp [htitle], by simp, fun _ h => ?_, fun hmem => absurd hmem hline⟩
      exact titleFor_wikipedia h a.title
    · rw [if_neg htitle]
      refine ⟨by simp [hline, htitle], ?_, fun _ h => ?_, fun hmem => absurd hmem hline⟩
      · rintro url ⟨⟩
        exact isArticleUrl a
      · exact titleFor_wikipedia h a.title

end Provider

end NoteLinks
