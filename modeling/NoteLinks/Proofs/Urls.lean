import Mathlib.Data.List.TakeWhile
import NoteLinks.Proofs.Cutting
import NoteLinks.Url

/-!
# URLs of servers and URLs below a base

`isHttp` finds out whether a URL states one of the two schemes, in whatever letter case
(`isHttp_iff`).  `under` puts a relative URL below its base: all slashes where the two meet give way
to a single one, and `IsUnder` says so without dropping characters one by one (`isUnder_iff`).
A path below a base that is itself below the site is one below the absolute form of the base
(`absolute_append_slash`).
-/

namespace NoteLinks

/-! ### Letter case -/

/-- A text begins with a mark up to letter case if its beginning is the mark in some letter case. -/
lemma Text.startsWithLetters_iff {t mark : Text} :
    Text.startsWithLetters t mark = true ↔
      ∃ start rest, t = start ++ rest ∧ Text.lower start = Text.lower mark := by
  rw [Text.startsWithLetters, List.isPrefixOf_iff_prefix]
  constructor
  · rintro ⟨low, hlow⟩
    obtain ⟨start, rest, rfl, hstart, -⟩ := List.map_eq_append_iff.1 hlow.symm
    exact ⟨start, rest, rfl, hstart⟩
  · rintro ⟨start, rest, rfl, hstart⟩
    exact ⟨Text.lower rest, by rw [← hstart, Text.lower, Text.lower, Text.lower, List.map_append]⟩

namespace Url

variable {base path url : Text}

/-- The schemes of web servers. -/
def schemes : List Text := ["http://", "https://"]

/-- A URL names a web server if it begins with one of the schemes, in some letter case. -/
lemma isHttp_iff :
    isHttp url = true ↔ ∃ scheme rest, url = scheme ++ rest ∧ Text.lower scheme ∈ schemes := by
  have hlower : Text.lower "http://" = ("http://" : Text) ∧
      Text.lower "https://" = ("https://" : Text) := by decide
  simp only [isHttp, Bool.or_eq_true, Text.startsWithLetters_iff, hlower.1, hlower.2, schemes,
    List.mem_cons, List.not_mem_nil, or_false, and_or_left, exists_or]

/-! ### Slashes -/

/-- The URL has one slash between base and path; the slashes that end the base and those that begin
the path are left out. -/
def IsUnder (base path url : Text) : Prop :=
  ∃ b p m n, base = b ++ List.replicate m '/' ∧ b.getLast? ≠ some '/' ∧
    path = List.replicate n '/' ++ p ∧ p.head? ≠ some '/' ∧ url = b ++ '/' :: p

lemma dropSlashes_replicate {p : Text} (hp : p.head? ≠ some '/') (n : ℕ) :
    dropSlashes (List.replicate n '/' ++ p) = p := by
  refine Text.dropWhile_append_of_forall (fun c hc => ?_) fun c hc => ?_
  · simpa using (List.mem_replicate.1 hc).2
  · have hne : c ≠ '/' := fun h => hp (h ▸ hc)
    simpa using hne

/-- What is dropped from the start of a text are slashes. -/
lemma exists_replicate_append_dropSlashes (t : Text) :
    (∃ n, t = List.replicate n '/' ++ dropSlashes t) ∧ (dropSlashes t).head? ≠ some '/' := by
  constructor
  · refine ⟨(t.takeWhile (· == '/')).length, ?_⟩
    have hslash : t.takeWhile (· == '/') = List.replicate (t.takeWhile (· == '/')).length '/' :=
      List.eq_replicate_length.2 fun c hc => by
        simpa using List.all_eq_true.1 List.all_takeWhile c hc
    rw [dropSlashes, ← hslash, List.takeWhile_append_dropWhile]
  · intro hhead
    have hfalse := List.head?_dropWhile_not (· == '/') t
    rw [← dropSlashes, hhead] at hfalse
    simp at hfalse

lemma dropEndSlashes_eq_reverse (t : Text) : dropEndSlashes t = (dropSlashes t.reverse).reverse :=
  rfl

/-- A path is put below a base with one slash between them, and with all else as it was. -/
lemma isUnder_iff : IsUnder base path url ↔ url = under base path := by
  constructor
  · rintro ⟨b, p, m, n, rfl, hb, rfl, hp, rfl⟩
    have hb' : b.reverse.head? ≠ some '/' := by rwa [List.head?_reverse]
    rw [under, dropSlashes_replicate hp, dropEndSlashes_eq_reverse, List.reverse_append,
      List.reverse_replicate, dropSlashes_replicate hb', List.reverse_reverse]
    simp
  · rintro rfl
    obtain ⟨⟨n, hn⟩, hp⟩ := exists_replicate_append_dropSlashes path
    obtain ⟨⟨m, hm⟩, hb⟩ := exists_replicate_append_dropSlashes base.reverse
    refine ⟨dropEndSlashes base, dropSlashes path, m, n, ?_, ?_, hn, hp, by simp [under]⟩
    · have hreverse := congrArg List.reverse hm
      rwa [List.reverse_reverse, List.reverse_append, List.reverse_replicate] at hreverse
    · rwa [dropEndSlashes_eq_reverse, List.getLast?_reverse]

/-! ### Longer URLs -/

lemma getLast?_dropEndSlashes (t : Text) : (dropEndSlashes t).getLast? ≠ some '/' := by
  rw [dropEndSlashes_eq_reverse, List.getLast?_reverse]
  exact (exists_replicate_append_dropSlashes t.reverse).2

lemma dropEndSlashes_append_replicate {t : Text} (h : t.getLast? ≠ some '/') (n : ℕ) :
    dropEndSlashes (t ++ List.replicate n '/') = t := by
  have hhead : t.reverse.head? ≠ some '/' := by rwa [List.head?_reverse]
  rw [dropEndSlashes_eq_reverse, List.reverse_append, List.reverse_replicate,
    dropSlashes_replicate hhead, List.reverse_reverse]

lemma dropEndSlashes_eq_self {t : Text} (h : t.getLast? ≠ some '/') : dropEndSlashes t = t := by
  simpa using dropEndSlashes_append_replicate h 0

lemma dropSlashes_ne_nil {t : Text} (h : t.getLast? ≠ some '/') (hne : t ≠ []) :
    dropSlashes t ≠ [] := by
  intro hnil
  rw [dropSlashes, List.dropWhile_eq_nil_iff] at hnil
  have hlast := beq_iff_eq.1 (hnil _ (List.getLast_mem hne))
  exact h ((List.getLast?_eq_some_getLast hne).trans (congrArg some hlast))

/-- The slashes at the start of a text end before the text does. -/
lemma dropSlashes_append {t : Text} (h : t.getLast? ≠ some '/') (hne : t ≠ []) (u : Text) :
    dropSlashes (t ++ u) = dropSlashes t ++ u := by
  have hrest : ¬ (t.dropWhile (· == '/')).isEmpty = true := by
    rw [List.isEmpty_iff]
    exact dropSlashes_ne_nil h hne
  rw [dropSlashes, List.dropWhile_append, if_neg hrest, dropSlashes]

lemma getLast?_dropSlashes {t : Text} (h : t.getLast? ≠ some '/') (hne : t ≠ []) :
    (dropSlashes t).getLast? = t.getLast? := by
  obtain ⟨⟨n, hn⟩, -⟩ := exists_replicate_append_dropSlashes t
  conv_rhs => rw [hn]
  rw [List.getLast?_append_of_ne_nil _ (dropSlashes_ne_nil h hne)]

/-- A slash of a scheme has another one beside it. -/
lemma slash_of_mem_schemes {scheme a b : Text} (h : scheme ∈ schemes) (heq : scheme = a ++ '/' :: b) :
    a.getLast? = some '/' ∨ b.head? = some '/' := by
  have hslash : ∀ scheme ∈ schemes, ∀ n < scheme.length, (scheme.drop n).head? = some '/' →
      (scheme.take n).getLast? = some '/' ∨ (scheme.drop (n + 1)).head? = some '/' := by
    decide
  have hbeside := hslash scheme h a.length (by simp [heq]) (by simp [heq])
  simpa [heq, List.drop_append] using hbeside

/-- A slash is no letter. -/
lemma eq_slash_of_toLower {c : Char} (h : c.toLower = '/') : c = '/' := by
  unfold Char.toLower at h
  split at h
  · rename_i hupper
    have hcode : c.val + 32 = 47 := congrArg Char.val h
    have hlow : 65 ≤ c.val := hupper.1
    have hhigh : c.val ≤ 90 := hupper.2
    grind
  · exact h

/-- A single slash and what follows it do not make a URL one of a server. -/
lemma isHttp_append_slash {a b : Text} (ha : a.getLast? ≠ some '/') (hb : b.head? ≠ some '/') :
    isHttp (a ++ '/' :: b) = isHttp a := by
  rw [Bool.eq_iff_iff, isHttp_iff, isHttp_iff]
  constructor
  · rintro ⟨scheme, rest, heq, hscheme⟩
    rcases List.append_eq_append_iff.1 heq with ⟨front, rfl, hrest⟩ | ⟨front, rfl, -⟩
    · cases front with
      | nil => exact ⟨a, [], (List.append_nil a).symm, by simpa using hscheme⟩
      | cons c front =>
        -- the slash belongs to the scheme, so there is a second one beside it
        rw [List.cons_append] at hrest
        obtain ⟨rfl, rfl⟩ := List.cons.inj hrest
        have hlower : Text.lower (a ++ '/' :: front) =
            Text.lower a ++ '/' :: Text.lower front := by
          simp [Text.lower]
        rcases slash_of_mem_schemes hscheme hlower with h | h
        · rw [Text.lower, List.getLast?_map, Option.map_eq_some_iff] at h
          obtain ⟨c, hc, hslash⟩ := h
          exact absurd (eq_slash_of_toLower hslash ▸ hc) ha
        · rw [Text.lower, List.head?_map, Option.map_eq_some_iff] at h
          obtain ⟨c, hc, hslash⟩ := h
          rw [List.head?_append, hc] at hb
          exact absurd (congrArg some (eq_slash_of_toLower hslash)) hb
    · exact ⟨scheme, front, rfl, hscheme⟩
  · rintro ⟨scheme, rest, rfl, hscheme⟩
    exact ⟨scheme, rest ++ '/' :: b, List.append_assoc _ _ _, hscheme⟩

/-- The URL that paths are put below, as an absolute one without a slash at its end: that of a server
as it is, and any other one below the site. -/
def absoluteBase (site base : Text) : Text :=
  if isHttp (dropEndSlashes base) then dropEndSlashes base
  else dropEndSlashes (under site (dropEndSlashes base))

lemma getLast?_absoluteBase (site base : Text) : (absoluteBase site base).getLast? ≠ some '/' := by
  rw [absoluteBase]
  split
  · exact getLast?_dropEndSlashes base
  · exact getLast?_dropEndSlashes _

/-- A path is put below a base, and both below the site, with one slash between base and path. -/
lemma absolute_append_slash (site base : Text) {path : Text} (hpath : path.head? ≠ some '/') :
    absolute site (dropEndSlashes base ++ '/' :: path) = absoluteBase site base ++ '/' :: path := by
  have hend := getLast?_dropEndSlashes base
  rw [absolute, isHttp_append_slash hend hpath, absoluteBase]
  split
  · rfl
  · generalize dropEndSlashes base = b at hend
    have hsite := getLast?_dropEndSlashes site
    by_cases hb : b = []
    · -- the slash in front of the path is then the one below the site
      subst hb
      have hslash : dropEndSlashes (under site []) = dropEndSlashes site := by
        have hunder : under site [] = dropEndSlashes site ++ List.replicate 1 '/' :=
          List.append_nil _
        rw [hunder, dropEndSlashes_append_replicate hsite]
      have hrest : dropSlashes ('/' :: path) = path := dropSlashes_replicate hpath 1
      rw [hslash, under, List.nil_append, hrest, List.append_assoc]
      rfl
    · have hlast : (under site b).getLast? ≠ some '/' := by
        rw [under, List.getLast?_append_of_ne_nil _ (dropSlashes_ne_nil hend hb),
          getLast?_dropSlashes hend hb]
        exact hend
      rw [dropEndSlashes_eq_self hlast, under, under, dropSlashes_append hend hb,
        List.append_assoc _ _ ('/' :: path)]

end Url

end NoteLinks
