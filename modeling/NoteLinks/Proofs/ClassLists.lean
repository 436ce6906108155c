import NoteLinks.Image
import NoteLinks.Proofs.KeptAttributes

/-!
# Lists of classes

The classes of an image and those of a link's anchor come about in the same way: the words of a text
stand first, and classes that are given are added to them.  `Text.AreWords` says which words a text
has, and `Text.AreMerged` what the list is that two lists give: each class once, those of the first
list before the further ones of the second, both in the order in which they occur first.

Once the classes are there, adding them again changes nothing
(`Text.distinct_append_of_subset`).  So the class list of an image stands as it is when it is read
and merged again (`Image.mergeClasses_join`), and a link leaves alone the attributes that it has set
(`Link.applyTo_applyTo`).
-/

namespace NoteLinks

open Html

/-! ## Words and merged lists -/

namespace Text

variable {gap t : Text} {ts us ws : List Text}

/-- The words of a text stand between blanks, and every character that is not blank is in one of
them. -/
inductive AreWords : Text → List Text → Prop
  | nil {t : Text} (hblank : ∀ c ∈ t, isBlank c = true) : AreWords t []
  | cons {gap word rest : Text} {ws : List Text} (hgap : ∀ c ∈ gap, isBlank c = true)
      (hne : word ≠ []) (hword : ∀ c ∈ word, isBlank c = false)
      (hend : ∀ c ∈ rest.head?, isBlank c = true) (hrest : AreWords rest ws) :
      AreWords (gap ++ word ++ rest) (word :: ws)

/-- A blank before a text is in none of its words. -/
lemma words_blank_cons {c : Char} (hc : isBlank c = true) (t : Text) : words (c :: t) = words t :=
  words_append_cons hc [] t

lemma words_blanks_append (hgap : ∀ c ∈ gap, isBlank c = true) (t : Text) :
    words (gap ++ t) = words t := by
  induction gap with
  | nil => rfl
  | cons c gap ih =>
    obtain ⟨hc, hgap⟩ := List.forall_mem_cons.1 hgap
    rw [List.cons_append, words_blank_cons hc, ih hgap]

lemma AreWords.cons_word {word rest : Text} (hne : word ≠ []) (hword : ∀ c ∈ word, isBlank c = false)
    (hend : ∀ c ∈ rest.head?, isBlank c = true) (hrest : AreWords rest ws) :
    AreWords (word ++ rest) (word :: ws) :=
  .cons (List.forall_mem_nil _) hne hword hend hrest

/-- Every text has words. -/
lemma exists_areWords (t : Text) : ∃ ws, AreWords t ws := by
  induction t with
  | nil => exact ⟨[], .nil (List.forall_mem_nil _)⟩
  | cons c t ih =>
    obtain ⟨ws, h⟩ := ih
    cases hc : isBlank c with
    | true =>
      -- the gap before the first word, if there is one, is longer by a blank
      cases h with
      | nil hblank => exact ⟨[], .nil (List.forall_mem_cons.2 ⟨hc, hblank⟩)⟩
      | cons hgap hne hword hend hrest =>
        exact ⟨_, .cons (List.forall_mem_cons.2 ⟨hc, hgap⟩) hne hword hend hrest⟩
    | false =>
      have hsingle : ∀ x ∈ [c], isBlank x = false := List.forall_mem_singleton.2 hc
      have hne : [c] ≠ [] := List.cons_ne_nil c []
      cases h with
      | nil hblank =>
        exact ⟨_, .cons_word hne hsingle (fun x hx => hblank x (List.mem_of_mem_head? hx))
          (.nil hblank)⟩
      | @cons gap word rest ws hgap hword_ne hword hend hrest =>
        cases gap with
        | nil =>
          -- the first word begins with the character
          exact ⟨_, .cons_word (List.cons_ne_nil c word) (List.forall_mem_cons.2 ⟨hc, hword⟩) hend
            hrest⟩
        | cons b gap =>
          have hb : ∀ x ∈ (b :: gap ++ word ++ rest).head?, isBlank x = true := by
            simpa using (List.forall_mem_cons.1 hgap).1
          exact ⟨_, .cons_word hne hsingle hb (.cons hgap hword_ne hword hend hrest)⟩

/-- The words of a text are determined by it, and `words` finds them. -/
lemma areWords_iff : AreWords t ws ↔ ws = words t := by
  have hwords : ∀ {t ws}, AreWords t ws → ws = words t := by
    intro t ws h
    induction h with
    | @nil t hblank =>
      have hnone : words (t ++ []) = words [] := words_blanks_append hblank []
      rw [List.append_nil] at hnone
      exact hnone.symm
    | @cons gap word rest ws hgap hne hword hend hrest ih =>
      rw [List.append_assoc, words_blanks_append hgap, ih]
      cases rest with
      | nil =>
        rw [List.append_nil, words_of_forall hne hword]
        rfl
      | cons b rest =>
        have hb : isBlank b = true := hend b rfl
        rw [words_append_cons hb, words_of_forall hne hword, words_blank_cons hb]
        rfl
  refine ⟨hwords, ?_⟩
  rintro rfl
  obtain ⟨ws, h⟩ := exists_areWords t
  rwa [← hwords h]

/-- A list is merged into another one: each member of both is kept once, those of the first list
before the further ones of the second, and both in the order in which they occur first. -/
structure AreMerged (first second merged : List Text) : Prop where
  nodup : merged.Nodup
  mem_iff : ∀ c, c ∈ merged ↔ c ∈ first ∨ c ∈ second
  exists_parts : ∃ front back, merged = front ++ back ∧ InFirstOrder first front ∧
    InFirstOrder (second.filter (· ∉ first)) back

/-- It does not matter whether texts are left out before or after repetitions are. -/
lemma distinct_filter (p : Text → Bool) (ts : List Text) :
    (distinct ts).filter p = distinct (ts.filter p) := by
  induction ts using List.reverseRecOn with
  | nil => rfl
  | append_singleton ts t ih =>
    rw [List.filter_append, distinct_append_singleton]
    by_cases hp : p t = true
    · rw [List.filter_cons_of_pos hp, List.filter_nil, distinct_append_singleton, ← ih]
      by_cases ht : t ∈ ts
      · simp [hp, ht]
      · simp [hp, ht]
    · rw [List.filter_cons_of_neg hp, List.filter_nil, List.append_nil, ← ih]
      by_cases ht : t ∈ ts
      · simp [ht]
      · simp [hp, ht]

lemma areMerged_distinct (ts us : List Text) : AreMerged ts us (distinct (ts ++ us)) where
  nodup := nodup_distinct _
  mem_iff c := by rw [mem_distinct, List.mem_append]
  exists_parts := by
    refine ⟨_, _, ?_, inFirstOrder_distinct ts, inFirstOrder_distinct _⟩
    rw [distinct_append, ← distinct_filter]
    simp only [mem_distinct]

lemma distinct_eq_self (h : ts.Nodup) : distinct ts = ts := by
  induction ts using List.reverseRecOn with
  | nil => rfl
  | append_singleton ts t ih =>
    obtain ⟨hts, -, hdisjoint⟩ := List.nodup_append'.1 h
    have hnew : t ∉ ts := fun ht => hdisjoint ht (List.mem_singleton_self t)
    rw [distinct_append_singleton, ih hts, if_neg hnew]

/-- Texts that are there already add nothing. -/
lemma distinct_append_of_subset (hts : ts.Nodup) (hus : us ⊆ ts) : distinct (ts ++ us) = ts := by
  have hnone : (distinct us).filter (· ∉ ts) = [] := by
    rw [List.filter_eq_nil_iff]
    intro u hu
    simpa using hus (mem_distinct.1 hu)
  rw [distinct_append, distinct_eq_self hts, hnone, List.append_nil]

end Text

/-! ## Classes of images -/

namespace Image

variable {standard : List Text}

/-- The class list of an image, read and merged again, stays as it is, if every standard class is a
word. -/
lemma mergeClasses_join (named : Option Text)
    (hstandard : ∀ c ∈ standard, c ≠ [] ∧ ∀ x ∈ c, Text.isBlank x = false) :
    mergeClasses (some (Text.join " " (mergeClasses named standard))) standard =
      mergeClasses named standard := by
  have hwords : Text.words (Text.join " " (mergeClasses named standard)) =
      mergeClasses named standard := by
    apply Text.words_join
    intro c hc
    rcases List.mem_append.1 (Text.mem_distinct.1 hc) with hc | hc
    · exact Text.of_mem_words hc
    · exact hstandard c hc
  have hsubset : standard ⊆ mergeClasses named standard :=
    fun c hc => Text.mem_distinct.2 (List.mem_append_right _ hc)
  have hagain : mergeClasses (some (Text.join " " (mergeClasses named standard))) standard =
      Text.distinct (mergeClasses named standard ++ standard) := by
    rw [← congrArg (· ++ standard) hwords]
    rfl
  rw [hagain]
  exact Text.distinct_append_of_subset (Text.nodup_distinct _) hsubset

end Image

/-! ## Attributes that are set again -/

namespace Html

variable {name value : Text} {as bs : List Attribute} {settings : List (Text × Text)}

/-- Setting an attribute to the value that it has changes nothing. -/
lemma setAttribute_eq_self (h : attribute? name as = some value) :
    setAttribute name value as = as := by
  induction as with
  | nil => simp [attribute?] at h
  | cons a as ih =>
    unfold attribute? at h ih
    by_cases ha : a.isNamed name = true
    · rw [List.find?_cons_of_pos ha] at h
      have hvalue : a.value = some value := h
      rw [setAttribute, if_pos ha, ← hvalue]
    · rw [List.find?_cons_of_neg ha] at h
      rw [setAttribute, if_neg ha, ih h]

lemma setAll_eq_self (h : ∀ s ∈ settings, attribute? s.1 as = some s.2) :
    setAll settings as = as := by
  induction settings with
  | nil => rfl
  | cons s settings ih =>
    obtain ⟨hs, hsettings⟩ := List.forall_mem_cons.1 h
    have hstep : setAll (s :: settings) as = setAll settings (setAttribute s.1 s.2 as) := rfl
    rw [hstep, setAttribute_eq_self hs, ih hsettings]

/-- Attributes that were set have the values that were stated. -/
lemma SetsOnly.attribute?_eq (h : SetsOnly settings as bs) {s : Text × Text} (hs : s ∈ settings) :
    attribute? s.1 bs = some s.2 := by
  have hhead : bs.find? (·.isNamed s.1) = (bs.filter (·.isNamed s.1)).head? :=
    List.head?_filter.symm
  rw [attribute?, hhead, h.first s hs]
  cases as.filter (·.isNamed s.1) with
  | nil => rfl
  | cons a as => rfl

lemma SetsOnly.setAll_eq_self (h : SetsOnly settings as bs) : setAll settings bs = bs :=
  Html.setAll_eq_self fun _ hs => h.attribute?_eq hs

end Html

/-! ## Classes of links -/

namespace Link

lemma classesOver_classesOver (l : Link) (old : Text) :
    l.classesOver (l.classesOver old) = l.classesOver old := by
  have hsubset : Text.words l.cssClass ⊆ Text.distinct (Text.words old ++ Text.words l.cssClass) :=
    fun c hc => Text.mem_distinct.2 (List.mem_append_right _ hc)
  have hagain : l.classesOver (l.classesOver old) =
      Text.join " " (Text.distinct (Text.words (l.classesOver old) ++ Text.words l.cssClass)) := rfl
  rw [hagain, words_classesOver, Text.distinct_append_of_subset (Text.nodup_distinct _) hsubset]
  rfl

lemma attribute?_class_applyTo (l : Link) (as : List Attribute) :
    attribute? "class" (l.applyTo as) = some (l.classesOver (classList as)) := by
  rw [← classList_setHref l as]
  exact attribute?_setAttribute "class" _ _

/-- A link leaves alone the attributes that it has set. -/
lemma applyTo_applyTo (l : Link) (as : List Attribute) :
    l.applyTo (l.applyTo as) = l.applyTo as := by
  have hclasses : l.classesOver (classList (l.applyTo as)) = l.classesOver (classList as) := by
    have hlist : classList (l.applyTo as) = l.classesOver (classList as) := by
      rw [classList, attribute?_class_applyTo, Option.getD_some]
    rw [hlist, classesOver_classesOver]
  cases hhref : l.href with
  | some href =>
    rw [applyTo_of_href hhref (l.applyTo as), hclasses]
    exact (setsOnly_applyTo hhref).setAll_eq_self
  | none =>
    obtain ⟨hset, hnone⟩ := setsOnly_applyTo_disabled hhref as
    have hself : withoutHref (l.applyTo as) = l.applyTo as := by
      refine List.filter_eq_self.2 fun b hb => ?_
      rw [hnone b hb]
      rfl
    rw [applyTo_of_disabled hhref (l.applyTo as), hclasses, hself]
    exact hset.setAll_eq_self

end Link

/-! ## Both lists -/

/-- Classes are merged by one law.  In the class list of an image the words of the annotation come
first and the standard classes are merged into them; if the standard classes are words, the list
stays as it is when it is read and merged again.  A link merges its classes into those of the
attribute in the same way, and what it has set it does not change a second time. -/
theorem classes_areMerged (named : Option Text) (standard : List Text) (l : Link)
    (as : List Attribute) :
    (∃ stated, (∀ ws, Text.AreWords (named.getD []) ws ↔ ws = stated) ∧
      Text.AreMerged stated standard (Image.mergeClasses named standard)) ∧
    ((∀ c ∈ standard, c ≠ [] ∧ ∀ x ∈ c, Text.isBlank x = false) →
      Image.mergeClasses (some (Text.join " " (Image.mergeClasses named standard))) standard =
        Image.mergeClasses named standard) ∧
    (∃ old new merged, (∀ ws, Text.AreWords (classList as) ws ↔ ws = old) ∧
      (∀ ws, Text.AreWords l.cssClass ws ↔ ws = new) ∧ Text.AreMerged old new merged ∧
      attribute? "class" (l.applyTo as) = some (Text.join " " merged) ∧
      ∀ ws, Text.AreWords (Text.join " " merged) ws ↔ ws = merged) ∧
    l.applyTo (l.applyTo as) = l.applyTo as := by
  have hwords : Text.words (Text.join " " (Text.distinct
      (Text.words (classList as) ++ Text.words l.cssClass))) =
      Text.distinct (Text.words (classList as) ++ Text.words l.cssClass) :=
    l.words_classesOver (classList as)
  refine ⟨⟨_, fun _ => Text.areWords_iff, Text.areMerged_distinct _ standard⟩,
    Image.mergeClasses_join named, ?_, l.applyTo_applyTo as⟩
  refine ⟨_, _, _, fun _ => Text.areWords_iff, fun _ => Text.areWords_iff,
    Text.areMerged_distinct _ _, l.attribute?_class_applyTo as, fun ws => ?_⟩
  rw [Text.areWords_iff, hwords]

/-- The words of an annotation may stand between any blanks, and a standard class that it names is not
added. -/
theorem classes_areMerged_figure :
    (∀ c ∈ (["md-image", "wide"] : List Text), c ≠ [] ∧ ∀ x ∈ c, Text.isBlank x = false) ∧
    Image.mergeClasses (some "wide\u2003left  wide") ["md-image", "wide"] =
      (["wide", "left", "md-image"] : List Text) ∧
    Image.mergeClasses (some "wide left md-image") ["md-image", "wide"] =
      (["wide", "left", "md-image"] : List Text) := by
  have hmerged : Image.mergeClasses (some "wide\u2003left  wide") ["md-image", "wide"] =
      (["wide", "left", "md-image"] : List Text) := by decide
  have hstandard : ∀ c ∈ (["md-image", "wide"] : List Text),
      c ≠ [] ∧ ∀ x ∈ c, Text.isBlank x = false := by
    have hwords : Text.words "md-image wide" = (["md-image", "wide"] : List Text) := by decide
    rw [← hwords]
    exact fun _ hc => Text.of_mem_words hc
  have hagain := (classes_areMerged (some "wide\u2003left  wide") ["md-image", "wide"]
    (Link.error "" "link-wt") []).2.1 hstandard
  rw [hmerged] at hagain
  exact ⟨hstandard, hmerged, hagain⟩

end NoteLinks
