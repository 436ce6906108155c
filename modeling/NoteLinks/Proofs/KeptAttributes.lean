import NoteLinks.Proofs.Chains
import NoteLinks.Proofs.FragmentMeaning

/-!
# What a replaced anchor keeps

The anchor that begins a chain has the attributes of the anchor that stood there, apart from those
that the expansion states.  `SetsOnly` says what setting attributes by name may change: the first
attribute of each name that is set, and nothing else.  One attribute after the other can be set
(`SetsOnly.setAttribute`), as long as their names differ.

A link sets its address, its title and its classes (`Link.setsOnly_applyTo`), or, if it cannot be
followed, removes every address and marks the anchor as disabled (`Link.setsOnly_applyTo_disabled`).
The classes of a link are added to those that are there (`Link.addsClasses_classesOver`).  The
changes that an expansion makes are one of four (`Expansion.Changes`), and nothing else is changed
(`Expansion.write_changes`).
-/

namespace NoteLinks

open Html

/-! ## Lists of words -/

namespace Text

/-- The members of a list, each once and in the order in which they occur first. -/
structure InFirstOrder (ts us : List Text) : Prop where
  mem_iff : ∀ t, t ∈ us ↔ t ∈ ts
  ordered : us.Pairwise fun t u => ts.idxOf t < ts.idxOf u

lemma inFirstOrder_distinct (ts : List Text) : InFirstOrder ts (distinct ts) where
  mem_iff _ := mem_distinct
  ordered := pairwise_idxOf_distinct ts

end Text

/-! ## Attributes that are set -/

namespace Html

variable {name other value : Text} {as bs : List Attribute} {settings : List (Text × Text)}

/-- Attributes of one name, the first of which has got a value; where there was none, there is one
now. -/
def withFirst (name value : Text) : List Attribute → List Attribute
  | [] => [⟨name, some value⟩]
  | a :: as => { a with value := some value } :: as

/-- Some attributes were set: the settings state their names and their values. -/
structure SetsOnly (settings : List (Text × Text)) (as bs : List Attribute) : Prop where
  /-- The attributes of other names are kept, in their order and with their values. -/
  others : (bs.filter fun b => settings.all fun s => !b.isNamed s.1) =
    as.filter fun a => settings.all fun s => !a.isNamed s.1
  /-- Of the attributes of a name that is set only the first one may change. -/
  first : ∀ s ∈ settings,
    bs.filter (·.isNamed s.1) = withFirst s.1 s.2 (as.filter (·.isNamed s.1))
  /-- Every attribute keeps its place and the spelling of its name, and those that were absent stand
  at the end. -/
  names : bs.map Attribute.name = as.map Attribute.name ++
    (settings.filter fun s => !as.any (·.isNamed s.1)).map Prod.fst

/-- An attribute has the names that are equal to one of its names but for the letter case. -/
lemma isNamed_congr {a : Attribute} (ha : a.isNamed name = true) :
    a.isNamed other = Text.sameLetters other name := by
  simp only [Attribute.isNamed, Text.sameLetters, beq_iff_eq] at ha ⊢
  rw [ha, Bool.beq_comm]

/-- Where nothing is set nothing changes. -/
lemma setsOnly_nil (as : List Attribute) : SetsOnly [] as as where
  others := rfl
  first := by simp
  names := by simp

/-- Setting an attribute keeps every class of attributes to which none of its name belongs. -/
lemma filter_setAttribute {p : Attribute → Bool} (h : ∀ a, a.isNamed name = true → p a = false) :
    (setAttribute name value as).filter p = as.filter p := by
  have hself : ∀ v, Attribute.isNamed name ⟨name, v⟩ = true := fun v => by
    simp [Attribute.isNamed, Text.sameLetters]
  induction as with
  | nil =>
    have hnew : p ⟨name, some value⟩ = false := h _ (hself _)
    simp [setAttribute, hnew]
  | cons a as ih =>
    by_cases ha : a.isNamed name = true
    · have hold : p a = false := h a ha
      have hnew : p { a with value := some value } = false := h _ ha
      simp [setAttribute, ha, hold, hnew]
    · simp [setAttribute, ha, List.filter_cons, ih]

/-- Of the attributes of its own name it changes the first one. -/
lemma filter_setAttribute_self : (setAttribute name value as).filter (·.isNamed name) =
    withFirst name value (as.filter (·.isNamed name)) := by
  induction as with
  | nil => simp [setAttribute, withFirst, Attribute.isNamed, Text.sameLetters]
  | cons a as ih =>
    by_cases ha : a.isNamed name = true
    · have hnew : Attribute.isNamed name { a with value := some value } = true := ha
      simp [setAttribute, ha, hnew, withFirst]
    · simp [setAttribute, ha, ih]

/-- Setting an attribute keeps the names, and puts an absent one at the end. -/
lemma map_name_setAttribute : (setAttribute name value as).map Attribute.name =
    as.map Attribute.name ++ if as.any (·.isNamed name) then [] else [name] := by
  induction as with
  | nil => simp [setAttribute]
  | cons a as ih =>
    by_cases ha : a.isNamed name = true
    · simp [setAttribute, ha]
    · simp [setAttribute, ha, ih]

/-- What is set leaves the attributes of any further name as they were. -/
lemma SetsOnly.filter_eq (h : SetsOnly settings as bs)
    (hname : ∀ s ∈ settings, Text.sameLetters s.1 name = false) :
    bs.filter (·.isNamed name) = as.filter (·.isNamed name) := by
  have hother : ∀ a : Attribute, a.isNamed name = true →
      (settings.all fun s => !a.isNamed s.1) = true := by
    intro a ha
    rw [List.all_eq_true]
    intro s hs
    rw [isNamed_congr ha, hname s hs]
    rfl
  have hclass : ∀ l : List Attribute, l.filter (·.isNamed name) =
      (l.filter fun a => settings.all fun s => !a.isNamed s.1).filter (·.isNamed name) := by
    intro l
    rw [List.filter_filter]
    apply List.filter_congr
    intro a _
    by_cases ha : a.isNamed name = true
    · rw [ha, hother a ha]
      rfl
    · simp [ha]
  rw [hclass bs, h.others, ← hclass as]

/-- One more attribute can be set, if its name is another one. -/
lemma SetsOnly.setAttribute (h : SetsOnly settings as bs)
    (hname : ∀ s ∈ settings, Text.sameLetters s.1 name = false) (value : Text) :
    SetsOnly (settings ++ [(name, value)]) as (setAttribute name value bs) where
  others := by
    -- the attributes of other names are now those that have neither the new name nor an old one
    have hall : ∀ a : Attribute, ((settings ++ [(name, value)]).all fun s => !a.isNamed s.1) =
        (!a.isNamed name && settings.all fun s => !a.isNamed s.1) := by
      intro a
      rw [List.all_append, List.all_cons, List.all_nil, Bool.and_true, Bool.and_comm]
    simp only [hall]
    rw [filter_setAttribute fun a ha => by simp [ha], ← List.filter_filter, ← List.filter_filter,
      h.others]
  first := by
    refine List.forall_mem_append.2 ⟨fun s hs => ?_, List.forall_mem_singleton.2 ?_⟩
    · rw [filter_setAttribute fun a ha => by rw [isNamed_congr ha, hname s hs], h.first s hs]
    · rw [filter_setAttribute_self, h.filter_eq hname]
  names := by
    have hfilter : ∀ l : List Attribute,
        l.any (·.isNamed name) = (l.filter (·.isNamed name)).any (·.isNamed name) := fun l => by
      rw [List.any_filter]
      simp only [Bool.and_self]
    have hany : bs.any (·.isNamed name) = as.any (·.isNamed name) := by
      rw [hfilter bs, h.filter_eq hname, ← hfilter as]
    rw [map_name_setAttribute, h.names, hany, List.filter_append, List.map_append,
      List.append_assoc]
    by_cases habsent : as.any (·.isNamed name) = true
    · simp [habsent]
    · simp [habsent]

/-- Attributes with several of them set, one after the other. -/
def setAll (settings : List (Text × Text)) (as : List Attribute) : List Attribute :=
  settings.foldl (fun as s => Html.setAttribute s.1 s.2 as) as

/-- Settings change nothing but what they state, if their names differ in more than letter case. -/
lemma setsOnly_setAll
    (h : (settings.map Prod.fst).Pairwise fun n m => Text.sameLetters n m = false) :
    SetsOnly settings as (setAll settings as) := by
  induction settings using List.reverseRecOn with
  | nil => exact setsOnly_nil as
  | append_singleton settings s ih =>
    rw [List.map_append, List.pairwise_append] at h
    obtain ⟨hinit, -, hlast⟩ := h
    have hname : ∀ r ∈ settings, Text.sameLetters r.1 s.1 = false :=
      fun r hr => hlast r.1 (List.mem_map_of_mem hr) s.1 (by simp)
    rw [setAll, List.foldl_append]
    exact (ih hinit).setAttribute hname s.2

/-- Removing attributes leaves the value of those of other names as it is. -/
lemma attribute?_removeAttribute_of_ne (h : Text.sameLetters name other = false) :
    attribute? name (removeAttribute other as) = attribute? name as := by
  have hkept : (fun a : Attribute => decide ((!a.isNamed other) = true ∧ a.isNamed name = true)) =
      fun a => a.isNamed name := by
    funext a
    by_cases ha : a.isNamed other = true
    · have hname : a.isNamed name = Text.sameLetters name other := isNamed_congr ha
      rw [hname, h]
      simp
    · simp [ha]
  simp only [attribute?, removeAttribute, List.find?_filter]
  rw [hkept]

/-- The class list of attributes is the value of the first of that name. -/
def classList (as : List Attribute) : Text := (attribute? "class" as).getD []

/-- Attributes that are none of an address. -/
def withoutHref (as : List Attribute) : List Attribute := as.filter fun a => !a.isNamed "href"

/-- Setting attributes of other names adds no address. -/
lemma SetsOnly.isNamed_href (h : SetsOnly settings (withoutHref as) bs)
    (hhref : ∀ s ∈ settings, Text.sameLetters s.1 "href" = false) :
    ∀ b ∈ bs, b.isNamed "href" = false := by
  have hnone : bs.filter (·.isNamed "href") = [] := by
    rw [h.filter_eq hhref, withoutHref, List.filter_filter, List.filter_eq_nil_iff]
    simp
  intro b hb
  simpa using List.filter_eq_nil_iff.1 hnone b hb

end Html

/-! ## Attributes of links -/

namespace Link

variable {l : Link} {as : List Attribute} {href : Text}

/-- The classes of a link are added to a class list: each word is kept once, where it occurs first,
and the words are written with spaces between them. -/
structure AddsClasses (l : Link) (old new : Text) : Prop where
  inOrder : Text.InFirstOrder (Text.words old ++ Text.words l.cssClass) (Text.words new)
  spaced : new = Text.join " " (Text.words new)

lemma words_classesOver (l : Link) (old : Text) : Text.words (l.classesOver old) =
    Text.distinct (Text.words old ++ Text.words l.cssClass) := by
  apply Text.words_join
  intro w hw
  rcases List.mem_append.1 (Text.mem_distinct.1 hw) with hw | hw
  · exact Text.of_mem_words hw
  · exact Text.of_mem_words hw

lemma addsClasses_classesOver (l : Link) (old : Text) : l.AddsClasses old (l.classesOver old) where
  inOrder := by
    rw [words_classesOver]
    exact Text.inFirstOrder_distinct _
  spaced := by
    rw [words_classesOver]
    rfl

/-- Setting address and title leaves the class list as it is. -/
lemma classList_setHref (l : Link) (as : List Attribute) :
    classList (setAttribute "title" l.title (l.setHref as)) = classList as := by
  unfold classList setHref
  rw [attribute?_setAttribute_of_ne (by decide)]
  split
  · rw [attribute?_setAttribute_of_ne (by decide)]
  · rw [attribute?_setAttribute_of_ne (by decide), attribute?_setAttribute_of_ne (by decide),
      attribute?_removeAttribute_of_ne (by decide)]

/-- The settings of a link that leads to an address. -/
def settings (l : Link) (href classes : Text) : List (Text × Text) :=
  [("href", href), ("title", l.title), ("class", classes)]

/-- The settings of a link that cannot be followed. -/
def disabledSettings (l : Link) (classes : Text) : List (Text × Text) :=
  [("role", "link"), ("aria-disabled", "true"), ("title", l.title), ("class", classes)]

lemma applyTo_of_href (h : l.href = some href) (as : List Attribute) :
    l.applyTo as = setAll (l.settings href (l.classesOver (classList as))) as := by
  rw [applyTo, ← classList_setHref l as, setHref, h]
  rfl

lemma applyTo_of_disabled (h : l.href = none) (as : List Attribute) :
    l.applyTo as =
      setAll (l.disabledSettings (l.classesOver (classList as))) (withoutHref as) := by
  rw [applyTo, ← classList_setHref l as, setHref, h]
  rfl

/-- The attributes of a link that can be followed are address, title and classes. -/
lemma setsOnly_applyTo (h : l.href = some href) :
    SetsOnly (l.settings href (l.classesOver (classList as))) as (l.applyTo as) := by
  have hnames : (["href", "title", "class"] : List Text).Pairwise
      fun n m => Text.sameLetters n m = false := by decide
  rw [applyTo_of_href h]
  exact setsOnly_setAll hnames

/-- Those of a link that cannot be followed are its title, its classes and what marks it as
disabled; there is no address among them. -/
lemma setsOnly_applyTo_disabled (h : l.href = none) (as : List Attribute) :
    SetsOnly (l.disabledSettings (l.classesOver (classList as))) (withoutHref as) (l.applyTo as) ∧
      ∀ b ∈ l.applyTo as, b.isNamed "href" = false := by
  have hnames : (["role", "aria-disabled", "title", "class"] : List Text).Pairwise
      fun n m => Text.sameLetters n m = false := by decide
  have hhref : ∀ n ∈ (["role", "aria-disabled", "title", "class"] : List Text),
      Text.sameLetters n "href" = false := by decide
  have hsets : SetsOnly (l.disabledSettings (l.classesOver (classList as))) (withoutHref as)
      (l.applyTo as) := applyTo_of_disabled h as ▸ setsOnly_setAll hnames
  refine ⟨hsets, hsets.isNamed_href fun s hs => hhref s.1 ?_⟩
  exact List.mem_map_of_mem hs

end Link

/-! ## The first anchor of a chain -/

namespace Expansion

/-- What an expansion makes of the attributes of the anchor in whose place it is written. -/
inductive Changes (e : Expansion) (as bs : List Attribute) : Prop
  /-- The first link can be followed. -/
  | leads {l : Link} {href classes : Text} (hfirst : e.replacement = some l)
      (hhref : l.href = some href) (hclasses : l.AddsClasses (classList as) classes)
      (hsets : SetsOnly (l.settings href classes) as bs)
  /-- The first link cannot be followed, so no address is left. -/
  | disables {l : Link} {classes : Text} (hfirst : e.replacement = some l) (hhref : l.href = none)
      (hclasses : l.AddsClasses (classList as) classes)
      (hsets : SetsOnly (l.disabledSettings classes) (withoutHref as) bs)
      (hnone : ∀ b ∈ bs, b.isNamed "href" = false)
  /-- No key is recognized, and the address loses its annotation. -/
  | shortens (hfirst : e.replacement = none) (hbase : e.base ≠ [])
      (hsets : SetsOnly [("href", e.base)] as bs)
  /-- No key is recognized, and nothing is left of the address. -/
  | removes (hfirst : e.replacement = none) (hbase : e.base = []) (heq : bs = withoutHref as)

/-- The first attributes of a chain differ from the author's in what the expansion changes. -/
lemma changes_leadingAttributes (e : Expansion) (as : List Attribute) :
    e.Changes as (e.leadingAttributes as) := by
  unfold leadingAttributes
  split
  · rename_i l hfirst
    cases hhref : l.href with
    | some href =>
      exact .leads hfirst hhref (l.addsClasses_classesOver _) (Link.setsOnly_applyTo hhref)
    | none =>
      obtain ⟨hsets, hnone⟩ := Link.setsOnly_applyTo_disabled hhref as
      exact .disables hfirst hhref (l.addsClasses_classesOver _) hsets hnone
  · rename_i hfirst
    by_cases hbase : e.base = []
    · exact .removes hfirst hbase (if_pos hbase)
    · have hsets : SetsOnly [("href", e.base)] as (unannotated e.base as) := by
        rw [unannotated, if_neg hbase]
        exact setsOnly_setAll (List.pairwise_singleton _ _)
      exact .shortens hfirst hbase hsets

/-- The chain that is written in the place of an anchor begins with an anchor that has its content
and its attributes, apart from what the expansion changes; the anchors behind it are those of
further links. -/
theorem write_changes (e : Expansion) (as : List Attribute) (content : Text) :
    ∃ bs, e.Changes as bs ∧
      e.write as content = writeAnchor bs content ++ e.followers.flatMap Link.writeSibling := by
  refine ⟨e.leadingAttributes as, e.changes_leadingAttributes as, ?_⟩
  unfold leadingAttributes followers write
  cases e.replacement with
  | some first => rfl
  | none => rfl

/-- Both addresses go, the title keeps its place, and what marks the anchor comes last. -/
example :
    (Link.error "T" "link-wt").applyTo
        [⟨"HREF", some "a"⟩, ⟨"Title", none⟩, ⟨"download", none⟩, ⟨"href", some "b"⟩,
          ⟨"title", some "c"⟩] =
      [⟨"Title", some "T"⟩, ⟨"download", none⟩, ⟨"title", some "c"⟩, ⟨"role", some "link"⟩,
        ⟨"aria-disabled", some "true"⟩, ⟨"class", some "link-error link-wt"⟩] := by
  decide

end Expansion

end NoteLinks
