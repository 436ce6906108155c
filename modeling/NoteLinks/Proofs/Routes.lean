import NoteLinks.Link.Expansion
import NoteLinks.Proofs.Cutting
import NoteLinks.Proofs.Percent

/-!
# Addresses of records

A route is a template in which each brace begins a place for the site, the tree, the type or the
identifier.  Its places are filled one after the other.  `fillPlaces` fills them all at once, and
the two agree as long as no text that is filled in has a brace (`replaceEach_eq_fillPlaces`): what
one step writes is then no place for a later step.

Under the initial routes the address of a record ends in the segments for its tree, its type and its
identifier, whatever the site is (`href_recordLink`).  The texts between the slashes hold no slash,
so the segments are read back from the address, and with them the record (`append_segments_inj`).
-/

namespace NoteLinks

/-! ## Places -/

/-- The places of a template. -/
inductive RoutePlace where
  | site
  | tree
  | type
  | xref
deriving DecidableEq, Repr

namespace RoutePlace

variable {place other : RoutePlace} {t a b : Text} {c : Char}

/-- How a place is written. -/
def mark : RoutePlace → Text
  | site => "{site}"
  | tree => "{tree}"
  | type => "{type}"
  | xref => "{xref}"

def all : List RoutePlace := [site, tree, type, xref]

/-- The place that a text begins with, and the text behind it. -/
def first? (t : Text) : Option (RoutePlace × Text) :=
  all.findSome? fun place => (Text.after? place.mark t).map (place, ·)

lemma mark_eq_cons (place : RoutePlace) : ∃ ms, place.mark = '{' :: ms ∧ '{' ∉ ms := by
  cases place <;> exact ⟨_, rfl, by decide⟩

lemma getLast?_mark (place : RoutePlace) : place.mark.getLast? = some '}' := by
  cases place <;> rfl

lemma slash_not_mem_mark (place : RoutePlace) : '/' ∉ place.mark := by
  cases place <;> decide

lemma length_mark (place : RoutePlace) : place.mark.length = 6 := by
  cases place <;> rfl

/-- The mark tells the place. -/
lemma eq_of_mark_eq (h : place.mark = other.mark) : place = other := by
  revert h
  cases place <;> cases other <;> decide

lemma eq_of_mark_prefix (h : place.mark <+: t) (h' : other.mark <+: t) : place = other := by
  have hlength : place.mark.length = other.mark.length := by
    rw [length_mark, length_mark]
  exact eq_of_mark_eq ((List.prefix_of_prefix_length_le h h' (Nat.le_of_eq hlength)).eq_of_length hlength)

lemma first?_mark_append (place : RoutePlace) (t : Text) :
    first? (place.mark ++ t) = some (place, t) := by
  cases place <;> rfl

lemma first?_cons (hc : c ≠ '{') (t : Text) : first? (c :: t) = none := by
  rw [first?, List.findSome?_eq_none_iff]
  intro place _
  obtain ⟨ms, hmark, -⟩ := place.mark_eq_cons
  rw [hmark, Text.after?, if_neg (Ne.symm hc)]
  rfl

/-- The text behind a place is shorter. -/
lemma length_of_first? {rest : Text} (h : first? t = some (place, rest)) :
    rest.length < t.length := by
  obtain ⟨p, -, hp⟩ := List.exists_of_findSome?_eq_some h
  obtain ⟨r, hr, heq⟩ := Option.map_eq_some_iff.1 hp
  obtain ⟨rfl, rfl⟩ := Prod.mk.inj heq
  obtain ⟨ms, hmark, -⟩ := p.mark_eq_cons
  rw [Text.after?_eq_some_iff.1 hr, hmark, List.length_append, List.length_cons]
  omega

end RoutePlace

/-- The text with all its places filled at once. -/
def fillPlaces (texts : RoutePlace → Text) : Text → Text
  | [] => []
  | c :: t =>
    match _h : RoutePlace.first? (c :: t) with
    | some (place, rest) => texts place ++ fillPlaces texts rest
    | none => c :: fillPlaces texts t
termination_by t => t.length
decreasing_by
  · exact RoutePlace.length_of_first? _h
  · simp

section FillPlaces

variable {texts : RoutePlace → Text} {t : Text} {c : Char}

lemma fillPlaces_nil : fillPlaces texts [] = [] := by
  rw [fillPlaces]

/-- A character other than a brace stays. -/
lemma fillPlaces_cons (hc : c ≠ '{') (t : Text) :
    fillPlaces texts (c :: t) = c :: fillPlaces texts t := by
  rw [fillPlaces]
  split
  · rename_i hfirst
    rw [RoutePlace.first?_cons hc] at hfirst
    exact absurd hfirst (by simp)
  · rfl

/-- A place gives way to its text. -/
lemma fillPlaces_mark_append (place : RoutePlace) (t : Text) :
    fillPlaces texts (place.mark ++ t) = texts place ++ fillPlaces texts t := by
  have hfirst := place.first?_mark_append t
  obtain ⟨ms, hmark, -⟩ := place.mark_eq_cons
  rw [hmark, List.cons_append] at hfirst ⊢
  rw [fillPlaces]
  split
  · rename_i hsome
    obtain ⟨rfl, rfl⟩ := Prod.mk.inj (Option.some.inj (hsome.symm.trans hfirst))
    rfl
  · rename_i hnone
    exact absurd (hnone.symm.trans hfirst) (by simp)

end FillPlaces

/-! ## Templates -/

/-- Each brace of the text begins a place. -/
def IsTemplate (t : Text) : Prop :=
  ∀ front back, t = front ++ '{' :: back → ∃ place : RoutePlace, place.mark <+: '{' :: back

section Templates

variable {place : RoutePlace} {t a b new : Text}

lemma isTemplate_of_not_mem (h : '{' ∉ t) : IsTemplate t := by
  rintro front back rfl
  exact absurd (by simp) h

/-- A place is a template. -/
lemma isTemplate_mark (place : RoutePlace) : IsTemplate place.mark := by
  obtain ⟨ms, hmark, hms⟩ := place.mark_eq_cons
  intro front back heq
  cases front with
  | nil => exact ⟨place, heq ▸ List.prefix_refl _⟩
  | cons x front =>
    rw [hmark, List.cons_append] at heq
    exact absurd (by simp [(List.cons.inj heq).2]) hms

/-- Templates one after the other are a template. -/
lemma IsTemplate.append (ha : IsTemplate a) (hb : IsTemplate b) : IsTemplate (a ++ b) := by
  intro front back heq
  rcases List.append_eq_append_iff.1 heq with ⟨c, -, hrest⟩ | ⟨c, hrest, hback⟩
  · exact hb c back hrest
  · cases c with
    | nil => exact hb [] back (by simpa using hback.symm)
    | cons x c =>
      obtain ⟨rfl, rfl⟩ := List.cons.inj hback
      obtain ⟨place, hplace⟩ := ha front c hrest
      exact ⟨place, hplace.trans (List.prefix_append _ b)⟩

lemma IsTemplate.of_append (h : IsTemplate (a ++ b)) : IsTemplate b := by
  intro front back heq
  exact h (a ++ front) back (by rw [heq, List.append_assoc])

/-- A template is read character by character and place by place. -/
@[elab_as_elim]
lemma IsTemplate.induction {motive : (t : Text) → IsTemplate t → Prop}
    (nil : ∀ h, motive [] h)
    (char : ∀ c t h, c ≠ '{' → (ht : IsTemplate t) → motive t ht → motive (c :: t) h)
    (mark : ∀ (place : RoutePlace) t h, (ht : IsTemplate t) → motive t ht →
      motive (place.mark ++ t) h)
    {t : Text} (h : IsTemplate t) : motive t h := by
  -- by induction on the length, since a mark has several characters
  induction hlength : t.length using Nat.strongRecOn generalizing t with
  | ind n ih =>
    cases t with
    | nil => exact nil h
    | cons c t =>
      by_cases hc : c = '{'
      · obtain ⟨place, rest, heq⟩ := h [] t (by rw [hc]; rfl)
        obtain ⟨ms, hmark, -⟩ := place.mark_eq_cons
        have hsame : c :: t = place.mark ++ rest := by rw [hc, heq]
        have hshort : rest.length < n := by
          rw [← hlength, hsame, hmark, List.length_append, List.length_cons]
          omega
        have hrest : IsTemplate rest := (hsame ▸ h).of_append
        revert h
        rw [hsame]
        exact fun h => mark place rest h hrest (ih rest.length hshort hrest rfl)
      · have ht : IsTemplate t := IsTemplate.of_append (a := [c]) h
        exact char c t h hc ht (ih t.length (by simp [← hlength]) ht rfl)

/-- A template whose places are filled with their own marks is left as it is. -/
lemma fillPlaces_mark (h : IsTemplate t) : fillPlaces RoutePlace.mark t = t := by
  induction h using IsTemplate.induction with
  | nil => rw [fillPlaces_nil]
  | char c t _ hc _ ih => rw [fillPlaces_cons hc, ih]
  | mark place t _ _ ih => rw [fillPlaces_mark_append, ih]

lemma fillPlaces_append {texts : RoutePlace → Text} (h : IsTemplate a) (b : Text) :
    fillPlaces texts (a ++ b) = fillPlaces texts a ++ fillPlaces texts b := by
  induction h using IsTemplate.induction with
  | nil => rw [fillPlaces_nil, List.nil_append, List.nil_append]
  | char c t _ hc _ ih => rw [List.cons_append, fillPlaces_cons hc, fillPlaces_cons hc, ih]; rfl
  | mark place t _ _ ih =>
    rw [List.append_assoc, fillPlaces_mark_append, fillPlaces_mark_append, ih, List.append_assoc]

/-! ## Filling one place after the other -/

lemma replaceAll_of_not_mem (h : '{' ∉ t) : Text.replaceAll place.mark new t = t := by
  obtain ⟨ms, hmark, -⟩ := place.mark_eq_cons
  rw [hmark]
  refine Text.replaceAll_eq_self fun hpart => ?_
  exact h (hpart.subset List.mem_cons_self)

/-- The mark of a place is replaced if it is the place to be filled. -/
lemma replaceAll_mark (place other : RoutePlace) (new : Text) :
    Text.replaceAll place.mark new other.mark = if place = other then new else other.mark := by
  obtain ⟨ms, hmark, -⟩ := place.mark_eq_cons
  split
  · rename_i heq
    have hreplace : Text.replaceAll ('{' :: ms) new ('{' :: ms ++ []) =
        new ++ Text.replaceAll ('{' :: ms) new [] := Text.replaceAll_mark_append new []
    rw [Text.replaceAll_eq_self (t := []) (by simp)] at hreplace
    rw [← heq, hmark]
    simpa using hreplace
  · rename_i hne
    rw [hmark]
    refine Text.replaceAll_eq_self fun hpart => hne ?_
    rw [← hmark] at hpart
    exact RoutePlace.eq_of_mark_eq
      (hpart.eq_of_length (by rw [RoutePlace.length_mark, RoutePlace.length_mark]))

/-- No place begins in a template and ends behind it. -/
lemma replaceAll_append_of_isTemplate (h : IsTemplate a) :
    Text.replaceAll place.mark new (a ++ b) =
      Text.replaceAll place.mark new a ++ Text.replaceAll place.mark new b := by
  obtain ⟨ms, hmark, -⟩ := place.mark_eq_cons
  rw [hmark]
  refine Text.replaceAll_append fun s hs hbegins => ?_
  cases s with
  | nil => exact Or.inl rfl
  | cons x s =>
    obtain ⟨front, rfl⟩ := hs
    obtain rfl : x = '{' := by
      rw [List.cons_append, List.cons_prefix_cons] at hbegins
      exact hbegins.1.symm
    -- the brace begins a place within the template, and no other place begins with it
    obtain ⟨other, hother⟩ := h front s rfl
    rw [← hmark] at hbegins
    obtain rfl := RoutePlace.eq_of_mark_prefix hbegins (hother.trans (List.prefix_append _ b))
    exact Or.inr (hmark ▸ hother)

/-- A place or a text that fills one. -/
def IsOpenOrFilled (place : RoutePlace) (t : Text) : Prop := t = place.mark ∨ '{' ∉ t

lemma IsOpenOrFilled.isTemplate (h : IsOpenOrFilled place t) : IsTemplate t := by
  rcases h with rfl | h
  · exact isTemplate_mark place
  · exact isTemplate_of_not_mem h

/-- Filling a place of a template that is filled in part is filling it in each place. -/
lemma replaceAll_fillPlaces {texts : RoutePlace → Text} (htexts : ∀ p, IsTemplate (texts p))
    (h : IsTemplate t) :
    Text.replaceAll place.mark new (fillPlaces texts t) =
      fillPlaces (fun p => Text.replaceAll place.mark new (texts p)) t := by
  induction h using IsTemplate.induction with
  | nil => rw [fillPlaces_nil, fillPlaces_nil, replaceAll_of_not_mem (by simp)]
  | char c t _ hc _ ih =>
    obtain ⟨ms, hmark, -⟩ := place.mark_eq_cons
    have hnot : ¬ ('{' :: ms) <+: c :: fillPlaces texts t :=
      fun hbegins => hc (List.cons_prefix_cons.1 hbegins).1.symm
    rw [fillPlaces_cons hc, fillPlaces_cons hc, hmark, Text.replaceAll_cons hnot, ← hmark, ih]
  | mark other t _ _ ih =>
    rw [fillPlaces_mark_append, fillPlaces_mark_append,
      replaceAll_append_of_isTemplate (htexts other), ih]

/-- The text with places filled one after the other. -/
def replaceEach (es : List (RoutePlace × Text)) (t : Text) : Text :=
  es.foldl (fun t e => Text.replaceAll e.1.mark e.2 t) t

variable {es : List (RoutePlace × Text)}

lemma replaceEach_of_not_mem (h : '{' ∉ t) : replaceEach es t = t := by
  induction es with
  | nil => rfl
  | cons e es ih =>
    rw [replaceEach, List.foldl_cons, replaceAll_of_not_mem h]
    exact ih

/-- A place is filled with the first text for it. -/
lemma replaceEach_mark (hes : ∀ e ∈ es, '{' ∉ e.2) (place : RoutePlace) :
    replaceEach es place.mark = (es.lookup place).getD place.mark := by
  induction es with
  | nil => rfl
  | cons e es ih =>
    obtain ⟨he, hes⟩ := List.forall_mem_cons.1 hes
    rw [replaceEach, List.foldl_cons, replaceAll_mark, List.lookup_cons]
    by_cases heq : e.1 = place
    · have hbeq : (place == e.1) = true := by simp [heq]
      rw [if_pos heq, hbeq, ← replaceEach, replaceEach_of_not_mem he]
      rfl
    · have hbeq : (place == e.1) = false := by simpa using Ne.symm heq
      rw [if_neg heq, hbeq]
      exact ih hes

/-- Filling places one after the other fills each place of a template on its own. -/
lemma replaceEach_fillPlaces {texts : RoutePlace → Text} (hes : ∀ e ∈ es, '{' ∉ e.2)
    (htexts : ∀ p, IsOpenOrFilled p (texts p)) (h : IsTemplate t) :
    replaceEach es (fillPlaces texts t) = fillPlaces (fun p => replaceEach es (texts p)) t := by
  induction es generalizing texts with
  | nil => rfl
  | cons e es ih =>
    obtain ⟨he, hes⟩ := List.forall_mem_cons.1 hes
    have hstep : ∀ p, IsOpenOrFilled p (Text.replaceAll e.1.mark e.2 (texts p)) := by
      intro p
      rcases htexts p with hopen | hfilled
      · rw [hopen, replaceAll_mark]
        split
        · exact Or.inr he
        · exact Or.inl rfl
      · rw [replaceAll_of_not_mem hfilled]
        exact Or.inr hfilled
    rw [replaceEach, List.foldl_cons, replaceAll_fillPlaces (fun p => (htexts p).isTemplate) h]
    exact ih hes hstep

/-- Filling the places of a template one after the other is filling them at once. -/
lemma replaceEach_eq_fillPlaces (hes : ∀ e ∈ es, '{' ∉ e.2) (h : IsTemplate t) :
    replaceEach es t = fillPlaces (fun p => (es.lookup p).getD p.mark) t := by
  have hfill := replaceEach_fillPlaces hes (fun p => Or.inl rfl) h
  rw [fillPlaces_mark h] at hfill
  rw [hfill]
  exact congrArg (fillPlaces · t) (funext (replaceEach_mark hes))

/-- Places of templates that stand one after the other are filled one after the other. -/
lemma replaceEach_append (hes : ∀ e ∈ es, '{' ∉ e.2) (ha : IsTemplate a) (hb : IsTemplate b) :
    replaceEach es (a ++ b) = replaceEach es a ++ replaceEach es b := by
  rw [replaceEach_eq_fillPlaces hes (ha.append hb), fillPlaces_append ha,
    replaceEach_eq_fillPlaces hes ha, replaceEach_eq_fillPlaces hes hb]

end Templates

/-! ## Segments -/

section Segments

variable {α : Type} {x : α} {a b a' b' : List α}

/-- The last segment of a list and what stands before it are known from the list. -/
lemma append_cons_inj (hb : x ∉ b) (hb' : x ∉ b') (h : a ++ x :: b = a' ++ x :: b') :
    a = a' ∧ b = b' := by
  rcases List.append_eq_append_iff.1 h with ⟨c, rfl, hc⟩ | ⟨c, rfl, hc⟩
  · cases c with
    | nil => exact ⟨by simp, by simpa using hc⟩
    | cons y c =>
      rw [List.cons_append] at hc
      obtain ⟨-, rfl⟩ := List.cons.inj hc
      exact absurd (by simp) hb
  · cases c with
    | nil => exact ⟨by simp, by simpa using hc.symm⟩
    | cons y c =>
      rw [List.cons_append] at hc
      obtain ⟨-, rfl⟩ := List.cons.inj hc
      exact absurd (by simp) hb'

end Segments

/-- The segment for a kind can stand in an address, and it is not that of interactive trees. -/
lemma RecordKind.segment_spec (kind : RecordKind) : '{' ∉ kind.segment ∧ '/' ∉ kind.segment ∧
    '#' ∉ kind.segment ∧ kind.segment ≠ "interactive-tree" := by
  cases kind <;> decide

namespace LinkContext

variable {cx : LinkContext} {template tree xref : Text} {kind : RecordKind}

/-! ## Addresses -/

/-- What a route is filled with. -/
def placeText (cx : LinkContext) (tree : Text) (kind : RecordKind) (xref : Text) :
    RoutePlace → Text
  | .site => cx.settings.siteUrl
  | .tree => Percent.encode tree
  | .type => kind.segment
  | .xref => Percent.encode xref

/-- The texts for the places of a record, in the order in which they are filled in. -/
def recordPlaces (tree : Text) (kind : RecordKind) (xref : Text) : List (RoutePlace × Text) :=
  [(.tree, Percent.encode tree), (.type, kind.segment), (.xref, Percent.encode xref)]

lemma brace_not_mem_recordPlaces (tree : Text) (kind : RecordKind) (xref : Text) :
    ∀ e ∈ recordPlaces tree kind xref, '{' ∉ e.2 := by
  have hencode : ∀ t, '{' ∉ Percent.encode t := Percent.not_mem_encode (by decide) (by decide)
  simp [recordPlaces, hencode, kind.segment_spec.1]

/-- The places of a route are filled one after the other. -/
lemma route_eq_replaceEach (cx : LinkContext) (template tree : Text) (kind : RecordKind)
    (xref : Text) : cx.route template tree kind xref =
      replaceEach ((.site, cx.settings.siteUrl) :: recordPlaces tree kind xref) template := rfl

/-- The places of a route are filled as if at once, if the site has no brace. -/
lemma route_eq_fillPlaces (hsite : '{' ∉ cx.settings.siteUrl) (h : IsTemplate template) :
    cx.route template tree kind xref = fillPlaces (cx.placeText tree kind xref) template := by
  have hes : ∀ e ∈ (RoutePlace.site, cx.settings.siteUrl) :: recordPlaces tree kind xref,
      '{' ∉ e.2 :=
    List.forall_mem_cons.2 ⟨hsite, brace_not_mem_recordPlaces tree kind xref⟩
  rw [route_eq_replaceEach, replaceEach_eq_fillPlaces hes h]
  refine congrArg (fillPlaces · template) (funext fun place => ?_)
  cases place <;> rfl

/-- Filling a place does not reach across the word for trees. -/
lemma replaceAll_append_tree (place : RoutePlace) (new a b : Text) :
    Text.replaceAll place.mark new (a ++ ("tree/" ++ b)) =
      Text.replaceAll place.mark new a ++ ("tree/" ++ Text.replaceAll place.mark new b) := by
  obtain ⟨ms, hmark, -⟩ := place.mark_eq_cons
  have hbehind : Text.replaceAll place.mark new (("tree/" : Text) ++ b) =
      ("tree/" : Text) ++ Text.replaceAll place.mark new b := by
    rw [hmark]
    exact Text.replaceAll_append_of_not_mem (by decide) b
  rw [← hbehind, hmark]
  refine Text.replaceAll_append fun s _ hbegins => ?_
  rw [← hmark] at hbegins ⊢
  rcases List.prefix_or_prefix_of_prefix hbegins (List.prefix_append s _) with h | ⟨y, hy⟩
  · exact Or.inr h
  · -- the rest of the mark would begin the word, but it ends in a brace and has no slash
    rw [← hy, List.prefix_append_right_inj] at hbegins
    rcases List.eq_nil_or_concat' y with rfl | ⟨z, last, rfl⟩
    · exact Or.inr ⟨[], by rw [← hy, List.append_nil, List.append_nil]⟩
    · obtain rfl : last = '}' := by
        have hlast := place.getLast?_mark
        rw [← hy, ← List.append_assoc, List.getLast?_concat] at hlast
        exact Option.some.inj hlast
      rcases List.prefix_or_prefix_of_prefix hbegins (List.prefix_append _ b) with h | h
      · have hmem : '}' ∈ ("tree/" : Text) := h.subset (by simp)
        exact absurd hmem (by decide)
      · have hmem : '/' ∈ place.mark := by
          rw [← hy]
          exact List.mem_append_right s (h.subset (by decide))
        exact absurd hmem place.slash_not_mem_mark

/-- Filling places one after the other does not reach across the word for trees. -/
lemma replaceEach_append_tree (es : List (RoutePlace × Text)) (a b : Text) :
    replaceEach es (a ++ ("tree/" ++ b)) = replaceEach es a ++ ("tree/" ++ replaceEach es b) := by
  induction es generalizing a b with
  | nil => rfl
  | cons e es ih =>
    rw [replaceEach, List.foldl_cons, replaceAll_append_tree]
    exact ih _ _

/-- The settings have the initial routes. -/
structure HasInitialRoutes (cx : LinkContext) : Prop where
  recordRoute : cx.settings.recordRoute = Settings.initial.recordRoute
  diagramRoute : cx.settings.diagramRoute = Settings.initial.diagramRoute

/-- What the site contributes to the addresses of a record. -/
def siteOf (cx : LinkContext) (c : CrossReference) : Text :=
  replaceEach (recordPlaces (cx.treeOf c) c.kind c.xref) cx.settings.siteUrl

/-- A site without a brace contributes its address. -/
lemma siteOf_eq (h : '{' ∉ cx.settings.siteUrl) (c : CrossReference) :
    cx.siteOf c = cx.settings.siteUrl := replaceEach_of_not_mem h

/-- The segments of an address behind the site. -/
def segments (tree middle xref : Text) : Text :=
  "tree/" ++ (Percent.encode tree ++ '/' :: (middle ++ '/' :: Percent.encode xref))

/-- What stands behind the word for trees in a route: places for the tree and the record, with
something between them. -/
def routeTail (middle : Text) : Text :=
  RoutePlace.tree.mark ++ ("/" ++ (middle ++ ("/" ++ RoutePlace.xref.mark)))

/-- The places there are filled with the segments of the tree and the record. -/
lemma replaceEach_routeTail {middle : Text} (hmiddle : IsTemplate middle) (tree : Text)
    (kind : RecordKind) (xref : Text) :
    "tree/" ++ replaceEach (recordPlaces tree kind xref) (routeTail middle) =
      segments tree (replaceEach (recordPlaces tree kind xref) middle) xref := by
  have hes := brace_not_mem_recordPlaces tree kind xref
  have hbrace : '{' ∉ ("/" : Text) := by decide
  have hslash : IsTemplate ("/" : Text) := isTemplate_of_not_mem hbrace
  have hlast := hslash.append (isTemplate_mark .xref)
  have hrest := hslash.append (hmiddle.append hlast)
  rw [routeTail, replaceEach_append hes (isTemplate_mark _) hrest,
    replaceEach_append hes hslash (hmiddle.append hlast), replaceEach_append hes hmiddle hlast,
    replaceEach_append hes hslash (isTemplate_mark _), replaceEach_of_not_mem hbrace,
    replaceEach_mark hes, replaceEach_mark hes]
  rfl

/-- No place for the site stands there, if there is none in the middle. -/
lemma replaceAll_site_routeTail {middle site : Text} (hmiddle : IsTemplate middle)
    (hsite : Text.replaceAll RoutePlace.site.mark site middle = middle) :
    Text.replaceAll RoutePlace.site.mark site ("tree/" ++ routeTail middle) =
      "tree/" ++ routeTail middle := by
  have hslash : '{' ∉ ("/" : Text) := by decide
  have htree : '{' ∉ ("tree/" : Text) := by decide
  rw [routeTail, replaceAll_append_of_isTemplate (isTemplate_of_not_mem htree),
    replaceAll_append_of_isTemplate (isTemplate_mark _),
    replaceAll_append_of_isTemplate (isTemplate_of_not_mem hslash),
    replaceAll_append_of_isTemplate hmiddle,
    replaceAll_append_of_isTemplate (isTemplate_of_not_mem hslash), replaceAll_of_not_mem htree,
    replaceAll_of_not_mem hslash, replaceAll_mark, replaceAll_mark, hsite]
  rfl

/-- The address under a route consists of the site and the segments for the tree, for what stands in
the middle, and for the identifier. -/
lemma route_eq_siteOf_append {middle : Text} (hmiddle : IsTemplate middle)
    (hsite : Text.replaceAll RoutePlace.site.mark cx.settings.siteUrl middle = middle)
    (c : CrossReference) :
    cx.route (RoutePlace.site.mark ++ ("tree/" ++ routeTail middle)) (cx.treeOf c) c.kind c.xref =
      cx.siteOf c ++ segments (cx.treeOf c)
        (replaceEach (recordPlaces (cx.treeOf c) c.kind c.xref) middle) c.xref := by
  have hfirst : Text.replaceAll RoutePlace.site.mark cx.settings.siteUrl
      (RoutePlace.site.mark ++ ("tree/" ++ routeTail middle)) =
        cx.settings.siteUrl ++ ("tree/" ++ routeTail middle) := by
    rw [replaceAll_append_of_isTemplate (isTemplate_mark _), replaceAll_mark, if_pos rfl,
      replaceAll_site_routeTail hmiddle hsite]
  rw [route_eq_replaceEach, replaceEach, List.foldl_cons, hfirst, ← replaceEach,
    replaceEach_append_tree, replaceEach_routeTail hmiddle]
  rfl

/-- The address of a record consists of the site and the segments for its tree, its type and its
identifier. -/
lemma href_recordLink (h : cx.HasInitialRoutes) (p : Provider) (c : CrossReference) :
    (cx.recordLink p c).href =
      some (cx.siteOf c ++ segments (cx.treeOf c) c.kind.segment c.xref) := by
  have hroute : cx.settings.recordRoute =
      RoutePlace.site.mark ++ ("tree/" ++ routeTail RoutePlace.type.mark) :=
    h.recordRoute.trans (by decide)
  have hsegment := replaceEach_mark
    (brace_not_mem_recordPlaces (cx.treeOf c) c.kind c.xref) RoutePlace.type
  rw [recordLink, Link.leading, hroute,
    route_eq_siteOf_append (isTemplate_mark _) (replaceAll_mark _ _ _), hsegment]
  rfl

/-- The address of a record's interactive tree has a segment of its own in the place of the type. -/
lemma href_diagramLink (h : cx.HasInitialRoutes) (p : Provider) (c : CrossReference) :
    (cx.diagramLink p c).href =
      some (cx.siteOf c ++ segments (cx.treeOf c) "interactive-tree" c.xref) := by
  have hroute : cx.settings.diagramRoute =
      RoutePlace.site.mark ++ ("tree/" ++ routeTail "interactive-tree") :=
    h.diagramRoute.trans (by decide)
  have hword : '{' ∉ ("interactive-tree" : Text) := by decide
  rw [diagramLink, Link.leading, hroute,
    route_eq_siteOf_append (isTemplate_of_not_mem hword) (replaceAll_of_not_mem hword),
    replaceEach_of_not_mem hword]

/-! ## What an address tells -/

/-- The tree, the middle and the identifier are read back from an address. -/
lemma append_segments_inj {site site' tree tree' middle middle' xref xref' : Text}
    (hmiddle : '/' ∉ middle) (hmiddle' : '/' ∉ middle')
    (h : site ++ segments tree middle xref = site' ++ segments tree' middle' xref') :
    tree = tree' ∧ middle = middle' ∧ xref = xref' := by
  have hslash : ∀ t, '/' ∉ Percent.encode t := Percent.not_mem_encode (by decide) (by decide)
  have hcut : ∀ site tree middle xref : Text, site ++ segments tree middle xref =
      ((site ++ "tree" ++ '/' :: Percent.encode tree) ++ '/' :: middle) ++
        '/' :: Percent.encode xref := by
    intro site tree middle xref
    simp [segments]
  rw [hcut, hcut] at h
  obtain ⟨h, hxref⟩ := append_cons_inj (hslash _) (hslash _) h
  obtain ⟨h, hmid⟩ := append_cons_inj hmiddle hmiddle' h
  obtain ⟨-, htree⟩ := append_cons_inj (hslash _) (hslash _) h
  exact ⟨Percent.encode_injective htree, hmid, Percent.encode_injective hxref⟩

/-- A marker in an address belongs to the site: the segments hold no `#`, and the first of them does
not begin with `@`. -/
lemma marker_prefix_of_append_segments {site tree middle xref front back : Text}
    (hmiddle : '#' ∉ middle)
    (h : site ++ segments tree middle xref = front ++ marker ++ back) :
    front ++ marker <+: site := by
  have hencode : ∀ t, '#' ∉ Percent.encode t := Percent.not_mem_encode (by decide) (by decide)
  have hnumber : '#' ∉ segments tree middle xref := by
    simp [segments, hencode, hmiddle]
  rw [List.append_assoc] at h
  rcases List.append_eq_append_iff.1 h with ⟨rest, -, hsegments⟩ | ⟨rest, hsite, hmarker⟩
  · exact absurd (hsegments ▸ by simp [marker]) hnumber
  · rcases rest with _ | ⟨x, _ | ⟨y, rest⟩⟩
    · have hmem : '#' ∈ [] ++ segments tree middle xref := hmarker ▸ by simp [marker]
      exact absurd hmem hnumber
    · have htree : '@' = 't' := (List.cons.inj (List.cons.inj hmarker).2).1
      exact absurd htree (by decide)
    · have hx : '#' = x := (List.cons.inj hmarker).1
      have hy : '@' = y := (List.cons.inj (List.cons.inj hmarker).2).1
      exact ⟨rest, by rw [hsite, ← hx, ← hy]; simp [marker]⟩

/-- The places of a route can be filled one after the other as if at once, so the name of a tree is
never taken for a place.  Under the initial routes the address of a record tells its tree, its type
and its identifier, whatever they are and whatever the site is; no record has the address of an
interactive tree; and the markers in an address are those of the site. -/
theorem route_identifies_record :
    (∀ (cx : LinkContext) (template tree : Text) (kind : RecordKind) (xref : Text),
      IsTemplate template → '{' ∉ cx.settings.siteUrl →
        cx.route template tree kind xref = fillPlaces (cx.placeText tree kind xref) template) ∧
    ∀ cx cx' : LinkContext, cx.HasInitialRoutes → cx'.HasInitialRoutes →
      ∀ (p p' : Provider) (c c' : CrossReference),
        ((cx.recordLink p c).href = (cx'.recordLink p' c').href →
          cx.treeOf c = cx'.treeOf c' ∧ c.kind.segment = c'.kind.segment ∧ c.xref = c'.xref) ∧
        (cx.recordLink p c).href ≠ (cx'.diagramLink p' c').href ∧
        (∀ l ∈ [cx.recordLink p c, cx.diagramLink p c], ∀ front back,
          l.href = some (front ++ marker ++ back) → front ++ marker <+: cx.siteOf c) ∧
        ('{' ∉ cx.settings.siteUrl → cx.siteOf c = cx.settings.siteUrl) := by
  refine ⟨fun cx template tree kind xref htemplate hsite => route_eq_fillPlaces hsite htemplate,
    fun cx cx' h h' p p' c c' => ?_⟩
  -- behind the site the addresses are segments joined by slashes, which none of them contains
  obtain ⟨-, hslash, hnumber, hne⟩ := c.kind.segment_spec
  obtain ⟨-, hslash', -, -⟩ := c'.kind.segment_spec
  rw [href_recordLink h, href_recordLink h', href_diagramLink h']
  refine ⟨fun heq => ?_, fun heq => ?_, fun l hl front back hhref => ?_, fun hsite => ?_⟩
  · exact append_segments_inj hslash hslash' (Option.some.inj heq)
  · exact hne (append_segments_inj hslash (by decide) (Option.some.inj heq)).2.1
  · rcases List.mem_pair.1 hl with rfl | rfl
    · rw [href_recordLink h] at hhref
      exact marker_prefix_of_append_segments hnumber (Option.some.inj hhref)
    · rw [href_diagramLink h] at hhref
      exact marker_prefix_of_append_segments (by decide) (Option.some.inj hhref)
  · exact siteOf_eq hsite c

end LinkContext

end NoteLinks
