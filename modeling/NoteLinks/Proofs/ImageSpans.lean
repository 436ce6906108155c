import Mathlib.Algebra.BigOperators.Group.List.Basic
import Mathlib.Algebra.Ring.Int.Defs
import Mathlib.Data.List.Induction
import Mathlib.Tactic.Common
import NoteLinks.Markdown.Images

/-!
# The image spans of a sequence of events

Any sequence of events falls into parts in exactly one way (`AreParts`, `AreParts.unique`): image
spans from their start to the end that balances it, possibly a last one that never ends, and single
events outside of them, among which are ends without a start.  Rendering the images goes through the
parts in order (`resolveImages_parts`): it puts one event in the place of every span that has a
rendering and leaves all other parts as they are.

The images are rendered in one pass, which holds back the events of a span until the span ends
(`next`, `emitted`).  What it keeps of such a span are its text and the number of spans that are
open within it (`OpenImage.IsSound`).  The number is exact (`OpenImage.IsSound.extend`), so it is
never to be lowered below zero.
-/

namespace NoteLinks.Markdown

variable {e : Event} {es front rest inner other : List Event} {destination title : Text}
  {i : OpenImage} {pending : Option OpenImage} {render : Text → Text → Option Text → Text}

/-! ## Balanced events -/

/-- The start of an image span counts up, and its end counts down. -/
def Event.rise : Event → ℤ
  | .start (.image _ _) => 1
  | .stop .image => -1
  | _ => 0

/-- The number of image spans that begin in the events, less the number of those that end. -/
def height (es : List Event) : ℤ := (es.map Event.rise).sum

/-- No image span ends in the events that did not begin in them. -/
def StaysOpen (es : List Event) : Prop := ∀ front, front <+: es → 0 ≤ height front

/-- Every image span that begins in the events ends in them, and no other does. -/
structure IsBalanced (es : List Event) : Prop where
  staysOpen : StaysOpen es
  height_eq : height es = 0

@[simp] lemma height_nil : height [] = 0 := rfl

@[simp] lemma height_append (es front : List Event) :
    height (es ++ front) = height es + height front := by
  simp [height]

lemma staysOpen_nil : StaysOpen [] := by
  intro front h
  have hzero : height front = 0 := by rw [List.prefix_nil.1 h, height_nil]
  omega

/-- One more event keeps the events open if it does not end more spans than are open. -/
lemma StaysOpen.append_singleton (h : StaysOpen es) (he : 0 ≤ height es + e.rise) :
    StaysOpen (es ++ [e]) := by
  intro front hfront
  rcases List.prefix_concat_iff.1 hfront with rfl | hfront
  · simpa [height] using he
  · exact h front hfront

/-- The end that balances a start is not among events that stay open. -/
lemma StaysOpen.not_prefix (h : StaysOpen es) (hinner : height inner = 0) :
    ¬ inner ++ [.stop .image] <+: es := by
  intro hpre
  have hnonneg := h _ hpre
  have hend : height [.stop .image] = -1 := rfl
  rw [height_append, hinner, hend] at hnonneg
  omega

/-! ## Parts -/

/-- A part of a sequence of events. -/
inductive Part where
  /-- An event outside of all images. -/
  | event (e : Event)
  /-- An image with the events between its start and its end. -/
  | image (destination title : Text) (inner : List Event)
  /-- An image that does not end, with the events behind its start. -/
  | unfinished (destination title : Text) (inner : List Event)

/-- The text of an event: breaks are spaces. -/
def Event.spoken : Event → Text
  | .text t => t
  | .code t => t
  | .softBreak => " "
  | .hardBreak => " "
  | _ => []

/-- The text of events, at any depth. -/
def altOf (es : List Event) : Text := es.flatMap Event.spoken

namespace Part

/-- The events of a part. -/
def events : Part → List Event
  | event e => [e]
  | image destination title inner =>
    .start (.image destination title) :: inner ++ [.stop .image]
  | unfinished destination title inner => .start (.image destination title) :: inner

/-- The rendering of a part: only images have one, and not all of them. -/
def rendering (render : Text → Text → Option Text → Text) : Part → Text
  | image destination title inner =>
    render destination (altOf inner) (if title = [] then none else some title)
  | _ => []

/-- The events that a part gives way to: one for its rendering, or else its own. -/
def resolved (render : Text → Text → Option Text → Text) (p : Part) : List Event :=
  match p.rendering render with
  | [] => p.events
  | html => [.inlineHtml html]

end Part

/-- The parts of a sequence of events.  An image ends where its start is balanced, and one that does
not end is the last part. -/
inductive AreParts : List Part → Prop
  | nil : AreParts []
  | event (e : Event) {ps : List Part}
      (he : ∀ destination title, e ≠ .start (.image destination title)) (h : AreParts ps) :
      AreParts (.event e :: ps)
  | image (destination title : Text) {inner : List Event} {ps : List Part}
      (hinner : IsBalanced inner) (h : AreParts ps) :
      AreParts (.image destination title inner :: ps)
  | unfinished (destination title : Text) {inner : List Event} (hinner : StaysOpen inner) :
      AreParts [.unfinished destination title inner]

/-- Balanced events in front of an end are no longer than others. -/
lemma IsBalanced.eq_of_prefix (h : IsBalanced inner) (hother : IsBalanced other)
    (hpre : inner ++ [.stop .image] <+: other ++ [.stop .image]) : inner = other := by
  rcases List.prefix_concat_iff.1 hpre with heq | hpre
  · exact List.append_cancel_right heq
  · exact absurd hpre (hother.staysOpen.not_prefix h.height_eq)

/-- A start is balanced by one end only. -/
lemma IsBalanced.unique (h : IsBalanced inner) (hother : IsBalanced other)
    (heq : inner ++ .stop .image :: front = other ++ .stop .image :: rest) :
    inner = other ∧ front = rest := by
  have hpre : inner ++ [.stop .image] <+: other ++ .stop .image :: rest :=
    ⟨front, by rw [← heq]; simp⟩
  have hpre' : other ++ [.stop .image] <+: other ++ .stop .image :: rest := ⟨rest, by simp⟩
  have hsame : inner = other := by
    rcases List.prefix_or_prefix_of_prefix hpre hpre' with hshort | hshort
    · exact h.eq_of_prefix hother hshort
    · exact (hother.eq_of_prefix h hshort).symm
  subst hsame
  exact ⟨rfl, (List.cons.inj (List.append_cancel_left heq)).2⟩

/-- A start is not both balanced by an end and left open. -/
lemma IsBalanced.ne_of_staysOpen (h : IsBalanced inner) (hother : StaysOpen other) :
    inner ++ .stop .image :: front ≠ other := by
  rintro rfl
  exact hother.not_prefix h.height_eq ⟨front, by simp⟩

section Parts

variable {ps qs : List Part}

@[simp] lemma events_event (e : Event) (ps : List Part) :
    (Part.event e :: ps).flatMap Part.events = e :: ps.flatMap Part.events := rfl

@[simp] lemma events_image (destination title : Text) (inner : List Event) (ps : List Part) :
    (Part.image destination title inner :: ps).flatMap Part.events =
      .start (.image destination title) :: (inner ++ .stop .image :: ps.flatMap Part.events) := by
  simp [Part.events]

@[simp] lemma events_unfinished (destination title : Text) (inner : List Event) :
    [Part.unfinished destination title inner].flatMap Part.events =
      .start (.image destination title) :: inner := by
  simp [Part.events]

/-- A sequence of events falls into parts in one way only. -/
lemma AreParts.unique (hps : AreParts ps) (hqs : AreParts qs)
    (heq : ps.flatMap Part.events = qs.flatMap Part.events) : ps = qs := by
  induction hps generalizing qs with
  | nil => cases hqs <;> simp [Part.events] at heq ⊢
  | event e he h ih =>
    cases hqs with
    | nil => simp [Part.events] at heq
    | event e' he' h' =>
      rw [events_event, events_event, List.cons.injEq] at heq
      rw [heq.1, ih h' heq.2]
    | image destination title hinner h' =>
      rw [events_event, events_image, List.cons.injEq] at heq
      exact absurd heq.1 (he destination title)
    | unfinished destination title hinner =>
      rw [events_event, events_unfinished, List.cons.injEq] at heq
      exact absurd heq.1 (he destination title)
  | image destination title hinner h ih =>
    cases hqs with
    | nil => simp [Part.events] at heq
    | event e' he' h' =>
      rw [events_event, events_image, List.cons.injEq] at heq
      exact absurd heq.1.symm (he' destination title)
    | image destination' title' hinner' h' =>
      rw [events_image, events_image, List.cons.injEq, Event.start.injEq, Tag.image.injEq] at heq
      obtain ⟨⟨rfl, rfl⟩, hrest⟩ := heq
      -- both spans end where their starts are balanced, which is at one place only
      obtain ⟨rfl, htail⟩ := hinner.unique hinner' hrest
      rw [ih h' htail]
    | unfinished destination' title' hinner' =>
      rw [events_image, events_unfinished, List.cons.injEq] at heq
      exact absurd heq.2 (hinner.ne_of_staysOpen hinner')
  | unfinished destination title hinner =>
    cases hqs with
    | nil => simp [Part.events] at heq
    | event e' he' h' =>
      rw [events_event, events_unfinished, List.cons.injEq] at heq
      exact absurd heq.1.symm (he' destination title)
    | image destination' title' hinner' h' =>
      rw [events_image, events_unfinished, List.cons.injEq] at heq
      exact absurd heq.2.symm (hinner'.ne_of_staysOpen hinner)
    | unfinished destination' title' hinner' =>
      rw [events_unfinished, events_unfinished, List.cons.injEq, Event.start.injEq,
        Tag.image.injEq] at heq
      obtain ⟨⟨rfl, rfl⟩, rfl⟩ := heq
      rfl

end Parts

/-! ## The pass -/

/-- The span that is held back after one more event, if there is one. -/
def next : Option OpenImage → Event → Option OpenImage
  | none, e =>
    match e with
    | .start (.image destination title) => some ⟨destination, title, [], [], 0⟩
    | _ => none
  | some i, e => if e = .stop .image ∧ i.depth = 0 then none else some (i.extend e)

/-- The events that are put out at one more event. -/
def emitted (render : Text → Text → Option Text → Text) : Option OpenImage → Event → List Event
  | none, e =>
    match e with
    | .start (.image _ _) => []
    | _ => [e]
  | some i, e => if e = .stop .image ∧ i.depth = 0 then i.finish render else []

/-- The span that is held back after a sequence of events, if there is one. -/
def heldAfter (es : List Event) : Option OpenImage := es.foldl next none

/-- Outside of images any event but the start of one is put out at once. -/
lemma none_of_ne_start (render : Text → Text → Option Text → Text)
    (he : ∀ destination title, e ≠ .start (.image destination title)) :
    (∀ es, resolveFrom render none (e :: es) = e :: resolveFrom render none es) ∧
      next none e = none ∧ emitted render none e = [e] := by
  refine ⟨fun es => ?_, ?_, ?_⟩
  · rw [resolveFrom]
    exact he
  · rw [next]
    exact he
  · rw [emitted]
    exact he

/-- The events are taken one after the other. -/
lemma resolveFrom_cons (render : Text → Text → Option Text → Text) (pending : Option OpenImage)
    (e : Event) (es : List Event) :
    resolveFrom render pending (e :: es) =
      emitted render pending e ++ resolveFrom render (next pending e) es := by
  cases pending with
  | none =>
    by_cases h : ∃ destination title, e = .start (.image destination title)
    · obtain ⟨destination, title, rfl⟩ := h
      rfl
    · simp only [not_exists] at h
      obtain ⟨hresolve, hnext, hemitted⟩ := none_of_ne_start render h
      rw [hresolve, hnext, hemitted]
      rfl
  | some i =>
    rw [resolveFrom, emitted, next]
    split <;> rfl

/-- What is put out at the first events does not depend on those that follow them. -/
lemma exists_resolveFrom_append (render : Text → Text → Option Text → Text)
    (pending : Option OpenImage) (front : List Event) :
    ∃ out, ∀ rest, resolveFrom render pending (front ++ rest) =
      out ++ resolveFrom render (front.foldl next pending) rest := by
  induction front generalizing pending with
  | nil => exact ⟨[], fun _ => rfl⟩
  | cons e front ih =>
    obtain ⟨out, hout⟩ := ih (next pending e)
    refine ⟨emitted render pending e ++ out, fun rest => ?_⟩
    rw [List.cons_append, resolveFrom_cons, hout, List.append_assoc, List.foldl_cons]

/-! ## Spans that are held back -/

namespace OpenImage

/-- What is kept of a span is the text of its events and the number of spans that are open in it. -/
structure IsSound (i : OpenImage) : Prop where
  alt_eq : i.alt = altOf i.inner
  depth_eq : (i.depth : ℤ) = height i.inner
  staysOpen : StaysOpen i.inner

lemma inner_extend (i : OpenImage) (e : Event) : (i.extend e).inner = i.inner ++ [e] := by
  unfold extend
  split <;> rfl

lemma opening_extend (i : OpenImage) (e : Event) : (i.extend e).opening = i.opening := by
  unfold extend
  split <;> rfl

lemma alt_extend (i : OpenImage) (e : Event) : (i.extend e).alt = i.alt ++ e.spoken := by
  unfold extend
  split <;> simp [push, say, Event.spoken]

/-- The number of open spans is counted up and down, and down only where a span is open. -/
lemma depth_extend (he : ¬ (e = .stop .image ∧ i.depth = 0)) :
    ((i.extend e).depth : ℤ) = i.depth + e.rise := by
  unfold extend
  split
  · have hpos : i.depth ≠ 0 := fun h => he ⟨rfl, h⟩
    simp only [Event.rise]
    omega
  all_goals simp [push, say, Event.rise]

/-- A span stays sound with every event that does not end it. -/
lemma IsSound.extend (h : i.IsSound) (he : ¬ (e = .stop .image ∧ i.depth = 0)) :
    (i.extend e).IsSound where
  alt_eq := by
    rw [alt_extend, inner_extend, h.alt_eq]
    simp [altOf]
  depth_eq := by
    rw [depth_extend he, inner_extend, h.depth_eq]
    simp [height]
  staysOpen := by
    rw [inner_extend]
    refine h.staysOpen.append_singleton ?_
    rw [← h.depth_eq, ← depth_extend he]
    exact Int.natCast_nonneg _

lemma isSound_start (destination title : Text) : IsSound ⟨destination, title, [], [], 0⟩ :=
  ⟨rfl, rfl, staysOpen_nil⟩

/-- A span that ends gives way to what its part gives way to. -/
lemma IsSound.finish_eq (h : i.IsSound) (render : Text → Text → Option Text → Text) :
    i.finish render = (Part.image i.destination i.title i.inner).resolved render := by
  rw [finish, h.alt_eq]
  rfl

/-- The end that is met where no span is open is the one that balances the start. -/
lemma IsSound.isBalanced (h : i.IsSound) (hdepth : i.depth = 0) : IsBalanced i.inner :=
  ⟨h.staysOpen, by rw [← h.depth_eq, hdepth]; rfl⟩

end OpenImage

/-- A span that is held back is sound, and its events are the last ones. -/
lemma isSound_of_heldAfter (h : heldAfter es = some i) :
    i.IsSound ∧ ∃ front, es = front ++ i.opening :: i.inner := by
  -- by induction from the end, as what is held is the span after the last event
  induction es using List.reverseRecOn generalizing i with
  | nil => cases h
  | append_singleton es e ih =>
    rw [heldAfter, List.foldl_append] at h
    change next (heldAfter es) e = some i at h
    cases hheld : heldAfter es with
    | none =>
      rw [hheld] at h
      by_cases hstart : ∃ destination title, e = .start (.image destination title)
      · obtain ⟨destination, title, rfl⟩ := hstart
        obtain rfl := Option.some.inj h
        exact ⟨OpenImage.isSound_start destination title, es, rfl⟩
      · simp only [not_exists] at hstart
        rw [(none_of_ne_start (fun _ _ _ => []) hstart).2.1] at h
        cases h
    | some held =>
      obtain ⟨hsound, front, hfront⟩ := ih hheld
      rw [hheld, next] at h
      split at h
      · cases h
      · rename_i he
        obtain rfl := Option.some.inj h
        refine ⟨hsound.extend he, front, ?_⟩
        rw [OpenImage.opening_extend, OpenImage.inner_extend, hfront, List.append_assoc]
        rfl

/-- The events that are held back. -/
def heldEvents : Option OpenImage → List Event
  | none => []
  | some i => i.opening :: i.inner

/-- The events that are held back and those that follow fall into parts, and the pass goes through
these parts. -/
lemma exists_areParts (pending : Option OpenImage) (h : ∀ i ∈ pending, i.IsSound)
    (es : List Event) :
    ∃ ps, AreParts ps ∧ ps.flatMap Part.events = heldEvents pending ++ es ∧
      ∀ render, resolveFrom render pending es = ps.flatMap (Part.resolved render) := by
  -- by induction on the events, with the span that is held back as the invariant
  induction es generalizing pending with
  | nil =>
    cases pending with
    | none => exact ⟨[], .nil, rfl, fun _ => rfl⟩
    | some i =>
      refine ⟨[.unfinished i.destination i.title i.inner], .unfinished _ _ (h i rfl).staysOpen, ?_,
        fun _ => ?_⟩
      · rw [events_unfinished, heldEvents, List.append_nil]
        rfl
      · simp [resolveFrom, Part.resolved, Part.rendering, Part.events, OpenImage.opening]
  | cons e es ih =>
    cases pending with
    | none =>
      by_cases hstart : ∃ destination title, e = .start (.image destination title)
      · obtain ⟨destination, title, rfl⟩ := hstart
        have hsound := OpenImage.isSound_start destination title
        exact ih (some ⟨destination, title, [], [], 0⟩) (by rintro i ⟨⟩; exact hsound)
      · simp only [not_exists] at hstart
        obtain ⟨ps, hps, hevents, hresolved⟩ := ih none (by simp)
        refine ⟨.event e :: ps, .event e hstart hps, ?_, fun render => ?_⟩
        · rw [events_event, hevents]
          rfl
        · rw [(none_of_ne_start render hstart).1, hresolved]
          rfl
    | some i =>
      have hsound := h i rfl
      -- only an end at depth zero ends the span; any other event is added to it
      by_cases he : e = .stop .image ∧ i.depth = 0
      · obtain ⟨rfl, hdepth⟩ := he
        obtain ⟨ps, hps, hevents, hresolved⟩ := ih none (by simp)
        refine ⟨.image i.destination i.title i.inner :: ps,
          .image _ _ (hsound.isBalanced hdepth) hps, ?_, fun render => ?_⟩
        · rw [events_image, hevents]
          rfl
        · rw [resolveFrom, if_pos ⟨rfl, hdepth⟩, hresolved, hsound.finish_eq, List.flatMap_cons]
      · obtain ⟨ps, hps, hevents, hresolved⟩ :=
          ih (some (i.extend e)) (by rintro j ⟨⟩; exact hsound.extend he)
        refine ⟨ps, hps, ?_, fun render => ?_⟩
        · rw [hevents, heldEvents, OpenImage.opening_extend, OpenImage.inner_extend]
          simp [heldEvents]
        · rw [resolveFrom, if_neg he, hresolved]

lemma flatMap_resolved_eq_events {ps : List Part} (h : ∀ p ∈ ps, p.rendering render = []) :
    ps.flatMap (Part.resolved render) = ps.flatMap Part.events := by
  refine List.flatMap_congr fun p hp => ?_
  rw [Part.resolved, h p hp]

/-- A sequence of events falls into parts in one way, and rendering the images puts the rendering of
every image that has one in its place and keeps all other events.  When the events are followed by
others, those of an image without an end are held back; the number of open spans that is kept with
them is that of the starts among them less that of the ends, so it never falls below zero. -/
theorem resolveImages_parts (es : List Event) :
    (∃ ps, AreParts ps ∧ ps.flatMap Part.events = es ∧
      (∀ qs, AreParts qs → qs.flatMap Part.events = es → qs = ps) ∧
      ∀ render, resolveImages render es = ps.flatMap (Part.resolved render) ∧
        ((∀ p ∈ ps, p.rendering render = []) → resolveImages render es = es)) ∧
    (∀ render, ∃ out, ∀ rest,
      resolveImages render (es ++ rest) = out ++ resolveFrom render (heldAfter es) rest) ∧
    ∀ i, heldAfter es = some i →
      (∃ before, es = before ++ i.opening :: i.inner) ∧ (i.depth : ℤ) = height i.inner := by
  refine ⟨?_, fun render => exists_resolveFrom_append render none es, fun i hi => ?_⟩
  · obtain ⟨ps, hps, hevents, hresolved⟩ := exists_areParts none (by simp) es
    refine ⟨ps, hps, hevents, fun qs hqs heq => hqs.unique hps (heq.trans hevents.symm),
      fun render => ⟨hresolved render, fun hnone => ?_⟩⟩
    rw [resolveImages, hresolved, flatMap_resolved_eq_events hnone, hevents]
    rfl
  · obtain ⟨hsound, hbefore⟩ := isSound_of_heldAfter hi
    exact ⟨hbefore, hsound.depth_eq⟩

/-- An end without a start stays, and an image within another one only lends its text. -/
example : resolveImages (fun _ alt _ => alt)
    [.stop .image, .start (.image "a" []), .text "b", .softBreak, .start (.image "c" "d"),
      .code "e", .stop .image, .stop .image, .start (.image "f" []), .rule] =
    [.stop .image, .inlineHtml "b e", .start (.image "f" []), .rule] := by
  decide

end NoteLinks.Markdown
