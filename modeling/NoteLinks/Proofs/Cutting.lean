import Mathlib.Data.List.Basic
import Mathlib.Data.List.Induction
import Mathlib.Tactic.Common
import NoteLinks.Text.Blank

/-!
# Cutting texts

What the cutting functions of `Text` find, said without recursion.

`cutWhere?` cuts at the first character of a class (`cutWhere?_eq_some_iff`), `splitWhere` at each
of them (`mem_splitWhere_iff`), and `cut?` at the first occurrence of a mark (`append_of_cut?`,
`not_infix_of_cut?`, `cut?_append`).  `replaceAll` is followed from left to right: a mark gives way to
its replacement (`replaceAll_mark_append`), and any other character stays (`replaceAll_cons`).  The
last part says where `takeWhile` and `dropWhile` part a text whose pieces are known.
-/

namespace NoteLinks.Text

variable {p : Char → Bool} {mark t a b : Text}

/-! ### Cutting at a character -/

/-- A text without the class before a character of it is cut there. -/
lemma cutWhere?_append {c : Char} (ha : ∀ x ∈ a, p x = false) (hc : p c = true) :
    cutWhere? p (a ++ c :: b) = some (a, b) := by
  induction a with
  | nil => simp [cutWhere?, hc]
  | cons x a ih =>
    have hx : p x = false := ha x List.mem_cons_self
    have htail := ih fun y hy => ha y (List.mem_cons_of_mem x hy)
    simp [cutWhere?, hx, htail]

/-- The cut is at the first character of the class. -/
lemma cutWhere?_eq_some_iff :
    cutWhere? p t = some (a, b) ↔
      ∃ c, p c = true ∧ (∀ x ∈ a, p x = false) ∧ t = a ++ c :: b := by
  constructor
  · intro h
    induction t generalizing a with
    | nil => simp [cutWhere?] at h
    | cons c t ih =>
      by_cases hc : p c = true
      · simp only [cutWhere?, hc, if_true, Option.some.injEq, Prod.mk.injEq] at h
        obtain ⟨rfl, rfl⟩ := h
        exact ⟨c, hc, by simp, rfl⟩
      · simp only [cutWhere?, hc, if_false, Option.map_eq_some_iff, Prod.mk.injEq, Prod.exists,
          Bool.false_eq_true] at h
        obtain ⟨a', b', h', rfl, rfl⟩ := h
        obtain ⟨d, hd, ha', rfl⟩ := ih h'
        exact ⟨d, hd, by simpa [hc] using ha', rfl⟩
  · rintro ⟨c, hc, ha, rfl⟩
    exact cutWhere?_append ha hc

lemma cutWhere?_eq_none_iff : cutWhere? p t = none ↔ ∀ x ∈ t, p x = false := by
  induction t with
  | nil => simp [cutWhere?]
  | cons c t ih =>
    by_cases hc : p c = true
    · simp [cutWhere?, hc]
    · simp [cutWhere?, hc, ih]

/-- A text is cut at the first occurrence of a character. -/
lemma cutWhere?_char_eq_some_iff {c : Char} :
    cutWhere? (· == c) t = some (a, b) ↔ c ∉ a ∧ t = a ++ c :: b := by
  rw [cutWhere?_eq_some_iff]
  constructor
  · rintro ⟨d, hd, ha, rfl⟩
    obtain rfl := beq_iff_eq.1 hd
    exact ⟨fun hmem => by simpa using ha d hmem, rfl⟩
  · rintro ⟨ha, rfl⟩
    refine ⟨c, beq_self_eq_true c, fun x hx => beq_eq_false_iff_ne.2 ?_, rfl⟩
    exact fun heq => ha (heq ▸ hx)

lemma cutWhere?_char_eq_none_iff {c : Char} : cutWhere? (· == c) t = none ↔ c ∉ t := by
  rw [cutWhere?_eq_none_iff]
  constructor
  · intro h hmem
    simpa using h c hmem
  · intro h x hx
    exact beq_eq_false_iff_ne.2 fun heq => h (heq ▸ hx)

/-- The part before the cut is what comes before the first character of the class. -/
lemma fst_getD_cutWhere? (p : Char → Bool) (t : Text) :
    ((cutWhere? p t).getD (t, [])).1 = t.takeWhile (!p ·) := by
  induction t with
  | nil => rfl
  | cons c t ih =>
    by_cases hc : p c = true
    · simp [cutWhere?, hc]
    · cases htail : cutWhere? p t with
      | none => simpa [cutWhere?, hc, htail] using ih
      | some ab => simpa [cutWhere?, hc, htail] using ih

/-- There is always a piece. -/
lemma splitWhere_ne_nil (p : Char → Bool) (t : Text) : splitWhere p t ≠ [] := by
  cases t with
  | nil => simp [splitWhere]
  | cons c t =>
    rw [splitWhere]
    split
    · simp
    · split
      · simp
      · simp

/-- The pieces before a cut and the pieces after it. -/
lemma splitWhere_append {c : Char} (hc : p c = true) :
    splitWhere p (a ++ c :: b) = splitWhere p a ++ splitWhere p b := by
  induction a with
  | nil => simp [splitWhere, hc]
  | cons x a ih =>
    obtain ⟨piece, pieces, hpieces⟩ := List.exists_cons_of_ne_nil (splitWhere_ne_nil p a)
    by_cases hx : p x = true
    · simp [splitWhere, hx, ih]
    · simp [splitWhere, hx, ih, hpieces]

lemma splitWhere_of_forall (ht : ∀ x ∈ t, p x = false) : splitWhere p t = [t] := by
  induction t with
  | nil => rfl
  | cons c t ih =>
    obtain ⟨hc, ht⟩ := List.forall_mem_cons.1 ht
    simp [splitWhere, hc, ih ht]

/-- A text without the class belongs to the first piece of what follows it. -/
lemma splitWhere_append_of_forall {piece : Text} {pieces : List Text}
    (ha : ∀ x ∈ a, p x = false) (h : splitWhere p b = piece :: pieces) :
    splitWhere p (a ++ b) = (a ++ piece) :: pieces := by
  induction a with
  | nil => exact h
  | cons x a ih =>
    obtain ⟨hx, ha⟩ := List.forall_mem_cons.1 ha
    rw [List.cons_append, splitWhere, if_neg (by simp [hx]), ih ha]
    rfl

/-- The pieces hold the characters outside the class. -/
lemma exists_mem_splitWhere_iff {c : Char} :
    (∃ piece ∈ splitWhere p t, c ∈ piece) ↔ c ∈ t ∧ p c = false := by
  induction t with
  | nil => simp [splitWhere]
  | cons x t ih =>
    obtain ⟨piece, pieces, hpieces⟩ := List.exists_cons_of_ne_nil (splitWhere_ne_nil p t)
    by_cases hx : p x = true
    · rw [splitWhere, if_pos hx, List.exists_mem_cons_iff, ih, List.mem_cons]
      constructor
      · rintro (hc | ⟨hc, hp⟩)
        · simp at hc
        · exact ⟨Or.inr hc, hp⟩
      · rintro ⟨rfl | hc, hp⟩
        · exact absurd (hx.symm.trans hp) (by decide)
        · exact Or.inr ⟨hc, hp⟩
    · rw [hpieces, List.exists_mem_cons_iff] at ih
      rw [splitWhere, if_neg hx, hpieces, List.exists_mem_cons_iff, List.mem_cons, List.mem_cons,
        or_assoc, ih]
      constructor
      · rintro (rfl | ⟨hc, hp⟩)
        · exact ⟨Or.inl rfl, by simpa using hx⟩
        · exact ⟨Or.inr hc, hp⟩
      · rintro ⟨rfl | hc, hp⟩
        · exact Or.inl rfl
        · exact Or.inr ⟨hc, hp⟩

/-- A part of a text between two characters of a class, or between one and an end of the text, with
no character of the class in it. -/
structure IsPiece (p : Char → Bool) (piece t : Text) : Prop where
  uncut : ∀ c ∈ piece, p c = false
  exists_eq : ∃ before after, t = before ++ piece ++ after ∧
    (∀ c ∈ before.getLast?, p c = true) ∧ ∀ c ∈ after.head?, p c = true

/-- What stands behind a cut in the rest of a text stands behind a cut in the text. -/
lemma IsPiece.append_cons {piece : Text} {c : Char} (h : IsPiece p piece b) (hc : p c = true)
    (a : Text) : IsPiece p piece (a ++ c :: b) := by
  obtain ⟨before, after, rfl, hbefore, hafter⟩ := h.exists_eq
  refine ⟨h.uncut, a ++ c :: before, after, by simp, fun x hx => ?_, hafter⟩
  rw [List.getLast?_append, List.getLast?_cons] at hx
  cases hlast : before.getLast? with
  | none =>
    obtain rfl : c = x := by simpa [hlast] using hx
    exact hc
  | some y =>
    obtain rfl : y = x := by simpa [hlast] using hx
    exact hbefore y hlast

/-- A text is cut into its pieces. -/
lemma mem_splitWhere_iff {piece : Text} : piece ∈ splitWhere p t ↔ IsPiece p piece t := by
  constructor
  · intro h
    -- by induction on the length, since the rest of the text begins behind the first cut
    induction hlength : t.length using Nat.strongRecOn generalizing t with
    | ind n ih =>
      cases hcut : cutWhere? p t with
      | none =>
        rw [cutWhere?_eq_none_iff] at hcut
        rw [splitWhere_of_forall hcut, List.mem_singleton] at h
        rw [h]
        exact ⟨hcut, [], [], by simp, by simp, by simp⟩
      | some ab =>
        obtain ⟨c, hc, ha, rfl⟩ := cutWhere?_eq_some_iff.1 hcut
        rw [splitWhere_append hc, splitWhere_of_forall ha, List.singleton_append,
          List.mem_cons] at h
        rcases h with rfl | h
        · exact ⟨ha, [], c :: ab.2, by simp, by simp, by simpa using hc⟩
        · have hshort : ab.2.length < n := by
            rw [← hlength, List.length_append, List.length_cons]
            omega
          exact (ih _ hshort h rfl).append_cons hc ab.1
  · rintro ⟨hpiece, before, after, rfl, hbefore, hafter⟩
    have hend : piece ∈ splitWhere p (piece ++ after) := by
      cases after with
      | nil => simp [splitWhere_of_forall hpiece]
      | cons c after =>
        rw [splitWhere_append (hafter c rfl), splitWhere_of_forall hpiece]
        exact List.mem_cons_self
    cases before using List.reverseRecOn with
    | nil => exact hend
    | append_singleton before c =>
      have hc : p c = true := hbefore c (by simp)
      rw [List.append_assoc, List.append_assoc, List.singleton_append, splitWhere_append hc]
      exact List.mem_append_right _ hend

/-- The pieces before a character and the pieces behind it. -/
lemma splitAt_append (c : Char) (a b : Text) :
    splitAt c (a ++ c :: b) = splitAt c a ++ splitAt c b :=
  splitWhere_append (beq_self_eq_true c)

lemma splitAt_of_not_mem {c : Char} (h : c ∉ t) : splitAt c t = [t] :=
  splitWhere_of_forall fun _ hx => beq_eq_false_iff_ne.2 fun heq => h (heq ▸ hx)

/-- Pieces that are joined with a character are cut at it again, if it occurs in none of them. -/
lemma splitAt_join {c : Char} {ts : List Text} (hne : ts ≠ []) (hts : ∀ t ∈ ts, c ∉ t) :
    splitAt c (join [c] ts) = ts := by
  obtain ⟨t, us, rfl⟩ := List.exists_cons_of_ne_nil hne
  clear hne
  induction us generalizing t with
  | nil =>
    have hjoin : join [c] [t] = t := by simp [join, List.intercalate]
    rw [hjoin, splitAt_of_not_mem (hts t List.mem_cons_self)]
  | cons u us ih =>
    have hjoin : join [c] (t :: u :: us) = t ++ c :: join [c] (u :: us) := by
      simp [join, List.intercalate]
    rw [hjoin, splitAt_append, splitAt_of_not_mem (hts t List.mem_cons_self),
      ih u fun x hx => hts x (List.mem_cons_of_mem t hx)]
    rfl

/-- The pieces between the occurrences of a character give the text back. -/
lemma join_splitAt (c : Char) (t : Text) : join [c] (splitAt c t) = t := by
  induction t with
  | nil => rfl
  | cons x t ih =>
    obtain ⟨piece, others, hpieces⟩ : ∃ piece others, splitAt c t = piece :: others :=
      List.exists_cons_of_ne_nil (splitWhere_ne_nil _ t)
    rw [hpieces] at ih
    by_cases hx : x = c
    · have hsplit : splitAt c (x :: t) = [] :: piece :: others := by
        rw [← hpieces, splitAt, splitWhere, if_pos (by simpa using hx), splitAt]
      rw [hsplit, ← ih, hx]
      simp [join, List.intercalate]
    · have hsplit : splitAt c (x :: t) = (x :: piece) :: others := by
        rw [splitAt] at hpieces
        rw [splitAt, splitWhere, if_neg (by simpa using hx), hpieces]
      rw [hsplit, ← ih]
      cases others <;> simp [join, List.intercalate]

lemma words_append_cons {c : Char} (hc : isBlank c = true) (a b : Text) :
    words (a ++ c :: b) = words a ++ words b := by
  rw [words, splitWhere_append hc, List.filter_append]
  rfl

lemma words_append_space (a b : Text) : words (a ++ " " ++ b) = words a ++ words b := by
  have hblank : isBlank ' ' = true := by decide
  simpa using words_append_cons hblank a b

lemma of_mem_words {w : Text} (h : w ∈ words t) : w ≠ [] ∧ ∀ c ∈ w, isBlank c = false := by
  obtain ⟨hpiece, hne⟩ := List.mem_filter.1 h
  exact ⟨by simpa using hne, fun c hc => (exists_mem_splitWhere_iff.1 ⟨w, hpiece, hc⟩).2⟩

lemma words_of_forall (hne : t ≠ []) (h : ∀ c ∈ t, isBlank c = false) : words t = [t] := by
  rw [words, splitWhere_of_forall h]
  simp [hne]

/-- Words that are joined with spaces are read as they were. -/
lemma words_join {ws : List Text} (h : ∀ w ∈ ws, w ≠ [] ∧ ∀ c ∈ w, isBlank c = false) :
    words (join " " ws) = ws := by
  induction ws with
  | nil => rfl
  | cons w ws ih =>
    obtain ⟨⟨hne, hw⟩, hws⟩ := List.forall_mem_cons.1 h
    cases ws with
    | nil =>
      have hjoin : join " " [w] = w := by simp [join, List.intercalate]
      rw [hjoin, words_of_forall hne hw]
    | cons v ws =>
      have hjoin : join " " (w :: v :: ws) = w ++ " " ++ join " " (v :: ws) := by
        simp [join, List.intercalate]
      rw [hjoin, words_append_space, ih hws, words_of_forall hne hw]
      rfl

/-! ### Cutting at a mark -/

/-- What follows a mark at the start of a text is the rest of the text. -/
lemma after?_eq_some_iff : after? mark t = some b ↔ t = mark ++ b := by
  induction mark generalizing t with
  | nil => simp [after?]
  | cons m ms ih =>
    cases t with
    | nil => simp [after?]
    | cons c t =>
      by_cases hc : m = c
      · subst hc
        simp [after?, ih]
      · simp [after?, hc, Ne.symm hc]

lemma after?_eq_none_iff : after? mark t = none ↔ ¬ mark <+: t := by
  rw [Option.eq_none_iff_forall_ne_some]
  constructor
  · rintro h ⟨b, rfl⟩
    exact h b (after?_eq_some_iff.2 rfl)
  · intro h b hb
    exact h ⟨b, (after?_eq_some_iff.1 hb).symm⟩

/-- A text that is cut at a mark has the mark between the two parts. -/
lemma append_of_cut? (h : cut? mark t = some (a, b)) : t = a ++ mark ++ b := by
  induction t generalizing a with
  | nil =>
    simp only [cut?, Option.map_eq_some_iff, Prod.mk.injEq] at h
    obtain ⟨r, hr, rfl, rfl⟩ := h
    simpa using after?_eq_some_iff.1 hr
  | cons c t ih =>
    simp only [cut?] at h
    split at h
    · rename_i r hr
      obtain ⟨rfl, rfl⟩ : [] = a ∧ r = b := by simpa using h
      simpa using after?_eq_some_iff.1 hr
    · simp only [Option.map_eq_some_iff, Prod.mk.injEq, Prod.exists] at h
      obtain ⟨a', b', h', rfl, rfl⟩ := h
      rw [ih h']
      rfl

/-- A text is not cut exactly when the mark occurs nowhere in it. -/
lemma cut?_eq_none_iff : cut? mark t = none ↔ ¬ mark <:+: t := by
  induction t with
  | nil =>
    simp only [cut?, Option.map_eq_none_iff, after?_eq_none_iff, List.prefix_nil, List.infix_nil]
  | cons c t ih =>
    rw [List.infix_cons_iff, not_or, ← ih, ← after?_eq_none_iff]
    cases h : after? mark (c :: t) with
    | none => simp [cut?, h]
    | some r => simp [cut?, h]

/-- No occurrence of the mark ends before the one at which a text is cut. -/
lemma not_infix_of_cut? (hm : mark ≠ []) (h : cut? mark t = some (a, b)) : ¬ mark <:+: a := by
  induction t generalizing a with
  | nil =>
    simp only [cut?, Option.map_eq_some_iff, Prod.mk.injEq] at h
    obtain ⟨r, -, rfl, -⟩ := h
    simpa using hm
  | cons c t ih =>
    simp only [cut?] at h
    split at h
    · obtain ⟨rfl, -⟩ : [] = a ∧ _ = b := by simpa using h
      simpa using hm
    · rename_i hr
      simp only [Option.map_eq_some_iff, Prod.mk.injEq, Prod.exists] at h
      obtain ⟨a', b', h', rfl, rfl⟩ := h
      rw [List.infix_cons_iff, not_or]
      refine ⟨fun hpre => after?_eq_none_iff.1 hr ?_, ih h'⟩
      rw [append_of_cut? h', List.append_assoc, ← List.cons_append]
      exact hpre.trans (List.prefix_append _ _)

/-- No occurrence of the mark begins before the one at which a text is cut. -/
lemma length_le_of_cut? (h : cut? mark t = some (a, b)) {x y : Text} (ht : t = x ++ mark ++ y) :
    a.length ≤ x.length := by
  induction t generalizing a x with
  | nil =>
    simp only [cut?, Option.map_eq_some_iff, Prod.mk.injEq] at h
    obtain ⟨r, -, rfl, -⟩ := h
    exact Nat.zero_le _
  | cons c t ih =>
    simp only [cut?] at h
    split at h
    · obtain ⟨rfl, -⟩ : [] = a ∧ _ = b := by simpa using h
      exact Nat.zero_le _
    · rename_i hnone
      simp only [Option.map_eq_some_iff, Prod.mk.injEq, Prod.exists] at h
      obtain ⟨a', b', h', rfl, rfl⟩ := h
      cases x with
      | nil => exact absurd ⟨y, ht.symm⟩ (after?_eq_none_iff.1 hnone)
      | cons d x =>
        obtain ⟨-, ht⟩ := List.cons.inj ht
        exact Nat.succ_le_succ (ih h' ht)

/-- A text is cut at the leftmost occurrence of the mark. -/
lemma cut?_eq_some_iff :
    cut? mark t = some (a, b) ↔
      t = a ++ mark ++ b ∧ ∀ x y, t = x ++ mark ++ y → a.length ≤ x.length := by
  constructor
  · intro h
    exact ⟨append_of_cut? h, fun x y => length_le_of_cut? h⟩
  · rintro ⟨ht, hfirst⟩
    cases hcut : cut? mark t with
    | none => exact absurd ⟨a, b, ht.symm⟩ (cut?_eq_none_iff.1 hcut)
    | some ab =>
      obtain ⟨a', b'⟩ := ab
      have ht' := append_of_cut? hcut
      have hlength : a'.length = a.length :=
        Nat.le_antisymm (length_le_of_cut? hcut ht) (hfirst a' b' ht')
      have heq : a' ++ (mark ++ b') = a ++ (mark ++ b) := by
        rw [← List.append_assoc, ← ht', ht, List.append_assoc]
      obtain ⟨rfl, hrest⟩ := List.append_inj heq hlength
      rw [List.append_cancel_left hrest]

/-- A text is cut at the first occurrence of a mark, if the mark cannot overlap itself because its
first character does not occur in it again. -/
lemma cut?_append {m : Char} {ms : Text} (hm : m ∉ ms) (ha : ¬ (m :: ms) <:+: a) :
    cut? (m :: ms) (a ++ (m :: ms) ++ b) = some (a, b) := by
  induction a with
  | nil =>
    have hafter : after? (m :: ms) (m :: (ms ++ b)) = some b := after?_eq_some_iff.2 rfl
    simp [cut?, hafter]
  | cons c a ih =>
    rw [List.infix_cons_iff, not_or] at ha
    have hnone : after? (m :: ms) (c :: (a ++ (m :: ms) ++ b)) = none := by
      refine after?_eq_none_iff.2 fun hpre => ?_
      rw [← List.cons_append, ← List.cons_append, List.append_assoc] at hpre
      rcases List.prefix_or_prefix_of_prefix hpre (List.prefix_append (c :: a) _) with h | ⟨s, hs⟩
      · exact ha.1 h
      · rw [← hs, List.prefix_append_right_inj] at hpre
        cases s with
        | nil => exact ha.1 ⟨[], by simpa using hs.symm⟩
        | cons x s =>
          rw [hs, List.cons_append, List.cons_prefix_cons] at hpre
          obtain ⟨rfl, -⟩ := hpre
          obtain ⟨-, htail⟩ := List.cons.inj hs
          exact hm (htail ▸ by simp)
    rw [List.cons_append, List.cons_append, cut?, hnone, ih ha.2]
    rfl

/-- No mark begins in a text without its characters. -/
lemma cut?_append_of_forall (hmark : mark ≠ []) (ha : ∀ x ∈ a, x ∉ mark) :
    cut? mark (a ++ t) = (cut? mark t).map fun (b, d) => (a ++ b, d) := by
  obtain ⟨m, ms, rfl⟩ := List.exists_cons_of_ne_nil hmark
  induction a with
  | nil => simp
  | cons x a ih =>
    obtain ⟨hx, ha⟩ := List.forall_mem_cons.1 ha
    have hne : m ≠ x := fun h => hx (h ▸ List.mem_cons_self)
    have hnone : after? (m :: ms) (x :: (a ++ t)) = none := if_neg hne
    rw [List.cons_append, cut?, hnone, ih ha]
    cases cut? (m :: ms) t <;> rfl

/-- A mark whose first character does not occur in a text occurs behind it. -/
lemma infix_of_infix_append {m : Char} {ms : Text} (ha : m ∉ a) (h : (m :: ms) <:+: a ++ b) :
    (m :: ms) <:+: b := by
  rcases List.infix_append_iff_ne_nil.1 h with h | h | ⟨l, r, hl, -, heq, hsuffix, -⟩
  · exact absurd (h.subset List.mem_cons_self) ha
  · exact h
  · obtain ⟨c, l, rfl⟩ := List.exists_cons_of_ne_nil hl
    obtain rfl : m = c := (List.cons.inj heq).1
    exact absurd (hsuffix.subset List.mem_cons_self) ha

/-- A mark does not begin in front of a character that it does not hold and end behind it. -/
lemma infix_or_infix_of_infix_cons {c : Char} (hc : c ∉ mark) (h : mark <:+: a ++ c :: b) :
    mark <:+: a ∨ mark <:+: c :: b := by
  rcases List.infix_append_iff_ne_nil.1 h with h | h | ⟨l, r, -, hr, rfl, -, hbegin⟩
  · exact Or.inl h
  · exact Or.inr h
  · obtain ⟨x, r, rfl⟩ := List.exists_cons_of_ne_nil hr
    obtain rfl : x = c := (List.cons_prefix_cons.1 hbegin).1
    exact absurd (by simp) hc

/-! ### Replacing a mark -/
section Replace

variable {m c : Char} {ms : Text}

lemma pieces_of_cut?_eq_none (h : cut? (m :: ms) t = none) : pieces m ms t = [t] := by
  rw [pieces]
  split
  · rfl
  · rename_i hsome
    exact absurd (h.symm.trans hsome) (by simp)

/-- The first piece of a text stands before the mark, and the others are those of the rest. -/
lemma pieces_of_cut?_eq_some (h : cut? (m :: ms) t = some (a, b)) :
    pieces m ms t = a :: pieces m ms b := by
  rw [pieces]
  split
  · rename_i hnone
    exact absurd (hnone.symm.trans h) (by simp)
  · rename_i hsome
    obtain ⟨rfl, rfl⟩ := Prod.mk.inj (Option.some.inj (hsome.symm.trans h))
    rfl

lemma pieces_ne_nil (m : Char) (ms t : Text) : pieces m ms t ≠ [] := by
  rw [pieces]
  split <;> simp

/-- A character with which no mark begins belongs to the first piece of what follows it. -/
lemma pieces_cons (h : ¬ (m :: ms) <+: c :: t) :
    ∃ piece others, pieces m ms t = piece :: others ∧
      pieces m ms (c :: t) = (c :: piece) :: others := by
  have hcut : cut? (m :: ms) (c :: t) = (cut? (m :: ms) t).map fun (a, b) => (c :: a, b) := by
    rw [cut?, after?_eq_none_iff.2 h]
  cases htail : cut? (m :: ms) t with
  | none =>
    rw [htail] at hcut
    exact ⟨t, [], pieces_of_cut?_eq_none htail, pieces_of_cut?_eq_none hcut⟩
  | some ab =>
    rw [htail] at hcut
    exact ⟨ab.1, _, pieces_of_cut?_eq_some htail, pieces_of_cut?_eq_some hcut⟩

/-- A mark is replaced by what takes its place. -/
lemma replaceAll_mark_append (new t : Text) :
    replaceAll (m :: ms) new (m :: ms ++ t) = new ++ replaceAll (m :: ms) new t := by
  have hafter : after? (m :: ms) (m :: (ms ++ t)) = some t := after?_eq_some_iff.2 rfl
  have hcut : cut? (m :: ms) (m :: ms ++ t) = some ([], t) := by
    rw [List.cons_append, cut?, hafter]
  obtain ⟨piece, others, hpieces⟩ := List.exists_cons_of_ne_nil (pieces_ne_nil m ms t)
  rw [replaceAll, replaceAll, pieces_of_cut?_eq_some hcut, hpieces]
  simp [join, List.intercalate]

lemma replaceAll_cons {new : Text} (h : ¬ (m :: ms) <+: c :: t) :
    replaceAll (m :: ms) new (c :: t) = c :: replaceAll (m :: ms) new t := by
  obtain ⟨piece, others, htail, hpieces⟩ := pieces_cons h
  rw [replaceAll, replaceAll, htail, hpieces]
  cases others with
  | nil => simp [join, List.intercalate]
  | cons other others => simp [join, List.intercalate]

lemma replaceAll_eq_self {new : Text} (h : ¬ (m :: ms) <:+: t) :
    replaceAll (m :: ms) new t = t := by
  rw [replaceAll, pieces_of_cut?_eq_none (cut?_eq_none_iff.2 h)]
  simp [join, List.intercalate]

/-- A text without the first character of the mark stays as it is, whatever follows it. -/
lemma replaceAll_append_of_not_mem {new : Text} (ha : m ∉ a) (t : Text) :
    replaceAll (m :: ms) new (a ++ t) = a ++ replaceAll (m :: ms) new t := by
  induction a with
  | nil => rfl
  | cons x a ih =>
    rw [List.mem_cons, not_or] at ha
    obtain ⟨hx, ha⟩ := ha
    have hnot : ¬ (m :: ms) <+: x :: (a ++ t) := fun h => hx (List.cons_prefix_cons.1 h).1
    rw [List.cons_append, replaceAll_cons hnot, ih ha, List.cons_append]

/-- The mark is replaced in two texts that stand side by side if it does not begin in the first one
and end in the second one. -/
lemma replaceAll_append {new : Text}
    (h : ∀ s, s <:+ a → (m :: ms) <+: s ++ b → s = [] ∨ (m :: ms) <+: s) :
    replaceAll (m :: ms) new (a ++ b) = replaceAll (m :: ms) new a ++ replaceAll (m :: ms) new b := by
  -- by induction on the length of the first text, since a mark in it is taken as a whole
  induction hlength : a.length using Nat.strongRecOn generalizing a with
  | ind n ih =>
    cases a with
    | nil => simp [replaceAll_eq_self]
    | cons x a =>
      have hrest : ∀ {a'}, a' <:+ x :: a →
          ∀ s, s <:+ a' → (m :: ms) <+: s ++ b → s = [] ∨ (m :: ms) <+: s :=
        fun ha' s hs => h s (hs.trans ha')
      by_cases hmark : (m :: ms) <+: x :: a
      · obtain ⟨a', heq⟩ := hmark
        have hshort : a'.length < n := by
          rw [← hlength, ← heq, List.length_append, List.length_cons]
          omega
        rw [← heq, List.append_assoc, replaceAll_mark_append, replaceAll_mark_append,
          ih a'.length hshort (hrest ⟨_, heq⟩) rfl, List.append_assoc]
      · have hnot : ¬ (m :: ms) <+: x :: (a ++ b) := by
          intro hpre
          rcases h (x :: a) (List.suffix_refl _) hpre with hnil | hpre
          · simp at hnil
          · exact hmark hpre
        rw [List.cons_append, replaceAll_cons hnot, replaceAll_cons hmark,
          ih a.length (by simp [← hlength]) (hrest (List.suffix_cons x a)) rfl, List.cons_append]

/-- A mark of one character is replaced character by character. -/
lemma replaceAll_char (m n : Char) (t : Text) :
    replaceAll [m] [n] t = t.map fun c => if c = m then n else c := by
  induction t with
  | nil => exact replaceAll_eq_self (by simp)
  | cons c t ih =>
    by_cases hc : c = m
    · have hmark : replaceAll [m] [n] ([m] ++ t) = [n] ++ replaceAll [m] [n] t :=
        replaceAll_mark_append [n] t
      rw [List.map_cons, if_pos hc, hc, ← ih]
      exact hmark
    · have hnot : ¬ [m] <+: c :: t := fun h => hc (List.cons_prefix_cons.1 h).1.symm
      rw [replaceAll_cons hnot, ih, List.map_cons, if_neg hc]

/-- The first occurrence of a mark gives way to its replacement, if the first character of the mark
does not occur in it again. -/
lemma replaceAll_append_mark {new : Text} (hm : m ∉ ms) (ha : ¬ (m :: ms) <:+: a) :
    replaceAll (m :: ms) new (a ++ (m :: ms) ++ b) = a ++ new ++ replaceAll (m :: ms) new b := by
  obtain ⟨piece, others, hpieces⟩ := List.exists_cons_of_ne_nil (pieces_ne_nil m ms b)
  rw [replaceAll, replaceAll, pieces_of_cut?_eq_some (cut?_append hm ha), hpieces]
  simp [join, List.intercalate]

end Replace

/-! ### Cutting texts that were rewritten -/
section Rewritten

/-- Rewriting characters keeps a class: its members stay, and no other character brings one in. -/
structure KeepsClass (p : Char → Bool) (f : Char → Text) : Prop where
  eq_self : ∀ {c}, p c = true → f c = [c]
  ne_nil : ∀ c, f c ≠ []
  eq_false : ∀ {c}, p c = false → ∀ x ∈ f c, p x = false

variable {f : Char → Text}

/-- Rewritten, a text without the class has none of it. -/
lemma KeepsClass.eq_false_of_mem (hf : KeepsClass p f) (ht : ∀ x ∈ t, p x = false) :
    ∀ x ∈ t.flatMap f, p x = false := by
  intro x hx
  obtain ⟨c, hc, hx⟩ := List.mem_flatMap.1 hx
  exact hf.eq_false (ht c hc) x hx

/-- A rewritten text is cut where the text was. -/
lemma cutWhere?_flatMap (hf : KeepsClass p f) (t : Text) :
    cutWhere? p (t.flatMap f) = (cutWhere? p t).map fun (a, b) => (a.flatMap f, b.flatMap f) := by
  cases hcut : cutWhere? p t with
  | none =>
    rw [cutWhere?_eq_none_iff] at hcut
    exact cutWhere?_eq_none_iff.2 (hf.eq_false_of_mem hcut)
  | some ab =>
    obtain ⟨a, b⟩ := ab
    obtain ⟨c, hc, ha, rfl⟩ := cutWhere?_eq_some_iff.1 hcut
    rw [List.flatMap_append, List.flatMap_cons, hf.eq_self hc]
    exact cutWhere?_append (hf.eq_false_of_mem ha) hc

/-- The pieces of a rewritten text are the rewritten pieces. -/
lemma splitWhere_flatMap (hf : KeepsClass p f) (t : Text) :
    splitWhere p (t.flatMap f) = (splitWhere p t).map (·.flatMap f) := by
  induction t with
  | nil => rfl
  | cons c t ih =>
    obtain ⟨piece, pieces, hpieces⟩ := List.exists_cons_of_ne_nil (splitWhere_ne_nil p t)
    rw [hpieces, List.map_cons] at ih
    by_cases hc : p c = true
    · simp [splitWhere, hf.eq_self hc, hc, ih, hpieces]
    · have hrun : ∀ x ∈ f c, p x = false := hf.eq_false (Bool.eq_false_iff.2 hc)
      rw [List.flatMap_cons, splitWhere_append_of_forall hrun ih, splitWhere, if_neg hc, hpieces]
      rfl

/-- What follows a mark in a rewritten text is what followed it, rewritten. -/
lemma after?_flatMap (hf : KeepsClass p f) (hm : ∀ m ∈ mark, p m = true) (t : Text) :
    after? mark (t.flatMap f) = (after? mark t).map (·.flatMap f) := by
  induction mark generalizing t with
  | nil => rfl
  | cons m ms ih =>
    obtain ⟨hm, hms⟩ := List.forall_mem_cons.1 hm
    cases t with
    | nil => rfl
    | cons c t =>
      by_cases hc : p c = true
      · rw [List.flatMap_cons, hf.eq_self hc, List.singleton_append, after?, after?]
        split
        · exact ih hms t
        · rfl
      · have hc := Bool.eq_false_iff.2 hc
        obtain ⟨x, xs, hx⟩ := List.exists_cons_of_ne_nil (hf.ne_nil c)
        have hother : ∀ {y : Char}, p y = false → m ≠ y := by
          rintro y hy rfl
          exact absurd (hm.symm.trans hy) (by decide)
        have hxc : p x = false := hf.eq_false hc x (hx ▸ List.mem_cons_self)
        rw [List.flatMap_cons, hx, List.cons_append, after?, if_neg (hother hxc), after?,
          if_neg (hother hc)]
        rfl

/-- A rewritten text is cut at a mark where the text was. -/
lemma cut?_flatMap (hf : KeepsClass p f) (hmark : mark ≠ []) (hm : ∀ m ∈ mark, p m = true)
    (t : Text) :
    cut? mark (t.flatMap f) = (cut? mark t).map fun (a, b) => (a.flatMap f, b.flatMap f) := by
  induction t with
  | nil =>
    have hnil : after? mark [] = none := after?_eq_none_iff.2 (by simpa using hmark)
    simp [cut?, hnil]
  | cons c t ih =>
    have hafter := after?_flatMap hf hm (c :: t)
    cases hrest : after? mark (c :: t) with
    | some rest =>
      -- the mark begins here, in the text as in the rewritten one
      obtain ⟨x, xs, hx⟩ := List.exists_cons_of_ne_nil (hf.ne_nil c)
      rw [hrest, List.flatMap_cons, hx, List.cons_append] at hafter
      rw [List.flatMap_cons, hx, List.cons_append, cut?, hafter, cut?, hrest]
      rfl
    | none =>
      have hcut : cut? mark (c :: t) = (cut? mark t).map fun (a, b) => (c :: a, b) := by
        rw [cut?, hrest]
      rw [hcut, List.flatMap_cons]
      by_cases hc : p c = true
      · rw [hrest, List.flatMap_cons, hf.eq_self hc, List.singleton_append] at hafter
        rw [hf.eq_self hc, List.singleton_append, cut?, hafter, ih]
        cases cut? mark t with
        | none => rfl
        | some ab => simp [hf.eq_self hc]
      · -- no mark begins within what a character outside the class is rewritten to
        have hrun : ∀ x ∈ f c, x ∉ mark := by
          intro x hx hmem
          have hfalse := hf.eq_false (Bool.eq_false_iff.2 hc) x hx
          exact absurd ((hm x hmem).symm.trans hfalse) (by decide)
        rw [cut?_append_of_forall hmark hrun, ih]
        cases cut? mark t with
        | none => rfl
        | some ab => simp

end Rewritten

/-! ### Cutting where a class ends -/

lemma takeWhile_append_of_forall (ha : ∀ x ∈ a, p x = true) (hb : ∀ x ∈ b.head?, p x = false) :
    (a ++ b).takeWhile p = a := by
  rw [List.takeWhile_append_of_pos ha]
  cases b with
  | nil => simp
  | cons c b => simp [hb c rfl]

lemma dropWhile_append_of_forall (ha : ∀ x ∈ a, p x = true) (hb : ∀ x ∈ b.head?, p x = false) :
    (a ++ b).dropWhile p = b := by
  rw [List.dropWhile_append_of_pos ha]
  cases b with
  | nil => simp
  | cons c b => simp [hb c rfl]

end NoteLinks.Text
