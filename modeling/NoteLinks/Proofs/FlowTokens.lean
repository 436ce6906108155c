import Mathlib.Data.List.Forall2
import NoteLinks.Proofs.WrittenScalars
import NoteLinks.Yaml.Token

/-!
# Tokens inside brackets

Inside brackets and braces the columns of a document mean nothing, so little of a layout decides how
it is read: what is ahead, where a key can stand, and at which levels a token waits for a colon that
would make it a key.  A `FlowPoint` states this, and each token leads from one point to another
(`Scans`).  The marks do (`Layout.scans_open`, `Layout.scans_close`, `Layout.scans_comma`,
`Layout.scans_key`, `Layout.scans_value`), and so do texts in quotes (`Layout.scans_text`) and words
(`Layout.scans_word`).

A key that is marked as one needs no candidate: behind its mark the level stays free, whatever the
key is, so the colon after it adds nothing before it.
-/

namespace NoteLinks.Yaml

variable {c : Char} {t rest gap : Text} {k : Token} {ts us : List Token} {levels : List Bool}
variable {isFree isOuterFree mayBeKey : Bool}

/-! ### Layouts inside brackets -/

/-- What a layout inside brackets is known by: the text ahead, the tokens, for each open bracket
whether its level is free of candidates, and whether a key can stand here. -/
structure FlowPoint where
  ahead : Text
  tokens : List Token
  levels : List Bool
  mayBeKey : Bool

/-- The candidate of a level is not a required key, and a free level has none. -/
structure Suits (k : Option Candidate) (isFree : Bool) : Prop where
  optional : k.any (·.isRequired) = false
  free : isFree = true → k = none

lemma Suits.filter {k : Option Candidate} (h : Suits k isFree) (keep : Candidate → Bool) :
    Suits (k.filter keep) isFree := by
  obtain ⟨hoptional, hfree⟩ := h
  cases k with
  | none => exact ⟨hoptional, fun _ => rfl⟩
  | some k =>
    refine ⟨?_, fun hlevel => by cases hfree hlevel⟩
    by_cases hkeep : keep k = true
    · rw [Option.filter_some_pos hkeep]
      exact hoptional
    · rw [Option.filter_some_neg (by simpa using hkeep)]
      rfl

namespace Layout

variable {s : Layout} {p q r : FlowPoint}

/-- The layout is at a point inside brackets; no list or mapping is open by indentation. -/
structure IsAt (s : Layout) (p : FlowPoint) : Prop where
  ahead : s.ahead = p.ahead
  tokens : s.tokens = p.tokens
  indents : s.indents = []
  candidates : List.Forall₂ Suits s.candidates p.levels
  mayBeKey : s.mayBeKey = p.mayBeKey

lemma isAt_start (t : Text) : (start t).IsAt ⟨t, [], [true], true⟩ :=
  ⟨rfl, rfl, rfl, .cons ⟨rfl, fun _ => rfl⟩ .nil, rfl⟩

namespace IsAt

lemma advance (h : s.IsAt p) (rest : Text) : (s.advance rest).IsAt { p with ahead := rest } :=
  ⟨rfl, h.tokens, h.indents, h.candidates, h.mayBeKey⟩

lemma allowKey (h : s.IsAt p) (mayBeKey : Bool) :
    (s.allowKey mayBeKey).IsAt { p with mayBeKey := mayBeKey } :=
  ⟨h.ahead, h.tokens, h.indents, h.candidates, rfl⟩

lemma add (h : s.IsAt p) (k : Token) : (s.add k).IsAt { p with tokens := k :: p.tokens } :=
  ⟨h.ahead, by rw [Layout.add, h.tokens], h.indents, h.candidates, h.mayBeKey⟩

/-- A mark is added as a token, and what is ahead is what follows it. -/
lemma mark (h : s.IsAt ⟨c :: t, ts, levels, mayBeKey⟩) (k : Token) :
    (s.mark k).IsAt ⟨t, k :: ts, levels, mayBeKey⟩ := by
  have hadd := h.add k
  have hdrop : (s.add k).ahead.drop 1 = t := by rw [hadd.ahead, List.drop_one, List.tail_cons]
  rw [Layout.mark, skip, hdrop]
  exact hadd.advance t

lemma inFlow (h : s.IsAt p) : s.inFlow = decide (1 < p.levels.length) := by
  rw [Layout.inFlow, h.candidates.length_eq]

/-- The candidate of the innermost level can be dropped, and leaves it free. -/
lemma dropCandidate (h : s.IsAt ⟨t, ts, isFree :: levels, mayBeKey⟩) :
    ∃ s', s.dropCandidate? = some s' ∧ s'.IsAt ⟨t, ts, true :: levels, mayBeKey⟩ := by
  obtain ⟨k, ks, hk, hks, hcandidates⟩ := List.forall₂_cons_right_iff.1 h.candidates
  refine ⟨{ s with candidates := none :: ks }, ?_, ?_⟩
  · rw [dropCandidate?, hcandidates]
    simp only [hk.optional, Bool.false_eq_true, if_false]
  · exact ⟨h.ahead, h.tokens, h.indents, .cons ⟨rfl, fun _ => rfl⟩ hks, h.mayBeKey⟩

/-- The next token becomes the candidate of the innermost level if a key can stand here; a level
stays free otherwise. -/
lemma saveCandidate (h : s.IsAt ⟨t, ts, isFree :: levels, mayBeKey⟩) :
    ∃ s', s.saveCandidate? = some s' ∧
      s'.IsAt ⟨t, ts, (!mayBeKey && isFree) :: levels, mayBeKey⟩ := by
  cases mayBeKey with
  | false => exact ⟨s, by rw [saveCandidate?, h.mayBeKey]; rfl, h⟩
  | true =>
    obtain ⟨u, hu, hat⟩ := h.dropCandidate
    obtain ⟨_, ks, -, hks, hcandidates⟩ := List.forall₂_cons_right_iff.1 hat.candidates
    refine ⟨{ u with candidates := some ⟨u.tokens.length, u.place, false⟩ :: ks }, ?_, ?_⟩
    · rw [saveCandidate?, h.mayBeKey, hu, h.indents]
      simp [hcandidates]
    · exact ⟨hat.ahead, hat.tokens, hat.indents, .cons ⟨rfl, fun hfree => by cases hfree⟩ hks,
        hat.mayBeKey⟩

/-- Candidates that are too far away can be dropped. -/
lemma dropDistant (h : s.IsAt p) : ∃ s', s.dropDistant? = some s' ∧ s'.IsAt p := by
  -- inside brackets no candidate has to be a key, so however far away it is it can be dropped
  have hrequired : s.candidates.any
      (fun k => k.any fun k => k.isRequired && !k.reaches s.place) = false := by
    rw [List.any_eq_false]
    intro k hk
    obtain ⟨isFree, hsuits⟩ : ∃ isFree, Suits k isFree := by
      obtain ⟨i, hi, rfl⟩ := List.getElem_of_mem hk
      exact ⟨_, h.candidates.get hi (h.candidates.length_eq ▸ hi)⟩
    have hoptional := hsuits.optional
    cases k with
    | none => simp
    | some k => simp_all
  refine ⟨_, by rw [dropDistant?, if_neg (by simp [hrequired])], ?_⟩
  refine ⟨h.ahead, h.tokens, h.indents, ?_, h.mayBeKey⟩
  rw [List.forall₂_map_left_iff]
  exact h.candidates.imp fun k isFree hsuits => hsuits.filter _

end IsAt

/-! ### From one token to the next -/

/-- A token can begin with the character, where white space and comments are skipped. -/
def beginsToken (c : Char) : Bool := !isBlank c && c != '#' && c != Char.ofNat 0xFEFF

lemma skipSpace_append (hgap : ∀ d ∈ gap, d = ' ') (hc : beginsToken c = true) (inFlow : Bool)
    (lineStart : Bool) :
    skipSpace inFlow mayBeKey false lineStart (gap ++ c :: t) = (c :: t, mayBeKey) := by
  induction gap generalizing lineStart with
  | nil =>
    simp only [beginsToken, isBlank, isSpace, Bool.and_eq_true, Bool.not_eq_true',
      Bool.or_eq_false_iff, beq_eq_false_iff_ne, bne_iff_ne] at hc
    obtain ⟨⟨⟨⟨hspace, htab⟩, hbreak⟩, hcomment⟩, hmark⟩ := hc
    simp [skipSpace, hspace, htab, hbreak, hcomment, hmark]
  | cons d gap ih =>
    obtain ⟨rfl, hspaces⟩ := List.forall_mem_cons.1 hgap
    have hbreak : isBreak ' ' = false := by decide
    rw [List.cons_append, skipSpace, hbreak]
    simpa using ih hspaces false

/-- Where nothing is open by indentation, nothing is closed by it. -/
lemma close_eq_self (h : s.indents = []) (column : Nat) : s.close column = s := by
  rw [close, h]
  cases s
  simp_all

lemma closeAll_eq_self (h : s.indents = []) : s.closeAll = s := by
  rw [closeAll, h]
  cases s
  simp_all

/-- White space is skipped. -/
lemma IsAt.next_of_skipSpace (h : s.IsAt ⟨t, ts, levels, mayBeKey⟩) {mayBeKey' : Bool}
    (hspace : skipSpace s.inFlow mayBeKey false (s.place.column == 0) t = (rest, mayBeKey')) :
    ∃ u, s.next? = some u ∧ u.IsAt ⟨rest, ts, levels, mayBeKey'⟩ := by
  obtain ⟨u, hu, hat⟩ := ((h.advance rest).allowKey mayBeKey').dropDistant
  refine ⟨u, ?_, hat⟩
  rw [next?, h.ahead, h.mayBeKey, hspace]
  simp only [hu]
  exact congrArg some (close_eq_self hat.indents _)

lemma IsAt.next (h : s.IsAt ⟨gap ++ c :: t, ts, levels, mayBeKey⟩) (hgap : ∀ d ∈ gap, d = ' ')
    (hc : beginsToken c = true) :
    ∃ u, s.next? = some u ∧ u.IsAt ⟨c :: t, ts, levels, mayBeKey⟩ :=
  h.next_of_skipSpace (skipSpace_append hgap hc _ _)

/-- A layout at the first point is read on from the second, after as many tokens as characters at
most. -/
def Scans (p q : FlowPoint) : Prop :=
  ∀ s : Layout, s.IsAt p → ∃ (s' : Layout) (n : Nat), s'.IsAt q ∧
    n + q.ahead.length ≤ p.ahead.length ∧ ∀ fuel, readAll? (fuel + n) s = readAll? fuel s'

lemma Scans.refl (p : FlowPoint) : Scans p p := fun s h => ⟨s, 0, h, by omega, fun _ => rfl⟩

lemma Scans.trans (hpq : Scans p q) (hqr : Scans q r) : Scans p r := by
  intro s hs
  obtain ⟨s', m, hs', hm, hread⟩ := hpq s hs
  obtain ⟨s'', n, hs'', hn, hread'⟩ := hqr s' hs'
  refine ⟨s'', n + m, hs'', by omega, fun fuel => ?_⟩
  rw [← Nat.add_assoc, hread, hread']

/-- One token is read. -/
lemma Scans.of_token (hgap : ∀ d ∈ gap, d = ' ') (hc : beginsToken c = true)
    (hlength : q.ahead.length ≤ t.length)
    (htoken : ∀ s : Layout, s.IsAt ⟨c :: t, ts, levels, mayBeKey⟩ →
      ∃ s', s.token? = some s' ∧ s'.IsAt q) :
    Scans ⟨gap ++ c :: t, ts, levels, mayBeKey⟩ q := by
  intro s hs
  obtain ⟨u, hu, hat⟩ := hs.next hgap hc
  obtain ⟨s', hs', hq⟩ := htoken u hat
  -- one token is read, and the text is shorter by a character at least
  refine ⟨s', 1, hq, ?_, fun fuel => ?_⟩
  · rw [List.length_append, List.length_cons]
    omega
  · have hahead : u.ahead ≠ [] := by simp [hat.ahead]
    rw [readAll?, hu]
    simp [hahead, hs']

/-- The end of a line is the end of a text. -/
lemma readAll?_newline (h : s.IsAt ⟨['\n'], ts, isFree :: levels, mayBeKey⟩) (fuel : Nat) :
    ∃ u, readAll? (fuel + 1) s = some u ∧ u.tokens = ts := by
  have hspace : ∀ inFlow lineStart,
      skipSpace inFlow mayBeKey false lineStart ['\n'] = ([], mayBeKey || !inFlow) := by
    intro inFlow lineStart
    have hbreak : isBreak '\n' = true := by decide
    simp [skipSpace, hbreak]
  obtain ⟨u, hu, hat⟩ := h.next_of_skipSpace (hspace _ _)
  obtain ⟨v, hv, hend⟩ := hat.dropCandidate
  refine ⟨v, ?_, hend.tokens⟩
  rw [readAll?, hu]
  simp only [Option.bind_eq_bind, Option.bind_some]
  rw [if_pos hat.ahead, closeAll_eq_self hat.indents, hv]

/-! ### Marks -/

/-- A mark around documents begins with a dot or with two dashes. -/
lemma of_isDocumentMark (h : isDocumentMark (c :: t) = true) :
    c = '.' ∨ c = '-' ∧ t.head? = some '-' := by
  rw [isDocumentMark, Bool.and_eq_true, Bool.or_eq_true, beq_iff_eq, beq_iff_eq] at h
  obtain ⟨hdashes | hdots, -⟩ := h
  · obtain ⟨hc, ht⟩ := List.cons.inj (hdashes : c :: t.take 2 = ['-', '-', '-'])
    cases t with
    | nil => cases ht
    | cons d t => exact .inr ⟨hc, congrArg some (List.cons.inj ht).1⟩
  · exact .inl (List.cons.inj (hdots : c :: t.take 2 = ['.', '.', '.'])).1

lemma isDocumentMark_cons (hdot : c ≠ '.') (hdash : c ≠ '-') : isDocumentMark (c :: t) = false :=
  Bool.eq_false_iff.2 fun h => (of_isDocumentMark h).elim hdot fun h => hdash h.1

namespace IsAt

lemma openFlow (h : s.IsAt ⟨c :: t, ts, isFree :: levels, mayBeKey⟩) (k : Token) :
    ∃ s', s.openFlow? k = some s' ∧
      s'.IsAt ⟨t, k :: ts, true :: (!mayBeKey && isFree) :: levels, true⟩ := by
  obtain ⟨u, hu, hat⟩ := h.saveCandidate
  have hinside : ({ u with candidates := none :: u.candidates } : Layout).IsAt
      ⟨c :: t, ts, true :: (!mayBeKey && isFree) :: levels, mayBeKey⟩ :=
    ⟨hat.ahead, hat.tokens, hat.indents, .cons ⟨rfl, fun _ => rfl⟩ hat.candidates, hat.mayBeKey⟩
  exact ⟨_, by rw [openFlow?, hu]; rfl, (hinside.allowKey true).mark k⟩

lemma closeFlow (h : s.IsAt ⟨c :: t, ts, isFree :: isOuterFree :: levels, mayBeKey⟩) (k : Token) :
    ∃ s', s.closeFlow? k = some s' ∧ s'.IsAt ⟨t, k :: ts, isOuterFree :: levels, false⟩ := by
  obtain ⟨u, hu, hat⟩ := h.dropCandidate
  have hflow : u.inFlow = true := by simp [hat.inFlow]
  have houtside : ({ u with candidates := u.candidates.tail } : Layout).IsAt
      ⟨c :: t, ts, isOuterFree :: levels, mayBeKey⟩ := by
    obtain ⟨_, ks, -, hks, hcandidates⟩ := List.forall₂_cons_right_iff.1 hat.candidates
    exact ⟨hat.ahead, hat.tokens, hat.indents, by simpa [hcandidates] using hks, hat.mayBeKey⟩
  refine ⟨_, ?_, (houtside.allowKey false).mark k⟩
  rw [closeFlow?, hu]
  simp only [Option.bind_eq_bind, Option.bind_some, hflow, if_true]

lemma comma (h : s.IsAt ⟨c :: t, ts, isFree :: levels, mayBeKey⟩) :
    ∃ s', s.comma? = some s' ∧ s'.IsAt ⟨t, .comma :: ts, true :: levels, true⟩ := by
  obtain ⟨u, hu, hat⟩ := h.dropCandidate
  exact ⟨_, by rw [comma?, hu]; rfl, (hat.allowKey true).mark .comma⟩

lemma openHere_eq_self (h : s.IsAt ⟨t, ts, isFree :: isOuterFree :: levels, mayBeKey⟩)
    (k : Token) : s.openHere k = s := by
  have hflow : s.inFlow = true := by simp [h.inFlow]
  rw [openHere, openAt, hflow, Bool.true_or, if_pos rfl]

lemma key (h : s.IsAt ⟨c :: t, ts, isFree :: isOuterFree :: levels, mayBeKey⟩) :
    ∃ s', s.key? = some s' ∧ s'.IsAt ⟨t, .key :: ts, true :: isOuterFree :: levels, false⟩ := by
  obtain ⟨u, hu, hat⟩ := h.dropCandidate
  have hflow : s.inFlow = true := by simp [h.inFlow]
  have hflow' : u.inFlow = true := by simp [hat.inFlow]
  refine ⟨_, ?_, (hat.allowKey false).mark .key⟩
  rw [key?, h.openHere_eq_self, hu, hflow]
  simp [hflow']

/-- The colon behind a key that was marked as one. -/
lemma value (h : s.IsAt ⟨c :: t, ts, true :: isOuterFree :: levels, mayBeKey⟩) :
    ∃ s', s.value? = some s' ∧ s'.IsAt ⟨t, .value :: ts, true :: isOuterFree :: levels, false⟩ := by
  have hflow : s.inFlow = true := by simp [h.inFlow]
  obtain ⟨k, ks, hk, -, hcandidates⟩ := List.forall₂_cons_right_iff.1 h.candidates
  refine ⟨_, ?_, (h.allowKey false).mark .value⟩
  rw [value?, h.openHere_eq_self, hcandidates, hk.free rfl, hflow]
  rfl

end IsAt

/-- An opening bracket or brace is read as itself; what stands in it begins on a free level. -/
lemma scans_open (hgap : ∀ d ∈ gap, d = ' ')
    (hck : c = '[' ∧ k = .openBracket ∨ c = '{' ∧ k = .openBrace) :
    Scans ⟨gap ++ c :: t, ts, isFree :: levels, mayBeKey⟩
      ⟨t, k :: ts, true :: (!mayBeKey && isFree) :: levels, true⟩ := by
  obtain ⟨rfl, rfl⟩ | ⟨rfl, rfl⟩ := hck
  all_goals
    refine .of_token hgap (by decide) (Nat.le_refl _) fun s h => ?_
    rw [token?, h.ahead]
    simpa [isDocumentMark_cons] using h.openFlow _

/-- A closing bracket or brace is read as itself. -/
lemma scans_close (hck : c = ']' ∧ k = .closeBracket ∨ c = '}' ∧ k = .closeBrace) :
    Scans ⟨c :: t, ts, isFree :: isOuterFree :: levels, mayBeKey⟩
      ⟨t, k :: ts, isOuterFree :: levels, false⟩ := by
  change Scans ⟨[] ++ c :: t, ts, isFree :: isOuterFree :: levels, mayBeKey⟩ _
  obtain ⟨rfl, rfl⟩ | ⟨rfl, rfl⟩ := hck
  all_goals
    refine .of_token (by simp) (by decide) (Nat.le_refl _) fun s h => ?_
    rw [token?, h.ahead]
    simpa [isDocumentMark_cons] using h.closeFlow _

lemma scans_comma :
    Scans ⟨',' :: t, ts, isFree :: levels, mayBeKey⟩ ⟨t, .comma :: ts, true :: levels, true⟩ := by
  change Scans ⟨[] ++ ',' :: t, ts, isFree :: levels, mayBeKey⟩ _
  refine .of_token (by simp) (by decide) (Nat.le_refl _) fun s h => ?_
  rw [token?, h.ahead]
  simpa [isDocumentMark_cons] using h.comma

/-- The mark of a key is read as itself. -/
lemma scans_key (hgap : ∀ d ∈ gap, d = ' ') :
    Scans ⟨gap ++ '?' :: t, ts, isFree :: isOuterFree :: levels, mayBeKey⟩
      ⟨t, .key :: ts, true :: isOuterFree :: levels, false⟩ := by
  refine .of_token hgap (by decide) (Nat.le_refl _) fun s h => ?_
  have hflow : s.inFlow = true := by simp [h.inFlow]
  rw [token?, h.ahead]
  simpa [isDocumentMark_cons, hflow] using h.key

/-- The colon behind a key is read as itself. -/
lemma scans_value :
    Scans ⟨':' :: t, ts, true :: isOuterFree :: levels, mayBeKey⟩
      ⟨t, .value :: ts, true :: isOuterFree :: levels, false⟩ := by
  change Scans ⟨[] ++ ':' :: t, ts, true :: isOuterFree :: levels, mayBeKey⟩ _
  refine .of_token (by simp) (by decide) (Nat.le_refl _) fun s h => ?_
  have hflow : s.inFlow = true := by simp [h.inFlow]
  rw [token?, h.ahead]
  simpa [isDocumentMark_cons, hflow] using h.value

/-! ### Scalars -/

/-- A written text is read as it. -/
lemma scans_text (hgap : ∀ d ∈ gap, d = ' ') (u : Text) :
    Scans ⟨gap ++ (writeText u ++ t), ts, isFree :: levels, mayBeKey⟩
      ⟨t, .quoted u :: ts, (!mayBeKey && isFree) :: levels, false⟩ := by
  have hquote : writeText u ++ t = '"' :: (u.flatMap writeChar ++ '"' :: t) := by simp [writeText]
  rw [hquote]
  refine .of_token hgap (by decide) (by simp; omega) fun s h => ?_
  rw [← hquote] at h
  have htoken : s.token? = s.quoted? := by
    rw [token?, h.ahead]
    simp [hquote, isDocumentMark_cons]
  obtain ⟨v, hv, hat⟩ := h.saveCandidate
  refine ⟨_, ?_, ((hat.add (.quoted u)).advance t).allowKey false⟩
  rw [htoken, quoted?, hv]
  simp only [Option.bind_eq_bind, Option.bind_some]
  rw [hat.ahead, read?_writeText]
  rfl

lemma beginsToken_of_isWordChar (h : isWordChar c = true) : beginsToken c = true := by
  have hmarks : c ∉ ['#', Char.ofNat 0xFEFF] := not_mem_of_isWordChar h (by decide)
  rw [beginsToken, isBlank_of_isWordChar h]
  simpa [and_comm] using hmarks

/-- A word is read as a plain scalar, also if it begins with a minus sign. -/
lemma token?_word {w : Text} (hw : IsWord w) (h : s.ahead = w ++ t) : s.token? = s.plain? := by
  obtain ⟨c, w, rfl⟩ := List.exists_cons_of_ne_nil hw.ne_nil
  have hc := hw.chars c List.mem_cons_self
  have hmarks : c ∉ ['.', '[', '{', ']', '}', ',', '?', ':', '|', '>', '"', '\''] :=
    not_mem_of_isWordChar hc (by decide)
  -- a word with a dash in front is a negative number, so neither an item nor a mark begins
  have hsign : c = '-' → ∃ d u, w = d :: u ∧ d ≠ '-' ∧ isBlank d = false := by
    rintro rfl
    obtain ⟨d, u, rfl, hd⟩ := hw.sign w rfl
    exact ⟨d, u, rfl, hd, isBlank_of_isWordChar (hw.chars d (by simp))⟩
  have hmark : isDocumentMark (c :: (w ++ t)) = false := by
    refine Bool.eq_false_iff.2 fun hmark => ?_
    obtain rfl | ⟨hdash, hhead⟩ := of_isDocumentMark hmark
    · simp at hmarks
    · obtain ⟨d, u, rfl, hd, -⟩ := hsign hdash
      exact hd (Option.some.inj hhead)
  have hgap : c = '-' → atGap (w ++ t) = false := by
    rintro hdash
    obtain ⟨d, u, rfl, -, hblank⟩ := hsign hdash
    exact hblank
  rw [token?, h, List.cons_append]
  simp only [hmark, Bool.false_eq_true, and_false, if_false]
  split <;> simp_all

/-- A word is read as it. -/
lemma scans_word {w : Text} (hgap : ∀ d ∈ gap, d = ' ') (hw : IsWord w) (ht : EndsWord t) :
    Scans ⟨gap ++ (w ++ t), ts, isFree :: isOuterFree :: levels, mayBeKey⟩
      ⟨t, .plain w :: ts, (!mayBeKey && isFree) :: isOuterFree :: levels, false⟩ := by
  obtain ⟨c, u, rfl⟩ := List.exists_cons_of_ne_nil hw.ne_nil
  have hc := hw.chars c List.mem_cons_self
  refine .of_token hgap (beginsToken_of_isWordChar hc) (by simp) fun s h => ?_
  obtain ⟨v, hv, hat⟩ := h.saveCandidate
  have hahead : s.ahead = c :: u ++ t := h.ahead
  have hahead' : v.ahead = c :: u ++ t := hat.ahead
  have hflow : v.inFlow = true := by simp [hat.inFlow]
  refine ⟨_, ?_, ((hat.add (.plain (c :: u))).advance t).allowKey false⟩
  rw [token?_word hw hahead, plain?, hahead, if_pos (starts_word hw t), hv]
  simp only [Option.bind_eq_bind, Option.bind_some, hflow]
  rw [hahead', read?_word hw ht]
  rfl

end Layout

end NoteLinks.Yaml
