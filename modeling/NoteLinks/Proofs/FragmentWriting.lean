import NoteLinks.Proofs.Fragments
import NoteLinks.Proofs.Percent

/-!
# Writing a fragment and reading it back

A fragment that was read from an annotation keeps each recognized key once and the other keys in
increasing order (`WellFormed`, `wellFormed_read`).  Such a fragment is read back from the
annotation that states it (`read_write`): the annotation is cut into the pieces it was put together
from, since no coded key or value holds `&` or `=`, and the pairs of the pieces build up the
fragment one after the other, each at its end.

So reading an annotation, writing the fragment and reading again gives the fragment, whatever
characters and broken escapes the annotation holds; and no other fragments are read back
(`read_write_read`).

Few annotations are written this way by hand.  A pair may stand in one as it is if its characters
have no meaning there (`IsBare`, `read_of_isBare`).
-/

namespace NoteLinks

namespace Text

/-- A text that comes after all members of a list is put at its end. -/
lemma insertSorted_of_forall_lt {t : Text} {us : List Text} (h : ∀ u ∈ us, u < t) :
    insertSorted t us = us ++ [t] := by
  induction us with
  | nil => rfl
  | cons u us ih =>
    obtain ⟨hu, hus⟩ := List.forall_mem_cons.1 h
    have hlt : ¬ t < u := fun htu => List.lt_irrefl t (List.lt_trans htu hu)
    have hne : t ≠ u := fun heq => hlt (heq ▸ hu)
    rw [insertSorted, if_neg hlt, if_neg hne, ih hus, List.cons_append]

end Text

namespace Fragment

variable {known : Text → Bool} {f : Fragment} {ps es : List (Text × Text)} {us : List Text}

/-! ## Fragments as they are read -/

/-- A fragment as reading makes it, where the keys of `known` are recognized. -/
structure WellFormed (known : Text → Bool) (f : Fragment) : Prop where
  nodup_keys : (f.entries.map Prod.fst).Nodup
  known_entries : ∀ e ∈ f.entries, known e.1 = true
  pairwise_unknown : f.unknown.Pairwise (· < ·)
  not_known_unknown : ∀ key ∈ f.unknown, known key = false
  entries_ne_nil : ∀ e ∈ f.entries, e.1 ≠ []
  unknown_ne_nil : ∀ key ∈ f.unknown, key ≠ []

/-- Every annotation is read as a well-formed fragment. -/
lemma wellFormed_read (place : Place) (raw : Text) :
    (read place raw).WellFormed place.recognizes := by
  -- each condition is read off the keys of the annotation, in their first order
  have hentries : (read place raw).entries =
      (Text.distinct ((keys raw).filter place.recognizes)).map fun key =>
        (key, lastValue (pairs raw) key) := by
    rw [read, entries_ofPairs, map_fst_pairs]
  have hkeys : (read place raw).entries.map Prod.fst =
      Text.distinct ((keys raw).filter place.recognizes) := by
    rw [hentries, List.map_map]
    exact List.map_id _
  have hmem : ∀ e ∈ (read place raw).entries, e.1 ∈ keys raw ∧ place.recognizes e.1 = true := by
    intro e he
    have hkey : e.1 ∈ (read place raw).entries.map Prod.fst := List.mem_map_of_mem he
    rw [hkeys, Text.mem_distinct] at hkey
    exact List.mem_filter.1 hkey
  have hne : ∀ key ∈ keys raw, key ≠ [] := by
    intro key hkey
    simpa using (List.mem_filter.1 hkey).2
  have hunknown : ∀ key ∈ (read place raw).unknown,
      key ∈ keys raw ∧ place.recognizes key = false := fun key hkey => mem_unknown_read.1 hkey
  exact {
    nodup_keys := by rw [hkeys]; exact Text.nodup_distinct _
    known_entries := fun e he => (hmem e he).2
    pairwise_unknown := pairwise_unknown_ofPairs _ _
    not_known_unknown := fun key hkey => (hunknown key hkey).2
    entries_ne_nil := fun e he => hne _ (hmem e he).1
    unknown_ne_nil := fun key hkey => hne _ (hunknown key hkey).1 }

/-! ## Pairs of a written fragment -/

/-- A written entry states its key and value. -/
lemma pair?_writeEntry {e : Text × Text} (he : e.1 ≠ []) : pair? (writeEntry e) = some e := by
  have hkey : '=' ∉ Percent.encode e.1 := Percent.not_mem_encode (by decide) (by decide) _
  have hwrite : writeEntry e = Percent.encode e.1 ++ '=' :: Percent.encode e.2 := by
    simp [writeEntry]
  have hcut : Text.cutWhere? (· == '=') (writeEntry e) =
      some (Percent.encode e.1, Percent.encode e.2) :=
    Text.cutWhere?_char_eq_some_iff.2 ⟨hkey, hwrite⟩
  simp only [pair?, hcut, Option.getD_some, Percent.decodeComponent_encode, if_neg he]

lemma pair?_encode {key : Text} (hkey : key ≠ []) :
    pair? (Percent.encode key) = some (key, []) := by
  have hequals : '=' ∉ Percent.encode key := Percent.not_mem_encode (by decide) (by decide) _
  have hcut : Text.cutWhere? (· == '=') (Percent.encode key) = none :=
    Text.cutWhere?_char_eq_none_iff.2 hequals
  simp only [pair?, hcut, Option.getD_none, Percent.decodeComponent_encode, if_neg hkey]
  rfl

/-- No piece of a written fragment has the character in it at which pieces are cut. -/
lemma not_mem_piece (f : Fragment) :
    ∀ piece ∈ f.entries.map writeEntry ++ f.unknown.map Percent.encode, '&' ∉ piece := by
  have hencode : ∀ t : Text, '&' ∉ Percent.encode t :=
    fun t => Percent.not_mem_encode (by decide) (by decide) t
  intro piece hpiece
  rcases List.mem_append.1 hpiece with h | h
  · obtain ⟨e, -, rfl⟩ := List.mem_map.1 h
    simp [writeEntry, hencode]
  · obtain ⟨key, -, rfl⟩ := List.mem_map.1 h
    exact hencode key

/-- A written fragment states its entries and then its other keys. -/
lemma pairs_write (hentries : ∀ e ∈ f.entries, e.1 ≠ []) (hunknown : ∀ key ∈ f.unknown, key ≠ []) :
    pairs (write f) = f.entries ++ f.unknown.map fun key => (key, []) := by
  have hfirst : (f.entries.map writeEntry).filterMap pair? = f.entries :=
    calc (f.entries.map writeEntry).filterMap pair?
        = f.entries.filterMap fun e => pair? (writeEntry e) := List.filterMap_map
      _ = f.entries.filterMap some :=
          List.filterMap_congr fun e he => pair?_writeEntry (hentries e he)
      _ = f.entries := List.filterMap_some
  have hsecond : (f.unknown.map Percent.encode).filterMap pair? =
      f.unknown.map fun key => (key, []) :=
    calc (f.unknown.map Percent.encode).filterMap pair?
        = f.unknown.filterMap fun key => pair? (Percent.encode key) := List.filterMap_map
      _ = f.unknown.filterMap fun key => some (key, []) :=
          List.filterMap_congr fun key hkey => pair?_encode (hunknown key hkey)
      _ = f.unknown.map fun key => (key, []) := by rw [List.filterMap_eq_map']
  have hpairs : (f.entries.map writeEntry ++ f.unknown.map Percent.encode).filterMap pair? =
      f.entries ++ f.unknown.map fun key => (key, []) := by
    rw [List.filterMap_append, hfirst, hsecond]
  unfold pairs write
  by_cases hnil : f.entries.map writeEntry ++ f.unknown.map Percent.encode = []
  · -- nothing is written as the empty annotation, whose only piece states nothing
    rw [← hpairs, hnil]
    rfl
  · have hsplit : Text.splitAt '&'
        (Text.join ['&'] (f.entries.map writeEntry ++ f.unknown.map Percent.encode)) =
          f.entries.map writeEntry ++ f.unknown.map Percent.encode :=
      Text.splitAt_join hnil (not_mem_piece f)
    rw [← hpairs]
    exact congrArg (List.filterMap pair?) hsplit

/-! ## Building a fragment up again -/

lemma setEntry_of_not_mem {key : Text} (hkey : key ∉ es.map Prod.fst) (value : Text) :
    setEntry key value es = es ++ [(key, value)] := by
  induction es with
  | nil => rfl
  | cons e es ih =>
    rw [List.map_cons, List.mem_cons, not_or] at hkey
    rw [setEntry, if_neg (Ne.symm hkey.1), ih hkey.2, List.cons_append]

/-- Recognized pairs with different keys become the entries. -/
lemma ofPairs_entries (hnodup : (es.map Prod.fst).Nodup) (hknown : ∀ e ∈ es, known e.1 = true) :
    ofPairs known es = ⟨es, []⟩ := by
  induction es using List.reverseRecOn with
  | nil => rfl
  | append_singleton es e ih =>
    rw [List.map_append, List.map_singleton, List.nodup_append] at hnodup
    obtain ⟨hnodup, -, hdisjoint⟩ := hnodup
    have hnew : e.1 ∉ es.map Prod.fst :=
      fun hmem => hdisjoint _ hmem _ (List.mem_singleton_self _) rfl
    have hes : ∀ e' ∈ es, known e'.1 = true := fun e' he' => hknown e' (List.mem_append_left _ he')
    have he : known e.1 = true := hknown e (by simp)
    rw [ofPairs_append_singleton, ih hnodup hes, add, if_pos he]
    simp only
    rw [setEntry_of_not_mem hnew]

/-- Increasing keys that are not recognized become the other keys. -/
lemma ofPairs_append_unknown (hpairwise : us.Pairwise (· < ·))
    (hunknown : ∀ key ∈ us, known key = false) (hnil : (ofPairs known ps).unknown = []) :
    ofPairs known (ps ++ us.map fun key => (key, [])) = ⟨(ofPairs known ps).entries, us⟩ := by
  induction us using List.reverseRecOn with
  | nil =>
    rw [List.map_nil, List.append_nil, ← hnil]
  | append_singleton us key ih =>
    obtain ⟨hus, -, hlt⟩ := List.pairwise_append.1 hpairwise
    have hbefore : ∀ key' ∈ us, known key' = false :=
      fun key' h => hunknown key' (List.mem_append_left _ h)
    have hkey : ¬ known key = true := by
      rw [hunknown key (by simp)]
      decide
    have hlast : ∀ key' ∈ us, key' < key := fun key' h => hlt key' h key (List.mem_singleton_self _)
    rw [List.map_append, List.map_singleton, ← List.append_assoc, ofPairs_append_singleton,
      ih hus hbefore, add, if_neg hkey]
    simp only
    rw [Text.insertSorted_of_forall_lt hlast]

/-- The pairs that a well-formed fragment states build it up again. -/
lemma ofPairs_of_wellFormed (h : f.WellFormed known) :
    ofPairs known (f.entries ++ f.unknown.map fun key => (key, [])) = f := by
  have hentries : ofPairs known f.entries = ⟨f.entries, []⟩ :=
    ofPairs_entries h.nodup_keys h.known_entries
  rw [ofPairs_append_unknown h.pairwise_unknown h.not_known_unknown (by rw [hentries]), hentries]

/-! ## Reading back -/

/-- A well-formed fragment is read back from the annotation that states it. -/
lemma read_write {place : Place} (h : f.WellFormed place.recognizes) :
    read place (write f) = f := by
  rw [read, pairs_write h.entries_ne_nil h.unknown_ne_nil, ofPairs_of_wellFormed h]

/-- The fragment of an annotation is read back from the annotation that states it, with the same
entries in the same order and the same other keys; and the fragments that are read back are exactly
the well-formed ones. -/
theorem read_write_read (place : Place) :
    (∀ raw, read place (write (read place raw)) = read place raw) ∧
      ∀ f, read place (write f) = f ↔ f.WellFormed place.recognizes := by
  refine ⟨fun raw => read_write (wellFormed_read place raw), fun f => ⟨fun h => ?_, read_write⟩⟩
  rw [← h]
  exact wellFormed_read place (write f)

/-! ## Pairs that need not be coded -/

/-- The text stands for itself in a pair: none of its characters separates or codes. -/
def IsBare (t : Text) : Prop := ∀ c ∈ t, c ∉ ['&', '=', '%', '+']

lemma IsBare.not_mem {t : Text} (h : IsBare t) {c : Char} (hc : c ∈ ['&', '=', '%', '+']) : c ∉ t :=
  fun hmem => h c hmem hc

lemma IsBare.decodeComponent {t : Text} (h : IsBare t) : Percent.decodeComponent t = t :=
  Percent.decodeComponent_eq_self (h.not_mem (by decide)) (h.not_mem (by decide))

/-- An annotation of one pair that needs no coding states that pair. -/
lemma read_of_isBare {place : Place} {key value : Text} (hkey : IsBare key) (hvalue : IsBare value)
    (hne : key ≠ []) (hknown : place.recognizes key = true) :
    read place (key ++ "=" ++ value) = ⟨[(key, value)], []⟩ := by
  have hpiece : key ++ "=" ++ value = key ++ '=' :: value := by simp
  have hsplit : Text.splitAt '&' (key ++ '=' :: value) = [key ++ '=' :: value] := by
    refine Text.splitAt_of_not_mem ?_
    rw [List.mem_append, List.mem_cons]
    rintro (hmem | hmem | hmem)
    · exact hkey.not_mem (by decide) hmem
    · exact absurd hmem (by decide)
    · exact hvalue.not_mem (by decide) hmem
  have hcut : Text.cutWhere? (· == '=') (key ++ '=' :: value) = some (key, value) :=
    Text.cutWhere?_char_eq_some_iff.2 ⟨hkey.not_mem (by decide), rfl⟩
  have hpair : pair? (key ++ '=' :: value) = some (key, value) := by
    simp only [pair?, hcut, Option.getD_some, hkey.decodeComponent, hvalue.decodeComponent,
      if_neg hne]
  have hpairs : pairs (key ++ '=' :: value) = [(key, value)] := by
    rw [pairs, hsplit, List.filterMap_cons, hpair, List.filterMap_nil]
  rw [hpiece, read, hpairs, ofPairs_entries (by simp) (by simpa using hknown)]

end Fragment

end NoteLinks
