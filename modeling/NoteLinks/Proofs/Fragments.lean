import Mathlib.Data.List.Induction
import Mathlib.Data.List.Nodup
import Mathlib.Logic.Function.Basic
import NoteLinks.Fragment
import NoteLinks.Proofs.Cutting

/-!
# What a fragment keeps of an annotation

An annotation states pairs of keys and values.  Its fragment is read off from all pairs at once:
the entries are the recognized keys in the order of their first occurrence, each once and with the
value of its last pair (`entries_ofPairs`), and the other keys are kept in increasing order
(`pairwise_unknown_ofPairs`, `mem_unknown_ofPairs`).  Which keys an annotation states is seen on
its pieces (`map_fst_pairs`).
-/

namespace NoteLinks

/-! ## Distinct texts and words -/

namespace Text

lemma distinct_append_singleton (ts : List Text) (t : Text) :
    distinct (ts ++ [t]) = if t ∈ distinct ts then distinct ts else distinct ts ++ [t] := by
  rw [distinct, List.foldl_append]
  rfl

/-- Keeping first occurrences is erasing later ones. -/
lemma distinct_eq_eraseDups (ts : List Text) : distinct ts = ts.eraseDups := by
  induction ts using List.reverseRecOn with
  | nil => rfl
  | append_singleton ts t ih =>
    rw [distinct_append_singleton, ih, List.eraseDups_append]
    by_cases hmem : t ∈ ts
    · simp [hmem, List.removeAll]
    · simp [hmem, List.removeAll, List.eraseDups_cons]

@[simp] lemma mem_distinct {t : Text} {ts : List Text} : t ∈ distinct ts ↔ t ∈ ts := by
  rw [distinct_eq_eraseDups, List.mem_eraseDups]

/-- No text is kept twice. -/
lemma nodup_distinct (ts : List Text) : (distinct ts).Nodup := by
  induction ts using List.reverseRecOn with
  | nil => exact List.nodup_nil
  | append_singleton ts t ih =>
    rw [distinct_append_singleton]
    split
    · exact ih
    · rename_i hmem
      rw [← List.concat_eq_append]
      exact ih.concat hmem

end Text

namespace Fragment

variable {known : Text → Bool} {ps : List (Text × Text)}

/-! ## Entries -/

/-- Setting an entry changes the value of its key; a key that has no place yet gets one at the
end. -/
lemma setEntry_map {keys : List Text} (hkeys : keys.Nodup) (key value : Text)
    (values : Text → Text) :
    setEntry key value (keys.map fun k => (k, values k)) =
      (if key ∈ keys then keys else keys ++ [key]).map fun k =>
        (k, Function.update values key value k) := by
  induction keys with
  | nil => simp [setEntry]
  | cons k keys ih =>
    obtain ⟨hk, hkeys⟩ := List.nodup_cons.1 hkeys
    rw [List.map_cons, setEntry]
    by_cases heq : k = key
    · subst heq
      have hrest : ∀ l ∈ keys, (l, values l) = (l, Function.update values k value l) := by
        intro l hl
        have hne : l ≠ k := fun h => hk (h ▸ hl)
        rw [Function.update_of_ne hne]
      simp only [if_true, List.mem_cons_self, List.map_cons, Function.update_self]
      rw [List.map_congr_left hrest]
    · rw [if_neg heq, ih hkeys]
      have hne : Function.update values key value k = values k := Function.update_of_ne heq _ _
      by_cases hmem : key ∈ keys
      · simp [hmem, hne]
      · simp [hmem, hne, Ne.symm heq]

/-- The value of the last pair with a key. -/
def lastValue (ps : List (Text × Text)) (key : Text) : Text := (ps.reverse.lookup key).getD []

/-- A further pair determines the value of its key. -/
lemma lastValue_append_singleton (ps : List (Text × Text)) (p : Text × Text) :
    lastValue (ps ++ [p]) = Function.update (lastValue ps) p.1 p.2 := by
  obtain ⟨k, v⟩ := p
  funext key
  simp only [lastValue, List.reverse_append, List.reverse_singleton, List.singleton_append,
    List.lookup_cons]
  by_cases heq : key = k
  · subst heq
    simp
  · have hfalse : (key == k) = false := by simpa using heq
    simp [heq, hfalse, lastValue]

lemma ofPairs_append_singleton (ps : List (Text × Text)) (p : Text × Text) :
    ofPairs known (ps ++ [p]) = add known (ofPairs known ps) p := by
  simp [ofPairs, List.foldl_append]

/-- The entries are the recognized keys in the order of their first occurrence, each with its last
value. -/
lemma entries_ofPairs (known : Text → Bool) (ps : List (Text × Text)) :
    (ofPairs known ps).entries =
      (Text.distinct ((ps.map Prod.fst).filter known)).map fun key => (key, lastValue ps key) := by
  induction ps using List.reverseRecOn with
  | nil => rfl
  | append_singleton ps p ih =>
    rw [ofPairs_append_singleton, add, lastValue_append_singleton, List.map_append,
      List.filter_append]
    by_cases hknown : known p.1 = true
    · simp only [hknown, if_true, List.map_cons, List.map_nil, List.filter_cons_of_pos,
        List.filter_nil]
      rw [ih, setEntry_map (Text.nodup_distinct _), Text.distinct_append_singleton]
    · have hrest : ∀ key ∈ Text.distinct ((ps.map Prod.fst).filter known),
          (key, lastValue ps key) = (key, Function.update (lastValue ps) p.1 p.2 key) := by
        intro key hkey
        have hkey' := (List.mem_filter.1 (Text.mem_distinct.1 hkey)).2
        have hne : key ≠ p.1 := fun h => hknown (h ▸ hkey')
        rw [Function.update_of_ne hne]
      have hnil : [p.1].filter known = [] := by simp [hknown]
      rw [if_neg hknown, List.map_singleton, hnil, List.append_nil, ih, List.map_congr_left hrest]

/-! ## Keys that are not recognized -/

/-- The keys that are not recognized stand in increasing order, each once. -/
lemma pairwise_unknown_ofPairs (known : Text → Bool) (ps : List (Text × Text)) :
    (ofPairs known ps).unknown.Pairwise (· < ·) := by
  induction ps using List.reverseRecOn with
  | nil => exact List.Pairwise.nil
  | append_singleton ps p ih =>
    rw [ofPairs_append_singleton, add]
    split
    · exact ih
    · exact Text.pairwise_insertSorted ih

/-- A key is kept apart exactly if it occurs and is not recognized. -/
lemma mem_unknown_ofPairs {key : Text} :
    key ∈ (ofPairs known ps).unknown ↔ key ∈ ps.map Prod.fst ∧ known key = false := by
  -- by induction from the end, since pairs are added one after the other
  induction ps using List.reverseRecOn with
  | nil => simp [ofPairs, empty]
  | append_singleton ps p ih =>
    rw [ofPairs_append_singleton, add, List.map_append, List.mem_append]
    cases hknown : known p.1 with
    | true =>
      have hnot : ¬ (key ∈ [p].map Prod.fst ∧ known key = false) := by
        rintro ⟨hkey, hfalse⟩
        rw [List.map_singleton, List.mem_singleton] at hkey
        rw [hkey, hknown] at hfalse
        exact absurd hfalse (by decide)
      rw [or_and_right, or_iff_left hnot]
      exact ih
    | false =>
      rw [if_neg (by simp), Text.mem_insertSorted, ih]
      constructor
      · rintro (rfl | ⟨hkey, hfalse⟩)
        · exact ⟨Or.inr (by simp), hknown⟩
        · exact ⟨Or.inl hkey, hfalse⟩
      · rintro ⟨hkey | hkey, hfalse⟩
        · exact Or.inr ⟨hkey, hfalse⟩
        · exact Or.inl (by simpa using hkey)

/-- A fragment is empty exactly if its annotation states no pair. -/
lemma isEmpty_ofPairs : (ofPairs known ps).isEmpty = true ↔ ps = [] := by
  constructor
  · intro hempty
    rw [isEmpty, Bool.and_eq_true, List.isEmpty_iff, List.isEmpty_iff] at hempty
    obtain ⟨hentries, hunknown⟩ := hempty
    refine List.eq_nil_iff_forall_not_mem.2 fun p hp => ?_
    have hkey : p.1 ∈ ps.map Prod.fst := List.mem_map_of_mem hp
    cases hknown : known p.1 with
    | true =>
      rw [entries_ofPairs, List.map_eq_nil_iff] at hentries
      have hmem := Text.mem_distinct.2 (List.mem_filter.2 ⟨hkey, hknown⟩)
      simp [hentries] at hmem
    | false =>
      have hmem := mem_unknown_ofPairs.2 ⟨hkey, hknown⟩
      simp [hunknown] at hmem
  · rintro rfl
    rfl

/-! ## Pieces -/

/-- The key that a piece between two `&` states. -/
def keyOf (piece : Text) : Text := Percent.decodeComponent (piece.takeWhile (· != '='))

/-- The keys that an annotation states, in order; a piece without a key states nothing. -/
def keys (raw : Text) : List Text := ((Text.splitAt '&' raw).map keyOf).filter (· != [])

/-- The key of the pair that a piece states. -/
lemma map_fst_pair? (piece : Text) :
    (pair? piece).map Prod.fst = if keyOf piece = [] then none else some (keyOf piece) := by
  have hkey : keyOf piece =
      Percent.decodeComponent ((Text.cutWhere? (· == '=') piece).getD (piece, [])).1 := by
    rw [Text.fst_getD_cutWhere?]
    rfl
  rw [hkey, pair?]
  by_cases hempty :
      Percent.decodeComponent ((Text.cutWhere? (· == '=') piece).getD (piece, [])).1 = []
  · simp [hempty]
  · simp [hempty]

/-- The pairs of an annotation have the keys that its pieces state. -/
lemma map_fst_pairs (raw : Text) : (pairs raw).map Prod.fst = keys raw := by
  unfold pairs keys
  rw [List.map_filterMap]
  induction Text.splitAt '&' raw with
  | nil => rfl
  | cons piece pieces ih =>
    rw [List.filterMap_cons, map_fst_pair?, List.map_cons, List.filter_cons, ih]
    by_cases hempty : keyOf piece = []
    · simp [hempty]
    · simp [hempty]

lemma keys_ne_nil_iff {raw : Text} :
    keys raw ≠ [] ↔ ∃ piece ∈ Text.splitAt '&' raw, keyOf piece ≠ [] := by
  simp [keys, List.filter_eq_nil_iff]

lemma isEmpty_read (place : Place) (raw : Text) :
    (read place raw).isEmpty = true ↔ keys raw = [] := by
  rw [read, isEmpty_ofPairs, ← map_fst_pairs, List.map_eq_nil_iff]

lemma keys_ne_nil_of_entries_ne_nil {place : Place} {raw : Text}
    (h : (read place raw).entries ≠ []) : keys raw ≠ [] := by
  rw [ne_eq, ← isEmpty_read place]
  simp [isEmpty, h]

lemma mem_unknown_read {place : Place} {raw key : Text} :
    key ∈ (read place raw).unknown ↔ key ∈ keys raw ∧ place.recognizes key = false := by
  rw [read, mem_unknown_ofPairs, map_fst_pairs]

lemma mem_unknown_read_image {raw key : Text} :
    key ∈ (read .image raw).unknown ↔ key ∈ keys raw ∧ key ∉ Place.imageKeys := by
  rw [mem_unknown_read]
  simp [Place.recognizes]

end Fragment

end NoteLinks
