import Mathlib.Data.List.Lex
import Mathlib.Data.List.Sort
import Mathlib.Data.List.TakeWhile
import NoteLinks.Proofs.Expansions
import NoteLinks.Proofs.Fragments

/-!
# The meaning of an annotation

An annotation states pairs: its pieces between `&`, cut at their first `=`, both halves decoded, and
those without a key left out (`statedPairs`).  `Fragment.IsMeaning` says what a list of pairs means
where some keys are recognized, and reading finds exactly that (`isMeaning_read`).

The meaning of two annotations one after the other is that of the first with the second merged into
it (`merge`, `ofPairs_append`): the keys of the first keep their places, and the second has the last
word on their values.
-/

namespace NoteLinks

namespace Text

/-- Behind the distinct texts of a list come those of a further list that have not occurred yet. -/
lemma distinct_append (ts us : List Text) :
    distinct (ts ++ us) = distinct ts ++ (distinct us).filter (· ∉ distinct ts) := by
  induction us using List.reverseRecOn with
  | nil => simp [distinct]
  | append_singleton us u ih =>
    rw [← List.append_assoc, distinct_append_singleton, ih, distinct_append_singleton]
    by_cases hts : u ∈ ts
    · by_cases hus : u ∈ us
      · simp [hts, hus]
      · simp [hts, hus]
    · by_cases hus : u ∈ us
      · simp [hts, hus]
      · simp [hts, hus]

/-- Distinct texts stand in the order of their first occurrence, also among texts that are left
out. -/
lemma pairwise_idxOf_distinct_filter (p : Text → Bool) (ts : List Text) :
    (distinct (ts.filter p)).Pairwise fun t u => ts.idxOf t < ts.idxOf u := by
  induction ts using List.reverseRecOn with
  | nil => exact List.Pairwise.nil
  | append_singleton ts t ih =>
    have hmem : ∀ {u}, u ∈ distinct (ts.filter p) → u ∈ ts :=
      fun hu => (List.mem_filter.1 (mem_distinct.1 hu)).1
    have hkeep : (distinct (ts.filter p)).Pairwise
        fun u v => (ts ++ [t]).idxOf u < (ts ++ [t]).idxOf v := by
      refine ih.imp_of_mem fun hu hv hlt => ?_
      rwa [List.idxOf_append_of_mem (hmem hu), List.idxOf_append_of_mem (hmem hv)]
    rw [List.filter_append]
    by_cases hp : p t = true
    · rw [List.filter_cons_of_pos hp, List.filter_nil, distinct_append_singleton]
      split
      · exact hkeep
      · rename_i hnew
        have hnot : t ∉ ts := fun ht => hnew (mem_distinct.2 (List.mem_filter.2 ⟨ht, hp⟩))
        refine List.pairwise_append.2 ⟨hkeep, List.pairwise_singleton _ _, fun u hu v hv => ?_⟩
        obtain rfl := List.mem_singleton.1 hv
        rw [List.idxOf_append_of_mem (hmem hu), List.idxOf_append_of_notMem hnot]
        exact Nat.lt_add_right _ (List.idxOf_lt_length_iff.2 (hmem hu))
    · rwa [List.filter_cons_of_neg hp, List.filter_nil, List.append_nil]

lemma pairwise_idxOf_distinct (ts : List Text) :
    (distinct ts).Pairwise fun t u => ts.idxOf t < ts.idxOf u := by
  simpa using pairwise_idxOf_distinct_filter (fun _ => true) ts

end Text

/-- The keys that mean something at a place. -/
def Place.keys : Place → List Text
  | image => imageKeys
  | link => Provider.table.map Provider.key

lemma Place.recognizes_iff (place : Place) (key : Text) :
    place.recognizes key = true ↔ key ∈ place.keys := by
  cases place with
  | image => simp [recognizes, keys]
  | link =>
    rw [recognizes_link_iff, keys, List.mem_map]

attribute [ext] Fragment

namespace Fragment

variable {known : Text → Bool} {ps qs : List (Text × Text)} {key value : Text}

/-! ## Pairs -/

/-- The pairs that an annotation states. -/
def statedPairs (raw : Text) : List (Text × Text) :=
  ((Text.splitAt '&' raw).map fun piece =>
    (Percent.decodeComponent (piece.takeWhile (· != '=')),
      Percent.decodeComponent ((piece.dropWhile (· != '=')).drop 1))).filter (·.1 ≠ [])

/-- A piece is cut into what stands before its first `=` and what stands behind it. -/
lemma getD_cutWhere?_equals (piece : Text) :
    (Text.cutWhere? (· == '=') piece).getD (piece, []) =
      (piece.takeWhile (· != '='), (piece.dropWhile (· != '=')).drop 1) := by
  cases hcut : Text.cutWhere? (· == '=') piece with
  | none =>
    have hne : ∀ c ∈ piece, (c != '=') = true := by
      simpa using Text.cutWhere?_eq_none_iff.1 hcut
    simp [List.takeWhile_eq_self_iff.2 hne, List.dropWhile_eq_nil_iff.2 hne]
  | some ab =>
    obtain ⟨a, b⟩ := ab
    obtain ⟨ha, rfl⟩ := Text.cutWhere?_char_eq_some_iff.1 hcut
    have hne : ∀ x ∈ a, (x != '=') = true := fun x hx => bne_iff_ne.2 fun heq => ha (heq ▸ hx)
    rw [List.takeWhile_append_of_pos hne, List.dropWhile_append_of_pos hne]
    simp

/-- The pairs that are read are the stated ones. -/
lemma pairs_eq_statedPairs (raw : Text) : pairs raw = statedPairs raw := by
  rw [pairs, statedPairs]
  induction Text.splitAt '&' raw with
  | nil => rfl
  | cons piece pieces ih =>
    rw [List.filterMap_cons, List.map_cons, List.filter_cons, ih, pair?, getD_cutWhere?_equals]
    by_cases hkey : Percent.decodeComponent (piece.takeWhile (· != '=')) = []
    · simp [hkey]
    · simp [hkey]

lemma pairs_append (a b : Text) : pairs (a ++ '&' :: b) = pairs a ++ pairs b := by
  rw [pairs, Text.splitAt_append, List.filterMap_append]
  rfl

/-! ## Values -/

/-- What is found for a key from the end is the value of its last pair. -/
lemma lookup_reverse_eq_some_iff :
    ps.reverse.lookup key = some value ↔
      ∃ front back, ps = front ++ (key, value) :: back ∧ ∀ p ∈ back, p.1 ≠ key := by
  rw [List.lookup_eq_some_iff]
  constructor
  · rintro ⟨l₁, l₂, heq, hl₁⟩
    refine ⟨l₂.reverse, l₁.reverse, ?_, fun p hp => ?_⟩
    · simpa using congrArg List.reverse heq
    · exact (bne_iff_ne.1 (hl₁ p (List.mem_reverse.1 hp))).symm
  · rintro ⟨front, back, rfl, hback⟩
    refine ⟨back.reverse, front.reverse, by simp, fun p hp => ?_⟩
    exact bne_iff_ne.2 (hback p (List.mem_reverse.1 hp)).symm

/-- A key has a last pair if it occurs at all. -/
lemma lookup_reverse_eq_some_lastValue (h : key ∈ ps.map Prod.fst) :
    ps.reverse.lookup key = some (lastValue ps key) := by
  obtain ⟨p, hp, rfl⟩ := List.mem_map.1 h
  have hsome : (ps.reverse.lookup p.1).isSome = true :=
    List.lookup_isSome_iff.2 ⟨p, List.mem_reverse.2 hp, by simp⟩
  obtain ⟨v, hv⟩ := Option.isSome_iff_exists.1 hsome
  rw [lastValue, hv, Option.getD_some]

/-- Further pairs have the last word on the values of their keys. -/
lemma lastValue_append (ps qs : List (Text × Text)) (key : Text) :
    lastValue (ps ++ qs) key =
      if key ∈ qs.map Prod.fst then lastValue qs key else lastValue ps key := by
  rw [lastValue, List.reverse_append, List.lookup_append]
  split
  · rename_i hmem
    rw [lookup_reverse_eq_some_lastValue hmem]
    rfl
  · rename_i hmem
    have hnone : qs.reverse.lookup key = none := by
      rw [List.lookup_eq_none_iff]
      intro p hp
      have hne : key ≠ p.1 := fun h => hmem (h ▸ List.mem_map_of_mem (List.mem_reverse.1 hp))
      simpa using hne
    rw [hnone]
    rfl

/-! ## Meaning -/

/-- The fragment is what a list of pairs means where the keys of `known` are recognized. -/
structure IsMeaning (known : Text → Bool) (ps : List (Text × Text)) (f : Fragment) : Prop where
  /-- The entries stand in the order in which their keys occur first, each key once. -/
  ordered : (f.entries.map Prod.fst).Pairwise fun key other =>
    (ps.map Prod.fst).idxOf key < (ps.map Prod.fst).idxOf other
  /-- There is an entry for every recognized key, with the value of the last pair of the key. -/
  mem_entries : ∀ key value, (key, value) ∈ f.entries ↔
    known key = true ∧ ∃ front back, ps = front ++ (key, value) :: back ∧ ∀ p ∈ back, p.1 ≠ key
  /-- The other keys are a set, kept in increasing order. -/
  increasing : f.unknown.Pairwise (· < ·)
  mem_unknown : ∀ key, key ∈ f.unknown ↔ (∃ p ∈ ps, p.1 = key) ∧ known key = false

/-- The recognized keys of pairs in the order of their first occurrence. -/
def recognizedOf (known : Text → Bool) (ps : List (Text × Text)) : List Text :=
  Text.distinct ((ps.map Prod.fst).filter known)

lemma mem_recognizedOf :
    key ∈ recognizedOf known ps ↔ key ∈ ps.map Prod.fst ∧ known key = true := by
  rw [recognizedOf, Text.mem_distinct, List.mem_filter]

/-- The fragment that is built from pairs is what they mean. -/
lemma isMeaning_ofPairs (known : Text → Bool) (ps : List (Text × Text)) :
    IsMeaning known ps (ofPairs known ps) := by
  have hkeys : (ofPairs known ps).entries.map Prod.fst = recognizedOf known ps := by
    rw [entries_ofPairs, List.map_map]
    exact List.map_id _
  refine ⟨?_, fun key value => ?_, pairwise_unknown_ofPairs known ps, fun key => ?_⟩
  · rw [hkeys]
    exact Text.pairwise_idxOf_distinct_filter known _
  · rw [← lookup_reverse_eq_some_iff, entries_ofPairs, ← recognizedOf]
    simp only [List.mem_map, Prod.mk.injEq]
    constructor
    · rintro ⟨_, hkey, rfl, rfl⟩
      obtain ⟨hmem, hknown⟩ := mem_recognizedOf.1 hkey
      exact ⟨hknown, lookup_reverse_eq_some_lastValue hmem⟩
    · rintro ⟨hknown, hlast⟩
      obtain ⟨front, back, heq, -⟩ := lookup_reverse_eq_some_iff.1 hlast
      have hmem : key ∈ ps.map Prod.fst := List.mem_map.2 ⟨(key, value), by simp [heq], rfl⟩
      refine ⟨key, mem_recognizedOf.2 ⟨hmem, hknown⟩, rfl, ?_⟩
      rw [lastValue, hlast, Option.getD_some]
  · rw [mem_unknown_ofPairs, List.mem_map]

/-! ## Merging -/

/-- A list of entries with different keys has for each key its own value. -/
lemma find?_entries (keys : List Text) (values : Text → Text) (key : Text) :
    ((keys.map fun k => (k, values k)).find? (·.1 == key)).map Prod.snd =
      if key ∈ keys then some (values key) else none := by
  induction keys with
  | nil => rfl
  | cons k keys ih =>
    rw [List.map_cons, List.find?_cons]
    by_cases heq : k = key
    · subst heq
      simp
    · have hne : (k == key) = false := by simpa using heq
      simp only [hne, ih, List.mem_cons, Ne.symm heq, false_or]

/-- The value of a recognized key is that of its last pair. -/
lemma get?_ofPairs (known : Text → Bool) (ps : List (Text × Text)) (key : Text) :
    (ofPairs known ps).get? key =
      if key ∈ recognizedOf known ps then some (lastValue ps key) else none := by
  rw [get?, entries_ofPairs]
  exact find?_entries _ _ key

/-- The fragment with another one merged into it: its own entries keep their places and take the
values that the other one has for their keys, and further entries come behind them. -/
def merge (f g : Fragment) : Fragment where
  entries := f.entries.map (fun e => (e.1, (g.get? e.1).getD e.2)) ++
    g.entries.filter fun e => (f.get? e.1).isNone
  unknown := Text.sortDistinct (f.unknown ++ g.unknown)

/-- The entries of the pairs before keep their places, and those of new keys come behind them. -/
lemma entries_ofPairs_append (known : Text → Bool) (ps qs : List (Text × Text)) :
    (ofPairs known (ps ++ qs)).entries = (merge (ofPairs known ps) (ofPairs known qs)).entries := by
  have hkeys : recognizedOf known (ps ++ qs) = recognizedOf known ps ++
      (recognizedOf known qs).filter (· ∉ recognizedOf known ps) := by
    rw [recognizedOf, List.map_append, List.filter_append, Text.distinct_append]
    rfl
  have hfirst : ∀ key ∈ recognizedOf known ps, (key, lastValue (ps ++ qs) key) =
      (key, ((ofPairs known qs).get? key).getD (lastValue ps key)) := by
    intro key hkey
    have hknown := (mem_recognizedOf.1 hkey).2
    simp only [lastValue_append, get?_ofPairs, mem_recognizedOf, hknown, and_true]
    split <;> rfl
  have hsecond : ∀ key ∈ (recognizedOf known qs).filter (· ∉ recognizedOf known ps),
      (key, lastValue (ps ++ qs) key) = (key, lastValue qs key) := by
    intro key hkey
    rw [lastValue_append, if_pos (mem_recognizedOf.1 (List.mem_filter.1 hkey).1).1]
  -- an entry is a new one exactly if its key is not among the keys of the first pairs
  have hnew : ∀ key, ((ofPairs known ps).get? key).isNone =
      decide (key ∉ recognizedOf known ps) := by
    intro key
    rw [get?_ofPairs]
    by_cases hkey : key ∈ recognizedOf known ps <;> simp [hkey]
  have hentries : ∀ ps, (ofPairs known ps).entries =
      (recognizedOf known ps).map fun key => (key, lastValue ps key) := entries_ofPairs known
  calc (ofPairs known (ps ++ qs)).entries
      = (recognizedOf known (ps ++ qs)).map fun key => (key, lastValue (ps ++ qs) key) :=
        hentries _
    _ = (recognizedOf known ps).map (fun key =>
            (key, ((ofPairs known qs).get? key).getD (lastValue ps key))) ++
          ((recognizedOf known qs).filter (· ∉ recognizedOf known ps)).map fun key =>
            (key, lastValue qs key) := by
        rw [hkeys, List.map_append, List.map_congr_left hfirst, List.map_congr_left hsecond]
    _ = (merge (ofPairs known ps) (ofPairs known qs)).entries := by
        simp only [merge, hentries, List.map_map, List.filter_map, hnew]
        rfl

/-- Further pairs are merged into the fragment of the pairs before them. -/
lemma ofPairs_append (known : Text → Bool) (ps qs : List (Text × Text)) :
    ofPairs known (ps ++ qs) = merge (ofPairs known ps) (ofPairs known qs) := by
  have hunknown : (ofPairs known (ps ++ qs)).unknown =
      (merge (ofPairs known ps) (ofPairs known qs)).unknown := by
    refine (pairwise_unknown_ofPairs known _).eq_of_mem_iff (Text.pairwise_sortDistinct _) ?_
    intro key
    simp only [merge, Text.mem_sortDistinct, List.mem_append, mem_unknown_ofPairs, List.map_append,
      or_and_right]
  exact Fragment.ext (entries_ofPairs_append known ps qs) hunknown

/-! ## Annotations -/

/-- An annotation is read as what its pairs mean, where a key is recognized if it is one of those of
the place, letter for letter and after decoding.  So reading two annotations one after the other is
reading both and merging the second fragment into the first. -/
theorem read_isMeaning (place : Place) :
    (∀ raw, IsMeaning place.recognizes (statedPairs raw) (read place raw)) ∧
      (∀ key, place.recognizes key = true ↔ key ∈ place.keys) ∧
      ∀ a b, read place (a ++ "&" ++ b) = merge (read place a) (read place b) := by
  refine ⟨fun raw => ?_, place.recognizes_iff, fun a b => ?_⟩
  · rw [read, pairs_eq_statedPairs]
    exact isMeaning_ofPairs _ _
  · have hpairs : pairs (a ++ "&" ++ b) = pairs a ++ pairs b := by
      simpa using pairs_append a b
    rw [read, hpairs, ofPairs_append]
    rfl

end Fragment

end NoteLinks
