import Mathlib.Data.List.Sort
import NoteLinks.Dictionary

/-!
# What dictionaries store

A dictionary is determined by what it stores under each key (`Dictionary.ext_get?`).  Putting a
value in changes what is stored under its key and nothing else (`Dictionary.get?_insert`).  So a
dictionary of entries with different keys stores these entries (`Dictionary.get?_ofList`), and a
dictionary that is put over another stores what it has, and under other keys what that one has
(`Dictionary.get?_overlay`).
-/

namespace NoteLinks

/-! ### Entries with keys -/
section Entries

variable {α : Type} {es : List (Text × α)} {key : Text} {x : α}

lemma lookup_cons (e : Text × α) (es : List (Text × α)) (key : Text) :
    (e :: es).lookup key = if key = e.1 then some e.2 else es.lookup key := by
  rw [List.lookup_cons]
  by_cases hkey : key = e.1
  · rw [if_pos hkey, beq_iff_eq.2 hkey]
  · rw [if_neg hkey, beq_eq_false_iff_ne.2 hkey]

/-- Looking for an entry finds what is stored under its key. -/
lemma find?_map_eq_lookup (es : List (Text × α)) (key : Text) :
    (es.find? (·.1 == key)).map (·.2) = es.lookup key := by
  induction es with
  | nil => rfl
  | cons e es ih =>
    rw [List.find?_cons, lookup_cons]
    by_cases hkey : key = e.1
    · rw [if_pos hkey, beq_iff_eq.2 hkey.symm]
      rfl
    · rw [if_neg hkey, beq_eq_false_iff_ne.2 (Ne.symm hkey)]
      exact ih

lemma lookup_map_snd {β : Type} (change : α → β) (es : List (Text × α)) (key : Text) :
    (es.map fun e => (e.1, change e.2)).lookup key = (es.lookup key).map change := by
  induction es with
  | nil => rfl
  | cons e es ih =>
    rw [List.map_cons, lookup_cons, lookup_cons, ih]
    split <;> rfl

/-- Where no key occurs twice, what is stored under a key is what its entry has. -/
lemma lookup_eq_some_iff_mem (hes : es.Pairwise fun e f => e.1 ≠ f.1) :
    es.lookup key = some x ↔ (key, x) ∈ es := by
  rw [List.lookup_eq_some_iff]
  constructor
  · rintro ⟨before, after, rfl, -⟩
    simp
  · intro hmem
    obtain ⟨before, after, rfl⟩ := List.append_of_mem hmem
    refine ⟨before, after, rfl, fun e he => ?_⟩
    obtain ⟨-, -, hapart⟩ := List.pairwise_append.1 hes
    exact bne_iff_ne.2 (hapart e he _ List.mem_cons_self).symm

end Entries

namespace Dictionary

variable {key k value : Text} {d d' : Dictionary} {es : List (Text × Text)}

/-! ### Looking up -/

lemma get?_eq_lookup (d : Dictionary) (key : Text) : d.get? key = d.entries.lookup key :=
  find?_map_eq_lookup d.entries key

lemma pairwise_ne (d : Dictionary) : d.entries.Pairwise fun e f => e.1 ≠ f.1 :=
  d.sorted.imp fun {e f} hlt (heq : e.1 = f.1) => List.lt_irrefl f.1 (heq ▸ hlt)

lemma get?_eq_some_iff : d.get? key = some value ↔ (key, value) ∈ d.entries := by
  rw [get?_eq_lookup, lookup_eq_some_iff_mem d.pairwise_ne]

/-- Dictionaries that store the same under each key are equal. -/
lemma ext_get? (h : ∀ key, d.get? key = d'.get? key) : d = d' := by
  have hirrefl : Std.Irrefl (fun e f : Text × Text => e.1 < f.1) :=
    ⟨fun e => List.lt_irrefl e.1⟩
  have hantisymm : Std.Antisymm (fun e f : Text × Text => e.1 < f.1) :=
    ⟨fun e f hef hfe => absurd (List.lt_trans hef hfe) (List.lt_irrefl e.1)⟩
  have hentries : d.entries = d'.entries := by
    refine d.sorted.eq_of_mem_iff d'.sorted fun ⟨key, value⟩ => ?_
    rw [← get?_eq_some_iff, ← get?_eq_some_iff, h]
  cases d
  cases d'
  obtain rfl : _ = _ := hentries
  rfl

/-! ### Putting in -/

lemma lookup_put :
    (put k value es).lookup key = if key = k then some value else es.lookup key := by
  induction es with
  | nil => rw [put, lookup_cons]
  | cons e es ih =>
    rw [put]
    split
    · rw [lookup_cons]
    · split
      · rename_i hk
        rw [lookup_cons, lookup_cons, hk]
        split <;> rfl
      · rename_i hk
        rw [lookup_cons, ih, lookup_cons]
        by_cases hkey : key = e.1
        · rw [if_pos hkey, if_pos hkey, if_neg (fun h => hk (h.symm.trans hkey))]
        · rw [if_neg hkey, if_neg hkey]

/-- Under a key that was put in stands its value, under other keys what stood there. -/
lemma get?_insert :
    (d.insert k value).get? key = if key = k then some value else d.get? key := by
  rw [get?_eq_lookup, get?_eq_lookup]
  exact lookup_put

/-- Entries with different keys that are put in one after the other are stored. -/
lemma get?_foldl_insert (hes : es.Pairwise fun e f => e.1 ≠ f.1) (d : Dictionary) :
    (es.foldl (fun d e => d.insert e.1 e.2) d).get? key = (es.lookup key).or (d.get? key) := by
  induction es generalizing d with
  | nil => rfl
  | cons e es ih =>
    obtain ⟨hfirst, hrest⟩ := List.pairwise_cons.1 hes
    rw [List.foldl_cons, ih hrest, get?_insert, lookup_cons]
    by_cases hkey : key = e.1
    · -- no later entry has the key
      have hnone : es.lookup key = none :=
        List.lookup_eq_none_iff.2 fun f hf => bne_iff_ne.2 (hkey ▸ hfirst f hf)
      rw [if_pos hkey, if_pos hkey, hnone]
      rfl
    · rw [if_neg hkey, if_neg hkey]

lemma get?_ofList (hes : es.Pairwise fun e f => e.1 ≠ f.1) :
    (ofList es).get? key = es.lookup key := by
  rw [ofList, get?_foldl_insert hes]
  exact Option.or_none

/-- The dictionary that stores what `upper` stores, and what `base` stores where `upper` has
nothing. -/
def overlay (base upper : Dictionary) : Dictionary :=
  upper.entries.foldl (fun d e => d.insert e.1 e.2) base

lemma get?_overlay (base upper : Dictionary) (key : Text) :
    (base.overlay upper).get? key = (upper.get? key).or (base.get? key) := by
  rw [overlay, get?_foldl_insert upper.pairwise_ne, get?_eq_lookup upper]

end Dictionary

end NoteLinks
