import NoteLinks.Text.Order

/-!
# Dictionaries

A dictionary maps finitely many texts, its keys, to texts. The entries are kept in the order of
their keys, each key once, so two dictionaries with the same entries are equal.
-/

namespace NoteLinks

/-- A finite map from texts to texts. -/
structure Dictionary where
  /-- The keys with their values, in increasing order of the keys. -/
  entries : List (Text × Text)
  /-- No key occurs twice, and the keys increase. -/
  sorted : entries.Pairwise (fun a b => a.1 < b.1)
deriving DecidableEq

namespace Dictionary

def empty : Dictionary := ⟨[], .nil⟩

def get? (d : Dictionary) (key : Text) : Option Text :=
  (d.entries.find? (·.1 == key)).map (·.2)

/-- Entries with the value of `key` set, or `key` put in its place. -/
def put (key value : Text) : List (Text × Text) → List (Text × Text)
  | [] => [(key, value)]
  | e :: es =>
    if key < e.1 then (key, value) :: e :: es
    else if key = e.1 then (key, value) :: es
    else e :: put key value es

theorem mem_put {key value : Text} {e : Text × Text} {es : List (Text × Text)}
    (h : e ∈ put key value es) : e = (key, value) ∨ e ∈ es := by
  induction es with
  | nil => simp_all [put]
  | cons a es ih =>
    simp only [put] at h
    split at h
    · simpa using h
    · split at h
      · rcases List.mem_cons.1 h with h | h <;> simp [h]
      · rcases List.mem_cons.1 h with h | h
        · simp [h]
        · rcases ih h with h | h <;> simp [h]

theorem pairwise_put {key value : Text} {es : List (Text × Text)}
    (h : es.Pairwise (fun a b => a.1 < b.1)) :
    (put key value es).Pairwise (fun a b => a.1 < b.1) := by
  induction es with
  | nil => simp [put]
  | cons a es ih =>
    obtain ⟨ha, hes⟩ := List.pairwise_cons.1 h
    simp only [put]
    split
    · rename_i hlt
      refine List.pairwise_cons.2 ⟨fun b hb => ?_, h⟩
      rcases List.mem_cons.1 hb with rfl | hb
      · exact hlt
      · exact List.lt_trans hlt (ha b hb)
    · split
      · rename_i heq
        exact List.pairwise_cons.2 ⟨fun b hb => heq ▸ ha b hb, hes⟩
      · rename_i hlt hne
        refine List.pairwise_cons.2 ⟨fun b hb => ?_, ih hes⟩
        rcases mem_put hb with rfl | hb
        · exact Text.lt_of_not_lt hlt hne
        · exact ha b hb

/-- The dictionary with `key` mapped to `value` and all else as it was. -/
def insert (d : Dictionary) (key value : Text) : Dictionary :=
  ⟨put key value d.entries, pairwise_put d.sorted⟩

/-- The dictionary of a list of entries; of two with one key the later is kept. -/
def ofList (es : List (Text × Text)) : Dictionary :=
  es.foldl (fun d e => d.insert e.1 e.2) empty

end Dictionary

end NoteLinks
