import NoteLinks.Text

/-!
# Order of texts

Texts are ordered as words in a dictionary whose alphabet is ordered by code point. Sets of texts
are kept as strictly increasing lists, so equal sets are equal lists.
-/

namespace NoteLinks.Text

/-- `t` put into a strictly increasing list, unless it is a member already. -/
def insertSorted (t : Text) : List Text → List Text
  | [] => [t]
  | u :: us =>
    if t < u then t :: u :: us
    else if t = u then u :: us
    else u :: insertSorted t us

/-- The strictly increasing list of the members of `ts`. -/
def sortDistinct (ts : List Text) : List Text := ts.foldr insertSorted []

theorem mem_insertSorted {s t : Text} {us : List Text} :
    s ∈ insertSorted t us ↔ s = t ∨ s ∈ us := by
  induction us with
  | nil => simp [insertSorted]
  | cons u us ih =>
    simp only [insertSorted]
    split
    · simp
    · split
      · subst_vars; simp
      · simp only [List.mem_cons, ih]
        constructor <;> intro h <;> rcases h with h | h | h <;> simp [h]

theorem mem_sortDistinct {t : Text} {ts : List Text} : t ∈ sortDistinct ts ↔ t ∈ ts := by
  induction ts with
  | nil => simp [sortDistinct]
  | cons u us ih =>
    simp only [sortDistinct, List.foldr_cons, mem_insertSorted, List.mem_cons] at ih ⊢
    rw [ih]

/-- Of two different texts one comes before the other. -/
theorem lt_of_not_lt {s t : Text} (h : ¬s < t) (hne : s ≠ t) : t < s :=
  Decidable.byContradiction fun h' =>
    hne (List.le_antisymm (List.not_lt.1 h') (List.not_lt.1 h))

theorem pairwise_insertSorted {t : Text} {us : List Text} (h : us.Pairwise (· < ·)) :
    (insertSorted t us).Pairwise (· < ·) := by
  induction us with
  | nil => simp [insertSorted]
  | cons u us ih =>
    obtain ⟨hu, hus⟩ := List.pairwise_cons.1 h
    simp only [insertSorted]
    split
    · rename_i htu
      refine List.pairwise_cons.2 ⟨fun v hv => ?_, h⟩
      rcases List.mem_cons.1 hv with rfl | hv
      · exact htu
      · exact List.lt_trans htu (hu v hv)
    · split
      · exact h
      · rename_i htu hne
        refine List.pairwise_cons.2 ⟨fun v hv => ?_, ih hus⟩
        rcases mem_insertSorted.1 hv with rfl | hv
        · exact lt_of_not_lt htu hne
        · exact hu v hv

theorem pairwise_sortDistinct (ts : List Text) : (sortDistinct ts).Pairwise (· < ·) := by
  induction ts with
  | nil => simp [sortDistinct]
  | cons t ts ih => exact pairwise_insertSorted ih

end NoteLinks.Text
