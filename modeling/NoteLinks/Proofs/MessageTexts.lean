import Mathlib.Data.List.Basic
import NoteLinks.Message
import NoteLinks.Proofs.Cutting

/-!
# Texts of messages

A template is cut at its marks, each time at the leftmost one in what is left of it, and there is one
way to do so (`Text.isCutAt_iff`).  In the text of a message stand the pieces of its template, and
between them the arguments in their order (`Catalog.fill_cons`).  The pieces do not depend on the
arguments, so an argument takes its own place and no other, whatever it holds
(`Catalog.fill_set`, `Catalog.format_literal`).
-/

namespace NoteLinks

namespace Text

variable {m : Char} {ms t : Text} {ps : List Text}

/-- A text is cut into pieces at the occurrences of a mark: each cut is at the leftmost occurrence in
what is left of the text, and the last piece has none. -/
inductive IsCutAt (mark : Text) : Text → List Text → Prop
  | whole {t : Text} (h : ¬ mark <:+: t) : IsCutAt mark t [t]
  | cut {t piece rest : Text} {others : List Text} (heq : t = piece ++ mark ++ rest)
      (hleftmost : ∀ x y, t = x ++ mark ++ y → piece.length ≤ x.length)
      (hrest : IsCutAt mark rest others) : IsCutAt mark t (piece :: others)

/-- A text is cut into its pieces. -/
lemma isCutAt_pieces (m : Char) (ms t : Text) : IsCutAt (m :: ms) t (pieces m ms t) := by
  -- by induction on the length, since what is left of the text begins behind the first mark
  induction hlength : t.length using Nat.strongRecOn generalizing t with
  | ind n ih =>
    cases hcut : cut? (m :: ms) t with
    | none =>
      rw [pieces_of_cut?_eq_none hcut]
      exact .whole (cut?_eq_none_iff.1 hcut)
    | some ab =>
      obtain ⟨heq, hleftmost⟩ := cut?_eq_some_iff.1 hcut
      have hshort : ab.2.length < n := by
        rw [← hlength, length_of_cut? hcut, List.length_cons]
        omega
      rw [pieces_of_cut?_eq_some hcut]
      exact .cut heq hleftmost (ih _ hshort ab.2 rfl)

/-- There is one way to cut a text at a mark. -/
lemma isCutAt_iff : IsCutAt (m :: ms) t ps ↔ ps = pieces m ms t := by
  constructor
  · intro h
    induction h with
    | whole h => rw [pieces_of_cut?_eq_none (cut?_eq_none_iff.2 h)]
    | cut heq hleftmost _ ih =>
      rw [pieces_of_cut?_eq_some (cut?_eq_some_iff.2 ⟨heq, hleftmost⟩), ← ih]
  · rintro rfl
    exact isCutAt_pieces m ms t

end Text

namespace Catalog

/-- Behind each piece but the last stands the next argument, or nothing if there is none left. -/
lemma fill_cons (p : Text) (ps args : List Text) :
    fill (p :: ps) args = p ++ (ps.mapIdx fun i q => args.getD i [] ++ q).flatten := by
  induction ps generalizing p args with
  | nil => simp [fill]
  | cons q ps ih =>
    cases args with
    | nil => simp [fill, ih]
    | cons a args => simp [fill, ih]

/-- An argument that has a place stands in it as it is, and what stands before and after does not
depend on it. -/
lemma fill_set (p : Text) {ps args : List Text} {i : Nat} (hplace : i < ps.length)
    (harg : i < args.length) :
    ∃ before after, ∀ a, fill (p :: ps) (args.set i a) = before ++ a ++ after := by
  induction ps generalizing p args i with
  | nil => simp at hplace
  | cons q ps ih =>
    obtain ⟨b, args, rfl⟩ := List.exists_cons_of_length_pos (Nat.zero_lt_of_lt harg)
    cases i with
    | zero => exact ⟨p, fill (q :: ps) args, fun a => rfl⟩
    | succ i =>
      obtain ⟨before, after, h⟩ := ih q (Nat.lt_of_succ_lt_succ hplace)
        (Nat.lt_of_succ_lt_succ harg)
      refine ⟨p ++ b ++ before, after, fun a => ?_⟩
      have hstep : fill (p :: q :: ps) ((b :: args).set (i + 1) a) =
          p ++ b ++ fill (q :: ps) (args.set i a) := rfl
      rw [hstep, h a]
      simp

/-- Arguments are inserted literally.  The template, be it that of the catalog or the one for
messages without an override, is cut at its marks in the one way that there is; the text of the
message is the first piece and then, for each further piece, the argument that is due and the piece.
So an argument stands in its place as it is, and the text around it is the same for any other. -/
theorem format_literal (catalog : Catalog) (m : Message) (args : List Text) :
    ∃ p ps,
      (∀ qs, Text.IsCutAt ['%', 's'] ((catalog.get? m.key).getD m.template) qs ↔ qs = p :: ps) ∧
      catalog.format m args = p ++ (ps.mapIdx fun i q => args.getD i [] ++ q).flatten ∧
      ∀ i, i < ps.length → i < args.length →
        ∃ before after, ∀ a, catalog.format m (args.set i a) = before ++ a ++ after := by
  obtain ⟨p, ps, hpieces⟩ := List.exists_cons_of_ne_nil
    (Text.pieces_ne_nil '%' ['s'] (catalog.template m))
  have hformat : ∀ args, catalog.format m args = fill (p :: ps) args := fun args => by
    rw [format, hpieces]
  refine ⟨p, ps, fun qs => ?_, ?_, fun i hplace harg => ?_⟩
  · rw [← hpieces]
    exact Text.isCutAt_iff
  · rw [hformat, fill_cons]
  · simp only [hformat]
    exact fill_set p hplace harg

/-- Marks that stand side by side have an empty piece between them, a mark in an argument stays, and
the last mark is left without an argument. -/
example :
    format (Dictionary.ofList [("image.none", "100%%s%s: %s!")]) .noImage ["%s", "b"] =
      ("100%%sb: !" : Text) := by
  decide +kernel

end Catalog

end NoteLinks
