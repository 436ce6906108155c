import Mathlib.Data.List.Forall2
import Mathlib.Tactic.Common

/-!
# Results of steps that can fail

A computation in steps has a result exactly when each of its steps has one (`bind_eq_ok_iff`), and
the first fault of a list of steps is the fault of the whole (`mapM_append_cons_eq_error`).  So too
where it is not said why a step fails (`mapM_eq_some_iff`).
-/

namespace NoteLinks

variable {ε δ α β : Type} {step : Except ε α} {a : α} {next : α → Except ε β} {result : β}
  {fault : ε}

lemma bind_eq_ok_iff : step >>= next = .ok result ↔ ∃ a, step = .ok a ∧ next a = .ok result := by
  cases step with
  | error fault => simp [bind, Except.bind]
  | ok a => simp [bind, Except.bind]

lemma bind_eq_error_iff : step >>= next = .error fault ↔
    step = .error fault ∨ ∃ a, step = .ok a ∧ next a = .error fault := by
  cases step with
  | error fault => simp [bind, Except.bind]
  | ok a => simp [bind, Except.bind]

lemma mapError_eq_ok_iff {name : ε → δ} : step.mapError name = .ok a ↔ step = .ok a := by
  cases step with
  | error fault => simp [Except.mapError]
  | ok a => simp [Except.mapError]

lemma map_eq_ok_iff {f : α → β} : step.map f = .ok result ↔ ∃ a, step = .ok a ∧ f a = result := by
  cases step with
  | error fault => simp [Except.map]
  | ok a => simp [Except.map]

lemma toOption_eq_some_iff : step.toOption = some a ↔ step = .ok a := by
  cases step with
  | error fault => simp [Except.toOption]
  | ok a => simp [Except.toOption]

/-- A list of steps has the results of its steps. -/
lemma mapM_eq_ok_iff {as : List α} {results : List β} :
    as.mapM next = .ok results ↔ List.Forall₂ (fun a b => next a = .ok b) as results := by
  induction as generalizing results with
  | nil =>
    rw [List.mapM_nil, List.forall₂_nil_left_iff]
    exact ⟨fun h => (Except.ok.inj h).symm, fun h => h ▸ rfl⟩
  | cons a as ih =>
    rw [List.mapM_cons, List.forall₂_cons_left_iff, bind_eq_ok_iff]
    constructor
    · rintro ⟨b, hb, h⟩
      obtain ⟨bs, hbs, h⟩ := bind_eq_ok_iff.1 h
      exact ⟨b, bs, hb, ih.1 hbs, (Except.ok.inj h).symm⟩
    · rintro ⟨b, bs, hb, hbs, rfl⟩
      exact ⟨b, hb, bind_eq_ok_iff.2 ⟨bs, ih.2 hbs, rfl⟩⟩

/-- A list of steps that have results has a result. -/
lemma exists_mapM_eq_ok {as : List α} (h : ∀ a ∈ as, ∃ r, next a = .ok r) :
    ∃ results, as.mapM next = .ok results := by
  induction as with
  | nil => exact ⟨[], rfl⟩
  | cons a as ih =>
    obtain ⟨⟨r, hr⟩, has⟩ := List.forall_mem_cons.1 h
    obtain ⟨results, hresults⟩ := ih has
    refine ⟨r :: results, ?_⟩
    rw [List.mapM_cons, hr, hresults]
    rfl

/-- The first fault in a list of steps is the fault of the list, whatever follows it. -/
lemma mapM_append_cons_eq_error {before after : List α}
    (hbefore : ∀ b ∈ before, ∃ r, next b = .ok r) (ha : next a = .error fault) :
    (before ++ a :: after).mapM next = .error fault := by
  induction before with
  | nil =>
    rw [List.nil_append, List.mapM_cons, ha]
    rfl
  | cons b before ih =>
    obtain ⟨⟨r, hr⟩, hbefore⟩ := List.forall_mem_cons.1 hbefore
    rw [List.cons_append, List.mapM_cons, hr, ih hbefore]
    rfl

/-- A list of steps that fail without a fault has the results of its steps. -/
lemma mapM_eq_some_iff {step : α → Option β} {as : List α} {results : List β} :
    as.mapM step = some results ↔ List.Forall₂ (fun a b => step a = some b) as results := by
  induction as generalizing results with
  | nil =>
    rw [List.mapM_nil, List.forall₂_nil_left_iff]
    exact ⟨fun h => (Option.some.inj h).symm, fun h => h ▸ rfl⟩
  | cons a as ih =>
    simp only [List.mapM_cons, List.forall₂_cons_left_iff, Option.bind_eq_bind,
      Option.bind_eq_some_iff, ih]
    constructor
    · rintro ⟨b, hb, bs, hbs, h⟩
      exact ⟨b, bs, hb, hbs, (Option.some.inj h).symm⟩
    · rintro ⟨b, bs, hb, hbs, rfl⟩
      exact ⟨b, hb, bs, hbs, rfl⟩

/-- Where each step undoes a function, a list of steps undoes it on a list. -/
lemma mapM_eq_some_iff_map {step : α → Option β} {undone : β → α} {as : List α} {results : List β}
    (hstep : ∀ a b, step a = some b ↔ a = undone b) :
    as.mapM step = some results ↔ as = results.map undone := by
  rw [mapM_eq_some_iff]
  simp only [hstep]
  rw [← List.forall₂_map_right_iff (R := Eq), List.forall₂_eq_eq_eq]

end NoteLinks
