import Mathlib.Data.List.DropRight
import Mathlib.Tactic.Common
import NoteLinks.Csv
import NoteLinks.Proofs.Utf8
import NoteLinks.Text.Blank
import NoteLinks.Text.Digit

/-!
# Trimming

Texts are trimmed of blanks, and the bytes of fields of the blanks of ASCII.  Both drop the members
of a class at the two ends of a list; what is left is trimmed (`isTrimmed_dropEnds`), and exactly
the trimmed lists are left as they are (`dropEnds_eq_self_iff`).  A digit of any script is no blank
(`Text.isBlank_of_isDigit_any`), so numbers are trimmed.  Trimming the bytes of a text drops nothing
but blanks of the text, because the blanks of ASCII are blanks and no byte of another character is
one of them (`Csv.exists_trim_encode`).
-/

namespace NoteLinks

/-! ### Lists -/
section Lists

variable {α : Type} {p : α → Bool} {l : List α}

/-- No member of the class stands at an end of the list. -/
structure IsTrimmed (p : α → Bool) (l : List α) : Prop where
  head : ∀ x ∈ l.head?, p x = false
  last : ∀ x ∈ l.getLast?, p x = false

def dropEnds (p : α → Bool) (l : List α) : List α := ((l.dropWhile p).reverse.dropWhile p).reverse

lemma dropWhile_eq_self (h : ∀ x ∈ l.head?, p x = false) : l.dropWhile p = l := by
  cases l with
  | nil => rfl
  | cons x l => simp [h x rfl]

/-- What is left of a list is trimmed. -/
lemma isTrimmed_dropEnds (p : α → Bool) (l : List α) : IsTrimmed p (dropEnds p l) := by
  have hright : dropEnds p l = (l.dropWhile p).rdropWhile p := rfl
  constructor
  · -- the beginning is that of the list without its front
    intro x hx
    have hprefix : dropEnds p l <+: l.dropWhile p := hright ▸ List.rdropWhile_prefix p _
    obtain ⟨rest, hrest⟩ := hprefix
    have hhead : (l.dropWhile p).head? = some x := by
      rw [← hrest, List.head?_append, hx]
      rfl
    have hne : l.dropWhile p ≠ [] := by
      intro hnil
      simp [hnil] at hhead
    have hfalse := List.head_dropWhile_not p hne
    rw [List.head?_eq_some_head hne, Option.some.injEq] at hhead
    rw [← hhead]
    exact hfalse
  · intro x hx
    have hne : dropEnds p l ≠ [] := by
      intro hnil
      simp [hnil] at hx
    have hlast : (dropEnds p l).getLast hne = x := by
      rw [Option.mem_def, List.getLast?_eq_some_getLast hne, Option.some.injEq] at hx
      exact hx
    have hfalse : ¬ p ((dropEnds p l).getLast hne) = true := List.rdropWhile_last_not p _ hne
    rw [hlast] at hfalse
    simpa using hfalse

/-- Exactly the trimmed lists are left as they are. -/
lemma dropEnds_eq_self_iff : dropEnds p l = l ↔ IsTrimmed p l := by
  constructor
  · intro h
    rw [← h]
    exact isTrimmed_dropEnds p l
  · intro h
    have hlast : ∀ x ∈ l.reverse.head?, p x = false := by
      rw [List.head?_reverse]
      exact h.last
    rw [dropEnds, dropWhile_eq_self h.head, dropWhile_eq_self hlast, List.reverse_reverse]

end Lists

/-! ### Texts -/

namespace Text

variable {t : Text}

lemma trim_eq_self_iff : trim t = t ↔ IsTrimmed isBlank t := dropEnds_eq_self_iff

lemma trim_trim (t : Text) : trim (trim t) = trim t := trim_eq_self_iff.2 (isTrimmed_dropEnds _ t)

lemma trim_eq_self (h : ∀ c ∈ t, isBlank c = false) : trim t = t :=
  trim_eq_self_iff.2
    ⟨fun c hc => h c (List.mem_of_head? hc), fun c hc => h c (List.mem_of_getLast? hc)⟩

/-- Trimming leaves nothing exactly of a text of blanks. -/
lemma trim_eq_nil_iff : trim t = [] ↔ isBlankText t = true := by
  rw [trim, trimEnd, trimStart, List.reverse_eq_nil_iff, List.dropWhile_eq_nil_iff, isBlankText,
    List.all_eq_true]
  constructor
  · intro h c hc
    rw [← List.takeWhile_append_dropWhile (p := isBlank) (l := t), List.mem_append] at hc
    rcases hc with hc | hc
    · exact List.all_eq_true.1 List.all_takeWhile c hc
    · exact h c (List.mem_reverse.2 hc)
  · intro h c hc
    exact h c ((List.dropWhile_sublist _).subset (List.mem_reverse.1 hc))

lemma trimStart_eq_self (h : ∀ c ∈ t.head?, isBlank c = false) : trimStart t = t :=
  dropWhile_eq_self h

lemma trimEnd_eq_self (h : ∀ c ∈ t.getLast?, isBlank c = false) : trimEnd t = t := by
  have hlast : ∀ c ∈ t.reverse.head?, isBlank c = false := by
    rwa [List.head?_reverse]
  rw [trimEnd, dropWhile_eq_self hlast, List.reverse_reverse]

lemma exists_eq_trimEnd_append (t : Text) :
    ∃ b, (∀ c ∈ b, isBlank c = true) ∧ t = trimEnd t ++ b := by
  refine ⟨(t.reverse.takeWhile isBlank).reverse, ?_, ?_⟩
  · intro c hc
    exact List.mem_takeWhile_imp (List.mem_reverse.1 hc)
  · rw [trimEnd, ← List.reverse_append, List.takeWhile_append_dropWhile, List.reverse_reverse]

/-- Blanks behind a text do not count. -/
lemma trim_append_of_forall {b : Text} (hb : ∀ c ∈ b, isBlank c = true) (t : Text) :
    trim (t ++ b) = trim t := by
  by_cases ht : isBlankText t = true
  · have hall : isBlankText (t ++ b) = true := by
      rw [isBlankText, List.all_append, ← isBlankText, ht, Bool.true_and]
      exact List.all_eq_true.2 hb
    rw [trim_eq_nil_iff.2 hall, trim_eq_nil_iff.2 ht]
  · -- the text keeps a character in front of the blanks, so they are dropped from the end
    have hne : t.dropWhile isBlank ≠ [] := by
      rwa [Ne, List.dropWhile_eq_nil_iff, ← List.all_eq_true]
    have hstart : trimStart (t ++ b) = trimStart t ++ b := by
      rw [trimStart, List.dropWhile_append, if_neg (by simpa using hne), trimStart]
    have hblanks : ∀ c ∈ b.reverse, isBlank c = true := fun c hc => hb c (List.mem_reverse.1 hc)
    rw [trim, hstart, trimEnd, List.reverse_append, List.dropWhile_append_of_pos hblanks]
    rfl

lemma trim_append_left_of_forall {a : Text} (ha : ∀ c ∈ a, isBlank c = true) (t : Text) :
    trim (a ++ t) = trim t := by
  rw [trim, trimStart, List.dropWhile_append_of_pos ha]
  rfl

/-- A text consists of what is left of it and of blanks on both sides. -/
lemma exists_eq_append_trim_append (t : Text) :
    ∃ a b, (∀ c ∈ a, isBlank c = true) ∧ (∀ c ∈ b, isBlank c = true) ∧ t = a ++ trim t ++ b := by
  obtain ⟨b, hb, hstart⟩ := exists_eq_trimEnd_append (trimStart t)
  refine ⟨t.takeWhile isBlank, b, fun c hc => List.mem_takeWhile_imp hc, hb, ?_⟩
  rw [List.append_assoc, trim, ← hstart, trimStart, List.takeWhile_append_dropWhile]

/-- What is left of a text is the trimmed text that stands between blanks in it. -/
lemma trim_eq_iff {u : Text} : trim t = u ↔ IsTrimmed isBlank u ∧
    ∃ left right, t = left ++ u ++ right ∧ (∀ c ∈ left, isBlank c = true) ∧
      ∀ c ∈ right, isBlank c = true := by
  constructor
  · rintro rfl
    obtain ⟨left, right, hleft, hright, ht⟩ := exists_eq_append_trim_append t
    exact ⟨isTrimmed_dropEnds _ t, left, right, ht, hleft, hright⟩
  · rintro ⟨hu, left, right, rfl, hleft, hright⟩
    rw [trim_append_of_forall hright, trim_append_left_of_forall hleft]
    exact trim_eq_self_iff.2 hu

lemma trim_trimEnd (t : Text) : trim (trimEnd t) = trim t := by
  obtain ⟨b, hb, ht⟩ := exists_eq_trimEnd_append t
  have happend := trim_append_of_forall hb (trimEnd t)
  rw [← ht] at happend
  exact happend.symm

/-- The zeros besides that of ASCII, and the nine digits behind each of them, keep away from ASCII
and from the blanks. -/
lemma zeros_spec : ∀ z ∈ zeros, z = 0x30 ∨ (0x80 ≤ z ∧
    ((0xA0 < z ∧ z + 10 ≤ 0x1680) ∨ (0x1680 < z ∧ z + 10 ≤ 0x2000) ∨ 0x3000 < z)) := by
  decide

/-- A digit is one of ten characters that begin with a zero. -/
lemma isDigit_iff {c : Char} :
    isDigit c = true ↔ ∃ z ∈ zeros, z ≤ c.toNat ∧ c.toNat < z + 10 := by
  simp [isDigit]

lemma isBlank_of_isDigit_any {c : Char} (h : isDigit c = true) : isBlank c = false := by
  obtain ⟨z, hz, hle, hlt⟩ := isDigit_iff.1 h
  have hspec := zeros_spec z hz
  simp only [isBlank, Bool.or_eq_false_iff, Bool.and_eq_false_iff, decide_eq_false_iff_not,
    beq_eq_false_iff_ne]
  omega

lemma isBlank_of_isDigit {c : Char} (h : c.isDigit = true) : isBlank c = false :=
  isBlank_of_isDigit_any (isDigit_of_ascii h)

lemma isDigit_ascii_of_lt {c : Char} (h : isDigit c = true) (hlt : c.toNat < 0x80) :
    c.isDigit = true := by
  obtain ⟨z, hz, hle, hlt'⟩ := isDigit_iff.1 h
  have hspec := zeros_spec z hz
  have hbounds : 48 ≤ c.toNat ∧ c.toNat ≤ 57 := by omega
  simpa [Char.isDigit, UInt32.le_iff_toNat_le] using hbounds

end Text

/-! ### Fields -/

namespace Csv

open Utf8 (Bytes)

/-- A character with a blank of ASCII among its bytes is that blank. -/
lemma encodeChar_eq_of_mem {c : Char} {b : UInt8} (hb : b ∈ Utf8.encodeChar c)
    (hblank : isAsciiBlank b = true) :
    Utf8.encodeChar c = [b] ∧ Text.isBlank c = true := by
  have hbyte : b.toNat = 9 ∨ b.toNat = 10 ∨ b.toNat = 12 ∨ b.toNat = 13 ∨ b.toNat = 32 := by
    simpa [isAsciiBlank, ← UInt8.toNat_inj, or_assoc] using hblank
  by_cases hascii : c.toNat < 0x80
  · have hencode : Utf8.encodeChar c = [UInt8.ofNat c.toNat] := by
      simp only [Utf8.encodeChar, if_pos hascii]
    rw [hencode, List.mem_singleton] at hb
    have hc : b.toNat = c.toNat := by rw [hb, Utf8.toNat_ofNat (by omega)]
    rw [hc] at hbyte
    refine ⟨by rw [hencode, hb], ?_⟩
    simp only [Text.isBlank, Bool.or_eq_true, Bool.and_eq_true, decide_eq_true_eq, beq_iff_eq]
    omega
  · have hlarge := Utf8.le_of_mem_encodeChar (by omega) hb
    omega

/-- What is dropped from the start of the bytes of a text are the bytes of blanks. -/
lemma exists_dropWhile_encode (t : Text) :
    ∃ a u, t = a ++ u ∧ (∀ c ∈ a, Text.isBlank c = true) ∧
      (Utf8.encode t).dropWhile isAsciiBlank = Utf8.encode u := by
  induction t with
  | nil => exact ⟨[], [], rfl, by simp, rfl⟩
  | cons c t ih =>
    have hencode : Utf8.encode (c :: t) = Utf8.encodeChar c ++ Utf8.encode t := List.flatMap_cons
    by_cases h : ∃ b ∈ Utf8.encodeChar c, isAsciiBlank b = true
    · obtain ⟨b, hb, hblank⟩ := h
      obtain ⟨hbyte, hc⟩ := encodeChar_eq_of_mem hb hblank
      obtain ⟨a, u, rfl, ha, hu⟩ := ih
      refine ⟨c :: a, u, rfl, List.forall_mem_cons.2 ⟨hc, ha⟩, ?_⟩
      rw [hencode, hbyte, List.singleton_append, List.dropWhile_cons_of_pos hblank, hu]
    · refine ⟨[], c :: t, rfl, by simp, dropWhile_eq_self fun b hb => ?_⟩
      rw [hencode, List.head?_append_of_ne_nil _ (Utf8.encodeChar_ne_nil c)] at hb
      exact Bool.eq_false_iff.2 fun hblank => h ⟨b, List.mem_of_head? hb, hblank⟩

/-- What is dropped from the end of the bytes of a text are the bytes of blanks. -/
lemma exists_dropWhile_reverse_encode (t : Text) :
    ∃ u b, t = u ++ b ∧ (∀ c ∈ b, Text.isBlank c = true) ∧
      ((Utf8.encode t).reverse.dropWhile isAsciiBlank).reverse = Utf8.encode u := by
  induction t using List.reverseRecOn with
  | nil => exact ⟨[], [], rfl, by simp, rfl⟩
  | append_singleton t c ih =>
    have hencode : (Utf8.encode (t ++ [c])).reverse =
        (Utf8.encodeChar c).reverse ++ (Utf8.encode t).reverse := by
      rw [Utf8.encode, List.flatMap_append, List.flatMap_singleton, List.reverse_append]
      rfl
    -- a blank of ASCII is a byte by itself, so the last character goes as a whole or stays
    by_cases h : ∃ b ∈ Utf8.encodeChar c, isAsciiBlank b = true
    · obtain ⟨b, hb, hblank⟩ := h
      obtain ⟨hbyte, hc⟩ := encodeChar_eq_of_mem hb hblank
      obtain ⟨u, v, rfl, hv, hu⟩ := ih
      refine ⟨u, v ++ [c], List.append_assoc u v [c],
        List.forall_mem_append.2 ⟨hv, List.forall_mem_singleton.2 hc⟩, ?_⟩
      rw [hencode, hbyte, List.reverse_singleton, List.singleton_append,
        List.dropWhile_cons_of_pos hblank, hu]
    · refine ⟨t ++ [c], [], (List.append_nil _).symm, by simp, ?_⟩
      rw [dropWhile_eq_self, List.reverse_reverse]
      intro b hb
      have hne : (Utf8.encodeChar c).reverse ≠ [] := by simp [Utf8.encodeChar_ne_nil]
      rw [hencode, List.head?_append_of_ne_nil _ hne] at hb
      exact Bool.eq_false_iff.2 fun hblank =>
        h ⟨b, List.mem_reverse.1 (List.mem_of_head? hb), hblank⟩

/-- The trimmed bytes of a text are those of a text that differs from it in blanks at the ends. -/
lemma exists_trim_encode (t : Text) :
    ∃ u, trim (Utf8.encode t) = Utf8.encode u ∧ Text.trim u = Text.trim t := by
  obtain ⟨a, v, rfl, ha, hstart⟩ := exists_dropWhile_encode t
  obtain ⟨u, b, rfl, hb, hend⟩ := exists_dropWhile_reverse_encode v
  refine ⟨u, ?_, ?_⟩
  · rw [trim, hstart, hend]
  · rw [Text.trim_append_left_of_forall ha, Text.trim_append_of_forall hb]

end Csv

end NoteLinks
