import Mathlib.Algebra.Ring.Nat
import Mathlib.Data.Nat.Digits.Defs
import Mathlib.Tactic.Common
import NoteLinks.Decimal

/-!
# Reading numerals back

A number is read back from its numeral: a natural number (`read?_write`), a number of 64 bits
(`readInt64?_writeInt`), and a number that is written with leading zeros (`value_writePadded`).  A
numeral has as many digits as its number needs (`length_write_le`), so one that is filled up to a
width has that width.

Any text of digits is read as the number that it denotes, however long it is (`value_zero`), and
where the number must be below `2^32` just the texts with such a number are read
(`readUInt32?_eq_some_iff`).
-/

namespace NoteLinks.Decimal

variable {n k : Nat}

/-! ### Digits -/

lemma digit_spec : ∀ n < 10, (digit n).isDigit = true ∧ (digit n).toNat - 48 = n := by
  decide

lemma write_of_le (h : 10 ≤ n) : write n = write (n / 10) ++ [digit (n % 10)] := by
  rw [write, if_neg (by omega)]

lemma write_of_lt (h : n < 10) : write n = [digit n] := by
  rw [write, if_pos h]

/-- A numeral holds digits only. -/
lemma isDigit_of_mem_write (n : Nat) : ∀ c ∈ write n, c.isDigit = true := by
  induction n using Nat.strongRecOn with
  | ind n ih =>
    intro c hc
    by_cases h : n < 10
    · rw [write_of_lt h, List.mem_singleton] at hc
      exact hc ▸ (digit_spec n h).1
    · rw [write_of_le (by omega), List.mem_append, List.mem_singleton] at hc
      rcases hc with hc | rfl
      · exact ih (n / 10) (by omega) c hc
      · exact (digit_spec (n % 10) (by omega)).1

lemma write_ne_nil (n : Nat) : write n ≠ [] := by
  rw [write]
  split
  · exact List.cons_ne_nil _ _
  · exact List.append_ne_nil_of_right_ne_nil _ (List.cons_ne_nil _ _)

/-- A number below a power of ten has as many digits as the exponent says, or fewer. -/
lemma length_write_le (hk : 0 < k) (h : n < 10 ^ k) : (write n).length ≤ k := by
  induction k generalizing n with
  | zero => omega
  | succ k ih =>
    by_cases hlt : n < 10
    · rw [write_of_lt hlt, List.length_singleton]
      omega
    · -- a number of two digits does not fit into one
      have hpos : 0 < k := by
        rcases Nat.eq_zero_or_pos k with rfl | hpos
        · simp at h; omega
        · exact hpos
      have hdiv : n / 10 < 10 ^ k := by
        rw [Nat.pow_succ] at h
        omega
      have htail := ih hpos hdiv
      rw [write_of_le (by omega), List.length_append, List.length_singleton]
      omega

/-! ### Values -/

/-- The value of a numeral is the number. -/
lemma value_write (n : Nat) : value 0 (write n) = n := by
  induction n using Nat.strongRecOn with
  | ind n ih =>
    by_cases h : n < 10
    · rw [write_of_lt h]
      simpa [value] using (digit_spec n h).2
    · have htail : value 0 (write (n / 10)) = n / 10 := ih (n / 10) (by omega)
      have hdigit := (digit_spec (n % 10) (by omega)).2
      have happend : value 0 (write (n / 10) ++ [digit (n % 10)]) =
          10 * value 0 (write (n / 10)) + ((digit (n % 10)).toNat - 48) := by
        rw [value, List.foldl_append]
        rfl
      rw [write_of_le (by omega), happend, htail, hdigit]
      omega

lemma read?_write (n : Nat) : read? (write n) = some n := by
  have hdigits : Text.isDigits (write n) = true := by
    rw [Text.isDigits, Bool.and_eq_true, bne_iff_ne, List.all_eq_true]
    exact ⟨write_ne_nil n, isDigit_of_mem_write n⟩
  rw [read?, if_pos hdigits, value_write]

/-- A numeral holds no sign. -/
lemma ne_sign_of_mem_write (n : Nat) : ∀ c ∈ write n, c ≠ '-' ∧ c ≠ '+' := by
  intro c hc
  have hdigit := isDigit_of_mem_write n c hc
  constructor
  · rintro rfl
    exact absurd hdigit (by decide)
  · rintro rfl
    exact absurd hdigit (by decide)

/-- A numeral does not begin with a sign. -/
lemma readInt?_write (n : Nat) : readInt? (write n) = some (n : Int) := by
  have hsign := ne_sign_of_mem_write n
  unfold readInt?
  split
  · rename_i t heq
    exact absurd rfl (hsign '-' (heq ▸ List.mem_cons_self)).1
  · rename_i t heq
    exact absurd rfl (hsign '+' (heq ▸ List.mem_cons_self)).2
  · rw [read?_write]
    rfl

lemma readInt?_writeInt (i : Int) : readInt? (writeInt i) = some i := by
  cases i with
  | ofNat n => exact readInt?_write n
  | negSucc n =>
    rw [writeInt, readInt?, read?_write]
    rfl

lemma writeInt_ne_nil (i : Int) : writeInt i ≠ [] := by
  cases i with
  | ofNat n => exact write_ne_nil n
  | negSucc n => exact List.cons_ne_nil _ _

lemma readInt64?_writeInt (i : Int64) : readInt64? (writeInt i.toInt) = some i := by
  have hbounds : Int64.minValue.toInt ≤ i.toInt ∧ i.toInt ≤ Int64.maxValue.toInt :=
    ⟨Int64.minValue_le_toInt i, Int64.toInt_le i⟩
  rw [readInt64?, readInt?_writeInt, Option.bind_some, if_pos hbounds, Int64.ofInt_toInt]

/-! ### Leading zeros -/

lemma isDigit_of_mem_writePadded (k n : Nat) : ∀ c ∈ writePadded k n, c.isDigit = true := by
  intro c hc
  rcases List.mem_append.1 hc with hc | hc
  · rw [List.eq_of_mem_replicate hc]
    decide
  · exact isDigit_of_mem_write n c hc

lemma writePadded_ne_nil (k n : Nat) : writePadded k n ≠ [] :=
  List.append_ne_nil_of_right_ne_nil _ (write_ne_nil n)

lemma length_writePadded (hk : 0 < k) (h : n < 10 ^ k) : (writePadded k n).length = k := by
  have hle := length_write_le hk h
  simp only [writePadded, List.length_append, List.length_replicate]
  omega

/-- Leading zeros do not count. -/
lemma value_writePadded (k n : Nat) : value 0 (writePadded k n) = n := by
  have hzeros : ∀ m, value 0 (List.replicate m '0') = 0 := by
    intro m
    induction m with
    | zero => rfl
    | succ m ih => exact ih
  have happend : value 0 (writePadded k n) =
      value (value 0 (List.replicate (k - (write n).length) '0')) (write n) := by
    rw [writePadded, value, List.foldl_append]
    rfl
  rw [happend, hzeros, value_write]

/-! ### Digits of any number -/

/-- The number that a text of digits denotes: the last digit counts ones, the one before it tens,
and so on. -/
def denoted (t : Text) : Nat := Nat.ofDigits 10 (t.reverse.map fun c => c.toNat - '0'.toNat)

/-- The value of digits behind a number counts that number with its place. -/
lemma value_eq (acc : Nat) (t : Text) : value acc t = acc * 10 ^ t.length + denoted t := by
  induction t generalizing acc with
  | nil => simp [value, denoted]
  | cons c t ih =>
    have hcons : value acc (c :: t) = value (10 * acc + (c.toNat - 48)) t := rfl
    have hdenoted : denoted (c :: t) = denoted t + 10 ^ t.length * (c.toNat - 48) := by
      simp [denoted, Nat.ofDigits_append]
    rw [hcons, ih, hdenoted, List.length_cons, Nat.pow_succ]
    ring

lemma value_zero (t : Text) : value 0 t = denoted t := by
  rw [value_eq, Nat.zero_mul, Nat.zero_add]

/-- The text states a number below `2^32` in one or more ASCII digits. -/
structure IsUInt32 (t : Text) : Prop where
  ne_nil : t ≠ []
  isDigit : ∀ c ∈ t, c.isDigit = true
  denoted_lt : denoted t < 2 ^ 32

/-- Just the numbers below `2^32` are read. -/
lemma readUInt32?_eq_some_iff {t : Text} {m : UInt32} :
    readUInt32? t = some m ↔ IsUInt32 t ∧ m.toNat = denoted t := by
  have hdigits : Text.isDigits t = true ↔ t ≠ [] ∧ ∀ c ∈ t, c.isDigit = true := by
    rw [Text.isDigits, Bool.and_eq_true, bne_iff_ne, List.all_eq_true]
  have hsize : UInt32.size = 2 ^ 32 := rfl
  simp only [readUInt32?, Option.bind_eq_some_iff, read?, value_zero, Option.ite_none_right_eq_some,
    Option.some.injEq, hdigits, hsize]
  constructor
  · rintro ⟨_, ⟨⟨hne, hall⟩, rfl⟩, hlt, rfl⟩
    exact ⟨⟨hne, hall, hlt⟩, UInt32.toNat_ofNat_of_lt' hlt⟩
  · rintro ⟨⟨hne, hall, hlt⟩, hm⟩
    refine ⟨denoted t, ⟨⟨hne, hall⟩, rfl⟩, hlt, ?_⟩
    rw [← hm, UInt32.ofNat_toNat]

end NoteLinks.Decimal
