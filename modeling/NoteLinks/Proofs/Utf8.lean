import Mathlib.Tactic.Common
import NoteLinks.Utf8

/-!
# Reading UTF-8 back

The bytes of a text are read as that text (`decodeLossy_encode`).  The reader goes from one state to
the next; the lemmas follow a character through them: its first byte says how many bytes follow and
in which range the second one lies (`start_two`, `start_three`, `start_four`), and each further byte
adds six bits (`run_more`, `run_last`).  The ranges are met because a character is written in as few
bytes as possible and is no surrogate.
-/

namespace NoteLinks.Utf8

variable {more bits low high n : Nat} {bs : Bytes}

/-! ### Steps of the reader -/

lemma run_cons (s : State) (b : UInt8) (bs : Bytes) :
    run s (b :: bs) = (step s b.toNat).1 ++ run (step s b.toNat).2 bs := by
  cases s <;> rfl

/-- The bytes that are written are numbers below 256. -/
lemma toNat_ofNat (h : n < 256) : (UInt8.ofNat n).toNat = n := by
  rw [UInt8.toNat_ofNat']
  exact Nat.mod_eq_of_lt h

lemma toNat_asciiChar (h : n < 0x80) : (Char.ofNat n).toNat = n := by
  have hvalid : n.isValidChar := Or.inl (by omega)
  rw [Char.ofNat, dif_pos hvalid]
  rfl

lemma toNat_continuation (n : Nat) : (continuation n).toNat = 0x80 + n % 64 :=
  toNat_ofNat (by omega)

/-- A byte inside a character adds six bits. -/
lemma run_more (hlow : low ≤ 0x80 + n % 64) (hhigh : 0x80 + n % 64 ≤ high) :
    run (.inside (more + 1) bits low high) (continuation n :: bs) =
      run (.inside more (bits * 64 + n % 64) 0x80 0xBF) bs := by
  have hstep : step (.inside (more + 1) bits low high) (0x80 + n % 64) =
      ([], .inside more (bits * 64 + n % 64) 0x80 0xBF) := by
    rw [step, if_pos ⟨hlow, hhigh⟩, Nat.add_sub_cancel_left]
  rw [run_cons, toNat_continuation, hstep]
  rfl

/-- The last byte of a character completes it. -/
lemma run_last (hlow : low ≤ 0x80 + n % 64) (hhigh : 0x80 + n % 64 ≤ high) :
    run (.inside 0 bits low high) (continuation n :: bs) =
      Char.ofNat (bits * 64 + n % 64) :: run .ready bs := by
  have hstep : step (.inside 0 bits low high) (0x80 + n % 64) =
      ([Char.ofNat (bits * 64 + n % 64)], .ready) := by
    rw [step, if_pos ⟨hlow, hhigh⟩, Nat.add_sub_cancel_left]
  rw [run_cons, toNat_continuation, hstep]
  rfl

/-- After the first of two bytes the second one is expected. -/
lemma start_two {k : Nat} (hlow : 2 ≤ k) (hhigh : k < 32) :
    start (0xC0 + k) = ([], .inside 0 k 0x80 0xBF) := by
  have h₁ : ¬ 0xC0 + k < 0x80 := by omega
  have h₂ : ¬ 0xC0 + k < 0xC2 := by omega
  have h₃ : 0xC0 + k < 0xE0 := by omega
  rw [start, if_neg h₁, if_neg h₂, if_pos h₃, Nat.add_sub_cancel_left]

/-- After the first of three bytes the second one is expected; it must not begin an overlong form or
a surrogate. -/
lemma start_three {k x : Nat} (hk : k < 16) (hx : 0x80 ≤ x ∧ x ≤ 0xBF)
    (hlong : k = 0 → 0xA0 ≤ x) (hsurrogate : k = 13 → x ≤ 0x9F) :
    ∃ low high, start (0xE0 + k) = ([], .inside 1 k low high) ∧ low ≤ x ∧ x ≤ high := by
  by_cases h₀ : k = 0
  · subst h₀
    exact ⟨0xA0, 0xBF, rfl, hlong rfl, hx.2⟩
  · by_cases h₁₃ : k = 13
    · subst h₁₃
      exact ⟨0x80, 0x9F, rfl, hx.1, hsurrogate rfl⟩
    · refine ⟨0x80, 0xBF, ?_, hx.1, hx.2⟩
      have h₁ : ¬ 0xE0 + k < 0x80 := by omega
      have h₂ : ¬ 0xE0 + k < 0xC2 := by omega
      have h₃ : ¬ 0xE0 + k < 0xE0 := by omega
      have h₄ : ¬ 0xE0 + k = 0xE0 := by omega
      have h₅ : ¬ 0xE0 + k = 0xED := by omega
      have h₆ : 0xE0 + k < 0xF0 := by omega
      rw [start, if_neg h₁, if_neg h₂, if_neg h₃, if_neg h₄, if_neg h₅, if_pos h₆,
        Nat.add_sub_cancel_left]

/-- After the first of four bytes the second one is expected; it must not begin an overlong form or
a number above U+10FFFF. -/
lemma start_four {k x : Nat} (hk : k < 5) (hx : 0x80 ≤ x ∧ x ≤ 0xBF)
    (hlong : k = 0 → 0x90 ≤ x) (hlarge : k = 4 → x ≤ 0x8F) :
    ∃ low high, start (0xF0 + k) = ([], .inside 2 k low high) ∧ low ≤ x ∧ x ≤ high := by
  by_cases h₀ : k = 0
  · subst h₀
    exact ⟨0x90, 0xBF, rfl, hlong rfl, hx.2⟩
  · by_cases h₄ : k = 4
    · subst h₄
      exact ⟨0x80, 0x8F, rfl, hx.1, hlarge rfl⟩
    · refine ⟨0x80, 0xBF, ?_, hx.1, hx.2⟩
      obtain rfl | rfl | rfl : k = 1 ∨ k = 2 ∨ k = 3 := by omega
      · rfl
      · rfl
      · rfl

/-! ### Characters and texts -/

lemma encodeChar_ne_nil (c : Char) : encodeChar c ≠ [] := by
  simp only [encodeChar]
  split
  · exact List.cons_ne_nil _ _
  · split
    · exact List.cons_ne_nil _ _
    · split <;> exact List.cons_ne_nil _ _

/-- The bytes of a character outside ASCII lie outside ASCII. -/
lemma le_of_mem_encodeChar {c : Char} {b : UInt8} (hc : 0x80 ≤ c.toNat) (hb : b ∈ encodeChar c) :
    0x80 ≤ b.toNat := by
  have hcontinuation : ∀ n, 0x80 ≤ (continuation n).toNat := by
    intro n
    rw [toNat_continuation]
    omega
  have hlead : ∀ k, 0x80 ≤ k → k < 256 → 0x80 ≤ (UInt8.ofNat k).toNat := by
    intro k hk hlt
    rw [toNat_ofNat hlt]
    exact hk
  have hmax : c.toNat < 0x110000 := by
    rcases c.valid with h | ⟨-, h⟩
    · exact Nat.lt_trans h (by decide)
    · exact h
  unfold encodeChar at hb
  simp only [if_neg (Nat.not_lt.2 hc)] at hb
  -- a character of more than one byte has a lead byte and continuations, each of them above ASCII
  split at hb
  · simp only [List.mem_cons, List.not_mem_nil, or_false] at hb
    rcases hb with rfl | rfl
    · exact hlead _ (by omega) (by omega)
    · exact hcontinuation _
  · split at hb
    · simp only [List.mem_cons, List.not_mem_nil, or_false] at hb
      rcases hb with rfl | rfl | rfl
      · exact hlead _ (by omega) (by omega)
      · exact hcontinuation _
      · exact hcontinuation _
    · simp only [List.mem_cons, List.not_mem_nil, or_false] at hb
      rcases hb with rfl | rfl | rfl | rfl
      · exact hlead _ (by omega) (by omega)
      · exact hcontinuation _
      · exact hcontinuation _
      · exact hcontinuation _

/-- The bytes of a character are read as that character, whatever follows. -/
lemma run_encodeChar (c : Char) (bs : Bytes) :
    run .ready (encodeChar c ++ bs) = c :: run .ready bs := by
  obtain ⟨n, hn⟩ : ∃ n, c.toNat = n := ⟨_, rfl⟩
  have hc : Char.ofNat n = c := by rw [← hn, Char.ofNat_toNat]
  have hvalid : n < 0xD800 ∨ 0xDFFF < n ∧ n < 0x110000 := by
    rw [← hn]
    exact c.valid
  unfold encodeChar
  simp only [hn]
  split
  · -- one byte
    rename_i h₁
    have hstart : start n = ([Char.ofNat n], .ready) := by rw [start, if_pos h₁]
    rw [List.singleton_append, run_cons, toNat_ofNat (by omega), step, hstart, hc]
    rfl
  · rename_i h₁
    split
    · -- two bytes
      rename_i h₂
      have hbits : n / 64 * 64 + n % 64 = n := by omega
      rw [List.cons_append, List.singleton_append, run_cons, toNat_ofNat (by omega), step,
        start_two (by omega) (by omega)]
      simp only [List.nil_append]
      rw [run_last (by omega) (by omega), hbits, hc]
    · rename_i h₂
      split
      · -- three bytes
        rename_i h₃
        have hbits : (n / 4096 * 64 + n / 64 % 64) * 64 + n % 64 = n := by omega
        obtain ⟨low, high, hstart, hlow, hhigh⟩ :=
          start_three (k := n / 4096) (x := 0x80 + n / 64 % 64) (by omega) (by omega) (by omega)
            (by omega)
        simp only [List.cons_append, List.nil_append]
        rw [run_cons, toNat_ofNat (by omega), step, hstart]
        simp only [List.nil_append]
        rw [run_more hlow hhigh, run_last (by omega) (by omega), hbits, hc]
      · -- four bytes
        rename_i h₃
        have hbits :
            ((n / 262144 * 64 + n / 4096 % 64) * 64 + n / 64 % 64) * 64 + n % 64 = n := by omega
        obtain ⟨low, high, hstart, hlow, hhigh⟩ :=
          start_four (k := n / 262144) (x := 0x80 + n / 4096 % 64) (by omega) (by omega)
            (by omega) (by omega)
        simp only [List.cons_append, List.nil_append]
        rw [run_cons, toNat_ofNat (by omega), step, hstart]
        simp only [List.nil_append]
        rw [run_more hlow hhigh, run_more (by omega) (by omega), run_last (by omega) (by omega),
          hbits, hc]

/-- Bytes begin with those of one character at most. -/
lemma encodeChar_append_inj {c c' : Char} {bs bs' : Bytes}
    (h : encodeChar c ++ bs = encodeChar c' ++ bs') : c = c' := by
  have hrun := congrArg (run .ready) h
  rw [run_encodeChar, run_encodeChar] at hrun
  exact (List.cons.inj hrun).1

/-- A byte that goes on with a character begins none. -/
lemma head_encodeChar_ne (c : Char) : ∀ b ∈ (encodeChar c).head?, b ≠ 0xBB := by
  rintro b hb rfl
  obtain ⟨bs, hbytes⟩ : ∃ bs, encodeChar c = 0xBB :: bs := by
    cases hencode : encodeChar c with
    | nil => exact absurd hencode (encodeChar_ne_nil c)
    | cons x bs =>
      rw [hencode] at hb
      exact ⟨bs, congrArg (· :: bs) (Option.some.inj hb)⟩
  -- the byte by itself is read as the replacement character, which begins with another one
  have hread : [c] = replacement :: run .ready bs := by
    have hrun := run_encodeChar c []
    rw [List.append_nil, hbytes] at hrun
    exact hrun.symm
  rw [(List.cons.inj hread).1] at hbytes
  exact absurd (List.cons.inj hbytes).1 (by decide)

lemma encode_append (t u : Text) : encode (t ++ u) = encode t ++ encode u := List.flatMap_append

/-- The bytes of a text are read as that text. -/
lemma decodeLossy_encode (t : Text) : decodeLossy (encode t) = t := by
  unfold decodeLossy encode
  induction t with
  | nil => rfl
  | cons c t ih => rw [List.flatMap_cons, run_encodeChar, ih]

/-- The bytes of a text are valid. -/
lemma decode?_encode (t : Text) : decode? (encode t) = some t := by
  rw [decode?, decodeLossy_encode]
  exact if_pos rfl

end NoteLinks.Utf8
