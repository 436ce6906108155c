import NoteLinks.Proofs.Numerals
import NoteLinks.Proofs.Trimming
import NoteLinks.Timestamp

/-!
# Reading timestamps back

The written form of a timestamp that exists is read as that timestamp (`read?_write`), whatever its
year: a year of four digits is read as far as its width, and any other one has a sign, after which
all digits belong to it (`year?_writeYear`).  Every timestamp that is read exists
(`isValid_of_read?`).
-/

namespace NoteLinks.Timestamp

open Decimal (writePadded value)

variable {stamp : Timestamp} {n limit : Nat} {ds rest t : Text}

/-! ### Numbers -/

/-- Digits are read as far as a text that does not begin with a digit. -/
lemma spanDigits_append (hds : ∀ c ∈ ds, c.isDigit = true) (hlength : ds.length ≤ limit)
    (hrest : ∀ c ∈ rest.head?, c.isDigit = false) : spanDigits limit (ds ++ rest) = (ds, rest) := by
  induction ds generalizing limit with
  | nil =>
    cases limit with
    | zero => rfl
    | succ limit =>
      cases rest with
      | nil => rfl
      | cons c rest => simp [spanDigits, hrest c rfl]
  | cons c ds ih =>
    obtain ⟨hc, hds⟩ := List.forall_mem_cons.1 hds
    cases limit with
    | zero => simp at hlength
    | succ limit =>
      have htail := ih hds (Nat.le_of_succ_le_succ hlength)
      simp [spanDigits, hc, htail]

lemma digits?_append (hne : ds ≠ []) (hds : ∀ c ∈ ds, c.isDigit = true)
    (hlength : ds.length ≤ limit) (hrest : ∀ c ∈ rest.head?, c.isDigit = false) :
    digits? limit (ds ++ rest) = some (value 0 ds, rest) := by
  obtain ⟨d, ds, rfl⟩ := List.exists_cons_of_ne_nil hne
  rw [digits?, spanDigits_append hds hlength hrest]

lemma trimStart_digits_append (hne : ds ≠ []) (hds : ∀ c ∈ ds, c.isDigit = true) :
    Text.trimStart (ds ++ rest) = ds ++ rest := by
  obtain ⟨d, ds, rfl⟩ := List.exists_cons_of_ne_nil hne
  refine Text.trimStart_eq_self fun c hc => ?_
  obtain rfl : d = c := by simpa using hc
  exact Text.isBlank_of_isDigit (hds d List.mem_cons_self)

/-- Digits that are filled up to two of them are read as their number. -/
lemma short?_writePadded (h : n < 100) (hrest : ∀ c ∈ rest.head?, c.isDigit = false) :
    short? (writePadded 2 n ++ rest) = some (n, rest) := by
  have hne := Decimal.writePadded_ne_nil 2 n
  have hdigits := Decimal.isDigit_of_mem_writePadded 2 n
  have hlength : (writePadded 2 n).length ≤ 2 :=
    Nat.le_of_eq (Decimal.length_writePadded (by decide) h)
  rw [short?, trimStart_digits_append hne hdigits, digits?_append hne hdigits hlength hrest,
    Decimal.value_writePadded]

/-! ### Years -/

lemma year?_minus (u : Text) :
    year? ('-' :: u) = (digits? u.length u).map fun (n, rest) => (-(n : Int), rest) := rfl

lemma year?_plus (u : Text) :
    year? ('+' :: u) = (digits? u.length u).map fun (n, rest) => ((n : Int), rest) := rfl

/-- Without a sign at most four digits belong to the year. -/
lemma year?_digits (hne : ds ≠ []) (hds : ∀ c ∈ ds, c.isDigit = true) :
    year? (ds ++ rest) = (digits? 4 (ds ++ rest)).map fun (n, rest) => ((n : Int), rest) := by
  rw [year?, trimStart_digits_append hne hds]
  obtain ⟨d, ds, rfl⟩ := List.exists_cons_of_ne_nil hne
  have hd : d.isDigit = true := hds d List.mem_cons_self
  split
  · rename_i u heq
    rw [List.cons_append, List.cons.injEq] at heq
    exact absurd (heq.1 ▸ hd) (by decide)
  · rename_i u heq
    rw [List.cons_append, List.cons.injEq] at heq
    exact absurd (heq.1 ▸ hd) (by decide)
  · rfl

lemma digits?_writePadded (hlength : (writePadded 4 n).length ≤ limit)
    (hrest : ∀ c ∈ rest.head?, c.isDigit = false) :
    digits? limit (writePadded 4 n ++ rest) = some (n, rest) := by
  rw [digits?_append (Decimal.writePadded_ne_nil 4 n) (Decimal.isDigit_of_mem_writePadded 4 n)
    hlength hrest, Decimal.value_writePadded]

/-- A year is read back. -/
lemma year?_writeYear (y : Int) (hrest : ∀ c ∈ rest.head?, c.isDigit = false) :
    year? (writeYear y ++ rest) = some (y, rest) := by
  have hall : (writePadded 4 y.natAbs).length ≤ (writePadded 4 y.natAbs ++ rest).length := by
    rw [List.length_append]
    exact Nat.le_add_right _ _
  by_cases hneg : y < 0
  · have hwrite : writeYear y ++ rest = '-' :: (writePadded 4 y.natAbs ++ rest) := by
      rw [writeYear, if_pos hneg]
      rfl
    have hvalue : -((y.natAbs : Nat) : Int) = y := by omega
    rw [hwrite, year?_minus, digits?_writePadded hall hrest, Option.map_some]
    exact congrArg (fun y => some (y, rest)) hvalue
  · have hvalue : ((y.natAbs : Nat) : Int) = y := by omega
    -- a year of four digits has no sign, any later one has a plus
    by_cases hsmall : y ≤ 9999
    · have hwrite : writeYear y = writePadded 4 y.natAbs := by
        rw [writeYear, if_neg hneg, if_pos hsmall]
      have hlength : (writePadded 4 y.natAbs).length ≤ 4 :=
        Nat.le_of_eq (Decimal.length_writePadded (by decide) (by omega))
      rw [hwrite, year?_digits (Decimal.writePadded_ne_nil 4 _)
        (Decimal.isDigit_of_mem_writePadded 4 _), digits?_writePadded hlength hrest,
        Option.map_some]
      exact congrArg (fun y => some (y, rest)) hvalue
    · have hwrite : writeYear y ++ rest = '+' :: (writePadded 4 y.natAbs ++ rest) := by
        rw [writeYear, if_neg hneg, if_neg hsmall]
        rfl
      rw [hwrite, year?_plus, digits?_writePadded hall hrest, Option.map_some]
      exact congrArg (fun y => some (y, rest)) hvalue

/-! ### Timestamps -/

/-- A month has at most 31 days, and there are twelve months. -/
lemma daysIn_le (year : Int) (month : Nat) :
    daysIn year month ≤ 31 ∧ (0 < daysIn year month → month ≤ 12) := by
  unfold daysIn
  split
  · split <;> omega
  · split
    · omega
    · split <;> omega

/-- A timestamp that exists has numbers of at most two digits behind its year. -/
lemma lt_of_isValid (h : stamp.isValid = true) :
    stamp.month < 100 ∧ stamp.day < 100 ∧ stamp.hour < 100 ∧ stamp.minute < 100 ∧
      stamp.second < 100 := by
  simp only [isValid, Bool.and_eq_true, decide_eq_true_eq] at h
  obtain ⟨⟨⟨⟨⟨⟨-, -⟩, hday⟩, hlast⟩, hhour⟩, hminute⟩, hsecond⟩ := h
  obtain ⟨hdays, hmonth⟩ := daysIn_le stamp.year stamp.month
  have hmonth := hmonth (by omega)
  omega

lemma write_eq (stamp : Timestamp) :
    stamp.write = writeYear stamp.year ++ '-' :: (writePadded 2 stamp.month ++
      '-' :: (writePadded 2 stamp.day ++ ' ' :: (writePadded 2 stamp.hour ++
        ':' :: (writePadded 2 stamp.minute ++ ':' :: (writePadded 2 stamp.second ++ []))))) := by
  simp [write]

lemma write_ne_nil (stamp : Timestamp) : stamp.write ≠ [] := by
  rw [write_eq]
  exact List.append_ne_nil_of_right_ne_nil _ (List.cons_ne_nil _ _)

/-- The timestamp that is read exists. -/
lemma isValid_of_readWith? {gap? : Text → Option Text} (h : readWith? gap? t = some stamp) :
    stamp.isValid = true := by
  simp only [readWith?, Option.bind_eq_bind, Option.bind_eq_some_iff] at h
  obtain ⟨_, -, _, -, _, -, _, -, _, -, _, -, _, -, _, -, _, -, _, -, _, -, h⟩ := h
  split at h
  · rename_i hvalid
    rw [← Option.some.inj h]
    exact hvalid.2
  · exact absurd h (by simp)

/-- A timestamp is read from its written form. -/
lemma readWith?_write (h : stamp.isValid = true) :
    readWith? (fun u => some (Text.trimStart u)) stamp.write = some stamp := by
  obtain ⟨hmonth, hday, hhour, hminute, hsecond⟩ := lt_of_isValid h
  have hgap : ∀ u : Text, Text.trimStart (' ' :: u) = Text.trimStart u := fun u => rfl
  have hhourDigits : ∀ u, Text.trimStart (writePadded 2 stamp.hour ++ u) =
      writePadded 2 stamp.hour ++ u := fun u => trimStart_digits_append
    (Decimal.writePadded_ne_nil 2 stamp.hour) (Decimal.isDigit_of_mem_writePadded 2 stamp.hour)
  have hend : short? (writePadded 2 stamp.second ++ []) = some (stamp.second, []) :=
    short?_writePadded hsecond (by simp)
  have hstop : ∀ {c : Char} {u : Text}, c.isDigit = false → ∀ d ∈ (c :: u).head?,
      d.isDigit = false := by
    intro c u hc d hd
    obtain rfl : c = d := by simpa using hd
    exact hc
  rw [readWith?, write_eq]
  simp only [Option.bind_eq_bind, Option.bind_some, skip?, if_true,
    year?_writeYear stamp.year (hstop (c := '-') (by decide)),
    short?_writePadded hmonth (hstop (c := '-') (by decide)),
    short?_writePadded hday (hstop (c := ' ') (by decide)), hgap, hhourDigits,
    short?_writePadded hhour (hstop (c := ':') (by decide)),
    short?_writePadded hminute (hstop (c := ':') (by decide)), hend]
  rw [if_pos ⟨trivial, h⟩]

/-- A timestamp that exists is read back. -/
lemma read?_write (h : stamp.isValid = true) : read? stamp.write = some stamp := by
  rw [read?, readWith?_write h]
  rfl

/-- A timestamp that is read exists. -/
lemma isValid_of_read? (h : read? t = some stamp) : stamp.isValid = true := by
  rw [read?] at h
  cases hfirst : readWith? (fun u => some (Text.trimStart u)) t with
  | some first =>
    rw [hfirst] at h
    obtain rfl : first = stamp := Option.some.inj h
    exact isValid_of_readWith? hfirst
  | none =>
    rw [hfirst] at h
    exact isValid_of_readWith? h

/-- A written timestamp has no blanks at its ends. -/
lemma trim_write (stamp : Timestamp) : Text.trim stamp.write = stamp.write := by
  have hnotBlank : ∀ k n, ∀ c ∈ writePadded k n, Text.isBlank c = false :=
    fun k n c hc => Text.isBlank_of_isDigit (Decimal.isDigit_of_mem_writePadded k n c hc)
  have hyear : writeYear stamp.year ≠ [] ∧ ∀ c ∈ writeYear stamp.year, Text.isBlank c = false := by
    have hdigits := hnotBlank 4 stamp.year.natAbs
    unfold writeYear
    split
    · exact ⟨List.cons_ne_nil _ _, List.forall_mem_cons.2 ⟨by decide, hdigits⟩⟩
    · split
      · exact ⟨Decimal.writePadded_ne_nil 4 _, hdigits⟩
      · exact ⟨List.cons_ne_nil _ _, List.forall_mem_cons.2 ⟨by decide, hdigits⟩⟩
  refine Text.trim_eq_self_iff.2 ⟨?_, ?_⟩
  · intro c hc
    rw [write_eq, List.head?_append_of_ne_nil _ hyear.1] at hc
    exact hyear.2 c (List.mem_of_head? hc)
  · intro c hc
    rw [write, List.getLast?_append_of_ne_nil _ (Decimal.writePadded_ne_nil 2 _)] at hc
    exact hnotBlank 2 _ c (List.mem_of_getLast? hc)

end NoteLinks.Timestamp
