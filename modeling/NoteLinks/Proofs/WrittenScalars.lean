import NoteLinks.Proofs.Cutting
import NoteLinks.Proofs.Numerals
import NoteLinks.Yaml.Plain
import NoteLinks.Yaml.Quoted
import NoteLinks.Yaml.Writer

/-!
# Written YAML scalars

A scalar that is written is read back, whatever follows it where it can stand.  A text in quotes is
(`read?_writeText`): spaces stay as they are, quotes and backslashes are escaped, and what does not
show is written as its number, whose digits are read as it (`readBase?_hex8`).  Null, truth values
and whole numbers are written as words (`isWord_writeScalar`), which are read up to the next mark
(`read?_word`) and have the meaning that they were written for (`ofPlain?_writeScalar`).
-/

namespace NoteLinks.Yaml

variable {c d : Char} {t u rest : Text} {n fuel : Nat}

/-! ### Hexadecimal numerals -/

def hexDigit (d : Nat) : Char := Char.ofNat (if d < 10 then 48 + d else 55 + d)

lemma hex8_eq (n : Nat) :
    hex8 n = ((List.range 8).reverse.map fun i => (n >>> (4 * i)) % 16).map hexDigit := by
  rw [List.map_map]
  rfl

lemma digitValue?_hexDigit : ∀ d < 16, digitValue? 16 (hexDigit d) = some d := by
  decide

/-- Digits are read one after the other. -/
lemma foldl_hexDigit {ds : List Nat} (hds : ∀ d ∈ ds, d < 16) (acc : Nat) :
    (ds.map hexDigit).foldl
        (fun acc c => acc.bind fun n => (digitValue? 16 c).map (16 * n + ·)) (some acc) =
      some (ds.foldl (fun n d => 16 * n + d) acc) := by
  induction ds generalizing acc with
  | nil => rfl
  | cons d ds ih =>
    obtain ⟨hd, hds⟩ := List.forall_mem_cons.1 hds
    rw [List.map_cons, List.foldl_cons, List.foldl_cons, Option.bind_some,
      digitValue?_hexDigit d hd]
    exact ih hds _

/-- Eight hexadecimal digits are read as the number that they were written for. -/
lemma readBase?_hex8 (hn : n < 2 ^ 32) : readBase? 16 (hex8 n) = some n := by
  have hds : ∀ d ∈ (List.range 8).reverse.map fun i => (n >>> (4 * i)) % 16, d < 16 := by
    intro d hd
    obtain ⟨i, -, rfl⟩ := List.mem_map.1 hd
    exact Nat.mod_lt _ (by decide)
  rw [hex8_eq, readBase?, if_neg (by simp), foldl_hexDigit hds]
  rw [Option.some_inj]
  simp [List.range_succ, Nat.shiftRight_eq_div_pow]
  omega

/-! ### Characters -/

lemma isInvisible_of_mem {range : Nat × Nat} (hrange : range ∈ Text.invisibleRanges)
    (hc : range.1 ≤ c.toNat ∧ c.toNat ≤ range.2) : Text.isInvisible c = true := by
  have hany : Text.invisibleRanges.any (fun r => r.1 ≤ c.toNat && c.toNat ≤ r.2) = true :=
    List.any_eq_true.2 ⟨range, hrange, by simpa using hc⟩
  rw [Text.isInvisible, hany, Bool.or_true]

/-- A character that shows may stand in a document, and it ends no line. -/
structure IsShown (c : Char) : Prop where
  permitted : isPermitted c = true
  not_break : isBreak c = false
  ne_tab : c ≠ '\t'
  ne_return : c ≠ '\r'
  ne_nextLine : c ≠ Char.ofNat 0x85

lemma isShown_of_toNat (hlow : 0x20 ≤ c.toNat ∧ c.toNat ≠ 0x7F)
    (hcontrol : c.toNat < 0x80 ∨ 0xA0 < c.toNat) (hlines : c.toNat < 0x2028 ∨ 0x202F < c.toNat)
    (hlast : c.toNat < 0xFFFE ∨ 0xFFFF < c.toNat) : IsShown c := by
  have hne : ∀ d : Char, (d.toNat < 0x20 ∨ 0x80 ≤ d.toNat ∧ d.toNat ≤ 0xA0 ∨
      0x2028 ≤ d.toNat ∧ d.toNat ≤ 0x202F) → c ≠ d := by
    rintro d hd rfl
    omega
  refine ⟨?_, ?_, hne _ (by decide), hne _ (by decide), hne _ (by decide)⟩
  · simp only [isPermitted, Bool.or_eq_true, Bool.and_eq_true, beq_iff_eq, decide_eq_true_eq]
    omega
  · simp [isBreak, hne '\n' (by decide), hne (Char.ofNat 0x2028) (by decide),
      hne (Char.ofNat 0x2029) (by decide)]

lemma isShown_of_ascii (h : 0x20 ≤ c.toNat ∧ c.toNat < 0x7F) : IsShown c :=
  isShown_of_toNat (by omega) (by omega) (by omega) (by omega)

lemma isShown_of_not_isInvisible (h : Text.isInvisible c = false) : IsShown c := by
  have hout : ∀ range ∈ Text.invisibleRanges, c.toNat < range.1 ∨ range.2 < c.toNat := by
    intro range hrange
    by_contra hin
    rw [isInvisible_of_mem hrange (by omega)] at h
    cases h
  refine isShown_of_toNat ?_ (hout (0x80, 0xA0) (by decide)) (hout (0x2028, 0x202F) (by decide))
    (hout (0xFFFE, 0xFFFF) (by decide))
  simp only [Text.isInvisible, Bool.or_eq_false_iff, decide_eq_false_iff_not,
    beq_eq_false_iff_ne] at h
  exact ⟨Nat.not_lt.1 h.1.1, h.1.2⟩

lemma toNat_of_isDigit (h : c.isDigit = true) : 48 ≤ c.toNat ∧ c.toNat ≤ 57 := by
  simpa [Char.isDigit, UInt32.le_iff_toNat_le] using h

/-! ### Texts in quotes -/

/-- The escape that is written for a character is read as it. -/
lemma escape?_hex8 (c : Char) (rest : Text) :
    Quoted.escape? ('U' :: (hex8 c.toNat ++ rest)) = some (c, rest) := by
  have hlength : (hex8 c.toNat).length = 8 := by simp [hex8]
  have hbound : c.toNat < 2 ^ 32 := c.val.toNat_lt
  have hvalid : c.toNat.isValidChar := c.valid
  rw [Quoted.escape?]
  simp only [Quoted.digits]
  rw [if_neg (by decide), List.take_left' hlength, List.drop_left' hlength,
    readBase?_hex8 hbound, Option.bind_some, if_pos, Char.ofNat_toNat]
  exact ⟨by simp [hlength], hvalid⟩

lemma textFrom?_escape (h : Quoted.escape? t = some (c, u)) (hbreak : t.head?.any isBreak = false) :
    Quoted.textFrom? '"' (fuel + 1) ('\\' :: t) =
      (Quoted.textFrom? '"' fuel u).map fun (a, b) => (c :: a, b) := by
  have hblank : isBlank '\\' = false := by decide
  simp only [Quoted.textFrom?, hblank, hbreak, h, Bool.false_eq_true, if_false, and_self, if_true]
  rfl

/-- What is written for a character that is no space is read as it. -/
lemma textFrom?_writeChar (hc : c ≠ ' ') :
    Quoted.textFrom? '"' (fuel + 1) (writeChar c ++ u) =
      (Quoted.textFrom? '"' fuel u).map fun (a, b) => (c :: a, b) := by
  rw [writeChar]
  simp only [Bool.or_eq_true, decide_eq_true_eq]
  split
  · -- the quote and the backslash have short escapes, invisible characters long ones
    rename_i hmark
    have hescape : Quoted.escape? (c :: u) = some (c, u) := by
      rcases hmark with rfl | rfl <;> rfl
    have hbreak : (c :: u).head?.any isBreak = false := by
      rcases hmark with rfl | rfl <;> rfl
    exact textFrom?_escape hescape hbreak
  · rename_i hmark
    obtain ⟨hquote, hslash⟩ := not_or.1 hmark
    split
    · rw [List.append_assoc]
      exact textFrom?_escape (escape?_hex8 c u) rfl
    · rename_i hvisible
      have hshown := isShown_of_not_isInvisible (Bool.eq_false_iff.2 hvisible)
      have hblank : isBlank c = false := by
        simp [isBlank, isSpace, hc, hshown.ne_tab, hshown.not_break]
      simp [Quoted.textFrom?, hblank, hquote, hslash]

/-- Spaces before another character are read as they are. -/
lemma textFrom?_spaces (hu : ∀ c ∈ u.head?, isBlank c = false) (n : Nat) :
    Quoted.textFrom? '"' (fuel + 1) (List.replicate (n + 1) ' ' ++ u) =
      (Quoted.textFrom? '"' fuel u).map fun (a, b) => (List.replicate (n + 1) ' ' ++ a, b) := by
  have hspaces : ∀ c ∈ List.replicate (n + 1) ' ', isSpace c = true := by
    intro c hc
    rw [List.eq_of_mem_replicate hc]
    rfl
  have hspace : ∀ c ∈ u.head?, isSpace c = false := fun c hc => (Bool.or_eq_false_iff.1 (hu c hc)).1
  have hbreak : u.head?.any isBreak = false :=
    (Option.any_eq_false _ _).2 fun c hc => (Bool.or_eq_false_iff.1 (hu c hc)).2
  have hgap : Gap.read? 0 (List.replicate (n + 1) ' ' ++ u) =
      some (⟨List.replicate (n + 1) ' ', [], 0⟩, u) := by
    rw [Gap.read?]
    simp only [Text.takeWhile_append_of_forall hspaces hspace,
      Text.dropWhile_append_of_forall hspaces hspace, hbreak]
    rfl
  have hblank : isBlank ' ' = true := by decide
  rw [List.replicate_succ, List.cons_append] at hgap ⊢
  simp only [Quoted.textFrom?, hblank, hgap, if_true]
  rfl

/-- What is written for a character that is no space does not begin with a blank. -/
lemma isBlank_head_writeChar (hc : c ≠ ' ') :
    ∀ d ∈ (writeChar c ++ u).head?, isBlank d = false := by
  rw [writeChar]
  simp only [Bool.or_eq_true, decide_eq_true_eq]
  split
  · rintro d hd
    obtain rfl := Option.some.inj hd
    decide
  · split
    · rintro d hd
      obtain rfl := Option.some.inj hd
      decide
    · rename_i hvisible
      rintro d hd
      obtain rfl := Option.some.inj hd
      have hshown := isShown_of_not_isInvisible (Bool.eq_false_iff.2 hvisible)
      simp [isBlank, isSpace, hc, hshown.ne_tab, hshown.not_break]

lemma flatMap_writeChar_replicate (n : Nat) :
    (List.replicate n ' ').flatMap writeChar = List.replicate n ' ' := by
  have hspace : writeChar ' ' = [' '] := by decide +kernel
  induction n with
  | zero => rfl
  | succ n ih => rw [List.replicate_succ, List.flatMap_cons, ih, hspace, List.singleton_append]

/-- A text begins with spaces and goes on with another character, or ends. -/
lemma exists_replicate_append (t : Text) :
    ∃ n u, t = List.replicate n ' ' ++ u ∧ ∀ c ∈ u.head?, c ≠ ' ' := by
  induction t with
  | nil => exact ⟨0, [], rfl, by simp⟩
  | cons c t ih =>
    by_cases hc : c = ' '
    · obtain ⟨n, u, rfl, hu⟩ := ih
      exact ⟨n + 1, u, by rw [hc, List.replicate_succ, List.cons_append], hu⟩
    · exact ⟨0, c :: t, rfl, by simpa using hc⟩

/-- What is written for a text is read up to the quote that follows. -/
lemma textFrom?_flatMap_writeChar (hfuel : t.length < fuel) :
    Quoted.textFrom? '"' fuel (t.flatMap writeChar ++ '"' :: rest) = some (t, rest) := by
  -- by induction on the fuel, since the spaces in front of a character are read in one step
  induction fuel generalizing t with
  | zero => exact absurd hfuel (Nat.not_lt_zero _)
  | succ fuel ih =>
    obtain ⟨n, u, rfl, hu⟩ := exists_replicate_append t
    rw [List.length_append, List.length_replicate] at hfuel
    cases n with
    | zero =>
      rw [List.replicate_zero, List.nil_append]
      cases u with
      | nil =>
        have hquote : isBlank '"' = false := by decide
        simp [Quoted.textFrom?, hquote]
      | cons c u =>
        rw [List.length_cons] at hfuel
        rw [List.flatMap_cons, List.append_assoc, textFrom?_writeChar (hu c rfl), ih (by omega)]
        rfl
    | succ n =>
      have hhead : ∀ c ∈ (u.flatMap writeChar ++ '"' :: rest).head?, isBlank c = false := by
        cases u with
        | nil =>
          rintro c hc
          obtain rfl := Option.some.inj hc
          decide
        | cons c u =>
          rw [List.flatMap_cons, List.append_assoc]
          exact isBlank_head_writeChar (hu c rfl)
      rw [List.flatMap_append, flatMap_writeChar_replicate, List.append_assoc,
        textFrom?_spaces hhead n, ih (by omega)]
      rfl

lemma writeChar_ne_nil (c : Char) : writeChar c ≠ [] := by
  rw [writeChar]
  split
  · exact List.cons_ne_nil _ _
  · split
    · exact List.cons_ne_nil _ _
    · exact List.cons_ne_nil _ _

/-- A text in quotes is read back. -/
lemma read?_writeText (t rest : Text) : Quoted.read? (writeText t ++ rest) = some (t, rest) := by
  have hlength : t.length ≤ (t.flatMap writeChar).length := by
    induction t with
    | nil => exact Nat.le_refl 0
    | cons c t ih =>
      have hpos := List.length_pos_iff.2 (writeChar_ne_nil c)
      rw [List.flatMap_cons, List.length_append, List.length_cons]
      omega
  have hshape : writeText t ++ rest = '"' :: (t.flatMap writeChar ++ '"' :: rest) := by
    simp [writeText]
  rw [hshape, Quoted.read?]
  apply textFrom?_flatMap_writeChar
  rw [List.length_append]
  omega

lemma isShown_hexDigit (hd : n < 16) : IsShown (hexDigit n) := by
  have hascii : ∀ n < 16, 0x20 ≤ (hexDigit n).toNat ∧ (hexDigit n).toNat < 0x7F := by decide
  exact isShown_of_ascii (hascii n hd)

/-- All characters of a text in quotes show. -/
lemma isShown_of_mem_writeText (h : c ∈ writeText t) : IsShown c := by
  have hquote : IsShown '"' := isShown_of_ascii (by decide)
  have hslash : IsShown '\\' := isShown_of_ascii (by decide)
  have hchar : ∀ d, ∀ c ∈ writeChar d, IsShown c := by
    intro d c hc
    rw [writeChar] at hc
    simp only [Bool.or_eq_true, decide_eq_true_eq] at hc
    split at hc
    · rename_i hmark
      rcases List.mem_pair.1 hc with rfl | rfl
      · exact hslash
      · rcases hmark with rfl | rfl
        · exact hquote
        · exact hslash
    · split at hc
      · rcases List.mem_append.1 hc with hc | hc
        · rcases List.mem_pair.1 hc with rfl | rfl
          · exact hslash
          · exact isShown_of_ascii (by decide)
        · rw [hex8_eq] at hc
          obtain ⟨n, hn, rfl⟩ := List.mem_map.1 hc
          obtain ⟨i, -, rfl⟩ := List.mem_map.1 hn
          exact isShown_hexDigit (Nat.mod_lt _ (by decide))
      · rename_i hvisible
        obtain rfl := List.mem_singleton.1 hc
        exact isShown_of_not_isInvisible (Bool.eq_false_iff.2 hvisible)
  rcases List.mem_append.1 h with h | h
  · rcases List.mem_append.1 h with h | h
    · rw [List.mem_singleton.1 h]
      exact hquote
    · obtain ⟨d, -, hd⟩ := List.mem_flatMap.1 h
      exact hchar d c hd
  · rw [List.mem_singleton.1 h]
    exact hquote

/-! ### Words -/

/-- A small letter, a digit or a minus sign. -/
def isWordChar (c : Char) : Bool := c.isDigit || c.isLower || c == '-'

/-- A text of small letters, digits and minus signs; behind a minus sign at its start there is
another character. -/
structure IsWord (w : Text) : Prop where
  ne_nil : w ≠ []
  chars : ∀ c ∈ w, isWordChar c = true
  sign : ∀ t, w = '-' :: t → ∃ d u, t = d :: u ∧ d ≠ '-'

/-- What can stand behind a word inside brackets: one of their marks, or the colon behind a key. -/
inductive EndsWord : Text → Prop
  | mark {c : Char} {t : Text} (hc : isFlowMark c = true) : EndsWord (c :: t)
  | colon {t : Text} : EndsWord (':' :: ' ' :: t)

lemma not_mem_of_isWordChar (h : isWordChar c = true) {marks : List Char}
    (hmarks : marks.any isWordChar = false) : c ∉ marks :=
  fun hc => List.any_eq_false.1 hmarks c hc h

lemma isBlank_of_isWordChar (h : isWordChar c = true) : isBlank c = false := by
  have hblanks : c ∉ [' ', '\t', '\n', Char.ofNat 0x2028, Char.ofNat 0x2029] :=
    not_mem_of_isWordChar h (by decide)
  simp only [List.mem_cons, List.not_mem_nil, not_or] at hblanks
  simp [isBlank, isSpace, isBreak, hblanks]

lemma isFlowMark_of_isWordChar (h : isWordChar c = true) : isFlowMark c = false := by
  have hmarks : c ∉ [',', '[', ']', '{', '}'] := not_mem_of_isWordChar h (by decide)
  rw [isFlowMark]
  simpa using hmarks

lemma isBlank_of_isFlowMark (h : isFlowMark c = true) : isBlank c = false := by
  have hmarks : [',', '[', ']', '{', '}'].any isBlank = false := by decide
  exact Bool.eq_false_iff.2 (List.any_eq_false.1 hmarks c (List.contains_iff_mem.1 h))

/-- All characters of a word show. -/
lemma isShown_of_isWordChar (h : isWordChar c = true) : IsShown c := by
  apply isShown_of_ascii
  rw [isWordChar, Bool.or_eq_true, Bool.or_eq_true, beq_iff_eq] at h
  obtain (hdigit | hletter) | rfl := h
  · have hrange := toNat_of_isDigit hdigit
    omega
  · obtain ⟨hleast, hgreatest⟩ := Bool.and_eq_true_iff.1 hletter
    have hlow : 97 ≤ c.toNat := UInt32.le_iff_toNat_le.1 (of_decide_eq_true hleast)
    have hhigh : c.toNat ≤ 122 := UInt32.le_iff_toNat_le.1 (of_decide_eq_true hgreatest)
    omega
  · decide

/-- A word is taken up to its end. -/
lemma word?_append {w : Text} (hw : ∀ c ∈ w, isWordChar c = true) (hrest : EndsWord rest) :
    Plain.word? true (w ++ rest) = some (w, rest) := by
  induction w with
  | nil =>
    cases hrest with
    | mark hc => simp [Plain.word?, hc]
    | colon =>
      have hblank : isBlank ':' = false := by decide
      have hmark : isFlowMark ':' = false := by decide
      have hspace : isFlowMark ' ' = false := by decide
      have hgap : isBlank ' ' = true := by decide
      simp [Plain.word?, Plain.isColon, atGap, hblank, hmark, hspace, hgap]
  | cons c w ih =>
    obtain ⟨hc, hw⟩ := List.forall_mem_cons.1 hw
    have hcolon : c ≠ ':' := by
      rintro rfl
      cases hc
    rw [List.cons_append, Plain.word?]
    simp [isBlank_of_isWordChar hc, isFlowMark_of_isWordChar hc, Plain.isColon, hcolon, ih hw]

/-- A word is read up to its end. -/
lemma read?_word {w : Text} (hw : IsWord w) (hrest : EndsWord rest) (least : Nat) :
    Plain.read? true least (w ++ rest) = some (w, rest, false) := by
  have hblank : rest.head?.any isBlank = false := by
    cases hrest with
    | mark hc => simpa using isBlank_of_isFlowMark hc
    | colon => rfl
  rw [Plain.read?, Plain.words?, word?_append hw.chars hrest]
  simp only [Option.bind_eq_bind, Option.bind_some, hblank]
  rfl

lemma starts_word {w : Text} (hw : IsWord w) (rest : Text) : Plain.starts (w ++ rest) = true := by
  obtain ⟨c, w, rfl⟩ := List.exists_cons_of_ne_nil hw.ne_nil
  have hc := hw.chars c List.mem_cons_self
  have hmarks : c ∉ ['#', '&', '*', '!', '|', '>', '"', '\'', '%', '@', Char.ofNat 96] :=
    not_mem_of_isWordChar hc (by decide)
  rw [List.cons_append, Plain.starts, isBlank_of_isWordChar hc, isFlowMark_of_isWordChar hc]
  simpa using hmarks

/-! ### Numerals and names -/

lemma isWord_write (n : Nat) : IsWord (Decimal.write n) := by
  refine ⟨Decimal.write_ne_nil n, fun c hc => ?_, fun t ht => ?_⟩
  · rw [isWordChar, Decimal.isDigit_of_mem_write n c hc]
    rfl
  · exact absurd rfl (Decimal.ne_sign_of_mem_write n '-' (ht ▸ List.mem_cons_self)).1

/-- A whole number is written as a word. -/
lemma isWord_writeInt (n : Int) : IsWord (Decimal.writeInt n) := by
  cases n with
  | ofNat n => exact isWord_write n
  | negSucc n =>
    have hword := isWord_write (n + 1)
    refine ⟨List.cons_ne_nil _ _, fun c hc => ?_, fun t ht => ?_⟩
    · rcases List.mem_cons.1 hc with rfl | hc
      · rfl
      · exact hword.chars c hc
    · obtain ⟨-, rfl⟩ := List.cons.inj ht
      obtain ⟨d, u, hu⟩ := List.exists_cons_of_ne_nil hword.ne_nil
      exact ⟨d, u, hu, (Decimal.ne_sign_of_mem_write _ d (hu ▸ List.mem_cons_self)).1⟩

/-- The numeral of a number other than zero does not begin with a zero. -/
lemma head?_write_ne_zero (hn : 0 < n) : ∀ c ∈ (Decimal.write n).head?, c ≠ '0' := by
  induction n using Nat.strongRecOn with
  | ind n ih =>
    by_cases hlt : n < 10
    · have hdigits : ∀ n < 10, 0 < n → Decimal.digit n ≠ '0' := by decide
      rw [Decimal.write_of_lt hlt]
      rintro c hc
      obtain rfl := Option.some.inj hc
      exact hdigits n hlt hn
    · rw [Decimal.write_of_le (by omega), List.head?_append_of_ne_nil _ (Decimal.write_ne_nil _)]
      exact ih (n / 10) (by omega) (by omega)

lemma hasLeadingZero_write (n : Nat) : hasLeadingZero (Decimal.write n) = false := by
  rcases Nat.eq_zero_or_pos n with rfl | hn
  · rw [Decimal.write_of_lt (by decide)]
    rfl
  · have hhead := head?_write_ne_zero hn
    cases hwrite : Decimal.write n with
    | nil => rfl
    | cons c t =>
      rw [hwrite] at hhead
      have hc : c ≠ '0' := hhead c rfl
      unfold hasLeadingZero
      split
      · rename_i heq
        exact absurd (List.cons.inj heq).1 hc
      · rfl

/-- A text of digits is read as its value. -/
lemma foldl_digits (ht : ∀ c ∈ t, c.isDigit = true) (acc : Nat) :
    t.foldl (fun acc c => acc.bind fun n => (digitValue? 10 c).map (10 * n + ·)) (some acc) =
      some (Decimal.value acc t) := by
  induction t generalizing acc with
  | nil => rfl
  | cons c t ih =>
    obtain ⟨hc, ht⟩ := List.forall_mem_cons.1 ht
    have hdigit : digitValue? 10 c = some (c.toNat - 48) := by
      have hrange := toNat_of_isDigit hc
      rw [digitValue?]
      simp only [if_pos hrange]
      rw [if_pos (by omega)]
    rw [List.foldl_cons, Option.bind_some, hdigit, Option.map_some, ih ht]
    rfl

/-- The numeral of a natural number is read as this number. -/
lemma unsigned?_write (n : Nat) : unsigned? (Decimal.write n) = some n := by
  have hdigits := Decimal.isDigit_of_mem_write n
  have hbase : readBase? 10 (Decimal.write n) = some n := by
    rw [readBase?, if_neg (Decimal.write_ne_nil n), foldl_digits hdigits, Decimal.value_write]
  have hletter : ∀ c t, Decimal.write n = '0' :: c :: t → c.isDigit = true := by
    intro c t heq
    exact hdigits c (heq ▸ by simp)
  unfold unsigned?
  split
  · rename_i heq
    exact absurd (hletter _ _ heq) (by decide)
  · rename_i heq
    exact absurd (hletter _ _ heq) (by decide)
  · rename_i heq
    exact absurd (hletter _ _ heq) (by decide)
  · rw [hasLeadingZero_write, if_neg Bool.false_ne_true, hbase]

/-- The numeral of a whole number means this number. -/
lemma int?_writeInt (n : Int) : int? (Decimal.writeInt n) = some n := by
  cases n with
  | negSucc n =>
    change (unsigned? (Decimal.write (n + 1))).map (fun n => -(n : Int)) = some (Int.negSucc n)
    rw [unsigned?_write]
    rfl
  | ofNat n =>
    have hsign := Decimal.ne_sign_of_mem_write n
    change int? (Decimal.write n) = _
    unfold int?
    split
    · rename_i heq
      exact absurd rfl (hsign '-' (heq ▸ List.mem_cons_self)).1
    · rename_i heq
      exact absurd rfl (hsign '+' (heq ▸ List.mem_cons_self)).2
    · rw [unsigned?_write]
      rfl

/-- The numeral of a whole number has a digit. -/
lemma exists_isDigit_mem_writeInt (n : Int) : ∃ c ∈ Decimal.writeInt n, c.isDigit = true := by
  have hdigit : ∀ n, ∃ c ∈ Decimal.write n, c.isDigit = true := by
    intro n
    obtain ⟨c, hc⟩ := List.exists_mem_of_ne_nil _ (Decimal.write_ne_nil n)
    exact ⟨c, hc, Decimal.isDigit_of_mem_write n c hc⟩
  cases n with
  | ofNat n => exact hdigit n
  | negSucc n =>
    obtain ⟨c, hc, hdigit⟩ := hdigit (n + 1)
    exact ⟨c, List.mem_cons_of_mem _ hc, hdigit⟩

/-- The numeral of a number of up to 64 bits means this number. -/
lemma ofPlain?_writeInt (n : Int) (hn : fits 64 n = true) :
    Scalar.ofPlain? (Decimal.writeInt n) = some (.int n) := by
  have hnames : ∀ names : List String, names.any (·.toList.any Char.isDigit) = false →
      names.contains (Decimal.writeInt n).asString = false := by
    obtain ⟨c, hc, hdigit⟩ := exists_isDigit_mem_writeInt n
    intro names hnames
    rw [List.contains_eq_mem, decide_eq_false_iff_not]
    intro hmem
    refine List.any_eq_false.1 hnames _ hmem (List.any_eq_true.2 ⟨c, ?_, hdigit⟩)
    rwa [Text.asString, String.toList_ofList]
  have hnull : isNull (Decimal.writeInt n) = false := hnames _ (by decide)
  have hbool : bool? (Decimal.writeInt n) = none := by
    rw [bool?, hnames _ (by decide), hnames _ (by decide)]
    rfl
  rw [Scalar.ofPlain?, hnull, hbool, int?_writeInt]
  simp only [Bool.false_eq_true, if_false, hn, if_true]

/-- The scalar is written as a word: it is null, a truth value or a number of up to 64 bits. -/
inductive HasWord : Scalar → Prop
  | null : HasWord .null
  | bool (b : Bool) : HasWord (.bool b)
  | int {n : Int} (hn : fits 64 n = true) : HasWord (.int n)

lemma isWord_writeScalar {s : Scalar} (hs : HasWord s) : IsWord (writeScalar s) := by
  cases hs with
  | null => exact ⟨by decide, List.all_eq_true.1 (by decide), by rintro t ⟨⟩⟩
  | bool b => cases b <;> exact ⟨by decide, List.all_eq_true.1 (by decide), by rintro t ⟨⟩⟩
  | int => exact isWord_writeInt _

lemma ofPlain?_writeScalar {s : Scalar} (hs : HasWord s) :
    Scalar.ofPlain? (writeScalar s) = some s := by
  cases hs with
  | null => rfl
  | bool b => cases b <;> rfl
  | int hn => exact ofPlain?_writeInt _ hn

end NoteLinks.Yaml
