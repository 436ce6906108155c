import NoteLinks.Percent
import NoteLinks.Proofs.Utf8

/-!
# Reading percent-coded texts back

A text is read back from its percent-coded form, also as a component of a query
(`decode_encode`, `decodeComponent_encode`): a byte is written as a character or as an escape, and
reading either gives the byte, whatever follows (`decodeBytes_encodeByte`).  The form holds
unreserved characters and `%` only (`mem_encode`), so it can stand between `&` and `=`.
-/

namespace NoteLinks.Percent

open Utf8 (Bytes)

variable {b : UInt8} {t : Text} {c : Char}

/-! ### Hexadecimal digits -/

lemma hexDigit_spec : ∀ n < 16, (hexDigit n).toNat < 0x80 ∧ isUnreserved (hexDigit n) = true ∧
    hexValue? (UInt8.ofNat (hexDigit n).toNat) = some n := by
  decide

lemma toNat_digits (b : UInt8) : b.toNat / 16 < 16 ∧ b.toNat % 16 < 16 ∧
    UInt8.ofNat (16 * (b.toNat / 16) + b.toNat % 16) = b := by
  have hlt : b.toNat < 256 := b.toNat_lt
  refine ⟨by omega, by omega, ?_⟩
  rw [Nat.div_add_mod, UInt8.ofNat_toNat]

/-! ### Bytes -/

lemma encodeChar_of_lt (h : c.toNat < 0x80) : Utf8.encodeChar c = [UInt8.ofNat c.toNat] := by
  simp only [Utf8.encodeChar, if_pos h]

/-- A byte below 128 that is an unreserved character stands for itself, any other one is escaped. -/
lemma encodeByte_eq (b : UInt8) :
    encodeByte b =
      if b < 0x80 && isUnreserved (Char.ofNat b.toNat) then [Char.ofNat b.toNat] else escape b :=
  rfl

/-- A byte that stands for itself is below 128 and is an unreserved character. -/
lemma toNat_of_unreserved (h : (b < 0x80 && isUnreserved (Char.ofNat b.toNat)) = true) :
    (Char.ofNat b.toNat).toNat = b.toNat ∧ b.toNat < 0x80 ∧
      isUnreserved (Char.ofNat b.toNat) = true := by
  rw [Bool.and_eq_true, decide_eq_true_eq] at h
  have hlt : b.toNat < 0x80 := h.1
  exact ⟨Utf8.toNat_asciiChar hlt, hlt, h.2⟩

/-- The characters of a byte are unreserved or `%`. -/
lemma mem_encodeByte (h : c ∈ encodeByte b) : isUnreserved c = true ∨ c = '%' := by
  obtain ⟨hhigh, hlow, -⟩ := toNat_digits b
  rw [encodeByte_eq] at h
  split at h
  · rename_i hb
    rw [List.mem_singleton.1 h]
    exact Or.inl (toNat_of_unreserved hb).2.2
  · simp only [escape, List.mem_cons, List.not_mem_nil, or_false] at h
    rcases h with rfl | rfl | rfl
    · exact Or.inr rfl
    · exact Or.inl (hexDigit_spec _ hhigh).2.1
    · exact Or.inl (hexDigit_spec _ hlow).2.1

/-- A byte other than `%` stands for itself. -/
lemma decodeBytes_cons_of_ne (hb : b ≠ 0x25) (bs : Bytes) :
    decodeBytes (b :: bs) = b :: decodeBytes bs := by
  rw [decodeBytes.eq_def]
  split
  · rename_i heq
    exact absurd (List.cons.inj heq).1 hb
  · rename_i heq
    obtain ⟨rfl, rfl⟩ := List.cons.inj heq
    rfl
  · rename_i heq
    exact absurd heq (by simp)

lemma decodeBytes_escape {x y : UInt8} {high low : Nat} (hx : hexValue? x = some high)
    (hy : hexValue? y = some low) (bs : Bytes) :
    decodeBytes (0x25 :: x :: y :: bs) = UInt8.ofNat (16 * high + low) :: decodeBytes bs := by
  simp only [decodeBytes, hx, hy]

lemma encode_escape (b : UInt8) :
    Utf8.encode (escape b) = [0x25, UInt8.ofNat (hexDigit (b.toNat / 16)).toNat,
      UInt8.ofNat (hexDigit (b.toNat % 16)).toNat] := by
  obtain ⟨hhigh, hlow, -⟩ := toNat_digits b
  simp only [Utf8.encode, escape, List.flatMap_cons, List.flatMap_nil,
    encodeChar_of_lt (hexDigit_spec _ hhigh).1, encodeChar_of_lt (hexDigit_spec _ hlow).1]
  rfl

/-- An escape is read as its byte, whatever follows. -/
lemma decodeBytes_encode_escape (b : UInt8) (bs : Bytes) :
    decodeBytes (Utf8.encode (escape b) ++ bs) = b :: decodeBytes bs := by
  obtain ⟨hhigh, hlow, hdigits⟩ := toNat_digits b
  obtain ⟨-, -, hhighValue⟩ := hexDigit_spec _ hhigh
  obtain ⟨-, -, hlowValue⟩ := hexDigit_spec _ hlow
  rw [encode_escape]
  simp only [List.cons_append, List.nil_append]
  rw [decodeBytes_escape hhighValue hlowValue, hdigits]

/-- A written byte is read back, whatever follows. -/
lemma decodeBytes_encodeByte (b : UInt8) (bs : Bytes) :
    decodeBytes (Utf8.encode (encodeByte b) ++ bs) = b :: decodeBytes bs := by
  rw [encodeByte_eq]
  split
  · rename_i hb
    obtain ⟨hnat, hlt, hunreserved⟩ := toNat_of_unreserved hb
    have hpercent : b ≠ 0x25 := by
      rintro rfl
      exact absurd hunreserved (by decide)
    have hbytes : Utf8.encode [Char.ofNat b.toNat] = [b] := by
      rw [Utf8.encode, List.flatMap_singleton, encodeChar_of_lt (by omega), hnat,
        UInt8.ofNat_toNat]
    rw [hbytes, List.singleton_append, decodeBytes_cons_of_ne hpercent]
  · exact decodeBytes_encode_escape b bs

/-- Written bytes are read back. -/
lemma decodeBytes_flatMap_encodeByte (bs : Bytes) :
    decodeBytes (Utf8.encode (bs.flatMap encodeByte)) = bs := by
  induction bs with
  | nil => rfl
  | cons b bs ih =>
    rw [List.flatMap_cons, Utf8.encode_append, decodeBytes_encodeByte, ih]

/-! ### Texts -/

/-- A percent-coded text holds unreserved characters and `%` only. -/
lemma mem_encode (h : c ∈ encode t) : isUnreserved c = true ∨ c = '%' := by
  obtain ⟨b, -, hb⟩ := List.mem_flatMap.1 h
  exact mem_encodeByte hb

lemma not_mem_encode (hc : isUnreserved c = false) (hpercent : c ≠ '%') (t : Text) :
    c ∉ encode t := by
  intro h
  rcases mem_encode h with hunreserved | heq
  · rw [hc] at hunreserved
    exact absurd hunreserved (by decide)
  · exact hpercent heq

/-- A text is read back from its percent-coded form. -/
lemma decode_encode (t : Text) : decode (encode t) = t := by
  rw [decode, encode, decodeBytes_flatMap_encodeByte, Utf8.decodeLossy_encode]

lemma encode_injective : Function.Injective encode := Function.LeftInverse.injective decode_encode

/-- A text of unreserved characters and of escapes, each a `%` and two hexadecimal digits. -/
inductive IsCoded : Text → Prop
  | nil : IsCoded []
  | plain {t : Text} (c : Char) (hc : isUnreserved c = true) (ht : IsCoded t) : IsCoded (c :: t)
  | escape {t : Text} (high low : Char) (hhigh : high ∈ "0123456789ABCDEF".toList)
      (hlow : low ∈ "0123456789ABCDEF".toList) (ht : IsCoded t) : IsCoded ('%' :: high :: low :: t)

/-- A byte is written as one or the other in front of such a text. -/
lemma isCoded_encodeByte_append (b : UInt8) (ht : IsCoded t) : IsCoded (encodeByte b ++ t) := by
  have hdigit : ∀ n < 16, hexDigit n ∈ "0123456789ABCDEF".toList := by decide
  obtain ⟨hhigh, hlow, -⟩ := toNat_digits b
  rw [encodeByte_eq]
  split
  · rename_i hb
    exact .plain _ (toNat_of_unreserved hb).2.2 ht
  · exact .escape _ _ (hdigit _ hhigh) (hdigit _ hlow) ht

/-- A text is coded in unreserved characters and escapes. -/
lemma isCoded_encode (t : Text) : IsCoded (encode t) := by
  rw [encode]
  induction Utf8.encode t with
  | nil => exact .nil
  | cons b bs ih =>
    rw [List.flatMap_cons]
    exact isCoded_encodeByte_append b ih

lemma plusToSpace_eq_self (h : '+' ∉ t) : plusToSpace t = t := by
  have hid : ∀ c ∈ t, (if c = '+' then ' ' else c) = c := by
    intro c hc
    have hne : c ≠ '+' := fun heq => h (heq ▸ hc)
    exact if_neg hne
  rw [plusToSpace, List.map_congr_left hid, List.map_id']

lemma plusToSpace_encode (t : Text) : plusToSpace (encode t) = encode t :=
  plusToSpace_eq_self (not_mem_encode (by decide) (by decide) t)

lemma decodeComponent_encode (t : Text) : decodeComponent (encode t) = t := by
  rw [decodeComponent, plusToSpace_encode, decode_encode]

lemma decodeBytes_eq_self {bs : Bytes} (h : 0x25 ∉ bs) : decodeBytes bs = bs := by
  induction bs with
  | nil => rfl
  | cons b bs ih =>
    obtain ⟨hb, hbs⟩ := not_or.1 (mt List.mem_cons.2 h)
    rw [decodeBytes_cons_of_ne (Ne.symm hb), ih hbs]

/-- A text without `%` and `+` stands for itself in a query. -/
lemma decodeComponent_eq_self (hpercent : '%' ∉ t) (hplus : '+' ∉ t) : decodeComponent t = t := by
  have hbytes : 0x25 ∉ Utf8.encode t := by
    intro hmem
    obtain ⟨c, hc, hb⟩ := List.mem_flatMap.1 hmem
    by_cases hlt : c.toNat < 0x80
    · rw [encodeChar_of_lt hlt, List.mem_singleton] at hb
      have hcode : c.toNat = 0x25 := by
        rw [← Utf8.toNat_ofNat (Nat.lt_trans hlt (by decide)), ← hb]
        rfl
      have hchar : c = '%' := Char.toNat_inj.1 hcode
      exact hpercent (hchar ▸ hc)
    · exact absurd (Utf8.le_of_mem_encodeChar (Nat.le_of_not_lt hlt) hb) (by decide)
  rw [decodeComponent, plusToSpace_eq_self hplus, decode, decodeBytes_eq_self hbytes,
    Utf8.decodeLossy_encode]

/-! ### Escapes that need not be there

Escaping bytes that no escape consists of does not change what bytes are read as, also where a `%`
without its digits stands before them. -/

/-- Bytes in which some that are neither `%` nor a digit were escaped. -/
inductive Respelled : Bytes → Bytes → Prop
  | nil : Respelled [] []
  | kept (b : UInt8) {bs bs' : Bytes} (h : Respelled bs bs') : Respelled (b :: bs) (b :: bs')
  | escaped {b : UInt8} {bs bs' : Bytes} (hpercent : b ≠ 0x25) (hdigit : hexValue? b = none)
      (h : Respelled bs bs') : Respelled (b :: bs) (Utf8.encode (escape b) ++ bs')

namespace Respelled

variable {bs bs' cs cs' : Bytes} {a : UInt8}

lemma refl (bs : Bytes) : Respelled bs bs := by
  induction bs with
  | nil => exact .nil
  | cons b bs ih => exact .kept b ih

lemma append (h : Respelled bs bs') (hcs : Respelled cs cs') :
    Respelled (bs ++ cs) (bs' ++ cs') := by
  induction h with
  | nil => exact hcs
  | kept b _ ih => exact .kept b ih
  | escaped hpercent hdigit _ ih =>
    rw [List.append_assoc]
    exact .escaped hpercent hdigit ih

end Respelled

lemma decodeBytes_percent (hx : hexValue? b = none) (bs : Bytes) :
    decodeBytes (0x25 :: b :: bs) = 0x25 :: decodeBytes (b :: bs) := by
  cases bs with
  | nil => rfl
  | cons y bs => simp only [decodeBytes, hx]

lemma decodeBytes_percent_digit {x : UInt8} {high : Nat} (hx : hexValue? x = some high)
    (hb : hexValue? b = none) (bs : Bytes) :
    decodeBytes (0x25 :: x :: b :: bs) = 0x25 :: x :: decodeBytes (b :: bs) := by
  simp only [decodeBytes, hx, hb]

/-- Respelled bytes end where the bytes do, or both begin with bytes that are no digits, or both
begin with the same digit. -/
lemma Respelled.head {bs bs' : Bytes} (h : Respelled bs bs') :
    (bs = [] ∧ bs' = []) ∨
      (∃ x y cs cs', bs = x :: cs ∧ bs' = y :: cs' ∧ hexValue? x = none ∧ hexValue? y = none) ∨
      ∃ x n cs cs', bs = x :: cs ∧ bs' = x :: cs' ∧ hexValue? x = some n ∧ Respelled cs cs' := by
  cases h with
  | nil => exact Or.inl ⟨rfl, rfl⟩
  | kept b h =>
    cases hb : hexValue? b with
    | none => exact Or.inr (Or.inl ⟨b, b, _, _, rfl, rfl, hb, hb⟩)
    | some n => exact Or.inr (Or.inr ⟨b, n, _, _, rfl, rfl, hb, h⟩)
  | @escaped b _ cs _ hdigit h =>
    have hsign : Utf8.encode (escape b) ++ cs = 0x25 :: ((Utf8.encode (escape b)).tail ++ cs) := by
      rw [encode_escape]
      rfl
    exact Or.inr (Or.inl ⟨b, 0x25, _, _, rfl, hsign, hdigit, by decide⟩)

/-- Respelled bytes are read as before. -/
lemma decodeBytes_respelled {bs bs' : Bytes} (h : Respelled bs bs') :
    decodeBytes bs' = decodeBytes bs := by
  -- up to two bytes after a `%` belong to it, so the claim is needed for the tail behind them
  induction hn : bs.length using Nat.strongRecOn generalizing bs bs' with
  | ind n ih =>
    have htail : ∀ {cs cs' : Bytes}, Respelled cs cs' → cs.length < n →
        decodeBytes cs' = decodeBytes cs := fun hcs hlt => ih _ hlt hcs rfl
    cases h with
    | nil => rfl
    | escaped hpercent _ hbs =>
      rw [decodeBytes_encode_escape, decodeBytes_cons_of_ne hpercent, htail hbs (by simp [← hn])]
    | @kept b bs bs' hbs =>
      have hread := htail hbs (by simp [← hn])
      by_cases hb : b = 0x25
      · subst hb
        rcases hbs.head with ⟨rfl, rfl⟩ | ⟨x, y, cs, cs', rfl, rfl, hx, hy⟩ |
          ⟨x, high, cs, cs', rfl, rfl, hx, hcs⟩
        · rfl
        · rw [decodeBytes_percent hx, decodeBytes_percent hy, hread]
        · have hread := htail hcs (by rw [← hn, List.length_cons, List.length_cons]; omega)
          rcases hcs.head with ⟨rfl, rfl⟩ | ⟨y, z, ds, ds', rfl, rfl, hy, hz⟩ |
            ⟨y, low, ds, ds', rfl, rfl, hy, hds⟩
          · rfl
          · rw [decodeBytes_percent_digit hx hy, decodeBytes_percent_digit hx hz, hread]
          · rw [decodeBytes_escape hx hy, decodeBytes_escape hx hy,
              htail hds (by simp [← hn]; omega)]
      · rw [decodeBytes_cons_of_ne hb, decodeBytes_cons_of_ne hb, hread]

end NoteLinks.Percent
