import Mathlib.Tactic.Common
import NoteLinks.Csv
import NoteLinks.Proofs.Utf8

/-!
# Reading delimited text back

Written rows are read back (`fields_rows_write`), if the delimiter is a separator: a byte that
neither quotes a field nor ends a row.  What is asked of a spelling of a field is stated once
(`Spells`): it is read up to the byte behind it, and that byte says whether the row goes on.  A
field in quotes is read up to its closing quote and then like a bare one
(`quotedField_doubleQuotes`), so both spellings of a written field will do (`spells_writeField`).

From spellings of its fields a row is read (`readRow_intercalate`), and so the first row of a table
(`rowsFrom_intercalate`).  Bytes that end a row are passed over in front of it, so what is written
must have a byte; a row of at least two fields has the delimiter.
-/

namespace NoteLinks.Csv

open Utf8 (Bytes)

/-- A byte that can stand between the fields of a row: it opens no quoted field and ends no row. -/
def IsSeparator (d : UInt8) : Prop := d ≠ quote ∧ endsRow d = false

instance (d : UInt8) : Decidable (IsSeparator d) := by
  unfold IsSeparator
  infer_instance

variable {d b : UInt8} {f raw content rest lead : Bytes} {fields raws : List Bytes}
  {table : List (List Bytes)}

/-! ### Fields -/

/-- The byte ends a field: it is the delimiter or ends the row. -/
def EndsField (d b : UInt8) : Prop := b = d ∨ endsRow b = true

instance (d b : UInt8) : Decidable (EndsField d b) := by
  unfold EndsField
  infer_instance

/-- Where fields are separated, no quote ends a field. -/
lemma EndsField.ne_quote (hd : IsSeparator d) (h : EndsField d b) : b ≠ quote := by
  rintro rfl
  rcases h with h | h
  · exact hd.1 h.symm
  · exact absurd h (by decide)

lemma IsSeparator.ne_of_endsRow (hd : IsSeparator d) (hb : endsRow b = true) : b ≠ d := by
  rintro rfl
  exact absurd hd.2 (by simp [hb])

/-- The bytes are a spelling of a field: they are read as the field, up to the byte behind them that
ends it, and do not end the row before. -/
structure Spells (d : UInt8) (raw content : Bytes) : Prop where
  head : ∀ b ∈ raw.head?, endsRow b = false
  read : ∀ rest : Bytes, (∀ b ∈ rest.head?, EndsField d b) →
    readField d (raw ++ rest) = ⟨content, decide (rest.head? = some d), rest.tail⟩

/-- A bare field is read up to the byte that ends it. -/
lemma bareField_append (hf : ∀ x ∈ f, ¬ EndsField d x) (hrest : ∀ b ∈ rest.head?, EndsField d b) :
    bareField d (f ++ rest) = ⟨f, decide (rest.head? = some d), rest.tail⟩ := by
  induction f with
  | nil =>
    cases rest with
    | nil => rfl
    | cons b rest =>
      rw [List.nil_append, bareField]
      by_cases hdelimiter : b = d
      · have heq : (b :: rest).head? = some d := congrArg some hdelimiter
        rw [if_pos hdelimiter, decide_eq_true heq]
        rfl
      · have hne : (b :: rest).head? ≠ some d := fun h => hdelimiter (Option.some.inj h)
        rw [if_neg hdelimiter, if_pos ((hrest b rfl).resolve_left hdelimiter),
          decide_eq_false hne]
        rfl
  | cons x f ih =>
    obtain ⟨hx, hf⟩ := List.forall_mem_cons.1 hf
    obtain ⟨hdelimiter, hrow⟩ := not_or.1 hx
    rw [List.cons_append, bareField, if_neg hdelimiter, if_neg hrow, ih hf]
    rfl

lemma quotedField_cons (hb : b ≠ quote) (hne : rest ≠ []) :
    quotedField d (b :: rest) = (quotedField d rest).cons b := by
  obtain ⟨c, rest, rfl⟩ := List.exists_cons_of_ne_nil hne
  rw [quotedField, if_neg hb]

/-- A field in quotes is read up to its closing quote, and then like a bare one. -/
lemma quotedField_doubleQuotes (hrest : ∀ b ∈ rest.head?, b ≠ quote) (f : Bytes) :
    quotedField d (doubleQuotes f ++ quote :: rest) =
      { bareField d rest with content := f ++ (bareField d rest).content } := by
  induction f with
  | nil =>
    rw [doubleQuotes, List.flatMap_nil, List.nil_append, List.nil_append]
    cases rest with
    | nil => rfl
    | cons b rest => rw [quotedField, if_pos rfl, if_neg (hrest b rfl)]
  | cons x f ih =>
    -- only quotes are doubled, and two of them are read as one
    by_cases hx : x = quote
    · subst hx
      have happend : doubleQuotes (quote :: f) ++ quote :: rest =
          quote :: quote :: (doubleQuotes f ++ quote :: rest) := by
        simp [doubleQuotes]
      rw [happend, quotedField, if_pos rfl, if_pos rfl, ih]
      rfl
    · have happend : doubleQuotes (x :: f) ++ quote :: rest =
          x :: (doubleQuotes f ++ quote :: rest) := by
        simp [doubleQuotes, hx]
      rw [happend, quotedField_cons hx (by simp), ih]
      rfl

/-- The bytes may stand outside quotes: none of them ends a field, and a quote is not the first. -/
structure IsBare (d : UInt8) (f : Bytes) : Prop where
  plain : ∀ x ∈ f, ¬ EndsField d x
  head : ∀ x ∈ f.head?, x ≠ quote

instance (d : UInt8) (f : Bytes) : Decidable (IsBare d f) :=
  have : Decidable (∀ x ∈ f, ¬ EndsField d x) := List.decidableBAll _ f
  decidable_of_iff ((∀ x ∈ f, ¬ EndsField d x) ∧ f.head? ≠ some quote)
    ⟨fun h => ⟨h.1, fun _ hx heq => h.2 (heq ▸ hx)⟩, fun h => ⟨h.plain, fun hx => h.head _ hx rfl⟩⟩

lemma IsBare.head_append (hd : IsSeparator d) (hf : IsBare d f)
    (hrest : ∀ b ∈ rest.head?, EndsField d b) : ∀ x ∈ (f ++ rest).head?, x ≠ quote := by
  cases f with
  | nil =>
    intro x hx
    exact (hrest x hx).ne_quote hd
  | cons y f => exact hf.head

/-- Bytes that may stand outside quotes are a spelling of themselves. -/
lemma IsBare.spells (hd : IsSeparator d) (hf : IsBare d f) : Spells d f f where
  head b hb := by
    have hplain := hf.plain b (List.mem_of_head? hb)
    simpa using (not_or.1 hplain).2
  read rest hrest := by
    have hbare := bareField_append hf.plain hrest
    have hhead := hf.head_append hd hrest
    cases hbytes : f ++ rest with
    | nil =>
      obtain ⟨rfl, rfl⟩ := List.append_eq_nil_iff.1 hbytes
      rfl
    | cons x bs =>
      rw [hbytes] at hbare hhead
      rw [readField, if_neg (hhead x rfl), hbare]

/-- Any bytes in quotes, with bare ones behind the closing quote, are a spelling of a field. -/
lemma spells_quoted (hd : IsSeparator d) {g : Bytes} (hg : IsBare d g) (f : Bytes) :
    Spells d (quote :: (doubleQuotes f ++ quote :: g)) (f ++ g) where
  head b hb := by
    obtain rfl : quote = b := by simpa using hb
    decide
  read rest hrest := by
    have hquoted := quotedField_doubleQuotes (d := d) (hg.head_append hd hrest) f
    rw [List.cons_append, List.append_assoc, List.cons_append, readField, if_pos rfl, hquoted,
      bareField_append hg.plain hrest]

lemma isBare_nil (d : UInt8) : IsBare d [] := ⟨by simp, by simp⟩

/-- A written field is a spelling of the field. -/
lemma spells_writeField (hd : IsSeparator d) (f : Bytes) : Spells d (writeField d f) f := by
  by_cases hquotes : needsQuotes d f = true
  · have hspells := spells_quoted hd (isBare_nil d) f
    rw [List.append_nil] at hspells
    rwa [writeField, if_pos hquotes]
  · have hf : ∀ x ∈ f, ¬ EndsField d x ∧ x ≠ quote := by
      simp only [needsQuotes, List.any_eq_true, Bool.or_eq_true, beq_iff_eq, not_exists, not_and,
        not_or] at hquotes
      intro x hx
      obtain ⟨⟨hdelimiter, hquote⟩, hrow⟩ := hquotes x hx
      exact ⟨not_or.2 ⟨hdelimiter, hrow⟩, hquote⟩
    have hbare : IsBare d f :=
      ⟨fun x hx => (hf x hx).1, fun x hx => (hf x (List.mem_of_head? hx)).2⟩
    rw [writeField, if_neg hquotes]
    exact hbare.spells hd

/-! ### Rows -/

lemma intercalate_singleton (d : UInt8) (raw : Bytes) : List.intercalate [d] [raw] = raw := by
  simp [List.intercalate]

lemma intercalate_cons_cons (d : UInt8) (raw raw' : Bytes) (raws : List Bytes) :
    List.intercalate [d] (raw :: raw' :: raws) =
      raw ++ d :: List.intercalate [d] (raw' :: raws) := by
  simp [List.intercalate]

/-- The bytes of a row are the delimiter and those of its fields. -/
lemma mem_intercalate (h : b ∈ List.intercalate [d] raws) : b = d ∨ ∃ raw ∈ raws, b ∈ raw := by
  induction raws with
  | nil => simp [List.intercalate] at h
  | cons raw raws ih =>
    cases raws with
    | nil =>
      rw [intercalate_singleton] at h
      exact Or.inr ⟨raw, List.mem_cons_self, h⟩
    | cons raw' raws =>
      rw [intercalate_cons_cons, List.mem_append, List.mem_cons] at h
      rcases h with h | h | h
      · exact Or.inr ⟨raw, List.mem_cons_self, h⟩
      · exact Or.inl h
      · exact (ih h).imp_right fun ⟨other, hmem, hb⟩ => ⟨other, List.mem_cons_of_mem _ hmem, hb⟩

/-- A row is read from spellings of its fields, up to a byte that ends it. -/
lemma readRow_intercalate (hd : IsSeparator d) (hne : raws ≠ [])
    (hspells : List.Forall₂ (Spells d) raws fields) (hrest : ∀ b ∈ rest.head?, endsRow b = true) :
    readRow d (List.intercalate [d] raws ++ rest) = (fields, rest.tail) := by
  induction hspells with
  | nil => exact absurd rfl hne
  | @cons raw f raws fields hraw hraws ih =>
    cases hraws with
    | nil =>
      have hlast : rest.head? ≠ some d := fun h => hd.ne_of_endsRow (hrest d h) rfl
      have hfield := hraw.read rest fun b hb => Or.inr (hrest b hb)
      rw [decide_eq_false hlast] at hfield
      rw [intercalate_singleton, readRow, hfield]
      rfl
    | @cons raw' g raws fields hraw' hraws =>
      have hrow := ih (List.cons_ne_nil _ _)
      have hfield := hraw.read (d :: (List.intercalate [d] (raw' :: raws) ++ rest))
        fun b hb => Or.inl (Option.some.inj hb).symm
      rw [List.head?_cons, decide_eq_true rfl, List.tail_cons] at hfield
      rw [intercalate_cons_cons, List.append_assoc, List.cons_append, readRow, hfield]
      simp only [dif_pos, hrow]

/-- A row does not begin with a byte that ends a row. -/
lemma head_intercalate (hd : IsSeparator d) (hspells : List.Forall₂ (Spells d) raws fields) :
    ∀ b ∈ (List.intercalate [d] raws).head?, endsRow b = false := by
  cases hspells with
  | nil => simp [List.intercalate]
  | @cons raw f raws fields hraw hraws =>
    cases hraws with
    | nil =>
      rw [intercalate_singleton]
      exact hraw.head
    | @cons raw' g raws fields hraw' hraws =>
      rw [intercalate_cons_cons]
      cases raw with
      | nil =>
        rintro b ⟨⟩
        exact hd.2
      | cons x raw => exact hraw.head

/-- Fewer than two spellings may be without a byte. -/
lemma intercalate_ne_nil (h : 2 ≤ raws.length) : List.intercalate [d] raws ≠ [] := by
  match raws, h with
  | raw :: raw' :: raws, _ =>
    rw [intercalate_cons_cons]
    simp

/-! ### Tables -/

/-- Behind bytes that end rows the first row is read where the reader stood in front of them.  The
reader goes on behind the first byte that ends the row. -/
lemma rowsFrom_intercalate (hd : IsSeparator d) (hlead : ∀ b ∈ lead, endsRow b = true)
    (hspells : List.Forall₂ (Spells d) raws fields) (hne : List.intercalate [d] raws ≠ [])
    (hrest : ∀ b ∈ rest.head?, endsRow b = true) (p : Position) :
    rowsFrom d p (lead ++ (List.intercalate [d] raws ++ rest)) =
      ⟨p, fields⟩ ::
        rowsFrom d (p.advance (lead ++ (List.intercalate [d] raws ++ rest.take 1))) rest.tail := by
  have hraws : raws ≠ [] := by
    rintro rfl
    exact hne rfl
  have hdrop : (lead ++ (List.intercalate [d] raws ++ rest)).dropWhile endsRow =
      List.intercalate [d] raws ++ rest := by
    obtain ⟨b, row, hrow⟩ := List.exists_cons_of_ne_nil hne
    have hb : ¬ endsRow b = true := by
      have hhead := head_intercalate hd hspells
      rw [hrow] at hhead
      simp [hhead b rfl]
    rw [List.dropWhile_append_of_pos hlead, hrow, List.cons_append,
      List.dropWhile_cons_of_neg hb]
  have hnil : ¬ (lead ++ (List.intercalate [d] raws ++ rest)).dropWhile endsRow = [] := by
    rw [hdrop]
    intro h
    exact hne (List.append_eq_nil_iff.1 h).1
  -- the bytes in front of what is left to read
  have htake : (lead ++ (List.intercalate [d] raws ++ rest)).take
      ((lead ++ (List.intercalate [d] raws ++ rest)).length - rest.tail.length) =
        lead ++ (List.intercalate [d] raws ++ rest.take 1) := by
    have hsplit : lead ++ (List.intercalate [d] raws ++ rest) =
        lead ++ (List.intercalate [d] raws ++ rest.take 1) ++ rest.tail := by
      rw [List.append_assoc, List.append_assoc, ← List.drop_one, List.take_append_drop]
    rw [hsplit, List.length_append, Nat.add_sub_cancel, List.take_left]
  rw [rowsFrom, dif_neg hnil, hdrop, readRow_intercalate hd hraws hspells hrest, htake]

lemma rowsFrom_of_forall (hlead : ∀ b ∈ lead, endsRow b = true) (p : Position) :
    rowsFrom d p lead = [] := by
  have hnil : lead.dropWhile endsRow = [] := by
    rw [← List.append_nil lead, List.dropWhile_append_of_pos hlead, List.dropWhile_nil]
  rw [rowsFrom, dif_pos hnil]

lemma forall₂_spells_writeField (hd : IsSeparator d) (fields : List Bytes) :
    List.Forall₂ (Spells d) (fields.map (writeField d)) fields := by
  induction fields with
  | nil => exact .nil
  | cons f fields ih => exact .cons (spells_writeField hd f) ih

lemma writeField_prefix_write {g : Bytes} :
    writeField d f <+: write d ((f :: g :: fields) :: table) := by
  rw [write, List.flatMap_cons, writeRow, List.map_cons, List.map_cons, intercalate_cons_cons,
    List.append_assoc, List.append_assoc]
  exact List.prefix_append _ _

/-- Written rows are read back from any position. -/
lemma fields_rowsFrom_write (hd : IsSeparator d) (h : ∀ fields ∈ table, 2 ≤ fields.length)
    (p : Position) : (rowsFrom d p (write d table)).map Row.fields = table := by
  induction table generalizing p with
  | nil => rw [write, List.flatMap_nil, rowsFrom_of_forall (by simp), List.map_nil]
  | cons fields table ih =>
    obtain ⟨hfields, htable⟩ := List.forall_mem_cons.1 h
    have hne : List.intercalate [d] (fields.map (writeField d)) ≠ [] :=
      intercalate_ne_nil (by rwa [List.length_map])
    have hbreak : ∀ b ∈ (lineFeed :: write d table).head?, endsRow b = true := by
      rintro b ⟨⟩
      decide
    have hlead : ∀ b ∈ ([] : Bytes), endsRow b = true := by simp
    have hrow := rowsFrom_intercalate hd hlead (forall₂_spells_writeField hd fields) hne hbreak p
    have hwrite : write d (fields :: table) =
        [] ++ (List.intercalate [d] (fields.map (writeField d)) ++ lineFeed :: write d table) := by
      simp [write, writeRow]
    rw [hwrite, hrow, List.map_cons, List.tail_cons, ih htable]

/-- Written rows are read back, unless they begin with a byte order mark. -/
lemma fields_rows_write (hd : IsSeparator d) (h : ∀ fields ∈ table, 2 ≤ fields.length)
    (hmark : byteOrderMark.isPrefixOf? (write d table) = none) :
    (rows d (write d table)).map Row.fields = table := by
  rw [rows, hmark]
  exact fields_rowsFrom_write hd h _

/-! ### Texts of fields -/

/-- Fields that were written from texts are read as these texts. -/
lemma texts_encode (ts : List Text) : texts (ts.map Utf8.encode) = .ok ts := by
  have hfrom : ∀ n, textsFrom n (ts.map Utf8.encode) = .ok ts := by
    induction ts with
    | nil => exact fun _ => rfl
    | cons t ts ih =>
      intro n
      rw [List.map_cons, textsFrom, Utf8.decode?_encode, ih]
      rfl
  exact hfrom 0

end NoteLinks.Csv
