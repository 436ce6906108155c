import Mathlib.Data.List.Basic
import NoteLinks.Proofs.DelimitedText

/-!
# Texts of tables

A table can be written in many ways: each cell bare or in quotes, each row on a line of its own or
with blank lines in front of it, each line ended by a line feed or by a carriage return and a line
feed.  A `TableText` is one of these ways.

Reading finds the rows of the text with the texts of their cells (`TableText.rows_raw`).  The line
of a row is the one on which the reader stands before it (`placedFrom`).  It has passed the first
byte of the line break that ends the row before, and none of what follows this byte: so it misses
the line feed behind a carriage return, and every blank line (`TableText.placedFrom_records`).

A text whose cells hold no line feed and no byte order mark has neither but for its line breaks
(`RowText.count_raw`, `TableText.withoutMark_raw`).
-/

namespace NoteLinks.Csv

open Utf8 (Bytes)

variable {d : UInt8}

/-! ### Cells and rows -/

/-- A text that may stand outside quotes. -/
structure BareText (d : UInt8) where
  text : Text
  isBare : IsBare d (Utf8.encode text)

/-- A cell in one of its spellings.  What stands behind the closing quote belongs to the cell. -/
inductive CellText (d : UInt8) where
  | bare (written : BareText d)
  | quoted (t : Text) (behind : BareText d)

def CellText.text : CellText d → Text
  | .bare written => written.text
  | .quoted t behind => t ++ behind.text

def CellText.raw : CellText d → Bytes
  | .bare written => Utf8.encode written.text
  | .quoted t behind => quote :: (doubleQuotes (Utf8.encode t) ++ quote :: Utf8.encode behind.text)

/-- A cell is read as its text. -/
lemma CellText.spells (hd : IsSeparator d) (c : CellText d) :
    Spells d c.raw (Utf8.encode c.text) := by
  cases c with
  | bare written => exact written.isBare.spells hd
  | quoted t behind =>
    rw [CellText.text, Utf8.encode_append]
    exact spells_quoted hd behind.isBare _

/-- A cell in its shortest spelling: in quotes if it cannot stand outside them. -/
def CellText.ofText (d : UInt8) (t : Text) : CellText d :=
  if h : IsBare d (Utf8.encode t) then .bare ⟨t, h⟩ else .quoted t ⟨[], isBare_nil d⟩

/-- A row that is written with at least one byte, and so is no blank line. -/
structure RowText (d : UInt8) where
  cells : List (CellText d)
  ne_nil : List.intercalate [d] (cells.map CellText.raw) ≠ []

namespace RowText

variable (r : RowText d)

def raw : Bytes := List.intercalate [d] (r.cells.map CellText.raw)

def texts : List Text := r.cells.map CellText.text

def fields : List Bytes := r.texts.map Utf8.encode

/-- A row of at least two texts in their shortest spellings. -/
def ofTexts (d : UInt8) (ts : List Text) (h : 2 ≤ ts.length) : RowText d where
  cells := ts.map (CellText.ofText d)
  ne_nil := intercalate_ne_nil (by simpa using h)

lemma forall₂_spells (hd : IsSeparator d) :
    List.Forall₂ (Spells d) (r.cells.map CellText.raw) r.fields := by
  rw [fields, texts, List.map_map]
  induction r.cells with
  | nil => exact .nil
  | cons c cells ih => exact .cons (c.spells hd) ih

end RowText

/-! ### Line breaks -/

/-- A line break. -/
inductive LineBreak where
  | lineFeed
  /-- A carriage return and a line feed. -/
  | pair
deriving DecidableEq, Repr

/-- The byte with which a line break begins, and which ends a row. -/
def LineBreak.first : LineBreak → UInt8
  | .lineFeed => Csv.lineFeed
  | .pair => carriageReturn

/-- The bytes of a line break behind the first one. -/
def LineBreak.more : LineBreak → Bytes
  | .lineFeed => []
  | .pair => [Csv.lineFeed]

def LineBreak.raw (e : LineBreak) : Bytes := e.first :: e.more

def blankLines (es : List LineBreak) : Bytes := es.flatMap LineBreak.raw

/-- What stands between two rows: the line break of the first one, and blank lines. -/
structure Gap where
  lineBreak : LineBreak
  blank : List LineBreak
deriving DecidableEq, Repr

namespace Gap

variable (g : Gap)

/-- The bytes behind the one that ends the row. -/
def more : Bytes := g.lineBreak.more ++ blankLines g.blank

def raw : Bytes := g.lineBreak.first :: g.more

/-- The number of line feeds behind the byte that ends the row. -/
def missed : Nat := (if g.lineBreak = .pair then 1 else 0) + g.blank.length

end Gap

lemma LineBreak.endsRow_of_mem_raw {e : LineBreak} {b : UInt8} (hb : b ∈ e.raw) :
    endsRow b = true := by
  cases e with
  | lineFeed =>
    obtain rfl : b = Csv.lineFeed := by simpa [raw, first, more] using hb
    decide
  | pair =>
    obtain rfl | rfl : b = carriageReturn ∨ b = Csv.lineFeed := by
      simpa [raw, first, more] using hb
    · decide
    · decide

lemma LineBreak.count_raw (e : LineBreak) : e.raw.count Csv.lineFeed = 1 := by
  cases e <;> rfl

lemma endsRow_of_mem_blankLines {es : List LineBreak} : ∀ b ∈ blankLines es, endsRow b = true := by
  intro b hb
  obtain ⟨e, -, hb⟩ := List.mem_flatMap.1 hb
  exact e.endsRow_of_mem_raw hb

lemma count_blankLines (es : List LineBreak) : (blankLines es).count lineFeed = es.length := by
  induction es with
  | nil => rfl
  | cons e es ih =>
    rw [blankLines, List.flatMap_cons, List.count_append, e.count_raw]
    exact (congrArg (1 + ·) ih).trans (Nat.add_comm _ _)

lemma Gap.endsRow_first (g : Gap) : endsRow g.lineBreak.first = true :=
  g.lineBreak.endsRow_of_mem_raw List.mem_cons_self

lemma Gap.endsRow_of_mem_more (g : Gap) : ∀ b ∈ g.more, endsRow b = true := by
  intro b hb
  rcases List.mem_append.1 hb with hb | hb
  · exact g.lineBreak.endsRow_of_mem_raw (List.mem_cons_of_mem _ hb)
  · exact endsRow_of_mem_blankLines b hb

lemma Gap.count_more (g : Gap) : g.more.count lineFeed = g.missed := by
  obtain ⟨lineBreak, blank⟩ := g
  rw [more, missed, List.count_append, count_blankLines]
  cases lineBreak <;> rfl

/-- Nothing is missed exactly in a line feed without blank lines. -/
lemma Gap.missed_eq_zero_iff (g : Gap) : g.missed = 0 ↔ g = ⟨.lineFeed, []⟩ := by
  obtain ⟨lineBreak, blank⟩ := g
  cases lineBreak <;> simp [missed]

/-! ### Tables -/

/-- A table in one of its written forms: blank lines, the header, the other rows, each with what
stands in front of it, and what stands behind the last row. -/
structure TableText (d : UInt8) where
  blank : List LineBreak
  header : RowText d
  records : List (Gap × RowText d)
  ending : List LineBreak

/-- The bytes of rows with what stands in front of each. -/
def rawRecords (records : List (Gap × RowText d)) : Bytes :=
  records.flatMap fun p => p.1.raw ++ p.2.raw

/-- Rows with the numbers of the lines on which a reader stands before it goes on to read them.  It
has passed the first byte behind the row before, which ends on a given line. -/
def placedFrom (line : Nat) : List (Gap × RowText d) → List (Nat × RowText d)
  | [] => []
  | (g, r) :: records =>
    (line + [g.lineBreak.first].count lineFeed, r) ::
      placedFrom (line + g.raw.count lineFeed + r.raw.count lineFeed) records

namespace TableText

variable (x : TableText d)

def raw : Bytes :=
  blankLines x.blank ++ (x.header.raw ++ (rawRecords x.records ++ blankLines x.ending))

/-- The number of the line on which the header ends. -/
def headerEnd : Nat := 1 + x.blank.length + x.header.raw.count lineFeed

/-- The number of the line on which a row begins, given the rows before it and what stands between
the last of them and the row: the line feeds in front of the row are counted. -/
def startLine (before : List (Gap × RowText d)) (g : Gap) : Nat :=
  1 + (blankLines x.blank ++ (x.header.raw ++ (rawRecords before ++ g.raw))).count lineFeed

end TableText

/-- The rows of a table are found, with the lines on which the reader stands before them. -/
lemma rowsFrom_rawRecords (hd : IsSeparator d) {lead : Bytes}
    (hlead : ∀ b ∈ lead, endsRow b = true) (r : RowText d) (records : List (Gap × RowText d))
    (ending : List LineBreak) (p : Position) :
    (rowsFrom d p (lead ++ (r.raw ++ (rawRecords records ++ blankLines ending)))).map
        (fun row => (row.position.line, row.fields)) =
      (p.line, r.fields) ::
        (placedFrom (p.line + lead.count lineFeed + r.raw.count lineFeed) records).map
          fun q => (q.1, q.2.fields) := by
  -- by induction on the rows that follow; the next one takes the place of the first, so all that
  -- is in front of it varies
  induction records generalizing lead r p with
  | nil =>
    have hrest : ∀ b ∈ blankLines ending, endsRow b = true := endsRow_of_mem_blankLines
    have hrow := rowsFrom_intercalate hd hlead (r.forall₂_spells hd) r.ne_nil
      (fun b hb => hrest b (List.mem_of_head? hb)) p
    have htail : ∀ b ∈ (blankLines ending).tail, endsRow b = true :=
      fun b hb => hrest b (List.mem_of_mem_tail hb)
    rw [rawRecords, List.flatMap_nil, List.nil_append, RowText.raw, hrow,
      rowsFrom_of_forall htail]
    rfl
  | cons q records ih =>
    obtain ⟨g, next⟩ := q
    have hraw : rawRecords ((g, next) :: records) ++ blankLines ending =
        g.lineBreak.first ::
          (g.more ++ (next.raw ++ (rawRecords records ++ blankLines ending))) := by
      simp [rawRecords, Gap.raw]
    have hrest : ∀ b ∈ (rawRecords ((g, next) :: records) ++ blankLines ending).head?,
        endsRow b = true := by
      rw [hraw]
      rintro b ⟨⟩
      exact g.endsRow_first
    have hrow := rowsFrom_intercalate hd hlead (r.forall₂_spells hd) r.ne_nil hrest p
    rw [hraw, List.tail_cons, List.take_succ_cons, List.take_zero] at hrow
    rw [hraw, RowText.raw, hrow, List.map_cons, ih g.endsRow_of_mem_more]
    -- the reader is behind the first byte of the line break, with the rest of the gap ahead
    have hline : (p.advance (lead ++ (List.intercalate [d] (r.cells.map CellText.raw) ++
        [g.lineBreak.first]))).line =
          p.line + lead.count lineFeed + r.raw.count lineFeed +
            [g.lineBreak.first].count lineFeed := by
      simp only [Position.advance, RowText.raw, List.count_append]
      omega
    have hgap : g.raw.count lineFeed =
        [g.lineBreak.first].count lineFeed + g.more.count lineFeed := by
      rw [← List.count_append]
      rfl
    rw [hline, placedFrom, List.map_cons, hgap, RowText.raw]
    simp only [Nat.add_assoc]

/-- Rows keep their places, whatever follows them. -/
lemma placedFrom_append (line : Nat) (before records : List (Gap × RowText d)) :
    placedFrom line (before ++ records) = placedFrom line before ++
      placedFrom (line + (rawRecords before).count lineFeed) records := by
  induction before generalizing line with
  | nil => rfl
  | cons p before ih =>
    obtain ⟨g, r⟩ := p
    have hcount : (rawRecords ((g, r) :: before)).count lineFeed =
        g.raw.count lineFeed + r.raw.count lineFeed + (rawRecords before).count lineFeed := by
      rw [rawRecords, List.flatMap_cons, List.count_append, List.count_append]
      rfl
    rw [List.cons_append, placedFrom, placedFrom, ih, hcount, List.cons_append]
    simp only [Nat.add_assoc]

lemma map_snd_placedFrom (line : Nat) (records : List (Gap × RowText d)) :
    (placedFrom line records).map Prod.snd = records.map Prod.snd := by
  induction records generalizing line with
  | nil => rfl
  | cons p records ih => rw [placedFrom, List.map_cons, List.map_cons, ih]

lemma exists_of_mem_placedFrom {line : Nat} {records : List (Gap × RowText d)}
    {q : Nat × RowText d} (hq : q ∈ placedFrom line records) : ∃ p ∈ records, p.2 = q.2 := by
  have hmem : q.2 ∈ records.map Prod.snd := by
    rw [← map_snd_placedFrom line]
    exact List.mem_map_of_mem hq
  exact List.mem_map.1 hmem

/-- The reader stands before a row by as many lines too early as it has missed in front of it. -/
lemma TableText.placedFrom_records {x : TableText d} {before after : List (Gap × RowText d)}
    {g : Gap} {r : RowText d} (hx : x.records = before ++ (g, r) :: after) :
    ∃ line later, placedFrom x.headerEnd x.records =
        placedFrom x.headerEnd before ++ (line, r) :: later ∧
      line + g.missed = x.startLine before g := by
  have hgap : g.raw.count lineFeed = [g.lineBreak.first].count lineFeed + g.missed := by
    rw [← g.count_more, ← List.count_append]
    rfl
  rw [hx, placedFrom_append, placedFrom]
  refine ⟨_, _, rfl, ?_⟩
  simp only [startLine, headerEnd, List.count_append, count_blankLines, hgap]
  omega

/-- The bytes behind the byte order mark, if there is one. -/
def withoutMark (bs : Bytes) : Bytes := (byteOrderMark.isPrefixOf? bs).getD bs

/-- A table is read as its rows; the lines of those behind the header are the ones on which the
reader stands before them. -/
lemma TableText.rows_raw (hd : IsSeparator d) {x : TableText d} {bs : Bytes}
    (hbs : withoutMark bs = x.raw) :
    ∃ header records, rows d bs = header :: records ∧ header.fields = x.header.fields ∧
      records.map (fun row => (row.position.line, row.fields)) =
        (placedFrom x.headerEnd x.records).map fun q => (q.1, q.2.fields) := by
  -- a byte order mark moves the reader on by three bytes, but not to another line
  have hfrom : ∀ p : Position, p.line = 1 → ∃ header records,
      rowsFrom d p x.raw = header :: records ∧ header.fields = x.header.fields ∧
        records.map (fun row => (row.position.line, row.fields)) =
          (placedFrom x.headerEnd x.records).map fun q => (q.1, q.2.fields) := by
    intro p hp
    have hblank : ∀ b ∈ blankLines x.blank, endsRow b = true := endsRow_of_mem_blankLines
    have hrows := rowsFrom_rawRecords hd hblank x.header x.records x.ending p
    rw [hp, count_blankLines] at hrows
    obtain ⟨header, records, heq, hheader, hrecords⟩ := List.map_eq_cons_iff.1 hrows
    exact ⟨header, records, heq, congrArg Prod.snd hheader, hrecords⟩
  cases hmark : byteOrderMark.isPrefixOf? bs with
  | none =>
    rw [withoutMark, hmark, Option.getD_none] at hbs
    rw [rows, hmark, hbs]
    exact hfrom ⟨0, 1⟩ rfl
  | some rest =>
    rw [withoutMark, hmark, Option.getD_some] at hbs
    obtain ⟨header, records, heq, hheader, hrecords⟩ := hfrom ⟨3, 1⟩ rfl
    rw [rows, hmark, hbs]
    simp only [heq]
    exact ⟨_, records, rfl, hheader, hrecords⟩

/-! ### Texts without marks -/

/-- A line feed among the bytes of a text is a character of the text. -/
lemma mem_of_lineFeed_mem_encode {t : Text} (h : lineFeed ∈ Utf8.encode t) : '\n' ∈ t := by
  obtain ⟨c, hc, hb⟩ := List.mem_flatMap.1 h
  by_cases hascii : c.toNat < 0x80
  · simp only [Utf8.encodeChar, if_pos hascii, List.mem_singleton] at hb
    have hbyte := congrArg UInt8.toNat hb
    rw [Utf8.toNat_ofNat (by omega)] at hbyte
    have hchar : '\n' = c := by
      rw [← Char.ofNat_toNat c, ← hbyte]
      rfl
    exact hchar ▸ hc
  · have hlarge := Utf8.le_of_mem_encodeChar (by omega) hb
    exact absurd hlarge (by decide)

/-- A cell has a line feed only if its text has one. -/
lemma CellText.lineFeed_not_mem_raw {c : CellText d} (h : '\n' ∉ c.text) : lineFeed ∉ c.raw := by
  cases c with
  | bare written =>
    intro hmem
    exact h (mem_of_lineFeed_mem_encode hmem)
  | quoted t behind =>
    simp only [text, List.mem_append, not_or] at h
    have hquote : lineFeed ≠ quote := by decide
    simp only [raw, doubleQuotes, List.mem_cons, List.mem_append, List.mem_flatMap, not_or]
    refine ⟨hquote, ?_, hquote, fun hmem => h.2 (mem_of_lineFeed_mem_encode hmem)⟩
    rintro ⟨b, hb, hmem⟩
    split at hmem
    · exact hquote (by simpa using hmem)
    · obtain rfl : lineFeed = b := by simpa using hmem
      exact h.1 (mem_of_lineFeed_mem_encode hb)

/-- A row of cells without line feeds stays on its line. -/
lemma RowText.count_raw (hd : IsSeparator d) {r : RowText d} (h : ∀ t ∈ r.texts, '\n' ∉ t) :
    r.raw.count lineFeed = 0 := by
  apply List.count_eq_zero.2
  intro hmem
  rcases mem_intercalate hmem with hdelimiter | ⟨raw, hraw, hmem⟩
  · exact hd.ne_of_endsRow (by decide) hdelimiter
  · obtain ⟨c, hc, rfl⟩ := List.mem_map.1 hraw
    exact c.lineFeed_not_mem_raw (h c.text (List.mem_map_of_mem hc)) hmem

/-- The second byte of the byte order mark begins no cell. -/
lemma CellText.head_raw_append_ne (c : CellText d) {rest : Bytes}
    (hrest : ∀ b ∈ rest.head?, b ≠ 0xBB) : ∀ b ∈ (c.raw ++ rest).head?, b ≠ 0xBB := by
  cases c with
  | quoted t behind =>
    rintro b ⟨⟩
    decide
  | bare written =>
    rw [raw]
    cases written.text with
    | nil => exact hrest
    | cons c t =>
      rw [Utf8.encode, List.flatMap_cons, List.append_assoc,
        List.head?_append_of_ne_nil _ (Utf8.encodeChar_ne_nil c)]
      exact Utf8.head_encodeChar_ne c

/-- A cell begins with the byte order mark only if its text does, or what follows an empty cell. -/
lemma CellText.raw_append_ne (c : CellText d) (hc : '\uFEFF' ∉ c.text) {rest : Bytes}
    (hrest : ∀ bs, rest ≠ byteOrderMark ++ bs) (bs : Bytes) :
    c.raw ++ rest ≠ byteOrderMark ++ bs := by
  intro h
  cases c with
  | quoted t behind => exact absurd (List.cons.inj h).1 (by decide)
  | bare written =>
    rw [raw] at h
    rw [text] at hc
    cases htext : written.text with
    | nil =>
      rw [htext] at h
      exact hrest bs h
    | cons c t =>
      rw [htext, Utf8.encode, List.flatMap_cons, List.append_assoc] at h
      have hmark : c = '\uFEFF' := Utf8.encodeChar_append_inj h
      exact hc (by rw [htext, hmark]; exact List.mem_cons_self)

/-- Where the first byte of the mark separates cells, its second byte begins no row of cells. -/
lemma head_intercalate_raw_ne {cells : List (CellText 0xEF)} (hne : cells ≠ []) {rest : Bytes}
    (hrest : ∀ b ∈ rest.head?, b ≠ 0xBB) :
    ∀ b ∈ (List.intercalate [0xEF] (cells.map CellText.raw) ++ rest).head?, b ≠ 0xBB := by
  obtain ⟨c, cells, rfl⟩ := List.exists_cons_of_ne_nil hne
  cases cells with
  | nil =>
    rw [List.map_singleton, intercalate_singleton]
    exact c.head_raw_append_ne hrest
  | cons c' cells =>
    rw [List.map_cons, List.map_cons, intercalate_cons_cons, List.append_assoc]
    refine c.head_raw_append_ne ?_
    rintro b ⟨⟩
    decide

/-- A row does not begin with the byte order mark if no cell holds it. -/
lemma RowText.raw_append_ne (r : RowText d) (h : ∀ t ∈ r.texts, '\uFEFF' ∉ t) {rest : Bytes}
    (hrest : ∀ b ∈ rest.head?, endsRow b = true) (bs : Bytes) :
    r.raw ++ rest ≠ byteOrderMark ++ bs := by
  obtain ⟨cells, hne⟩ := r
  rw [texts] at h
  rw [raw]
  cases cells with
  | nil => exact absurd rfl hne
  | cons c cells =>
    have hc : '\uFEFF' ∉ c.text := h c.text List.mem_cons_self
    cases cells with
    | nil =>
      rw [List.map_singleton, intercalate_singleton]
      apply c.raw_append_ne hc
      intro bs hbs
      exact absurd (hrest 0xEF (by rw [hbs]; rfl)) (by decide)
    | cons c' cells =>
      rw [List.map_cons, List.map_cons, intercalate_cons_cons, List.append_assoc,
        List.cons_append]
      apply c.raw_append_ne hc
      intro bs hbs
      -- behind an empty cell the delimiter would be the first byte of the mark
      obtain ⟨hdelimiter, hbs⟩ := List.cons.inj hbs
      subst hdelimiter
      have hmark : ∀ b ∈ rest.head?, b ≠ 0xBB := by
        rintro b hb rfl
        exact absurd (hrest 0xBB hb) (by decide)
      have hhead := head_intercalate_raw_ne (List.cons_ne_nil c' cells) hmark
      rw [List.map_cons, hbs] at hhead
      exact hhead 0xBB rfl rfl

/-- A table does not begin with the byte order mark if no header holds it. -/
lemma TableText.withoutMark_raw {x : TableText d} (h : ∀ t ∈ x.header.texts, '\uFEFF' ∉ t) :
    withoutMark x.raw = x.raw := by
  have hmore : ∀ b ∈ (rawRecords x.records ++ blankLines x.ending).head?, endsRow b = true := by
    cases x.records with
    | nil =>
      intro b hb
      exact endsRow_of_mem_blankLines b (List.mem_of_head? hb)
    | cons p records =>
      rintro b ⟨⟩
      exact p.1.endsRow_first
  have hraw : ∀ bs, x.raw ≠ byteOrderMark ++ bs := by
    intro bs
    rw [raw]
    cases x.blank with
    | nil => exact x.header.raw_append_ne h hmore bs
    | cons e es =>
      intro hbs
      have hfirst : e.first = 0xEF := (List.cons.inj hbs).1
      exact absurd (e.endsRow_of_mem_raw List.mem_cons_self) (by rw [hfirst]; decide)
  have hnone : byteOrderMark.isPrefixOf? x.raw = none := by
    apply Option.eq_none_iff_forall_ne_some.2
    intro rest hrest
    exact hraw rest (List.isPrefixOf?_eq_some_iff_append_eq.1 hrest).symm
  rw [withoutMark, hnone, Option.getD_none]

end NoteLinks.Csv
