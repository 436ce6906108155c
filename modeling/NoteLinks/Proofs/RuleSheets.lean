import NoteLinks.Help.Sheet
import NoteLinks.Proofs.DelimitedText
import NoteLinks.Proofs.Results
import NoteLinks.Proofs.Timestamps

/-!
# Reading sheets of help rules back

The sheet that states rules is read as these rules if they are plain (`Rule.IsPlain`) and the
delimiter separates fields (`readRules_writeRules`).  Every rule that is read is plain
(`isPlain_of_mem_readRules`), so no other rules are read back.  An option can name each character of
ASCII as the delimiter (`exists_readDelimiter_iff`), so also the quote and the two ends of a line.
They do not separate fields, and with each of them a plain rule is lost (`readRules_writeRules_iff`).

The proof goes from the cell to the sheet: the cells of a rule are trimmed
(`Rule.IsPlain.trim_cell`) and state the rule (`ruleOfCells_cell`), a cell is found under its header
(`cell_columns`), a row is read as its texts (`rowTexts_of_fields`), and the rows as their rules
(`rulesOfRows_of_fields`).
-/

namespace NoteLinks.Help

open Utf8 (Bytes)

variable {d : UInt8} {r : Rule} {rules : List Rule} {sheet : Bytes}

/-! ### Plain rules -/

/-- The texts of a rule that a sheet states as they are. -/
def Rule.texts (r : Rule) : List Text :=
  [r.path, r.handler, r.method, r.extras, r.subcontext, r.url]

/-- A rule whose texts have no blanks at their ends and whose timestamp exists. -/
structure Rule.IsPlain (r : Rule) : Prop where
  trim_texts : ∀ t ∈ r.texts, Text.trim t = t
  isValid_updatedAt : ∀ stamp ∈ r.updatedAt, stamp.isValid = true

lemma Category.trim_name (c : Category) : Text.trim c.name = c.name := by
  cases c <;> decide

lemma Category.ofName?_name (c : Category) : ofName? c.name = some c := by
  cases c <;> decide

lemma Column.trim_name (c : Column) : Text.trim c.name = c.name := by
  cases c <;> decide

lemma trim_writeInt (i : Int) : Text.trim (Decimal.writeInt i) = Decimal.writeInt i := by
  have hdigits : ∀ n, ∀ c ∈ Decimal.write n, Text.isBlank c = false :=
    fun n c hc => Text.isBlank_of_isDigit (Decimal.isDigit_of_mem_write n c hc)
  refine Text.trim_eq_self ?_
  cases i with
  | ofNat n => exact hdigits n
  | negSucc n => exact List.forall_mem_cons.2 ⟨by decide, hdigits (n + 1)⟩

/-- The cells of a plain rule have no blanks at their ends. -/
lemma Rule.IsPlain.trim_cell (h : r.IsPlain) (c : Column) : Text.trim (r.cell c) = r.cell c := by
  have htexts := h.trim_texts
  simp only [Rule.texts, List.forall_mem_cons] at htexts
  obtain ⟨hpath, hhandler, hmethod, hextras, hsubcontext, hurl, -⟩ := htexts
  cases c with
  | path => exact hpath
  | handler => exact hhandler
  | method => exact hmethod
  | extras => exact hextras
  | subcontext => exact hsubcontext
  | category => exact r.category.trim_name
  | order => exact trim_writeInt _
  | url => exact hurl
  | updatedAt =>
    cases hstamp : r.updatedAt with
    | none =>
      rw [Rule.cell, hstamp]
      rfl
    | some stamp =>
      rw [Rule.cell, hstamp]
      exact stamp.trim_write

/-! ### Cells -/

/-- The cells of a plain rule state it. -/
lemma ruleOfCells_cell (h : r.IsPlain) : ruleOfCells r.cell = .ok r := by
  have hcategory : categoryOfCell (r.cell .category) = .ok r.category := by
    have hfound : Category.ofName? (r.cell .category) = some r.category :=
      r.category.ofName?_name
    rw [categoryOfCell, hfound]
  have horder : orderOfCell (r.cell .order) = .ok r.order := by
    have hne : r.cell .order ≠ [] := Decimal.writeInt_ne_nil _
    have hread : Decimal.readInt64? (r.cell .order) = some r.order :=
      Decimal.readInt64?_writeInt r.order
    rw [orderOfCell, if_neg hne, hread]
  have htimestamp : timestampOfCell (r.cell .updatedAt) = .ok r.updatedAt := by
    cases hstamp : r.updatedAt with
    | none =>
      rw [Rule.cell, hstamp]
      rfl
    | some stamp =>
      have hread := Timestamp.read?_write (h.isValid_updatedAt stamp hstamp)
      rw [Rule.cell, hstamp, Option.map_some, Option.getD_some, timestampOfCell,
        if_neg stamp.write_ne_nil, hread]
  rw [ruleOfCells, hcategory, horder, htimestamp]
  rfl

/-- A timestamp that a cell states exists. -/
lemma isValid_of_timestampOfCell {t : Text} {updatedAt : Option Timestamp}
    (h : timestampOfCell t = .ok updatedAt) : ∀ stamp ∈ updatedAt, stamp.isValid = true := by
  intro stamp hstamp
  obtain rfl : updatedAt = some stamp := hstamp
  unfold timestampOfCell at h
  split at h
  · cases h
  · split at h
    · rename_i read hread
      obtain rfl : read = stamp := by simpa using h
      exact Timestamp.isValid_of_read? hread
    · cases h

/-- The rule that trimmed cells state is plain. -/
lemma isPlain_of_ruleOfCells {cell : Column → Text} (h : ∀ c, Text.trim (cell c) = cell c)
    (hr : ruleOfCells cell = .ok r) : r.IsPlain := by
  simp only [ruleOfCells, bind_eq_ok_iff] at hr
  obtain ⟨category, -, order, -, updatedAt, htimestamp, hr⟩ := hr
  obtain rfl := Except.ok.inj hr
  refine ⟨?_, isValid_of_timestampOfCell htimestamp⟩
  simp only [Rule.texts, List.forall_mem_cons]
  exact ⟨h _, h _, h _, h _, h _, h _, by simp⟩

/-- Under the headers of a written sheet a row has its cells in the order of the columns. -/
lemma cell_columns (f : Column → Text) (c : Column) :
    cell (Column.all.map Column.name) (Column.all.map f) c = f c := by
  cases c <;> rfl

/-- The cells of a trimmed row are trimmed. -/
lemma trim_cell {headers row : List Text} (h : ∀ t ∈ row, Text.trim t = t) (c : Column) :
    Text.trim (cell headers row c) = cell headers row c := by
  unfold cell
  split
  · rfl
  · rename_i i _
    cases hi : row[i]? with
    | none => rfl
    | some t => exact h t (List.mem_of_getElem? hi)

/-! ### Rows -/

/-- A row that has texts as its fields is read as these texts without the blanks at their ends. -/
lemma rowTexts_of_fields {n : Nat} {row : Csv.Row} {ts : List Text}
    (hfields : row.fields = ts.map Utf8.encode) :
    rowTexts n ts.length row = .ok (ts.map Text.trim) := by
  have hlength : row.fields.length = ts.length := by rw [hfields, List.length_map]
  obtain ⟨us, hbytes, htrim⟩ : ∃ us : List Text,
      row.fields.map Csv.trim = us.map Utf8.encode ∧ us.map Text.trim = ts.map Text.trim := by
    rw [hfields]
    clear hfields hlength
    induction ts with
    | nil => exact ⟨[], rfl, rfl⟩
    | cons t ts ih =>
      obtain ⟨us, hbytes, htrim⟩ := ih
      obtain ⟨u, hu, ht⟩ := Csv.exists_trim_encode t
      exact ⟨u :: us, congrArg₂ List.cons hu hbytes, congrArg₂ List.cons ht htrim⟩
  rw [rowTexts, if_neg (not_not_intro hlength), hbytes, Csv.texts_encode]
  exact congrArg Except.ok htrim

/-- The texts that are read from a row are trimmed. -/
lemma trim_of_rowTexts {n width : Nat} {row : Csv.Row} {ts : List Text}
    (h : rowTexts n width row = .ok ts) : ∀ t ∈ ts, Text.trim t = t := by
  unfold rowTexts at h
  split at h
  · cases h
  · split at h
    · cases h
    · rw [← Except.ok.inj h]
      intro t ht
      obtain ⟨u, -, rfl⟩ := List.mem_map.1 ht
      exact Text.trim_trim u

/-- The rows that plain rules are written as are read as these rules. -/
lemma rulesOfRows_of_fields {rows : List Csv.Row} (h : ∀ r ∈ rules, r.IsPlain)
    (hrows : rows.map Csv.Row.fields =
      rules.map fun r => (Column.all.map r.cell).map Utf8.encode) (n : Nat) :
    rulesOfRows (Column.all.map Column.name) n rows = .ok rules := by
  induction rules generalizing rows n with
  | nil =>
    obtain rfl : rows = [] := List.map_eq_nil_iff.1 hrows
    rfl
  | cons r rules ih =>
    obtain ⟨row, rows, rfl, hrow, hrows⟩ := List.map_eq_cons_iff.1 hrows
    obtain ⟨hr, hrules⟩ := List.forall_mem_cons.1 h
    -- the cells of a plain rule have no blanks at their ends that the reader would drop
    have htrim : ∀ t ∈ Column.all.map r.cell, Text.trim t = t := by
      intro t ht
      obtain ⟨c, -, rfl⟩ := List.mem_map.1 ht
      exact hr.trim_cell c
    have htexts : rowTexts n (Column.all.map Column.name).length row =
        .ok (Column.all.map r.cell) := by
      have hread : rowTexts n (Column.all.map r.cell).length row = _ := rowTexts_of_fields hrow
      rwa [List.map_congr_left htrim, List.map_id'] at hread
    have hrule : ruleOfCells (cell (Column.all.map Column.name) (Column.all.map r.cell)) =
        .ok r := by
      rw [funext (cell_columns r.cell)]
      exact ruleOfCells_cell hr
    refine bind_eq_ok_iff.2 ⟨_, htexts, bind_eq_ok_iff.2 ⟨r, mapError_eq_ok_iff.2 hrule, ?_⟩⟩
    exact bind_eq_ok_iff.2 ⟨rules, ih hrules hrows (n + 1), rfl⟩

/-- Every rule that is read from rows is plain. -/
lemma isPlain_of_mem_rulesOfRows {headers : List Text} {rows : List Csv.Row} {n : Nat}
    (h : rulesOfRows headers n rows = .ok rules) : ∀ r ∈ rules, r.IsPlain := by
  induction rows generalizing rules n with
  | nil =>
    obtain rfl : [] = rules := Except.ok.inj h
    simp
  | cons row rows ih =>
    simp only [rulesOfRows, bind_eq_ok_iff] at h
    obtain ⟨texts, htexts, r, hr, more, hmore, h⟩ := h
    obtain rfl := Except.ok.inj h
    have hplain : r.IsPlain :=
      isPlain_of_ruleOfCells (trim_cell (trim_of_rowTexts htexts)) (mapError_eq_ok_iff.1 hr)
    exact List.forall_mem_cons.2 ⟨hplain, ih hmore⟩

/-! ### Sheets -/

/-- Every rule that is read from a sheet is plain. -/
lemma isPlain_of_mem_readRules (h : readRules d sheet = .ok rules) : ∀ r ∈ rules, r.IsPlain := by
  have hunder : ∀ headers rows, rulesUnder headers rows = .ok rules → ∀ r ∈ rules, r.IsPlain := by
    intro headers rows h
    unfold rulesUnder at h
    split at h
    · exact isPlain_of_mem_rulesOfRows h
    · cases h
  unfold readRules at h
  split at h
  · exact hunder _ _ h
  · obtain ⟨headers, -, h⟩ := bind_eq_ok_iff.1 h
    exact hunder _ _ h

/-- A written sheet does not begin with a byte order mark: its first header does not, and neither
does a quote. -/
lemma isPrefixOf?_writeRules (d : UInt8) (rules : List Rule) :
    Csv.byteOrderMark.isPrefixOf? (writeRules d rules) = none := by
  have hbegin : ∃ b bs, writeRules d rules = b :: bs ∧ b ≠ 0xEF := by
    have hfield : Csv.writeField d (Utf8.encode Column.path.name) <+: writeRules d rules :=
      Csv.writeField_prefix_write
    obtain ⟨rest, hsheet⟩ := hfield
    rw [← hsheet]
    by_cases hquotes : Csv.needsQuotes d (Utf8.encode Column.path.name) = true
    · rw [Csv.writeField, if_pos hquotes]
      exact ⟨Csv.quote, _, rfl, by decide⟩
    · rw [Csv.writeField, if_neg hquotes]
      exact ⟨112, _, rfl, by decide⟩
  obtain ⟨b, bs, hbegin, hb⟩ := hbegin
  rw [hbegin, Csv.byteOrderMark, List.isPrefixOf?, beq_false_of_ne (Ne.symm hb)]
  rfl

/-- A written sheet is read as its rules, if they are plain and the delimiter separates fields. -/
lemma readRules_writeRules (hd : Csv.IsSeparator d) (h : ∀ r ∈ rules, r.IsPlain) :
    readRules d (writeRules d rules) = .ok rules := by
  have hwidth : ∀ f : Column → Bytes, 2 ≤ (Column.all.map f).length := fun f => by
    rw [List.length_map]
    decide
  have hrows : (Csv.rows d (writeRules d rules)).map Csv.Row.fields =
      Column.all.map (fun c => Utf8.encode c.name) ::
        rules.map fun r => Column.all.map fun c => Utf8.encode (r.cell c) := by
    refine Csv.fields_rows_write hd ?_ (isPrefixOf?_writeRules d rules)
    refine List.forall_mem_cons.2 ⟨hwidth _, fun fields hfields => ?_⟩
    obtain ⟨r, -, rfl⟩ := List.mem_map.1 hfields
    exact hwidth _
  obtain ⟨header, rows, hsheet, hheader, hrules⟩ := List.map_eq_cons_iff.1 hrows
  have htexts : headerTexts header = .ok (Column.all.map Column.name) := by
    have hencode : header.fields = (Column.all.map Column.name).map Utf8.encode := by
      rw [hheader, List.map_map]
      rfl
    rw [headerTexts, hencode, Csv.texts_encode]
    rfl
  have hmissing : missingColumns (Column.all.map Column.name) = [] := by decide
  rw [readRules, hsheet]
  refine bind_eq_ok_iff.2 ⟨_, htexts, ?_⟩
  rw [rulesUnder, hmissing]
  exact rulesOfRows_of_fields h (by simpa [Function.comp_def] using hrules) 1

/-! ### Delimiters -/

/-- The delimiters that an option can name are the characters of ASCII. -/
lemma exists_readDelimiter_iff : (∃ option, readDelimiter option = .ok d) ↔ d.toNat < 128 := by
  constructor
  · rintro ⟨option, h⟩
    unfold readDelimiter at h
    split at h
    · obtain rfl := Except.ok.inj h
      decide
    · split at h
      · split at h
        · rename_i hc
          obtain rfl := Except.ok.inj h
          rw [Utf8.toNat_ofNat (by omega)]
          exact hc
        · cases h
      · cases h
  · intro hd
    have htab : [Char.ofNat d.toNat] ≠ ("\\t" : Text) := by
      intro htext
      have hlength := congrArg List.length htext
      simp at hlength
    refine ⟨[Char.ofNat d.toNat], ?_⟩
    rw [readDelimiter, if_neg htab]
    simp only [Utf8.toNat_asciiChar hd, if_pos hd, UInt8.ofNat_toNat]

/-- A rule for the start page, whose path is empty. -/
def startPageRule : Rule :=
  { path := [], handler := "home", method := [], extras := [], subcontext := []
    category := .standard, order := 0, url := "start", updatedAt := none }

/-- Exactly the rules that are plain are read back, if the delimiter separates fields; any other
delimiter, which is the quote or ends a row, can be named by an option all the same, and loses a
plain rule. -/
theorem readRules_writeRules_iff (d : UInt8) :
    (Csv.IsSeparator d →
      ∀ rules, readRules d (writeRules d rules) = .ok rules ↔ ∀ r ∈ rules, r.IsPlain) ∧
    (¬ Csv.IsSeparator d →
      (∃ option, readDelimiter option = .ok d) ∧
        ∃ r : Rule, r.IsPlain ∧ readRules d (writeRules d [r]) ≠ .ok [r]) := by
  constructor
  · intro hd rules
    exact ⟨isPlain_of_mem_readRules, readRules_writeRules hd⟩
  · intro hd
    -- the other delimiters are the quote and the two line ends, and each of them loses the rule
    have hcases : d = Csv.quote ∨ d = Csv.lineFeed ∨ d = Csv.carriageReturn := by
      by_cases hquote : d = Csv.quote
      · exact Or.inl hquote
      · have hrow : Csv.endsRow d = true := by
          rw [← Bool.not_eq_false]
          exact fun hrow => hd ⟨hquote, hrow⟩
        simpa [Csv.endsRow, hquote] using hrow
    have hmem : d ∈ [Csv.quote, Csv.lineFeed, Csv.carriageReturn] := by simpa using hcases
    have hascii : d.toNat < 128 := by
      rcases hcases with rfl | rfl | rfl
      · decide
      · decide
      · decide
    have hlost : ∀ e ∈ [Csv.quote, Csv.lineFeed, Csv.carriageReturn],
        (readRules e (writeRules e [startPageRule])).toOption ≠ some [startPageRule] := by
      decide +kernel
    refine ⟨exists_readDelimiter_iff.2 hascii, startPageRule, ⟨by decide, by decide⟩,
      fun hread => ?_⟩
    exact hlost d hmem (toOption_eq_some_iff.2 hread)

/-- An option can name the quote as the delimiter, and then a plain rule is not read back. -/
theorem readRules_writeRules_quote :
    readDelimiter "\"" = .ok Csv.quote ∧ startPageRule.IsPlain ∧
      readRules Csv.quote (writeRules Csv.quote [startPageRule]) ≠ .ok [startPageRule] := by
  refine ⟨rfl, ⟨by decide, by decide⟩, fun hread => ?_⟩
  have hlost : (readRules Csv.quote (writeRules Csv.quote [startPageRule])).toOption ≠
      some [startPageRule] := by
    decide +kernel
  exact hlost (toOption_eq_some_iff.2 hread)

end NoteLinks.Help
