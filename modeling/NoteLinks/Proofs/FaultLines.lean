import NoteLinks.Proofs.RuleSheets
import NoteLinks.Proofs.TableTexts

/-!
# The line of a fault

A sheet of help rules is refused for the first row that has a fault: an unknown category, an order
that is no number or a timestamp that cannot be read (`IsFault`).  The refusal names a line
(`readRules_faultyRow`).  It is the line on which the row begins if only a line feed stands in front
of the row.  Otherwise it is an earlier one: by one for each blank line in front of the row, and by
one if the row before ends with a carriage return and a line feed (`readRules_secondLine`).

In whatever way a sheet is written, reading goes through its rows and the places of the reader
between them (`readRules_raw`), and the first place at a row with a fault is the one that is named.
-/

namespace NoteLinks.Help

open Utf8 (Bytes)
open Csv (RowText TableText Gap placedFrom)

variable {d : UInt8} {x : TableText d} {bs : Bytes} {cell : Column → Text} {fault : RowFault}
  {r : Rule}

/-! ### Faults of a row -/

/-- A fault in the cells of a row. -/
inductive IsFault (cell : Column → Text) : RowFault → Prop
  | category (h : Category.ofName? (cell .category) = none) :
      IsFault cell (.unknownCategory (cell .category))
  | order (hne : cell .order ≠ []) (h : Decimal.readInt64? (cell .order) = none) :
      IsFault cell (.invalidOrder (cell .order))
  | timestamp (hne : cell .updatedAt ≠ []) (h : Timestamp.read? (cell .updatedAt) = none) :
      IsFault cell (.invalidTimestamp (cell .updatedAt))

/-- The row has a fault. -/
def IsFaulty (cell : Column → Text) : Prop := ∃ fault, IsFault cell fault

/-- A row is refused for one of its faults. -/
lemma isFault_of_ruleOfCells (h : ruleOfCells cell = .error fault) : IsFault cell fault := by
  simp only [ruleOfCells, bind_eq_error_iff] at h
  rcases h with h | ⟨category, -, h | ⟨order, -, h | ⟨updatedAt, -, h⟩⟩⟩
  · unfold categoryOfCell at h
    split at h
    · cases h
    · rename_i hnone
      cases h
      exact .category hnone
  · unfold orderOfCell at h
    split at h
    · cases h
    · rename_i hne
      split at h
      · cases h
      · rename_i hnone
        cases h
        exact .order hne hnone
  · unfold timestampOfCell at h
    split at h
    · cases h
    · rename_i hne
      split at h
      · cases h
      · rename_i hnone
        cases h
        exact .timestamp hne hnone
  · cases h

/-- A row that states a rule has no fault. -/
lemma not_isFaulty_of_ruleOfCells (h : ruleOfCells cell = .ok r) : ¬ IsFaulty cell := by
  simp only [ruleOfCells, bind_eq_ok_iff] at h
  obtain ⟨category, hcategory, order, horder, updatedAt, htimestamp, -⟩ := h
  rintro ⟨fault, hfault⟩
  cases hfault with
  | category hnone => simp [categoryOfCell, hnone] at hcategory
  | order hne hnone => simp [orderOfCell, hne, hnone] at horder
  | timestamp hne hnone => simp [timestampOfCell, hne, hnone] at htimestamp

lemma exists_fault_of_isFaulty (h : IsFaulty cell) :
    ∃ fault, ruleOfCells cell = .error fault ∧ IsFault cell fault := by
  cases hcells : ruleOfCells cell with
  | error fault => exact ⟨fault, rfl, isFault_of_ruleOfCells hcells⟩
  | ok r => exact absurd h (not_isFaulty_of_ruleOfCells hcells)

lemma exists_rule_of_not_isFaulty (h : ¬ IsFaulty cell) : ∃ r, ruleOfCells cell = .ok r := by
  cases hcells : ruleOfCells cell with
  | error fault => exact absurd ⟨fault, isFault_of_ruleOfCells hcells⟩ h
  | ok r => exact ⟨r, rfl⟩

/-! ### Reading a written sheet -/

/-- The headers of a written sheet. -/
def headers (x : TableText d) : List Text := x.header.texts.map Text.trim

/-- The cells of a row of a written sheet. -/
def cells (x : TableText d) (row : RowText d) : Column → Text :=
  Help.cell (headers x) (row.texts.map Text.trim)

/-- The rule of a row that is read when the reader stands on a line. -/
def ruleAt (x : TableText d) (placed : Nat × RowText d) : Except Failure Rule :=
  (ruleOfCells (cells x placed.2)).mapError (.row placed.1)

/-- Every row has as many cells as the header. -/
def IsRectangular (x : TableText d) : Prop :=
  ∀ p ∈ x.records, p.2.cells.length = x.header.cells.length

/-- Rows are read one after the other at their places. -/
lemma rulesOfRows_placed {rows : List Csv.Row} {placed : List (Nat × RowText d)}
    (hrows : rows.map (fun row => (row.position.line, row.fields)) =
      placed.map fun p => (p.1, p.2.fields))
    (hwidth : ∀ p ∈ placed, p.2.texts.length = (headers x).length) (n : Nat) :
    rulesOfRows (headers x) n rows = placed.mapM (ruleAt x) := by
  induction placed generalizing rows n with
  | nil =>
    obtain rfl : rows = [] := List.map_eq_nil_iff.1 hrows
    rfl
  | cons p placed ih =>
    obtain ⟨row, rows, rfl, hrow, hrows⟩ := List.map_eq_cons_iff.1 hrows
    obtain ⟨hp, hplaced⟩ := List.forall_mem_cons.1 hwidth
    obtain ⟨hline, hfields⟩ := Prod.mk.inj hrow
    have htexts : rowTexts n (headers x).length row = .ok (p.2.texts.map Text.trim) := by
      rw [← hp]
      exact rowTexts_of_fields hfields
    rw [rulesOfRows, htexts, hline, List.mapM_cons, ih hrows hplaced]
    rfl

/-- A written sheet with rows of one width is read row by row, if no column is missing. -/
lemma readRules_raw (hd : Csv.IsSeparator d) (hbs : Csv.withoutMark bs = x.raw)
    (hwidth : IsRectangular x) :
    readRules d bs =
      match missingColumns (headers x) with
      | [] => (placedFrom x.headerEnd x.records).mapM (ruleAt x)
      | missing => .error (.row 1 (.missingColumns (missing.map Column.name))) := by
  obtain ⟨header, rows, hsheet, hheader, hrows⟩ := Csv.TableText.rows_raw hd hbs
  have htexts : headerTexts header = .ok (headers x) := by
    rw [headerTexts, hheader, RowText.fields, Csv.texts_encode]
    rfl
  -- as the table is rectangular, no row has a wrong number of fields
  have hplaced : ∀ p ∈ placedFrom x.headerEnd x.records,
      p.2.texts.length = (headers x).length := by
    intro p hp
    obtain ⟨q, hq, heq⟩ := Csv.exists_of_mem_placedFrom hp
    rw [← heq, headers, List.length_map, RowText.texts, RowText.texts, List.length_map,
      List.length_map]
    exact hwidth q hq
  have hread : readRules d bs = rulesUnder (headers x) rows := by
    rw [readRules, hsheet]
    simp only [htexts]
    rfl
  rw [hread]
  unfold rulesUnder
  cases missingColumns (headers x) with
  | nil => exact rulesOfRows_placed hrows hplaced 1
  | cons c missing => rfl

/-- The header names every column that a sheet must have, in any letter case. -/
def IsComplete (x : TableText d) : Prop :=
  ∀ c ∈ Column.required, ∃ h ∈ x.header.texts, c.isHeader (Text.trim h) = true

lemma missingColumns_of_isComplete (h : IsComplete x) : missingColumns (headers x) = [] := by
  apply List.filter_eq_nil_iff.2
  intro c hc
  obtain ⟨t, ht, hheader⟩ := h c hc
  have hany : (headers x).any c.isHeader = true :=
    List.any_eq_true.2 ⟨Text.trim t, List.mem_map_of_mem ht, hheader⟩
  simp [hany]

/-- Rows without a fault state rules, wherever the reader stands. -/
lemma exists_ruleAt {records : List (Gap × RowText d)} {line : Nat}
    (h : ∀ p ∈ records, ¬ IsFaulty (cells x p.2)) :
    ∀ placed ∈ placedFrom line records, ∃ r, ruleAt x placed = .ok r := by
  intro placed hplaced
  obtain ⟨p, hp, hrow⟩ := Csv.exists_of_mem_placedFrom hplaced
  obtain ⟨r, hr⟩ := exists_rule_of_not_isFaulty (h p hp)
  exact ⟨r, mapError_eq_ok_iff.2 (hrow ▸ hr)⟩

/-! ### The line that is named -/

/-- Of the rows of a sheet under a complete header the first one with a fault decides, whatever
follows it.  The line that is named lies before the one on which the row begins by as many lines as
the reader has missed, and so is that line exactly if a line feed alone stands in front of the row.
Without a fault the sheet is read as one rule for each row. -/
theorem readRules_faultyRow (hd : Csv.IsSeparator d) (hbs : Csv.withoutMark bs = x.raw)
    (hheader : IsComplete x) (hwidth : IsRectangular x) :
    (∀ before g row after, x.records = before ++ (g, row) :: after →
      (∀ p ∈ before, ¬ IsFaulty (cells x p.2)) → IsFaulty (cells x row) →
        ∃ line fault, readRules d bs = .error (.row line fault) ∧ IsFault (cells x row) fault ∧
          line + g.missed = x.startLine before g ∧
          (line = x.startLine before g ↔ g = ⟨.lineFeed, []⟩)) ∧
    ((∀ p ∈ x.records, ¬ IsFaulty (cells x p.2)) →
      ∃ rules, readRules d bs = .ok rules ∧
        List.Forall₂ (fun p r => ruleOfCells (cells x p.2) = .ok r) x.records rules) := by
  have hread : readRules d bs = (placedFrom x.headerEnd x.records).mapM (ruleAt x) := by
    rw [readRules_raw hd hbs hwidth, missingColumns_of_isComplete hheader]
  constructor
  · intro before g row after hrecords hbefore hrow
    obtain ⟨line, later, hplaced, hline⟩ := Csv.TableText.placedFrom_records hrecords
    obtain ⟨fault, hfault, hisFault⟩ := exists_fault_of_isFaulty hrow
    have hnamed : ruleAt x (line, row) = .error (.row line fault) := by
      rw [ruleAt, hfault]
      rfl
    refine ⟨line, fault, ?_, hisFault, hline, ?_⟩
    · rw [hread, hplaced]
      exact mapM_append_cons_eq_error (exists_ruleAt hbefore) hnamed
    · -- the named line is too low by what was missed, as `hline` says
      rw [← g.missed_eq_zero_iff]
      omega
  · intro hrecords
    obtain ⟨rules, hrules⟩ := exists_mapM_eq_ok (exists_ruleAt hrecords)
    refine ⟨rules, hread.trans hrules, ?_⟩
    have hplaced : List.Forall₂ (fun row r => ruleOfCells (cells x row) = .ok r)
        ((placedFrom x.headerEnd x.records).map Prod.snd) rules :=
      List.forall₂_map_left_iff.2 <|
        (mapM_eq_ok_iff.1 hrules).imp fun _ _ h => mapError_eq_ok_iff.1 h
    rwa [Csv.map_snd_placedFrom, List.forall₂_map_left_iff] at hplaced

/-- A row without a fault and with a line break in a cell. -/
def brokenLineRow : RowText comma := .ofTexts comma ["a\nb", "c", "standard", "x"] (by decide)

/-- A row with a category that does not exist. -/
def unknownCategoryRow : RowText comma := .ofTexts comma ["a", "b", "nope", "x"] (by decide)

/-- A sheet with these two rows, the first of which is ended by a carriage return and a line feed
and followed by a blank line. -/
def spacedSheet : TableText comma where
  blank := []
  header := .ofTexts comma ["Path", "handler", "CATEGORY", "url"] (by decide)
  records := [(⟨.lineFeed, []⟩, brokenLineRow), (⟨.pair, [.lineFeed]⟩, unknownCategoryRow)]
  ending := []

/-- The second row begins on the fifth line of this sheet, and the third one is named. -/
theorem readRules_spacedSheet :
    spacedSheet.raw =
        Utf8.encode "Path,handler,CATEGORY,url\n\"a\nb\",c,standard,x\r\n\na,b,nope,x" ∧
      Csv.IsSeparator comma ∧ Csv.withoutMark spacedSheet.raw = spacedSheet.raw ∧
      IsComplete spacedSheet ∧ IsRectangular spacedSheet ∧
      ¬ IsFaulty (cells spacedSheet brokenLineRow) ∧
      IsFaulty (cells spacedSheet unknownCategoryRow) ∧
      spacedSheet.startLine [(⟨.lineFeed, []⟩, brokenLineRow)] ⟨.pair, [.lineFeed]⟩ = 5 ∧
      ∃ fault, readRules comma spacedSheet.raw = .error (.row 3 fault) ∧
        IsFault (cells spacedSheet unknownCategoryRow) fault := by
  have hmark : Csv.withoutMark spacedSheet.raw = spacedSheet.raw := by decide +kernel
  have hheader : IsComplete spacedSheet := by
    unfold IsComplete
    decide +kernel
  have hwidth : IsRectangular spacedSheet := by
    unfold IsRectangular
    decide +kernel
  have hfirst : ¬ IsFaulty (cells spacedSheet brokenLineRow) := by
    refine not_isFaulty_of_ruleOfCells (r := ⟨"a\nb", "c", [], [], [], .standard, 0, "x", none⟩) ?_
    decide +kernel
  have hsecond : IsFaulty (cells spacedSheet unknownCategoryRow) :=
    ⟨_, .category (by decide +kernel)⟩
  have hstart :
      spacedSheet.startLine [(⟨.lineFeed, []⟩, brokenLineRow)] ⟨.pair, [.lineFeed]⟩ = 5 := by
    decide +kernel
  obtain ⟨line, fault, hread, hfault, hline, -⟩ :=
    (readRules_faultyRow (by decide) hmark hheader hwidth).1 [(⟨.lineFeed, []⟩, brokenLineRow)]
      ⟨.pair, [.lineFeed]⟩ unknownCategoryRow [] rfl (List.forall_mem_singleton.2 hfirst) hsecond
  obtain rfl : line = 3 := by
    rw [hstart] at hline
    exact Nat.add_right_cancel hline
  exact ⟨by decide +kernel, by decide, hmark, hheader, hwidth, hfirst, hsecond, hstart, fault,
    hread, hfault⟩

/-- A sheet whose lines are ended by a carriage return and a line feed. -/
def carriageReturnSheet : TableText comma where
  blank := []
  header := .ofTexts comma ["path", "handler", "category", "url"] (by decide)
  records := [(⟨.pair, []⟩, unknownCategoryRow)]
  ending := [.pair]

/-- The only row of this sheet begins on the second line and has a fault, but the first line is
named. -/
theorem readRules_secondLine :
    carriageReturnSheet.raw = Utf8.encode "path,handler,category,url\r\na,b,nope,x\r\n" ∧
      IsComplete carriageReturnSheet ∧ IsRectangular carriageReturnSheet ∧
      IsFaulty (cells carriageReturnSheet unknownCategoryRow) ∧
      carriageReturnSheet.startLine [] ⟨.pair, []⟩ = 2 ∧
      readRules comma carriageReturnSheet.raw = .error (.row 1 (.unknownCategory "nope")) := by
  refine ⟨by decide +kernel, ?_, ?_, ⟨_, .category (by decide +kernel)⟩, by decide +kernel,
    by decide +kernel⟩
  · unfold IsComplete
    decide +kernel
  · unfold IsRectangular
    decide +kernel

end NoteLinks.Help
