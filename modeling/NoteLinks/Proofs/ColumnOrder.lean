import NoteLinks.Proofs.FaultLines

/-!
# The order of columns

A sheet of help rules is read column by column: what a row states in a column is looked up under the
header of the column, wherever it stands (`lookup`).  Two sheets with the same columns in another
order are therefore read alike, also if one of them has columns of other names in addition
(`readRules_columnOrder`): they give the same rules or the same refusal, on the same line.  A column
that is not there is read like one without texts.

The sheets may be written in any way, as long as their lines are (`HasLinesOf`).  No column may be
there twice, since the first one of a name would count.
-/

namespace NoteLinks.Help

open Csv (RowText TableText Gap placedFrom)

/-! ### Columns of texts -/

/-- A column of a table with `n` rows below the header. -/
structure SheetColumn (n : Nat) where
  header : Text
  cells : Fin n → Text

namespace SheetColumn

variable {n : Nat}

/-- The header names the column, in any letter case and with blanks around the name. -/
def isFor (k : Column) (c : SheetColumn n) : Bool := k.isHeader (Text.trim c.header)

/-- No cell has a line break, and the header has no byte order mark. -/
structure IsPlain (c : SheetColumn n) : Prop where
  header : '\n' ∉ c.header
  mark : '\uFEFF' ∉ c.header
  cells : ∀ i, '\n' ∉ c.cells i

end SheetColumn

variable {d : UInt8} {n : Nat} {x y : TableText d} {cs cs' more : List (SheetColumn n)} {k : Column}
  {i : Fin n}

/-- The text states the table with the columns. -/
structure IsWritten (x : TableText d) (cs : List (SheetColumn n)) : Prop where
  header : x.header.texts = cs.map SheetColumn.header
  rows : x.records.map (fun p => p.2.texts) = List.ofFn fun i => cs.map fun c => c.cells i

/-- The rows of two tables stand on the same lines: their lines are ended in the same way, with the
same blank lines between them. -/
structure HasLinesOf (x y : TableText d) : Prop where
  blank : x.blank = y.blank
  gaps : x.records.map Prod.fst = y.records.map Prod.fst

/-- What a row of a table states in a column. -/
def lookup (cs : List (SheetColumn n)) (i : Fin n) (k : Column) : Text :=
  ((cs.find? (SheetColumn.isFor k)).map fun c => Text.trim (c.cells i)).getD []

/-! ### Looking up -/

/-- The cell of a column is the one below the first header that names it. -/
lemma cell_map {α : Type} (f g : α → Text) (l : List α) (k : Column) :
    Help.cell (l.map f) (l.map g) k = ((l.find? fun a => k.isHeader (f a)).map g).getD [] := by
  induction l with
  | nil => rfl
  | cons a l ih =>
    simp only [Help.cell] at ih ⊢
    rw [List.map_cons, List.findIdx?_cons, List.find?_cons]
    cases k.isHeader (f a) with
    | true => rfl
    | false =>
      rw [← ih, if_neg Bool.false_ne_true]
      cases (l.map f).findIdx? k.isHeader with
      | none => rfl
      | some j => rfl

lemma IsWritten.headers_eq (hx : IsWritten x cs) :
    headers x = cs.map fun c => Text.trim c.header := by
  rw [headers, hx.header, List.map_map]
  rfl

lemma IsWritten.exists_row (hx : IsWritten x cs) {p : Gap × RowText d} (hp : p ∈ x.records) :
    ∃ i, p.2.texts = cs.map fun c => c.cells i := by
  have hmem : p.2.texts ∈ x.records.map fun p => p.2.texts := List.mem_map_of_mem hp
  rw [hx.rows] at hmem
  obtain ⟨i, hi⟩ := List.mem_ofFn.1 hmem
  exact ⟨i, hi.symm⟩

lemma IsWritten.isRectangular (hx : IsWritten x cs) : IsRectangular x := by
  intro p hp
  obtain ⟨i, hi⟩ := hx.exists_row hp
  have hrow := congrArg List.length hi
  have hheader := congrArg List.length hx.header
  simp only [RowText.texts, List.length_map] at hrow hheader
  rw [hrow, hheader]

/-- The cells of a written row are those of the columns. -/
lemma IsWritten.cells_eq (hx : IsWritten x cs) {row : RowText d}
    (hrow : row.texts = cs.map fun c => c.cells i) : cells x row = lookup cs i := by
  funext k
  rw [cells, hx.headers_eq, hrow, List.map_map]
  exact cell_map _ _ cs k

lemma IsWritten.missingColumns_eq (hx : IsWritten x cs) :
    missingColumns (headers x) =
      Column.required.filter fun k => !(cs.find? (SheetColumn.isFor k)).isSome := by
  refine List.filter_congr fun k _ => congrArg not ?_
  rw [hx.headers_eq, List.any_map, Bool.eq_iff_iff, List.any_eq_true, List.find?_isSome]
  rfl

/-- The texts of the header and of the rows are those of the columns. -/
lemma IsWritten.not_mem_texts (hx : IsWritten x cs) (hcs : ∀ c ∈ cs, c.IsPlain) :
    (∀ t ∈ x.header.texts, '\n' ∉ t ∧ '\uFEFF' ∉ t) ∧
      ∀ p ∈ x.records, ∀ t ∈ p.2.texts, '\n' ∉ t := by
  constructor
  · intro t ht
    rw [hx.header] at ht
    obtain ⟨c, hc, rfl⟩ := List.mem_map.1 ht
    exact ⟨(hcs c hc).header, (hcs c hc).mark⟩
  · intro p hp t ht
    obtain ⟨i, hi⟩ := hx.exists_row hp
    rw [hi] at ht
    obtain ⟨c, hc, rfl⟩ := List.mem_map.1 ht
    exact (hcs c hc).cells i

/-! ### Reading two tables -/

/-- Rows of two tables take up the same lines and have the same cells. -/
structure AreAlike (x y : TableText d) (p q : Gap × RowText d) : Prop where
  gap : p.1 = q.1
  lines : p.2.raw.count Csv.lineFeed = q.2.raw.count Csv.lineFeed
  cells : cells x p.2 = cells y q.2

/-- Rows that are alike are read alike, one after the other. -/
lemma mapM_ruleAt_congr {records records' : List (Gap × RowText d)}
    (h : List.Forall₂ (AreAlike x y) records records') (line : Nat) :
    (placedFrom line records).mapM (ruleAt x) = (placedFrom line records').mapM (ruleAt y) := by
  induction h generalizing line with
  | nil => rfl
  | @cons p q records records' hpq _ ih =>
    rw [placedFrom, placedFrom, List.mapM_cons, List.mapM_cons, ih, ruleAt, ruleAt, hpq.gap,
      hpq.lines, hpq.cells]

/-- The rows of two tables are alike, if the same is looked up in the tables. -/
lemma forall₂_areAlike (hd : Csv.IsSeparator d) (hx : IsWritten x cs) (hy : IsWritten y cs')
    (hlines : HasLinesOf x y) (hcs : ∀ c ∈ cs, c.IsPlain) (hcs' : ∀ c ∈ cs', c.IsPlain)
    (hlookup : ∀ i : Fin n, lookup cs i = lookup cs' i) :
    List.Forall₂ (AreAlike x y) x.records y.records := by
  -- the cells of a row stand in the order of the columns
  have hrow : ∀ {z : TableText d} {ds : List (SheetColumn n)} (hz : IsWritten z ds) (j : Nat)
      (hj : j < z.records.length), ∃ hn : j < n,
        z.records[j].2.texts = ds.map fun c => c.cells ⟨j, hn⟩ := by
    intro z ds hz j hj
    have hlength := congrArg List.length hz.rows
    rw [List.length_map, List.length_ofFn] at hlength
    refine ⟨hlength ▸ hj, ?_⟩
    have hget := List.getElem_of_eq hz.rows (by simpa using hj)
    rwa [List.getElem_map, List.getElem_ofFn] at hget
  have hlength := congrArg List.length hlines.gaps
  rw [List.length_map, List.length_map] at hlength
  apply List.forall₂_iff_get.2
  refine ⟨hlength, ?_⟩
  intro j hj hj'
  obtain ⟨hn, hxrow⟩ := hrow hx j hj
  obtain ⟨_, hyrow⟩ := hrow hy j hj'
  have hxplain := (hx.not_mem_texts hcs).2 _ (List.getElem_mem hj)
  have hyplain := (hy.not_mem_texts hcs').2 _ (List.getElem_mem hj')
  have hgap := List.getElem_of_eq hlines.gaps (by simpa using hj)
  rw [List.getElem_map, List.getElem_map] at hgap
  exact
    { gap := hgap
      lines := (RowText.count_raw hd hxplain).trans (RowText.count_raw hd hyplain).symm
      cells := ((hx.cells_eq hxrow).trans (hlookup _)).trans (hy.cells_eq hyrow).symm }

/-- Two tables are read alike, if the same is looked up in them. -/
lemma readRules_congr (hd : Csv.IsSeparator d) (hx : IsWritten x cs) (hy : IsWritten y cs')
    (hlines : HasLinesOf x y) (hcs : ∀ c ∈ cs, c.IsPlain) (hcs' : ∀ c ∈ cs', c.IsPlain)
    (hfound : ∀ k ∈ Column.required, (cs.find? (SheetColumn.isFor k)).isSome =
      (cs'.find? (SheetColumn.isFor k)).isSome)
    (hlookup : ∀ i : Fin n, lookup cs i = lookup cs' i) :
    readRules d x.raw = readRules d y.raw := by
  have hxheader := (hx.not_mem_texts hcs).1
  have hyheader := (hy.not_mem_texts hcs').1
  have hmissing : missingColumns (headers x) = missingColumns (headers y) := by
    rw [hx.missingColumns_eq, hy.missingColumns_eq]
    exact List.filter_congr fun k hk => congrArg not (hfound k hk)
  have hend : x.headerEnd = y.headerEnd := by
    rw [TableText.headerEnd, TableText.headerEnd, hlines.blank,
      RowText.count_raw hd fun t ht => (hxheader t ht).1,
      RowText.count_raw hd fun t ht => (hyheader t ht).1]
  have hrows := mapM_ruleAt_congr (forall₂_areAlike hd hx hy hlines hcs hcs' hlookup) x.headerEnd
  rw [readRules_raw hd (TableText.withoutMark_raw fun t ht => (hxheader t ht).2) hx.isRectangular,
    readRules_raw hd (TableText.withoutMark_raw fun t ht => (hyheader t ht).2) hy.isRectangular,
    hmissing, hrows, hend]

/-! ### Permutations -/

/-- In another order of the columns, with others in between, the same column is found. -/
lemma find?_eq_of_perm {α : Type} {p : α → Bool} {l l' others : List α}
    (hperm : l'.Perm (l ++ others)) (hone : (l.filter p).length ≤ 1)
    (hothers : ∀ a ∈ others, p a = false) : l'.find? p = l.find? p := by
  have hnone : others.filter p = [] := List.filter_eq_nil_iff.2 fun a ha => by simp [hothers a ha]
  have hfilter : (l'.filter p).Perm (l.filter p) := by
    have hp := hperm.filter p
    rwa [List.filter_append, hnone, List.append_nil] at hp
  -- lists of at most one member are permutations of each other only if they are equal
  have heq : l'.filter p = l.filter p := by
    match hl : l.filter p, hone with
    | [], _ => exact (hl ▸ hfilter).eq_nil
    | [a], _ => exact (hl ▸ hfilter).eq_singleton
  rw [← List.head?_filter, ← List.head?_filter, heq]

/-- A header names one column at most. -/
lemma isFor_unique {c : SheetColumn n} {k l : Column} (hk : c.isFor k = true)
    (hl : c.isFor l = true) : k = l := by
  have hname : k.name = l.name := by
    simp only [SheetColumn.isFor, Column.isHeader, beq_iff_eq] at hk hl
    exact hk.symm.trans hl
  revert hname
  cases k <;> cases l <;> decide

/-- A table is read in the same way whatever the order of its columns, and with columns of other
names in between, if it has no column twice: the result is the same list of rules or the same
refusal.  It is also read like the table that has a blank column in addition for one that is not
there and need not be. -/
theorem readRules_columnOrder (hd : Csv.IsSeparator d) (hx : IsWritten x cs)
    (hplain : ∀ c ∈ cs, c.IsPlain) :
    (∀ (cs' more : List (SheetColumn n)) (y : TableText d), cs'.Perm (cs ++ more) →
      (∀ k, (cs.filter (SheetColumn.isFor k)).length ≤ 1) →
      (∀ c ∈ more, c.IsPlain ∧ ∀ k, c.isFor k = false) → IsWritten y cs' → HasLinesOf x y →
        readRules d x.raw = readRules d y.raw) ∧
    ∀ (k : Column) (c : SheetColumn n) (y : TableText d), k ∉ Column.required →
      (∀ b ∈ cs, b.isFor k = false) → c.isFor k = true → c.IsPlain →
      (∀ i, Text.trim (c.cells i) = []) → IsWritten y (c :: cs) → HasLinesOf x y →
        readRules d x.raw = readRules d y.raw := by
  constructor
  · intro cs' more y hperm hone hmore hy hlines
    -- the reader looks a column up by its header, so only what it finds counts
    have hfind : ∀ k, cs'.find? (SheetColumn.isFor k) = cs.find? (SheetColumn.isFor k) :=
      fun k => find?_eq_of_perm hperm (hone k) fun c hc => (hmore c hc).2 k
    have hplain' : ∀ c ∈ cs', c.IsPlain := by
      intro c hc
      rcases List.mem_append.1 (hperm.mem_iff.1 hc) with h | h
      · exact hplain c h
      · exact (hmore c h).1
    apply readRules_congr hd hx hy hlines hplain hplain'
    · intro k _
      rw [hfind]
    · intro i
      funext k
      rw [lookup, lookup, hfind]
  · intro k c y hrequired habsent hk hc hblank hy hlines
    have hother : ∀ l ≠ k, c.isFor l = false := by
      intro l hne
      rw [← Bool.not_eq_true]
      intro hl
      exact hne (isFor_unique hl hk)
    have hfind : ∀ l ≠ k, (c :: cs).find? (SheetColumn.isFor l) = cs.find? (SheetColumn.isFor l) :=
      fun l hne => List.find?_cons_of_neg (by simp [hother l hne])
    apply readRules_congr hd hx hy hlines hplain (List.forall_mem_cons.2 ⟨hc, hplain⟩)
    · intro l hl
      have hne : l ≠ k := by
        rintro rfl
        exact hrequired hl
      rw [hfind l hne]
    · intro i
      funext l
      -- a column that is left out reads as blank, as the cells of the further column do
      by_cases hl : l = k
      · subst hl
        have hnone : cs.find? (SheetColumn.isFor l) = none :=
          List.find?_eq_none.2 fun b hb => by simp [habsent b hb]
        rw [lookup, lookup, hnone, List.find?_cons_of_pos hk]
        exact (hblank i).symm
      · rw [lookup, lookup, hfind l hl]

instance (c : SheetColumn n) : Decidable c.IsPlain :=
  decidable_of_iff ('\n' ∉ c.header ∧ '\uFEFF' ∉ c.header ∧ ∀ i, '\n' ∉ c.cells i)
    ⟨fun h => ⟨h.1, h.2.1, h.2.2⟩, fun h => ⟨h.header, h.mark, h.cells⟩⟩

/-- A column of a table with two rows. -/
def twoCells (header first second : Text) : SheetColumn 2 :=
  ⟨header, fun i => if i = 0 then first else second⟩

/-- The columns of a table that has an order in its second row that is no number. -/
def orderedColumns : List (SheetColumn 2) :=
  [twoCells "path" "/a" "/b", twoCells "handler" "A,B" "C",
    twoCells "category" "standard" "generic", twoCells "Order" "7" "ten", twoCells "url" "x" "y"]

/-- A table with a header and two rows, each on a line of its own. -/
def threeLines (header first second : RowText comma) : TableText comma where
  blank := []
  header := header
  records := [(⟨.lineFeed, []⟩, first), (⟨.lineFeed, []⟩, second)]
  ending := [.lineFeed]

/-- The table in the order of its columns. -/
def orderedSheet : TableText comma :=
  threeLines (.ofTexts comma ["path", "handler", "category", "Order", "url"] (by decide))
    (.ofTexts comma ["/a", "A,B", "standard", "7", "x"] (by decide))
    (.ofTexts comma ["/b", "C", "generic", "ten", "y"] (by decide))

/-- The table from its last column to its first one, with a column of notes. -/
def reversedSheet : TableText comma :=
  threeLines (.ofTexts comma ["note", "url", "Order", "category", "handler", "path"] (by decide))
    (.ofTexts comma ["n", "x", "7", "standard", "A,B", "/a"] (by decide))
    (.ofTexts comma ["", "y", "ten", "generic", "C", "/b"] (by decide))

/-- The table with a column of timestamps and no text in it. -/
def untimedSheet : TableText comma :=
  threeLines
    (.ofTexts comma ["UPDATED_AT", "path", "handler", "category", "Order", "url"] (by decide))
    (.ofTexts comma ["", "/a", "A,B", "standard", "7", "x"] (by decide))
    (.ofTexts comma ["", "/b", "C", "generic", "ten", "y"] (by decide))

/-- The three sheets are refused for the order on their third line. -/
theorem readRules_reversedSheet :
    orderedSheet.raw = Utf8.encode
        "path,handler,category,Order,url\n/a,\"A,B\",standard,7,x\n/b,C,generic,ten,y\n" ∧
      reversedSheet.raw = Utf8.encode
        "note,url,Order,category,handler,path\nn,x,7,standard,\"A,B\",/a\n,y,ten,generic,C,/b\n" ∧
      readRules comma orderedSheet.raw = .error (.row 3 (.invalidOrder "ten")) ∧
      readRules comma reversedSheet.raw = .error (.row 3 (.invalidOrder "ten")) ∧
      readRules comma untimedSheet.raw = .error (.row 3 (.invalidOrder "ten")) := by
  have hx : IsWritten orderedSheet orderedColumns := ⟨by decide +kernel, by decide +kernel⟩
  have hplain : ∀ c ∈ orderedColumns, c.IsPlain := by decide +kernel
  have hread : readRules comma orderedSheet.raw = .error (.row 3 (.invalidOrder "ten")) := by
    decide +kernel
  obtain ⟨hreversed, huntimed⟩ := readRules_columnOrder (by decide) hx hplain
  refine ⟨by decide +kernel, by decide +kernel, hread, ?_, ?_⟩
  · have hone : ∀ k, (orderedColumns.filter (SheetColumn.isFor k)).length ≤ 1 := by
      intro k
      cases k <;> decide +kernel
    have hnote : ∀ c ∈ [twoCells "note" "n" ""], c.IsPlain ∧ ∀ k, c.isFor k = false := by
      refine List.forall_mem_singleton.2 ⟨by decide +kernel, fun k => ?_⟩
      cases k <;> decide +kernel
    have hy : IsWritten reversedSheet (orderedColumns ++ [twoCells "note" "n" ""]).reverse :=
      ⟨by decide +kernel, by decide +kernel⟩
    have hlines : HasLinesOf orderedSheet reversedSheet := ⟨by decide +kernel, by decide +kernel⟩
    exact (hreversed _ _ reversedSheet (List.reverse_perm _) hone hnote hy hlines).symm.trans hread
  · have hy : IsWritten untimedSheet (twoCells "UPDATED_AT" "" "" :: orderedColumns) :=
      ⟨by decide +kernel, by decide +kernel⟩
    have hlines : HasLinesOf orderedSheet untimedSheet := ⟨by decide +kernel, by decide +kernel⟩
    have hrequired : Column.updatedAt ∉ Column.required := by decide
    exact (huntimed .updatedAt _ untimedSheet hrequired (by decide +kernel) (by decide +kernel)
      (by decide +kernel) (by decide +kernel) hy hlines).symm.trans hread

end NoteLinks.Help
