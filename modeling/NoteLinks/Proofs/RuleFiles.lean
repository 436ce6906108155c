import NoteLinks.Command
import NoteLinks.Proofs.FileSystems
import NoteLinks.Proofs.RuleSheets

/-!
# Rules files and tables in memory

Importing sheets into a rules file does what importing them into a table in memory does.  A run
takes both through the same calls (`ImportRun`): it begins where there is no file and the table is
empty, and between the calls files may change in any way that spares the rules file.  Along a run
the file holds what the table would be exported as (`ImportRun.mirrors`); each call keeps that
(`Mirrors.call`), because what was imported is plain and written rules are read back.

So each call answers alike on both sides, a call that fails changes nothing, and the rules of the
file are those of the table (`ImportRun.agrees`).  Paths that lead elsewhere hold after a call what
they held before (`ImportCall.spares`), so a run may read several sheets from the same files.
-/

namespace NoteLinks.Command

open Help (Rule Table ImportSummary comma fileRules readRules writeRules)
open Utf8 (Bytes)

variable {fs fs' : FileSystem} {rules : Text} {t : Table} {content : Bytes}

/-! ### Calls -/

/-- What a sheet is imported with: the path that it is read from, its delimiter, and whether its
rules replace those that are there. -/
structure ImportCall where
  sheet : Text
  delimiter : UInt8
  clear : Bool

/-- The files after an import into a rules file, and its answer. -/
def ImportCall.onFile (call : ImportCall) (fs : FileSystem) (rules : Text) :
    FileSystem × Except CommandFault ImportSummary :=
  match importRules fs rules call.sheet call.delimiter call.clear with
  | .ok (fs', summary) => (fs', .ok summary)
  | .error fault => (fs, .error fault)

/-- The table after an import of a sheet, and its answer. -/
def ImportCall.onTable (call : ImportCall) (t : Table) (content : Bytes) :
    Table × Except Failure ImportSummary :=
  match t.importSheet call.delimiter call.clear content with
  | .ok (t', summary) => (t', .ok summary)
  | .error fault => (t, .error fault)

/-- Files may have changed, but the path holds what it held. -/
def Spares (path : Text) (fs fs' : FileSystem) : Prop :=
  ∀ held, fs.Holds path held → fs'.Holds path held

lemma spares_put {other : List Text} (hroom : fs.HasRoom other)
    (hother : fs.openAt true rules ≠ .ok other) :
    Spares rules fs (fs.put other (.file content)) :=
  fun _ hheld => hheld.put hroom hother

/-- An import that succeeds has saved a table in its last step. -/
lemma exists_saveTable_of_importRules {sheet : Text} {d : UInt8} {c : Bool}
    {summary : ImportSummary} (h : importRules fs rules sheet d c = .ok (fs', summary)) :
    ∃ t, saveTable fs rules t = .ok fs' := by
  have hlast : ∀ start : Table, (readSheet fs sheet >>= fun content =>
      (start.importSheet d c content).mapError (.importing sheet) >>= fun imported =>
        (saveTable fs rules imported.1).map (·, imported.2)) = .ok (fs', summary) →
      ∃ t, saveTable fs rules t = .ok fs' := by
    intro start hsteps
    obtain ⟨content, -, hsteps⟩ := bind_eq_ok_iff.1 hsteps
    obtain ⟨imported, -, hsteps⟩ := bind_eq_ok_iff.1 hsteps
    obtain ⟨saved, hsave, hpair⟩ := map_eq_ok_iff.1 hsteps
    exact ⟨imported.1, hsave.trans (congrArg Except.ok (Prod.mk.inj hpair).1)⟩
  unfold importRules at h
  cases c with
  | true => exact hlast .empty h
  | false =>
    obtain ⟨start, -, h⟩ := bind_eq_ok_iff.1 h
    exact hlast start h

/-- A call writes where the rules file is opened, or nowhere. -/
lemma ImportCall.exists_onFile (call : ImportCall) {place : List Text}
    (hplace : fs.openAt true rules = .ok place) :
    (call.onFile fs rules).1 = fs ∨
      ∃ written, (call.onFile fs rules).1 = fs.put place (.file written) := by
  unfold ImportCall.onFile
  split
  · rename_i fs' summary himport
    obtain ⟨t, hsave⟩ := exists_saveTable_of_importRules himport
    obtain ⟨rows, -, hwrite⟩ := bind_eq_ok_iff.1 hsave
    obtain ⟨goal, hgoal, hwrite⟩ := bind_eq_ok_iff.1 (mapError_eq_ok_iff.1 hwrite)
    obtain rfl := Except.ok.inj (hplace.symm.trans hgoal)
    split at hwrite
    · cases hwrite
    · exact Or.inr ⟨_, (Except.ok.inj hwrite).symm⟩
  · exact Or.inl rfl

/-- A call spares every path but those that lead to the rules file. -/
lemma ImportCall.spares (call : ImportCall) {held : Option Bytes} {path : Text}
    (hrules : fs.Holds rules held) (hpath : fs.openAt true path ≠ fs.openAt true rules) :
    Spares path fs (call.onFile fs rules).1 := by
  obtain ⟨place, hplace, hnode⟩ := hrules
  rcases call.exists_onFile hplace with hsame | ⟨written, hput⟩
  · rw [hsame]
    exact fun _ hheld => hheld
  · rw [hput]
    exact spares_put (FileSystem.hasRoom_of_node? hnode) (hplace ▸ hpath)

/-- Where a path leads is not changed by a call. -/
lemma ImportCall.openAt_onFile (call : ImportCall) {held : Option Bytes} {path : Text}
    {place : List Text} (hrules : fs.Holds rules held) (hpath : fs.openAt true path = .ok place) :
    (call.onFile fs rules).1.openAt true path = .ok place := by
  obtain ⟨goal, hgoal, hnode⟩ := hrules
  rcases call.exists_onFile hgoal with hsame | ⟨written, hput⟩
  · rw [hsame, hpath]
  · rw [hput]
    exact FileSystem.openAt_put hpath (FileSystem.hasRoom_of_node? hnode)

/-- The files and the table after the same calls on both, the first of them on a rules file that
does not exist and on an empty table. -/
inductive ImportRun (rules : Text) : FileSystem → Table → Prop
  | start {fs : FileSystem} (habsent : fs.Holds rules none) : ImportRun rules fs .empty
  | elsewhere {fs fs' : FileSystem} {t : Table} (run : ImportRun rules fs t)
      (hspares : Spares rules fs fs') : ImportRun rules fs' t
  | call {fs : FileSystem} {t : Table} {content : Bytes} (run : ImportRun rules fs t)
      (call : ImportCall) (hsheet : fs.readBytes call.sheet = .ok content) :
      ImportRun rules (call.onFile fs rules).1 (call.onTable t content).1

/-! ### The rules file mirrors the table -/

/-- There is no rules file and the table is empty, or the file holds the sheet of the table's rules,
which are plain. -/
inductive Mirrors (rules : Text) (fs : FileSystem) : Table → Prop
  | absent (habsent : fs.Holds rules none) : Mirrors rules fs .empty
  | written {rows : List Rule} (hplain : ∀ r ∈ rows, r.IsPlain)
      (hheld : fs.Holds rules (some (writeRules comma rows))) : Mirrors rules fs ⟨some rows⟩

lemma fileRules_written {rows : List Rule} (hplain : ∀ r ∈ rows, r.IsPlain)
    (hheld : fs.Holds rules (some (writeRules comma rows))) :
    fs.isFile rules = true ∧ fileRules fs rules comma = .ok rows := by
  obtain ⟨hfile, hread⟩ := hheld.readBytes
  refine ⟨hfile, ?_⟩
  rw [fileRules, if_pos hfile, hread]
  exact Help.readRules_writeRules (by decide) hplain

/-- The rules of a file that mirrors a table are those of the table. -/
lemma Mirrors.fileRules_eq (h : Mirrors rules fs t) :
    fs.Holds rules none ∧ t = .empty ∧
        fileRules fs rules comma = .error (.tableUnavailable rules) ∨
      fs.isFile rules = true ∧ fileRules fs rules comma = t.rows := by
  cases h with
  | absent habsent =>
    refine Or.inl ⟨habsent, rfl, ?_⟩
    rw [fileRules, habsent.isFile_eq_false]
    rfl
  | written hplain hheld => exact Or.inr (fileRules_written hplain hheld)

/-- The table of a file that mirrors a table is this table. -/
lemma Mirrors.rulesTable_eq (h : Mirrors rules fs t) : rulesTable fs rules = .ok t := by
  rcases h.fileRules_eq with ⟨-, rfl, hrules⟩ | ⟨-, hrules⟩
  · rw [rulesTable, hrules]
  · cases h with
    | absent => rw [rulesTable, hrules]; rfl
    | written => rw [rulesTable, hrules]; rfl

/-- A sheet is imported into the table of the rules file, and then the file is written. -/
lemma importRules_eq {sheet : Text} {d : UInt8} {c : Bool}
    (htable : rulesTable fs rules = .ok t) (hsheet : fs.readBytes sheet = .ok content) :
    importRules fs rules sheet d c =
      ((t.importSheet d c content).mapError (.importing sheet) >>= fun (t', summary) =>
        (saveTable fs rules t').map (·, summary)) := by
  have hcontent : readSheet fs sheet = .ok content := by rw [readSheet, hsheet]
  cases c with
  | true =>
    -- what is imported into a cleared table does not depend on what it held
    have hclear : Table.empty.importSheet d true content = t.importSheet d true content := rfl
    rw [← hclear]
    simp only [importRules, if_true, hcontent]
    rfl
  | false =>
    simp only [importRules, htable, hcontent]
    rfl

/-- The rules of a table after an import are those that it had or that were imported. -/
lemma isPlain_of_importSheet {rows : List Rule} {d : UInt8} {clear : Bool} {t' : Table}
    {summary : ImportSummary} (hplain : ∀ r ∈ rows, r.IsPlain)
    (h : Table.importSheet ⟨some rows⟩ d clear content = .ok (t', summary)) :
    ∃ rows', t' = ⟨some rows'⟩ ∧ ∀ r ∈ rows', r.IsPlain := by
  obtain ⟨new, hnew, himport⟩ := bind_eq_ok_iff.1 h
  have hread := Help.isPlain_of_mem_readRules hnew
  rw [Except.ok.injEq, Prod.mk.injEq] at himport
  rw [← himport.1]
  cases clear with
  | true => exact ⟨new, rfl, hread⟩
  | false =>
    refine ⟨rows ++ new, rfl, fun r hr => ?_⟩
    rcases List.mem_append.1 hr with hr | hr
    · exact hplain r hr
    · exact hread r hr

/-- A rules file that mirrors a table holds something or nothing, and the table's rules are
plain. -/
lemma Mirrors.exists_rows (h : Mirrors rules fs t) :
    ∃ held rows, fs.Holds rules held ∧ t = ⟨some rows⟩ ∧ ∀ r ∈ rows, r.IsPlain := by
  cases h with
  | absent habsent => exact ⟨none, [], habsent, rfl, by simp⟩
  | written hplain hheld => exact ⟨_, _, hheld, rfl, hplain⟩

/-- Where a rules file can be written it holds the sheet of a table that was saved. -/
lemma exists_saveTable {held : Option Bytes} (hheld : fs.Holds rules held) (rows : List Rule) :
    ∃ fs', saveTable fs rules ⟨some rows⟩ = .ok fs' ∧
      fs'.Holds rules (some (writeRules comma rows)) := by
  obtain ⟨fs', hwrite, hheld'⟩ := hheld.writeBytes (writeRules comma rows)
  refine ⟨fs', ?_, hheld'⟩
  rw [saveTable]
  exact bind_eq_ok_iff.2 ⟨rows, rfl, mapError_eq_ok_iff.2 hwrite⟩

/-! ### Steps of a run -/

/-- A call does on a rules file what it does on a table: both answer alike; if they fail, neither
file nor table changes, and if they do not, the file has the rules of the table. -/
def ImportCall.Agrees (call : ImportCall) (rules : Text) (fs : FileSystem) (t : Table)
    (content : Bytes) : Prop :=
  (call.onFile fs rules).2 = (call.onTable t content).2.mapError (.importing call.sheet) ∧
    ((call.onTable t content).2.isOk = false →
      (call.onFile fs rules).1 = fs ∧ (call.onTable t content).1 = t) ∧
    ((call.onTable t content).2.isOk = true →
      (call.onFile fs rules).1.isFile rules = true ∧
        fileRules (call.onFile fs rules).1 rules comma = (call.onTable t content).1.rows)

/-- A call on a rules file that mirrors a table does what it does on the table and keeps the
mirror. -/
lemma Mirrors.call (h : Mirrors rules fs t) (call : ImportCall)
    (hsheet : fs.readBytes call.sheet = .ok content) :
    call.Agrees rules fs t content ∧
      Mirrors rules (call.onFile fs rules).1 (call.onTable t content).1 := by
  have hfile := importRules_eq (d := call.delimiter) (c := call.clear) h.rulesTable_eq hsheet
  obtain ⟨held, rows, hheld, rfl, hplain⟩ := h.exists_rows
  cases himport : Table.importSheet ⟨some rows⟩ call.delimiter call.clear content with
  | error fault =>
    -- a call that fails leaves the file and the table as they are
    have htable : call.onTable ⟨some rows⟩ content = (⟨some rows⟩, .error fault) := by
      rw [ImportCall.onTable, himport]
    have hfail : call.onFile fs rules = (fs, .error (.importing call.sheet fault)) := by
      rw [ImportCall.onFile, hfile, himport]
      rfl
    rw [ImportCall.Agrees, htable, hfail]
    exact ⟨⟨rfl, fun _ => ⟨rfl, rfl⟩, fun hok => absurd hok (by simp [Except.isOk, Except.toBool])⟩,
      h⟩
  | ok imported =>
    obtain ⟨t', summary⟩ := imported
    obtain ⟨rows', rfl, hplain'⟩ := isPlain_of_importSheet hplain himport
    -- saving cannot fail where a rules file can be written, and the file then holds the new rules
    obtain ⟨fs', hsave, hheld'⟩ := exists_saveTable hheld rows'
    have htable : call.onTable ⟨some rows⟩ content = (⟨some rows'⟩, .ok summary) := by
      rw [ImportCall.onTable, himport]
    have hdone : call.onFile fs rules = (fs', .ok summary) := by
      have hresult : importRules fs rules call.sheet call.delimiter call.clear =
          .ok (fs', summary) := by
        rw [hfile, himport]
        exact bind_eq_ok_iff.2 ⟨_, rfl, congrArg (Except.map (·, summary)) hsave⟩
      rw [ImportCall.onFile, hresult]
    rw [ImportCall.Agrees, htable, hdone]
    exact ⟨⟨rfl, fun herror => absurd herror (by simp [Except.isOk, Except.toBool]),
      fun _ => fileRules_written hplain' hheld'⟩, .written hplain' hheld'⟩

/-- Files that spare the rules file keep the mirror. -/
lemma Mirrors.elsewhere (h : Mirrors rules fs t) (hspares : Spares rules fs fs') :
    Mirrors rules fs' t := by
  cases h with
  | absent habsent => exact .absent (hspares _ habsent)
  | written hplain hheld => exact .written hplain (hspares _ hheld)

/-- Along a run the rules file mirrors the table. -/
lemma ImportRun.mirrors (run : ImportRun rules fs t) : Mirrors rules fs t := by
  induction run with
  | start habsent => exact .absent habsent
  | elsewhere _ hspares ih => exact ih.elsewhere hspares
  | call _ call hsheet ih => exact (ih.call call hsheet).2

/-- Importing into a rules file refines importing into a table: at every moment of a run a call
does on the file what it does on the table; there is no rules file and the table is empty, or the
rules of the file are those of the table; and every help page is found by either. -/
theorem ImportRun.agrees (run : ImportRun rules fs t) :
    (∀ (call : ImportCall) (content : Bytes), fs.readBytes call.sheet = .ok content →
      call.Agrees rules fs t content) ∧
    (fs.Holds rules none ∧ t = .empty ∨
      fs.isFile rules = true ∧ fileRules fs rules comma = t.rows) ∧
    ∀ (settings : HelpSettings) (route : Help.Route),
      helpUrl fs settings rules comma route = Help.helpUrl settings t.rows route := by
  have hmirrors := run.mirrors
  refine ⟨fun call content hsheet => ?_, ?_, fun settings route => ?_⟩
  · exact (hmirrors.call call hsheet).1
  · rcases hmirrors.fileRules_eq with ⟨habsent, hempty, -⟩ | hfile
    · exact Or.inl ⟨habsent, hempty⟩
    · exact Or.inr hfile
  · rcases hmirrors.fileRules_eq with ⟨-, rfl, hrules⟩ | ⟨-, hrules⟩
    · -- no rule and no rules lead to the same default
      rw [helpUrl, hrules]
      rfl
    · rw [helpUrl, hrules]

/-- A sheet with semicolons that states a rule and quotes its address. -/
def homeSheet : Bytes := Utf8.encode "Path;Handler;Category;URL\n;home;generic;\"a;b\"\n"

/-- A sheet with commas that states another rule. -/
def searchSheet : Bytes := Utf8.encode "category,handler,path,url\r\nstandard,search,/find, help \r\n"

/-- A sheet with a category that does not exist. -/
def faultySheet : Bytes := Utf8.encode "path,handler,category,url\n,home,nope,c\n"

/-- Files that hold the three sheets and nothing else. -/
def sheetFiles : FileSystem :=
  ⟨[(["home.csv"], .file homeSheet), (["search.csv"], .file searchSheet),
    (["faulty.csv"], .file faultySheet)], []⟩

def homeCall : ImportCall := ⟨"/home.csv", 59, false⟩

def searchCall : ImportCall := ⟨"/search.csv", 44, false⟩

/-- Clearing the rules is asked for, but the sheet has a fault. -/
def faultyCall : ImportCall := ⟨"/faulty.csv", 44, true⟩

/-- The rules that the sheets without a fault state. -/
def importedRules : List Rule :=
  [⟨[], "home", [], [], [], .generic, 0, "a;b", none⟩,
    ⟨"/find", "search", [], [], [], .standard, 0, "help", none⟩]

/-- The first sheet is imported into a rules file that did not exist, the second one is added to the
rules that were written then, and the third one fails and leaves the file as it is. -/
theorem importRun_agrees_threeCalls :
    ∃ fs t, ImportRun "/rules.csv" fs t ∧ t.rows = .ok importedRules ∧
      fileRules fs "/rules.csv" comma = .ok importedRules ∧
      fs.readBytes faultyCall.sheet = .ok faultySheet ∧
      faultyCall.Agrees "/rules.csv" fs t faultySheet ∧
      (faultyCall.onTable t faultySheet).2.isOk = false ∧
      (faultyCall.onFile fs "/rules.csv").1 = fs := by
  have hnames : ∀ name ∈ (["rules.csv", "home.csv", "search.csv", "faulty.csv"] : List Text),
      FileSystem.IsName name ∧ '/' ∉ name ∧ FileSystem.IsOpenable ('/' :: name) := by decide
  have hopen : ∀ name ∈ (["rules.csv", "home.csv", "search.csv", "faulty.csv"] : List Text),
      ∀ held : Option Bytes, sheetFiles.node? [name] = held.map FileNode.file →
        sheetFiles.openAt true ('/' :: name) = .ok [name] := by
    intro name hmem held hnode
    obtain ⟨hname, hslash, hpath⟩ := hnames name hmem
    exact FileSystem.openAt_root hname hslash hpath hnode
  have hrules : sheetFiles.openAt true "/rules.csv" = .ok ["rules.csv"] :=
    hopen "rules.csv" (by decide) none (by decide)
  have hhome : sheetFiles.openAt true homeCall.sheet = .ok ["home.csv"] :=
    hopen "home.csv" (by decide) (some homeSheet) (by decide)
  have hsearch : sheetFiles.openAt true searchCall.sheet = .ok ["search.csv"] :=
    hopen "search.csv" (by decide) (some searchSheet) (by decide)
  have hfaulty : sheetFiles.openAt true faultyCall.sheet = .ok ["faulty.csv"] :=
    hopen "faulty.csv" (by decide) (some faultySheet) (by decide)
  -- the first call, on no rules file
  have habsent : sheetFiles.Holds "/rules.csv" none := ⟨_, hrules, by decide⟩
  have hhome_held : sheetFiles.Holds homeCall.sheet (some homeSheet) := ⟨_, hhome, by decide⟩
  have hfirst := ImportRun.call (.start habsent) homeCall hhome_held.readBytes.2
  -- the second one, on the file that the first one has written
  have hsearch_held := homeCall.spares habsent (by rw [hsearch, hrules]; decide) (some searchSheet)
    ⟨_, hsearch, by decide⟩
  have hsecond := ImportRun.call hfirst searchCall hsearch_held.readBytes.2
  -- the third one, which fails
  obtain ⟨held, _, hheld, -⟩ := hfirst.mirrors.exists_rows
  have hfaulty_held := searchCall.spares hheld
    (by rw [homeCall.openAt_onFile habsent hfaulty, homeCall.openAt_onFile habsent hrules]; decide)
    (some faultySheet)
    (homeCall.spares habsent (by rw [hfaulty, hrules]; decide) _ ⟨_, hfaulty, by decide⟩)
  obtain ⟨hagrees, hrows, -⟩ := ImportRun.agrees hsecond
  have hfails := hagrees faultyCall faultySheet hfaulty_held.readBytes.2
  have htable : (searchCall.onTable (homeCall.onTable .empty homeSheet).1 searchSheet).1 =
      ⟨some importedRules⟩ := by decide +kernel
  have hfault : (faultyCall.onTable ⟨some importedRules⟩ faultySheet).2.isOk = false := by
    decide +kernel
  rw [htable] at hsecond hrows hfails
  refine ⟨_, _, hsecond, rfl, ?_, hfaulty_held.readBytes.2, hfails, hfault, (hfails.2.1 hfault).1⟩
  rcases hrows with ⟨-, hempty⟩ | ⟨-, hrows⟩
  · cases hempty
  · exact hrows

end NoteLinks.Command
