import Mathlib.Tactic.Common
import NoteLinks.FileSystem
import NoteLinks.Proofs.Cutting
import NoteLinks.Proofs.Results
import NoteLinks.Proofs.Utf8

/-!
# Paths and the files they lead to

A walk that arrives is a chain of steps, each from a directory (`LeadsTo`, `walk_eq_ok_iff`): it
stays, goes up, follows a symbolic link, enters what stands under a name, or ends at a name under
which nothing stands yet.  What is written at the goal of a walk does not change the walk
(`LeadsTo.put`), because no step goes through a file.

A path *holds* some content, or nothing, if a file can be written there and the path leads to a file
with that content, or to nothing (`Holds`).  Such a path is read as its content says
(`Holds.readBytes`, `Holds.readText`, `Holds.isFile_eq_false`), and after writing it holds what was
written (`Holds.writeBytes`).  In a tree, where all that stands stands in a directory (`IsTree`),
these are the paths at which writing succeeds (`exists_holds_of_writeBytes`).
-/

namespace NoteLinks.FileSystem

open Utf8 (Bytes)

variable {fs : FileSystem} {forWriting : Bool} {links : Nat} {place goal rest ahead : List Text}
  {other : List Text} {name path : Text} {node : FileNode} {content : Bytes} {held : Option Bytes}

/-! ### Steps -/

/-- A name under which something can stand in a directory. -/
structure IsName (name : Text) : Prop where
  ne_nil : name ≠ []
  ne_here : name ≠ "."
  ne_up : name ≠ ".."
  not_null : name.contains (Char.ofNat 0) = false
  not_long : isLongName name = false

instance (name : Text) : Decidable (IsName name) :=
  decidable_of_iff (name ≠ [] ∧ name ≠ "." ∧ name ≠ ".." ∧
      name.contains (Char.ofNat 0) = false ∧ isLongName name = false)
    ⟨fun ⟨hnil, hhere, hup, hnull, hlong⟩ => ⟨hnil, hhere, hup, hnull, hlong⟩,
      fun ⟨hnil, hhere, hup, hnull, hlong⟩ => ⟨hnil, hhere, hup, hnull, hlong⟩⟩

/-- Only slashes follow the last name of a path at which a file is to be written. -/
def EndsInSlash (forWriting : Bool) (rest : List Text) : Prop :=
  forWriting = true ∧ rest ≠ [] ∧ rest.all (· == []) = true

/-- Names lead from a place to a goal. -/
inductive LeadsTo (fs : FileSystem) (forWriting : Bool) :
    (links : Nat) → (place ahead goal : List Text) → Prop
  | arrived {links : Nat} {place : List Text} : LeadsTo fs forWriting links place [] place
  | stay {links : Nat} {place rest goal : List Text} {name : Text}
      (hplace : fs.isDirectory place = true) (hname : name = [] ∨ name = ".")
      (hrest : LeadsTo fs forWriting links place rest goal) :
      LeadsTo fs forWriting links place (name :: rest) goal
  | up {links : Nat} {place rest goal : List Text} (hplace : fs.isDirectory place = true)
      (hrest : LeadsTo fs forWriting links place.dropLast rest goal) :
      LeadsTo fs forWriting links place ("..".toList :: rest) goal
  | create {links : Nat} {place : List Text} {name : Text} (hplace : fs.isDirectory place = true)
      (hname : IsName name) (hwriting : forWriting = true)
      (hnode : fs.node? (place ++ [name]) = none) :
      LeadsTo fs forWriting links place [name] (place ++ [name])
  | follow {links : Nat} {place rest goal : List Text} {name target : Text}
      (hplace : fs.isDirectory place = true) (hname : IsName name)
      (hslash : ¬ EndsInSlash forWriting rest)
      (hnode : fs.node? (place ++ [name]) = some (.link target))
      (hrest : LeadsTo fs forWriting links (if isAbsolute target then [] else place)
        (names target ++ rest) goal) :
      LeadsTo fs forWriting (links + 1) place (name :: rest) goal
  | enter {links : Nat} {place rest goal : List Text} {name : Text} {node : FileNode}
      (hplace : fs.isDirectory place = true) (hname : IsName name)
      (hslash : ¬ EndsInSlash forWriting rest)
      (hnode : fs.node? (place ++ [name]) = some node) (hlink : ∀ target, node ≠ .link target)
      (hrest : LeadsTo fs forWriting links (place ++ [name]) rest goal) :
      LeadsTo fs forWriting links place (name :: rest) goal

/-- A directory is left through a name as what stands under the name says. -/
lemma walk_name (hplace : fs.isDirectory place = true) (hname : IsName name)
    (hslash : ¬ EndsInSlash forWriting rest) :
    fs.walk forWriting links place (name :: rest) =
      match fs.node? (place ++ [name]) with
      | none => if forWriting ∧ rest = [] then .ok (place ++ [name]) else .error .notFound
      | some (.link target) =>
        match links with
        | 0 => .error .linkLoop
        | links + 1 =>
          fs.walk forWriting links (if isAbsolute target then [] else place) (names target ++ rest)
      | some _ => fs.walk forWriting links (place ++ [name]) rest := by
  have hdots : ¬ (name = [] ∨ name = ".".toList) := not_or.2 ⟨hname.ne_nil, hname.ne_here⟩
  have hslashes : ¬ (forWriting = true ∧ rest ≠ [] ∧ rest.all (· == []) = true) := hslash
  rewrite [walk, if_neg (by simp [hplace]), if_neg hdots, if_neg hname.ne_up, if_neg hslashes,
    if_neg (Bool.eq_false_iff.1 hname.not_null), if_neg (Bool.eq_false_iff.1 hname.not_long)]
  rfl

/-- A walk arrives where the names lead. -/
lemma walk_eq_ok_iff :
    fs.walk forWriting links place ahead = .ok goal ↔
      LeadsTo fs forWriting links place ahead goal := by
  have isName : ∀ {name : Text}, ¬ (name = [] ∨ name = ".".toList) → ¬ name = "..".toList →
      ¬ name.contains (Char.ofNat 0) = true → ¬ isLongName name = true → IsName name :=
    fun hdots hup hnull hlong => ⟨(not_or.1 hdots).1, (not_or.1 hdots).2, hup,
      Bool.eq_false_iff.2 hnull, Bool.eq_false_iff.2 hlong⟩
  constructor
  · intro h
    -- the cases are the branches of the walk; those that fail leave nothing to show
    fun_induction FileSystem.walk fs forWriting links place ahead with
    | case1 links place =>
      obtain rfl := Except.ok.inj h
      exact .arrived
    | case2 => cases h
    | case3 links place name rest hplace hname ih =>
      exact .stay (by simpa using hplace) hname (ih h)
    | case4 links place rest hplace hdots ih => exact .up (by simpa using hplace) (ih h)
    | case5 => cases h
    | case6 => cases h
    | case7 => cases h
    | case8 links place name rest hplace hdots hup hslash hnull hlong hnode hend =>
      obtain ⟨hwriting, rfl⟩ := hend
      obtain rfl := Except.ok.inj h
      exact .create (by simpa using hplace) (isName hdots hup hnull hlong) hwriting hnode
    | case9 => cases h
    | case10 => cases h
    | case11 place name rest hplace hdots hup hslash hnull hlong target hnode links ih =>
      exact .follow (by simpa using hplace) (isName hdots hup hnull hlong) hslash hnode (ih h)
    | case12 links place name rest hplace hdots hup hslash hnull hlong node hlink hnode ih =>
      exact .enter (by simpa using hplace) (isName hdots hup hnull hlong) hslash hnode hlink (ih h)
  · intro h
    induction h with
    | arrived => rw [walk]
    | stay hplace hname hrest ih => rw [walk, if_neg (by simp [hplace]), if_pos hname, ih]
    | up hplace hrest ih =>
      rw [walk, if_neg (by simp [hplace]), if_neg (by decide), if_pos rfl, ih]
    | create hplace hname hwriting hnode =>
      rw [walk_name hplace hname (fun h => h.2.1 rfl), hnode]
      exact if_pos ⟨hwriting, rfl⟩
    | follow hplace hname hslash hnode hrest ih =>
      rw [walk_name hplace hname hslash, hnode]
      exact ih
    | @enter _ _ _ _ _ node hplace hname hslash hnode hlink hrest ih =>
      rw [walk_name hplace hname hslash, hnode]
      cases node with
      | directory => exact ih
      | file content => exact ih
      | link target => exact absurd rfl (hlink target)

/-- A walk that has names ahead of it is at a directory. -/
lemma LeadsTo.isDirectory (h : fs.LeadsTo forWriting links place ahead goal) (hne : ahead ≠ []) :
    fs.isDirectory place = true := by
  cases h with
  | arrived => exact absurd rfl hne
  | stay hplace => exact hplace
  | up hplace => exact hplace
  | create hplace => exact hplace
  | follow hplace => exact hplace
  | enter hplace => exact hplace

/-! ### Writing at the goal -/

lemma node?_nil (fs : FileSystem) : fs.node? [] = some .directory := by
  rw [node?, if_pos rfl]

/-- The node that was put at a place stands there. -/
lemma node?_put_self (hplace : place ≠ []) : (fs.put place node).node? place = some node := by
  have hfind : ∀ nodes, (setNode place node nodes).find? (·.1 == place) = some (place, node) := by
    intro nodes
    induction nodes with
    | nil => simp [setNode]
    | cons e nodes ih =>
      by_cases he : e.1 = place
      · simp [setNode, he]
      · rw [setNode, if_neg he, List.find?_cons_of_neg (by simpa using he), ih]
  rw [node?, if_neg hplace, put, hfind]
  rfl

/-- At any other place stands what stood there. -/
lemma node?_put_of_ne (hne : goal ≠ place) : (fs.put place node).node? goal = fs.node? goal := by
  have hplace : (place == goal) = false := beq_false_of_ne (Ne.symm hne)
  have hfind : ∀ nodes,
      (setNode place node nodes).find? (·.1 == goal) = nodes.find? (·.1 == goal) := by
    intro nodes
    induction nodes with
    | nil => simp [setNode, hplace]
    | cons e nodes ih =>
      by_cases he : e.1 = place
      · simp [setNode, he, hplace]
      · simp [setNode, he, List.find?_cons, ih]
  rw [node?, node?, put, hfind]

/-- Nothing but a file stands at a place, if anything does. -/
def HasRoom (fs : FileSystem) (place : List Text) : Prop :=
  ∀ node ∈ fs.node? place, ∃ content, node = .file content

/-- All directories are kept where a file is put. -/
lemma HasRoom.isDirectory_put (hroom : fs.HasRoom other) (hplace : fs.isDirectory place = true) :
    (fs.put other (.file content)).isDirectory place = true := by
  have hne : place ≠ other := by
    rintro rfl
    obtain ⟨_, hfile⟩ := hroom .directory (by simpa [isDirectory] using hplace)
    cases hfile
  rw [isDirectory, node?_put_of_ne hne]
  exact hplace

/-- Names lead to the same goal after a file was put somewhere: no step goes through a file. -/
lemma LeadsTo.put (h : fs.LeadsTo forWriting links place ahead goal) (hroom : fs.HasRoom other) :
    (fs.put other (.file content)).LeadsTo forWriting links place ahead goal := by
  have hfile : ∀ {place : List Text} {name : Text}, place ++ [name] = other →
      (fs.put other (.file content)).node? (place ++ [name]) = some (.file content) := by
    rintro place name rfl
    exact node?_put_self (List.append_ne_nil_of_right_ne_nil _ (List.cons_ne_nil _ _))
  have hkeep : ∀ {place : List Text}, fs.isDirectory place = true →
      (fs.put other (.file content)).isDirectory place = true := hroom.isDirectory_put
  induction h with
  | arrived => exact .arrived
  | stay hplace hname _ ih => exact .stay (hkeep hplace) hname ih
  | up hplace _ ih => exact .up (hkeep hplace) ih
  | @create links place name hplace hname hwriting hnode =>
    by_cases hother : place ++ [name] = other
    · -- now a file stands under the last name
      exact .enter (hkeep hplace) hname (fun h => h.2.1 rfl) (hfile hother) (by simp) .arrived
    · exact .create (hkeep hplace) hname hwriting ((node?_put_of_ne hother).trans hnode)
  | @follow links place rest goal name target hplace hname hslash hnode _ ih =>
    have hother : place ++ [name] ≠ other := by
      rintro rfl
      obtain ⟨_, hlink⟩ := hroom _ hnode
      cases hlink
    exact .follow (hkeep hplace) hname hslash ((node?_put_of_ne hother).trans hnode) ih
  | @enter links place rest goal name node hplace hname hslash hnode hlink _ ih =>
    by_cases hother : place ++ [name] = other
    · exact .enter (hkeep hplace) hname hslash (hfile hother) (by simp) ih
    · exact .enter (hkeep hplace) hname hslash ((node?_put_of_ne hother).trans hnode) hlink ih

/-- Where a file can be written the path is read in the same way, or there is nothing yet. -/
lemma LeadsTo.walk_reading (h : fs.LeadsTo true links place ahead goal) :
    fs.walk false links place ahead = .ok goal ∨
      fs.node? goal = none ∧ fs.walk false links place ahead = .error .notFound := by
  have hslash : ∀ rest, ¬ EndsInSlash false rest := fun rest h => Bool.false_ne_true h.1
  induction h with
  | arrived => exact Or.inl (by rw [walk])
  | stay hplace hname _ ih =>
    rw [walk, if_neg (by simp [hplace]), if_pos hname]
    exact ih
  | up hplace _ ih =>
    rw [walk, if_neg (by simp [hplace]), if_neg (by decide), if_pos rfl]
    exact ih
  | create hplace hname _ hnode =>
    rw [walk_name hplace hname (hslash _), hnode]
    exact Or.inr ⟨rfl, rfl⟩
  | follow hplace hname _ hnode _ ih =>
    rw [walk_name hplace hname (hslash _), hnode]
    exact ih
  | @enter _ _ _ _ _ node hplace hname _ hnode hlink _ ih =>
    rw [walk_name hplace hname (hslash _), hnode]
    cases node with
    | directory => exact ih
    | file content => exact ih
    | link target => exact absurd rfl (hlink target)

/-! ### What a path holds -/

/-- A file can be written at the path, which leads to a file with some content or to nothing. -/
def Holds (fs : FileSystem) (path : Text) (held : Option Bytes) : Prop :=
  ∃ place, fs.openAt true path = .ok place ∧ fs.node? place = held.map FileNode.file

/-- A path at which something may be opened. -/
structure IsOpenable (path : Text) : Prop where
  not_null : path.contains (Char.ofNat 0) = false
  not_long : (Utf8.encode path).length ≤ maxPath
  ne_nil : path ≠ []

instance (path : Text) : Decidable (IsOpenable path) :=
  decidable_of_iff (path.contains (Char.ofNat 0) = false ∧
      (Utf8.encode path).length ≤ maxPath ∧ path ≠ [])
    ⟨fun ⟨hnull, hlong, hnil⟩ => ⟨hnull, hlong, hnil⟩,
      fun ⟨hnull, hlong, hnil⟩ => ⟨hnull, hlong, hnil⟩⟩

/-- What is opened is what the names of the path lead to. -/
lemma openAt_eq_walk (h : IsOpenable path) (fs : FileSystem) (forWriting : Bool) :
    fs.openAt forWriting path = fs.walk forWriting maxLinks (fs.start path) (names path) := by
  rw [openAt, if_neg (Bool.eq_false_iff.1 h.not_null), if_neg (Nat.not_lt.2 h.not_long),
    if_neg h.ne_nil]

/-- A path is opened at a place if it may be opened and leads there. -/
lemma openAt_eq_ok_iff :
    fs.openAt forWriting path = .ok place ↔
      IsOpenable path ∧ fs.LeadsTo forWriting maxLinks (fs.start path) (names path) place := by
  constructor
  · intro h
    have hopen : IsOpenable path := by
      unfold openAt at h
      split at h
      · cases h
      · rename_i hnull
        split at h
        · cases h
        · rename_i hlong
          split at h
          · cases h
          · rename_i hne
            exact ⟨Bool.eq_false_iff.2 hnull, Nat.not_lt.1 hlong, hne⟩
    rw [openAt_eq_walk hopen, walk_eq_ok_iff] at h
    exact ⟨hopen, h⟩
  · rintro ⟨hopen, h⟩
    rw [openAt_eq_walk hopen, walk_eq_ok_iff]
    exact h

/-- A path at which a file can be written is read as it is written, or leads to nothing yet. -/
lemma openAt_reading (h : fs.openAt true path = .ok place) :
    fs.openAt false path = .ok place ∨
      fs.node? place = none ∧ fs.openAt false path = .error .notFound := by
  obtain ⟨hopen, hleads⟩ := openAt_eq_ok_iff.1 h
  rw [openAt_eq_walk hopen]
  exact hleads.walk_reading

/-- Content that a path holds is read. -/
lemma Holds.readBytes (h : fs.Holds path (some content)) :
    fs.isFile path = true ∧ fs.readBytes path = .ok content := by
  obtain ⟨place, hplace, hnode⟩ := h
  rcases openAt_reading hplace with hread | ⟨hnone, -⟩
  · constructor
    · rw [isFile, hread]
      simp only [isFileAt, hnode, Option.map_some]
    · refine bind_eq_ok_iff.2 ⟨place, hread, ?_⟩
      rw [hnode]
      rfl
  · rw [hnone] at hnode
    cases hnode

/-- Text that a path holds is read. -/
lemma Holds.readText {t : Text} (h : fs.Holds path (some (Utf8.encode t))) :
    fs.pathExists path = true ∧ fs.readText path = .ok t := by
  obtain ⟨hfile, hread⟩ := h.readBytes
  constructor
  · obtain ⟨place, hplace, -⟩ := bind_eq_ok_iff.1 hread
    rw [pathExists, hplace]
    rfl
  · refine bind_eq_ok_iff.2 ⟨_, hread, ?_⟩
    rw [Utf8.decode?_encode]

lemma Holds.isFile_eq_false (h : fs.Holds path none) : fs.isFile path = false := by
  obtain ⟨place, hplace, hnode⟩ := h
  rcases openAt_reading hplace with hread | ⟨-, hread⟩
  · rw [isFile, hread]
    simp only [isFileAt, hnode, Option.map_none]
  · rw [isFile, hread]

lemma hasRoom_of_node? (h : fs.node? place = held.map FileNode.file) : fs.HasRoom place := by
  intro node hmem
  rw [Option.mem_def, h] at hmem
  obtain ⟨content, -, hfile⟩ := Option.map_eq_some_iff.1 hmem
  exact ⟨content, hfile.symm⟩

/-- A path is opened at the same place after a file was put somewhere. -/
lemma openAt_put (h : fs.openAt forWriting path = .ok place) (hroom : fs.HasRoom other) :
    (fs.put other (.file content)).openAt forWriting path = .ok place := by
  obtain ⟨hopen, hleads⟩ := openAt_eq_ok_iff.1 h
  exact openAt_eq_ok_iff.2 ⟨hopen, hleads.put hroom⟩

/-- What is written at a path is held by it then. -/
lemma Holds.writeBytes (h : fs.Holds path held) (content : Bytes) :
    ∃ fs', fs.writeBytes path content = .ok fs' ∧ fs'.Holds path (some content) := by
  obtain ⟨place, hplace, hnode⟩ := h
  have hdirectory : fs.isDirectory place = false := by
    cases held <;> simp [isDirectory, hnode]
  have hne : place ≠ [] := by
    rintro rfl
    rw [isDirectory, node?_nil] at hdirectory
    exact absurd hdirectory (by decide)
  refine ⟨fs.put place (.file content), ?_, place, ?_, node?_put_self hne⟩
  · rw [FileSystem.writeBytes, hplace]
    exact if_neg (Bool.eq_false_iff.1 hdirectory)
  · exact openAt_put hplace (hasRoom_of_node? hnode)

/-- A path holds what it held after a file was put at another place. -/
lemma Holds.put (h : fs.Holds path held) (hroom : fs.HasRoom other)
    (hother : fs.openAt true path ≠ .ok other) :
    (fs.put other (.file content)).Holds path held := by
  obtain ⟨place, hplace, hnode⟩ := h
  have hne : place ≠ other := by
    rintro rfl
    exact hother hplace
  exact ⟨place, openAt_put hplace hroom, (node?_put_of_ne hne).trans hnode⟩

/-- A name in the root is opened where it stands, or where a file of that name would stand. -/
lemma openAt_root (hname : IsName name) (hslash : '/' ∉ name) (hopen : IsOpenable ('/' :: name))
    (hnode : fs.node? [name] = held.map FileNode.file) :
    fs.openAt true ('/' :: name) = .ok [name] := by
  have hnames : names ('/' :: name) = [[], name] := by
    have hsplit : names ([] ++ '/' :: name) = names [] ++ names name := Text.splitAt_append '/' _ _
    rw [List.nil_append, names, names, names, Text.splitAt_of_not_mem hslash] at hsplit
    exact hsplit
  have hroot : fs.isDirectory [] = true := by rw [isDirectory, node?_nil]; rfl
  have hleads : fs.LeadsTo true maxLinks [] [name] [name] := by
    cases held with
    | none => exact .create hroot hname rfl hnode
    | some content =>
      exact .enter hroot hname (fun h => h.2.1 rfl) hnode (fun target => by simp) .arrived
  rw [openAt_eq_ok_iff, hnames]
  exact ⟨hopen, .stay hroot (Or.inl rfl) hleads⟩

/-! ### Trees -/

/-- What stands in the file system stands in a directory. -/
def IsTree (fs : FileSystem) : Prop :=
  ∀ place, (fs.node? place).isSome = true → fs.isDirectory place.dropLast = true

/-- In a tree no walk ends at a symbolic link, unless it begins there. -/
lemma LeadsTo.ne_link (h : fs.LeadsTo forWriting links place ahead goal) (htree : fs.IsTree)
    (hplace : ∀ target, fs.node? place ≠ some (.link target)) :
    ∀ target, fs.node? goal ≠ some (.link target) := by
  have hdirectory : ∀ {place : List Text}, fs.isDirectory place = true →
      fs.node? place = some .directory := fun h => eq_of_beq h
  induction h with
  | arrived => exact hplace
  | stay _ _ _ ih => exact ih hplace
  | @up _ place _ _ hup _ ih =>
    have hparent := htree place (by rw [hdirectory hup]; rfl)
    exact ih fun target => by simp [hdirectory hparent]
  | create _ _ _ hnode => exact fun target => by simp [hnode]
  | @follow _ place rest _ _ target hup _ _ _ _ ih =>
    refine ih fun target => ?_
    split
    · simp [node?_nil]
    · simp [hdirectory hup]
  | enter _ _ _ hnode hlink _ ih =>
    refine ih fun target => ?_
    rw [hnode]
    exact fun h => hlink target (Option.some.inj h)

/-- In a tree a file can be written where something was written, and what was written is held there
then. -/
lemma exists_holds_of_writeBytes (htree : fs.IsTree) {fs' : FileSystem}
    (h : fs.writeBytes path content = .ok fs') :
    (∃ held, fs.Holds path held) ∧ fs'.Holds path (some content) := by
  obtain ⟨place, hplace, hwrite⟩ := bind_eq_ok_iff.1 h
  have hleads := (openAt_eq_ok_iff.1 hplace).2
  have hstart : fs.node? (fs.start path) = some .directory :=
    eq_of_beq (hleads.isDirectory (Text.splitWhere_ne_nil _ _))
  have hlink := hleads.ne_link htree fun target => by simp [hstart]
  obtain ⟨held, hheld⟩ : ∃ held, fs.Holds path held := by
    cases hnode : fs.node? place with
    | none => exact ⟨none, place, hplace, hnode⟩
    | some node =>
      cases node with
      | directory => simp [isDirectory, hnode] at hwrite
      | file content => exact ⟨some content, place, hplace, hnode⟩
      | link target => exact absurd hnode (hlink target)
  obtain ⟨fs'', hwrite', hholds⟩ := hheld.writeBytes content
  obtain rfl := Except.ok.inj (h.symm.trans hwrite')
  exact ⟨⟨held, hheld⟩, hholds⟩

end NoteLinks.FileSystem
