import NoteLinks.Proofs.Cutting
import NoteLinks.Proofs.FileSystems
import NoteLinks.PublicFile

/-!
# The sandbox of public files

A request for a public file is answered with an image strictly below the sandbox, or it is refused;
a request that leaves the sandbox by its wording is refused whatever files there are, and the type
of a file is told only if the file lies in the sandbox (`resolve_confined`).

A place is *real* if it is reached from the root without symbolic links (`IsReal`).  Walks lead from
real places to real places (`LeadsTo.isReal`), and the path of a real place leads to that place
(`canonical_pathOf`); more generally what is named below a real place is what its names lead to from
there (`canonical_below`).
-/

namespace NoteLinks

namespace FileSystem

variable {fs : FileSystem} {forWriting : Bool} {links : Nat}
  {place goal root ahead rest : List Text} {name path : Text}

/-! ### Real places -/

/-- A place that is reached from the root through directories, without symbolic links. -/
inductive IsReal (fs : FileSystem) : List Text → Prop
  | root : IsReal fs []
  | enter {place : List Text} {name : Text} {node : FileNode} (hplace : IsReal fs place)
      (hdirectory : fs.isDirectory place = true) (hname : IsName name) (hslash : '/' ∉ name)
      (hnode : fs.node? (place ++ [name]) = some node) (hlink : ∀ target, node ≠ .link target) :
      IsReal fs (place ++ [name])

lemma IsReal.dropLast (h : fs.IsReal place) : fs.IsReal place.dropLast := by
  cases h with
  | root => exact .root
  | enter hplace =>
    rw [List.dropLast_concat]
    exact hplace

lemma not_mem_of_mem_names (h : name ∈ names path) : '/' ∉ name := by
  intro hslash
  have hmem := (Text.exists_mem_splitWhere_iff (p := (· == '/'))).1 ⟨name, h, hslash⟩
  exact absurd hmem.2 (by decide)

lemma exists_mem_names {c : Char} (h : c ∈ path) (hc : c ≠ '/') : ∃ name ∈ names path, c ∈ name :=
  (Text.exists_mem_splitWhere_iff (p := (· == '/'))).2 ⟨h, beq_false_of_ne hc⟩

lemma IsName.null_not_mem (h : IsName name) : Char.ofNat 0 ∉ name := by
  have hnull := h.not_null
  rwa [List.contains_eq_mem, decide_eq_false_iff_not] at hnull

/-- A walk to something that exists leads from a real place to a real place. -/
lemma LeadsTo.isReal (h : fs.LeadsTo false links place ahead goal) (hplace : fs.IsReal place)
    (hahead : ∀ name ∈ ahead, '/' ∉ name) : fs.IsReal goal := by
  induction h with
  | arrived => exact hplace
  | stay _ _ _ ih => exact ih hplace (List.forall_mem_cons.1 hahead).2
  | up _ _ ih => exact ih hplace.dropLast (List.forall_mem_cons.1 hahead).2
  | create _ _ hwriting => cases hwriting
  | @follow links place rest goal name target _ _ _ _ _ ih =>
    refine ih ?_ ?_
    · split
      · exact .root
      · exact hplace
    · intro n hn
      rcases List.mem_append.1 hn with hn | hn
      · exact not_mem_of_mem_names hn
      · exact (List.forall_mem_cons.1 hahead).2 n hn
  | enter hdirectory hname _ hnode hlink _ ih =>
    obtain ⟨hslash, hahead⟩ := List.forall_mem_cons.1 hahead
    exact ih (.enter hplace hdirectory hname hslash hnode hlink) hahead

/-- The names of a real place lead to it. -/
lemma IsReal.walk_append (h : fs.IsReal place) :
    fs.walk false links [] (place ++ rest) = fs.walk false links place rest := by
  induction h generalizing rest with
  | root => rfl
  | @enter place name node _ hdirectory hname _ hnode hlink ih =>
    have hslash : ¬ EndsInSlash false rest := fun h => Bool.false_ne_true h.1
    rw [List.append_assoc, List.singleton_append, ih, walk_name hdirectory hname hslash, hnode]
    cases node with
    | directory => rfl
    | file content => rfl
    | link target => exact absurd rfl (hlink target)

lemma walk_root_nil :
    fs.walk forWriting links [] ([] :: ahead) = fs.walk forWriting links [] ahead := by
  rw [walk, if_neg (by simp [isDirectory, node?_nil]), if_pos (Or.inl rfl)]

/-! ### Paths of real places -/

/-- The names on the way to a real place are names between slashes. -/
lemma IsReal.isName_of_mem (h : fs.IsReal place) :
    ∀ name ∈ place, IsName name ∧ '/' ∉ name := by
  induction h with
  | root => simp
  | enter _ _ hname hslash _ _ ih =>
    intro n hn
    rcases List.mem_append.1 hn with hn | hn
    · exact ih n hn
    · rw [List.mem_singleton.1 hn]
      exact ⟨hname, hslash⟩

/-- The path of a place begins with a slash, and the names of the place follow. -/
lemma IsReal.names_pathOf (h : fs.IsReal place) :
    names (pathOf place) = [] :: if place = [] then [[]] else place := by
  have hsplit : names (pathOf place) = [] :: Text.splitAt '/' (Text.join "/" place) := rfl
  rw [hsplit]
  by_cases hplace : place = []
  · subst hplace
    rfl
  · rw [if_neg hplace]
    exact congrArg ([] :: ·) (Text.splitAt_join hplace fun n hn => (h.isName_of_mem n hn).2)

/-- The names of the path of a real place lead to it. -/
lemma IsReal.walk_pathOf (h : fs.IsReal place) :
    fs.walk false links [] (names (pathOf place) ++ rest) = fs.walk false links place rest := by
  rw [h.names_pathOf, List.cons_append, walk_root_nil]
  by_cases hplace : place = []
  · subst hplace
    exact walk_root_nil
  · rw [if_neg hplace]
    exact h.walk_append

/-- The path of a real place holds no null character. -/
lemma IsReal.null_not_mem (h : fs.IsReal place) : Char.ofNat 0 ∉ pathOf place := by
  intro hnull
  obtain ⟨n, hn, hmem⟩ := exists_mem_names hnull (by decide)
  rw [h.names_pathOf, List.mem_cons] at hn
  rcases hn with rfl | hn
  · simp at hmem
  · split at hn
    · rw [List.mem_singleton.1 hn] at hmem
      simp at hmem
    · exact (h.isName_of_mem n hn).1.null_not_mem hmem

lemma canonical_of_isAbsolute (hpath : isAbsolute path = true) (hnull : Char.ofNat 0 ∉ path) :
    fs.canonical path = fs.walk false maxLinks [] (names path) := by
  have hne : path ≠ [] := by
    rintro rfl
    exact absurd hpath (by decide)
  have hcontains : ¬ path.contains (Char.ofNat 0) = true := by simpa using hnull
  rw [canonical, if_neg hcontains, if_neg hne, start, if_pos hpath]

/-- The path of a real place leads to it. -/
lemma IsReal.canonical_pathOf (h : fs.IsReal place) : fs.canonical (pathOf place) = .ok place := by
  have hwalk : fs.walk false maxLinks [] (names (pathOf place) ++ []) =
      fs.walk false maxLinks place [] := h.walk_pathOf
  rw [List.append_nil] at hwalk
  rw [canonical_of_isAbsolute rfl h.null_not_mem, hwalk, walk]

/-- A path that is named below a real place leads where its names lead from there. -/
lemma IsReal.canonical_below (h : fs.IsReal place) (hnull : Char.ofNat 0 ∉ path) :
    fs.canonical (pathOf place ++ "/" ++ path) = fs.walk false maxLinks place (names path) := by
  have hpath : pathOf place ++ "/" ++ path = pathOf place ++ '/' :: path := by simp
  have hnames : names (pathOf place ++ '/' :: path) = names (pathOf place) ++ names path :=
    Text.splitAt_append '/' _ _
  have habsent : Char.ofNat 0 ∉ pathOf place ++ '/' :: path := by
    rw [List.mem_append, List.mem_cons]
    rintro (hmem | hmem | hmem)
    · exact h.null_not_mem hmem
    · exact absurd hmem (by decide)
    · exact hnull hmem
  rw [hpath, canonical_of_isAbsolute rfl habsent, hnames, h.walk_pathOf]

/-- The names of a walk that arrives hold no null character. -/
lemma LeadsTo.null_not_mem (h : fs.LeadsTo forWriting links place ahead goal) :
    ∀ name ∈ ahead, Char.ofNat 0 ∉ name := by
  induction h with
  | arrived => simp
  | stay _ hname _ ih =>
    refine List.forall_mem_cons.2 ⟨?_, ih⟩
    rcases hname with rfl | rfl <;> decide
  | up _ _ ih => exact List.forall_mem_cons.2 ⟨by decide, ih⟩
  | create _ hname => exact List.forall_mem_cons.2 ⟨hname.null_not_mem, by simp⟩
  | follow _ hname _ _ _ ih =>
    exact List.forall_mem_cons.2
      ⟨hname.null_not_mem, fun n hn => ih n (List.mem_append_right _ hn)⟩
  | enter _ hname _ _ _ _ ih => exact List.forall_mem_cons.2 ⟨hname.null_not_mem, ih⟩

lemma LeadsTo.null_not_mem_path (h : fs.LeadsTo forWriting links place (names path) goal) :
    Char.ofNat 0 ∉ path := by
  intro hnull
  obtain ⟨n, hn, hmem⟩ := exists_mem_names hnull (by decide)
  exact h.null_not_mem n hn hmem

/-- What a path leads to is what its names lead to. -/
lemma leadsTo_of_canonical (h : fs.canonical path = .ok place) :
    fs.LeadsTo false maxLinks (fs.start path) (names path) place := by
  unfold canonical at h
  split at h
  · cases h
  · split at h
    · cases h
    · exact walk_eq_ok_iff.1 h

end FileSystem

/-! ### Requests -/

namespace PublicFile

open FileSystem (names pathOf isAbsolute)

variable {fs : FileSystem} {settings : Settings} {path : Text} {root place below : List Text}
  {file : PublicFile} {fault : PublicFileFault}

/-- A request leaves the sandbox by its wording if it is absolute or has two points as a name. -/
lemma leavesSandbox_eq_true_iff :
    leavesSandbox path = true ↔ isAbsolute path = true ∨ (".." : Text) ∈ names path := by
  rw [leavesSandbox, Bool.or_eq_true, List.any_eq_true]
  simp

/-- The names below a root are those that follow its own. -/
lemma below?_eq_some_iff : below? root place = some below ↔ place = root ++ below := by
  induction root generalizing place with
  | nil => simp [below?, eq_comm]
  | cons r root ih =>
    cases place with
    | nil => simp [below?]
    | cons p place =>
      by_cases hr : r = p
      · simp [below?, hr, ih]
      · simp [below?, hr, Ne.symm hr]

/-- The type of the file at a place, by its name. -/
def typeAt (registry : MimeRegistry) (place : List Text) : Mime :=
  registry.typeOf (place.getLast?.getD [])

/-- The ways in which a request is answered. -/
inductive Answers (registry : MimeRegistry) (fs : FileSystem) (settings : Settings) (path : Text) :
    Except PublicFileFault PublicFile → Prop
  | missing (hroot : sandbox? fs settings = none) :
      Answers registry fs settings path (.error .sandboxMissing)
  | worded {root : List Text} (hroot : sandbox? fs settings = some root)
      (hleaves : leavesSandbox path = true) :
      Answers registry fs settings path (.error (.outsideSandbox path))
  | nowhere {root : List Text} {cause : FileFault} (hroot : sandbox? fs settings = some root)
      (hstays : leavesSandbox path = false)
      (hwalk : fs.walk false FileSystem.maxLinks root (names path) = .error cause) :
      Answers registry fs settings path (.error (.fileNotFound path))
  | outside {root place : List Text} (hroot : sandbox? fs settings = some root)
      (hstays : leavesSandbox path = false)
      (hwalk : fs.walk false FileSystem.maxLinks root (names path) = .ok place)
      (hplace : ∀ below, place ≠ root ++ below) :
      Answers registry fs settings path (.error (.outsideSandbox path))
  | noFile {root below : List Text} (hroot : sandbox? fs settings = some root)
      (hstays : leavesSandbox path = false)
      (hwalk : fs.walk false FileSystem.maxLinks root (names path) = .ok (root ++ below))
      (hfile : fs.isFileAt (root ++ below) = false) :
      Answers registry fs settings path (.error (.fileNotFound path))
  | noImage {root below : List Text} (hroot : sandbox? fs settings = some root)
      (hstays : leavesSandbox path = false)
      (hwalk : fs.walk false FileSystem.maxLinks root (names path) = .ok (root ++ below))
      (hfile : fs.isFileAt (root ++ below) = true)
      (htype : (typeAt registry (root ++ below)).isImage = false) :
      Answers registry fs settings path
        (.error (.notImage path (typeAt registry (root ++ below)).essence))
  | image {root below : List Text} (hroot : sandbox? fs settings = some root)
      (hstays : leavesSandbox path = false)
      (hwalk : fs.walk false FileSystem.maxLinks root (names path) = .ok (root ++ below))
      (hfile : fs.isFileAt (root ++ below) = true)
      (htype : (typeAt registry (root ++ below)).isImage = true) :
      Answers registry fs settings path
        (.ok ⟨root ++ below, urlOf settings below, (typeAt registry (root ++ below)).essence⟩)

/-- Every request is answered in one of these ways. -/
lemma answers_resolve (registry : MimeRegistry) (fs : FileSystem) (settings : Settings)
    (path : Text) : Answers registry fs settings path (resolve registry fs settings path) := by
  unfold resolve
  split
  · rename_i hroot
    exact .missing hroot
  · rename_i root hroot
    -- the wording is looked at first, before any file is
    by_cases hleaves : leavesSandbox path = true
    · rw [if_pos hleaves]
      exact .worded hroot hleaves
    · have hstays := Bool.eq_false_iff.2 hleaves
      rw [if_neg hleaves]
      split
      · rename_i cause hwalk
        exact .nowhere hroot hstays hwalk
      · rename_i place hwalk
        split
        · rename_i hbelow
          refine .outside hroot hstays hwalk fun below hplace => ?_
          rw [below?_eq_some_iff.2 hplace] at hbelow
          cases hbelow
        · rename_i below hbelow
          obtain rfl := below?_eq_some_iff.1 hbelow
          by_cases hfile : fs.isFileAt (root ++ below) = true
          · rw [if_neg (by simp [hfile])]
            by_cases htype : (typeAt registry (root ++ below)).isImage = true
            · exact (if_pos htype).symm ▸ .image hroot hstays hwalk hfile htype
            · exact (if_neg htype).symm ▸
                .noImage hroot hstays hwalk hfile (Bool.eq_false_iff.2 htype)
          · rw [if_pos (by simp [hfile])]
            exact .noFile hroot hstays hwalk (Bool.eq_false_iff.2 hfile)

/-- A file strictly below a root, name by name. -/
def IsFileBelow (fs : FileSystem) (root place : List Text) : Prop :=
  (∃ below, below ≠ [] ∧ place = root ++ below) ∧ fs.isFileAt place = true

/-- A file that is reached from a root lies strictly below it: the root is a directory then. -/
lemma isFileBelow_of_walk
    (hwalk : fs.walk false FileSystem.maxLinks root (names path) = .ok (root ++ below))
    (hfile : fs.isFileAt (root ++ below) = true) : IsFileBelow fs root (root ++ below) := by
  have hdirectory : fs.isDirectory root = true :=
    (FileSystem.walk_eq_ok_iff.1 hwalk).isDirectory (Text.splitWhere_ne_nil _ _)
  refine ⟨⟨below, ?_, rfl⟩, hfile⟩
  rintro rfl
  rw [List.append_nil, FileSystem.isFileAt] at hfile
  rw [FileSystem.isDirectory, beq_iff_eq] at hdirectory
  rw [hdirectory] at hfile
  cases hfile

/-- The sandbox is a real place, if the current directory is one. -/
lemma isReal_of_sandbox? (hcurrent : fs.IsReal fs.current)
    (hroot : sandbox? fs settings = some root) : fs.IsReal root := by
  obtain ⟨top, -, hcanonical⟩ := Option.bind_eq_some_iff.1 hroot
  have hleads := FileSystem.leadsTo_of_canonical (toOption_eq_some_iff.1 hcanonical)
  refine hleads.isReal ?_ fun name hname => FileSystem.not_mem_of_mem_names hname
  rw [FileSystem.start]
  split
  · exact .root
  · exact hcurrent

/-- A request leads to a place: its names do, from the sandbox.  In the words of paths, the path
below that of the sandbox has the path of the place for its canonical form, and the latter is its
own. -/
structure Reaches (fs : FileSystem) (root : List Text) (path : Text) (place : List Text) : Prop where
  walk_eq : fs.walk false FileSystem.maxLinks root (names path) = .ok place
  canonical_eq : fs.IsReal fs.current → fs.canonical (pathOf root ++ "/" ++ path) = .ok place
  canonical_self : fs.IsReal fs.current → fs.canonical (pathOf place) = .ok place

lemma reaches_of_walk (hroot : sandbox? fs settings = some root)
    (hwalk : fs.walk false FileSystem.maxLinks root (names path) = .ok place) :
    Reaches fs root path place := by
  have hleads := FileSystem.walk_eq_ok_iff.1 hwalk
  refine ⟨hwalk, fun hcurrent => ?_, fun hcurrent => ?_⟩
  · rw [(isReal_of_sandbox? hcurrent hroot).canonical_below hleads.null_not_mem_path, hwalk]
  · have hplace := hleads.isReal (isReal_of_sandbox? hcurrent hroot)
      fun name hname => FileSystem.not_mem_of_mem_names hname
    exact hplace.canonical_pathOf

/-- A request for a public file is answered with an image strictly below the sandbox, to which the
path leads and which is named as it is found, or refused for one of four reasons: one that leaves
the sandbox by its wording is refused as such whatever files there are, and a type is told only if
it is that of the file to which the path leads, strictly below the sandbox. -/
theorem resolve_confined (registry : MimeRegistry) (fs : FileSystem) (settings : Settings)
    (path : Text) :
    (∀ file, resolve registry fs settings path = .ok file →
      ∃ root, sandbox? fs settings = some root ∧ Reaches fs root path file.place ∧
        IsFileBelow fs root file.place ∧ file.mime = (typeAt registry file.place).essence ∧
        (typeAt registry file.place).type = "image" ∧
        isAbsolute path = false ∧ (".." : Text) ∉ names path) ∧
    (∀ root, sandbox? fs settings = some root →
      isAbsolute path = true ∨ (".." : Text) ∈ names path →
        resolve registry fs settings path = .error (.outsideSandbox path)) ∧
    ∀ fault, resolve registry fs settings path = .error fault →
      (fault = .sandboxMissing ∧ sandbox? fs settings = none) ∨
      ∃ root, sandbox? fs settings = some root ∧
        (fault = .outsideSandbox path ∨ fault = .fileNotFound path ∨
          ∃ place, fault = .notImage path (typeAt registry place).essence ∧
            Reaches fs root path place ∧ IsFileBelow fs root place ∧
            (typeAt registry place).type ≠ "image") := by
  have hanswers := answers_resolve registry fs settings path
  refine ⟨fun file hresolve => ?_, fun root hroot hleaves => ?_, fun fault hresolve => ?_⟩
  · rw [hresolve] at hanswers
    cases hanswers with
    | @image root below hroot hstays hwalk hfile htype =>
      rw [← Bool.not_eq_true, leavesSandbox_eq_true_iff, not_or, Bool.not_eq_true] at hstays
      exact ⟨root, hroot, reaches_of_walk hroot hwalk, isFileBelow_of_walk hwalk hfile, rfl,
        beq_iff_eq.1 htype, hstays.1, hstays.2⟩
  · rw [resolve, hroot]
    exact if_pos (leavesSandbox_eq_true_iff.2 hleaves)
  · rw [hresolve] at hanswers
    -- each fault is one way in which the request comes to its end
    cases hanswers with
    | missing hroot => exact Or.inl ⟨rfl, hroot⟩
    | worded hroot => exact Or.inr ⟨_, hroot, Or.inl rfl⟩
    | nowhere hroot => exact Or.inr ⟨_, hroot, Or.inr (Or.inl rfl)⟩
    | outside hroot => exact Or.inr ⟨_, hroot, Or.inl rfl⟩
    | noFile hroot => exact Or.inr ⟨_, hroot, Or.inr (Or.inl rfl)⟩
    | noImage hroot _ hwalk hfile htype =>
      exact Or.inr ⟨_, hroot, Or.inr (Or.inr ⟨_, rfl, reaches_of_walk hroot hwalk,
        isFileBelow_of_walk hwalk hfile, beq_eq_false_iff_ne.1 htype⟩)⟩

/-- Two directories whose names begin alike, and a link from the one into the other. -/
def galleryFiles : FileSystem :=
  ⟨[(["public"], .directory), (["public", "a.png"], .file []), (["public", "a.txt"], .file []),
    (["public", "b.png"], .link "../public-old/b.png"), (["public-old"], .directory),
    (["public-old", "b.png"], .file [])], []⟩

/-- The sandbox is the first of the directories. -/
def gallerySettings : Settings := { Settings.initial with sandboxRoot := some "/public" }

/-- The types of the files in the gallery. -/
def galleryRegistry : MimeRegistry where
  types ext :=
    if ext = "png" then [⟨"image", "png"⟩] else if ext = "txt" then [⟨"text", "plain"⟩] else []

lemma sandbox?_gallery : sandbox? galleryFiles gallerySettings = some [("public" : Text)] := by
  simp +decide [sandbox?, gallerySettings, FileSystem.canonical, FileSystem.start, isAbsolute,
    FileSystem.walk, names, galleryFiles, FileSystem.node?, Text.splitAt, Text.splitWhere,
    Except.toOption]

/-- Two of the names in the sandbox are those of files, the third one leads out of it. -/
lemma walk_gallery :
    galleryFiles.walk false FileSystem.maxLinks ["public"] (names "a.png") =
        .ok ["public", "a.png"] ∧
      galleryFiles.walk false FileSystem.maxLinks ["public"] (names "a.txt") =
        .ok ["public", "a.txt"] ∧
      galleryFiles.walk false FileSystem.maxLinks ["public"] (names "b.png") =
        .ok ["public-old", "b.png"] := by
  refine ⟨?_, ?_, ?_⟩ <;>
    simp +decide [FileSystem.walk, names, galleryFiles, FileSystem.node?, Text.splitAt,
      Text.splitWhere]

/-- The picture in the sandbox is shown; the linked one beside it and the text are not, and the type
that is told of the text is that of the file to which its name leads. -/
theorem resolve_confined_gallery :
    resolve galleryRegistry galleryFiles gallerySettings "a.png" =
        .ok ⟨["public", "a.png"], "/public/a.png", "image/png"⟩ ∧
      galleryFiles.canonical "/public/a.png" = .ok ["public", "a.png"] ∧
      resolve galleryRegistry galleryFiles gallerySettings "a.txt" =
        .error (.notImage "a.txt" "text/plain") ∧
      galleryFiles.canonical "/public/a.txt" = .ok ["public", "a.txt"] ∧
      resolve galleryRegistry galleryFiles gallerySettings "b.png" =
        .error (.outsideSandbox "b.png") := by
  obtain ⟨hpicture, htext, hlinked⟩ := walk_gallery
  have hshown : resolve galleryRegistry galleryFiles gallerySettings "a.png" =
      .ok ⟨["public", "a.png"], "/public/a.png", "image/png"⟩ := by
    rw [resolve, sandbox?_gallery]
    simp only [hpicture]
    decide
  have hrefused : resolve galleryRegistry galleryFiles gallerySettings "a.txt" =
      .error (.notImage "a.txt" "text/plain") := by
    rw [resolve, sandbox?_gallery]
    simp only [htext]
    decide
  have hconfined := resolve_confined galleryRegistry galleryFiles gallerySettings
  obtain ⟨_, -, hreaches, -⟩ := (hconfined "a.png").1 _ hshown
  refine ⟨hshown, hreaches.canonical_self .root, hrefused, ?_, ?_⟩
  · rcases (hconfined "a.txt").2.2 _ hrefused with ⟨hfault, -⟩ | ⟨root, hroot, hfaults⟩
    · cases hfault
    · obtain hfault | hfault | ⟨place, -, hreaches, -⟩ := hfaults
      · cases hfault
      · cases hfault
      · obtain rfl := Option.some.inj (sandbox?_gallery.symm.trans hroot)
        obtain rfl := Except.ok.inj (htext.symm.trans hreaches.walk_eq)
        exact hreaches.canonical_self .root
  · rw [resolve, sandbox?_gallery]
    simp only [hlinked]
    decide

end PublicFile

end NoteLinks
