import NoteLinks.Proofs.Percent
import NoteLinks.Proofs.Sandbox
import NoteLinks.Proofs.Urls

/-!
# Addresses of public files

The address of a public file is that of the published directory, a slash, and the names on the way
from the sandbox to the place of the file, each of them percent-coded (`urlOf_eq`).  No coded name
holds a slash, so the names are read back from the part below the directory
(`map_decode_splitAt_encodePath`), and two requests have the same address exactly if they lead to
the same place, through whatever symbolic links (`resolve_names_place`).
-/

namespace NoteLinks

/-! ### Coded paths -/

namespace Percent

variable {segments : List Text}

lemma splitAt_encodePath (h : segments ≠ []) :
    Text.splitAt '/' (encodePath segments) = segments.map encode := by
  apply Text.splitAt_join
  · simpa using h
  · intro t ht
    obtain ⟨segment, -, rfl⟩ := List.mem_map.1 ht
    exact not_mem_encode (by decide) (by decide) segment

lemma map_decode_splitAt_encodePath (h : segments ≠ []) :
    (Text.splitAt '/' (encodePath segments)).map decode = segments := by
  have hid : decode ∘ encode = id := funext decode_encode
  rw [splitAt_encodePath h, List.map_map, hid, List.map_id]

/-- A path begins with its first segment, and not with a slash. -/
lemma head?_encodePath_ne {segment : Text} (h : segment ≠ []) (segments : List Text) :
    (encodePath (segment :: segments)).head? ≠ some '/' := by
  have hne : encode segment ≠ [] := fun hnil => h (encode_injective (hnil.trans rfl))
  have hstart : ∃ rest, encodePath (segment :: segments) = encode segment ++ rest := by
    cases segments with
    | nil => exact ⟨[], by simp [encodePath, Text.join, List.intercalate]⟩
    | cons next segments =>
      exact ⟨'/' :: encodePath (next :: segments), by
        simp [encodePath, Text.join, List.intercalate]⟩
  obtain ⟨rest, hrest⟩ := hstart
  rw [hrest, List.head?_append_of_ne_nil _ hne]
  intro hslash
  exact not_mem_encode (by decide) (by decide) segment (List.mem_of_head? hslash)

end Percent

/-- What a walk puts behind the place where some names end are names. -/
lemma FileSystem.LeadsTo.isName_of_mem_drop {fs : FileSystem} {forWriting : Bool} {links : Nat}
    {place ahead goal : List Text} (h : fs.LeadsTo forWriting links place ahead goal) {n : ℕ}
    (hplace : ∀ name ∈ place.drop n, IsName name) : ∀ name ∈ goal.drop n, IsName name := by
  have henter : ∀ {place : List Text} {name : Text}, (∀ x ∈ place.drop n, IsName x) →
      IsName name → ∀ x ∈ (place ++ [name]).drop n, IsName x := by
    intro place name hplace hname x hx
    rw [List.drop_append, List.mem_append] at hx
    rcases hx with hx | hx
    · exact hplace x hx
    · rw [List.mem_singleton.1 (List.mem_of_mem_drop hx)]
      exact hname
  induction h with
  | arrived => exact hplace
  | stay _ _ _ ih => exact ih hplace
  | @up links place rest goal _ _ ih =>
    refine ih fun x hx => hplace x ?_
    rw [List.dropLast_eq_take, List.drop_take] at hx
    exact List.mem_of_mem_take hx
  -- only here and in `enter` a name is added
  | create _ hname => exact henter hplace hname
  | follow _ _ _ _ _ ih =>
    apply ih
    split
    · simp
    · exact hplace
  | enter _ hname _ _ _ _ ih => exact ih (henter hplace hname)

/-! ### Published files -/

namespace PublicFile

open FileSystem (names)

variable {registry : MimeRegistry} {fs : FileSystem} {settings : Settings} {path : Text}
  {file : PublicFile}

/-- The address of the published directory: `publicUrl` without the slashes at its end if it is one
of a server, and otherwise what it names below the site; no slash ends it. -/
def publishedBase (settings : Settings) : Text :=
  Url.absoluteBase settings.siteUrl settings.publicUrl

/-- A file is published below the directory, with one slash between. -/
lemma urlOf_eq (settings : Settings) {name : Text} (h : name ≠ []) (below : List Text) :
    urlOf settings (name :: below) =
      publishedBase settings ++ '/' :: Percent.encodePath (name :: below) := by
  rw [urlOf, List.append_assoc]
  exact Url.absolute_append_slash _ _ (Percent.head?_encodePath_ne h below)

/-- A file that is shown, its place below the sandbox and its address. -/
lemma exists_below_of_resolve (h : resolve registry fs settings path = .ok file) :
    ∃ root below, sandbox? fs settings = some root ∧ file.place = root ++ below ∧ below ≠ [] ∧
      Reaches fs root path file.place ∧
      file.url = publishedBase settings ++ '/' :: Percent.encodePath below := by
  have hanswers := answers_resolve registry fs settings path
  rw [h] at hanswers
  cases hanswers with
  | @image root below hroot _ hwalk hfile _ =>
    obtain ⟨⟨rest, hne, hrest⟩, -⟩ := isFileBelow_of_walk hwalk hfile
    obtain rfl := List.append_cancel_left hrest
    have hnames := (FileSystem.walk_eq_ok_iff.1 hwalk).isName_of_mem_drop
      (n := root.length) (by simp)
    rw [List.drop_left] at hnames
    obtain ⟨name, rest, rfl⟩ := List.exists_cons_of_ne_nil hne
    have hname := (hnames name List.mem_cons_self).ne_nil
    exact ⟨root, name :: rest, hroot, rfl, hne, reaches_of_walk hroot hwalk,
      urlOf_eq settings hname rest⟩

/-- The address of a public file names its place.  It is that of the published directory, one slash,
and the coded names from the sandbox to the place that the request leads to, without symbolic links;
the names are read back from it, so two requests have the same address exactly if they lead to the
same place. -/
theorem resolve_names_place (registry : MimeRegistry) (fs : FileSystem) (settings : Settings) :
    (publishedBase settings).getLast? ≠ some '/' ∧
    (∀ path file, resolve registry fs settings path = .ok file →
      ∃ root below, sandbox? fs settings = some root ∧ Reaches fs root path file.place ∧
        file.place = root ++ below ∧
        file.url = publishedBase settings ++ "/" ++ Text.join "/" (below.map Percent.encode) ∧
        (Text.splitAt '/' (Text.join "/" (below.map Percent.encode))).map Percent.decode = below) ∧
    ∀ path path' file file', resolve registry fs settings path = .ok file →
      resolve registry fs settings path' = .ok file' →
        (file.url = file'.url ↔ file.place = file'.place) := by
  refine ⟨Url.getLast?_absoluteBase _ _, fun path file hresolve => ?_,
    fun path path' file file' hresolve hresolve' => ?_⟩
  · obtain ⟨root, below, hroot, hplace, hne, hreaches, hurl⟩ := exists_below_of_resolve hresolve
    have haddress : file.url =
        publishedBase settings ++ "/" ++ Text.join "/" (below.map Percent.encode) := by
      rw [hurl, List.append_assoc]
      rfl
    exact ⟨root, below, hroot, hreaches, hplace, haddress,
      Percent.map_decode_splitAt_encodePath hne⟩
  · obtain ⟨root, below, hroot, hplace, hne, -, hurl⟩ := exists_below_of_resolve hresolve
    obtain ⟨root', below', hroot', hplace', hne', -, hurl'⟩ := exists_below_of_resolve hresolve'
    obtain rfl := Option.some.inj (hroot.symm.trans hroot')
    -- below one sandbox the places differ in the names that are coded, and these are read back
    rw [hurl, hurl', hplace, hplace', List.append_cancel_left_eq, List.append_cancel_left_eq,
      List.cons.injEq]
    constructor
    · rintro ⟨-, hpath⟩
      rw [← Percent.map_decode_splitAt_encodePath hne, hpath,
        Percent.map_decode_splitAt_encodePath hne']
    · rintro rfl
      exact ⟨rfl, rfl⟩

/-- A picture whose name has to be coded, and a link to it. -/
def albumFiles : FileSystem :=
  ⟨[(["public"], .directory), (["public", "album"], .directory),
    (["public", "album", "50% + #1.png"], .file []),
    (["public", "first.png"], .link "album/50% + #1.png")], []⟩

/-- The picture and the link to it have the same address. -/
theorem resolve_names_place_album :
    ∃ file file', resolve galleryRegistry albumFiles gallerySettings "album/50% + #1.png" = .ok file ∧
      resolve galleryRegistry albumFiles gallerySettings "first.png" = .ok file' ∧
      file.url = "/public/album/50%25%20%2B%20%231.png" ∧ file'.url = file.url := by
  have hroot : sandbox? albumFiles gallerySettings = some [("public" : Text)] := by
    simp +decide [sandbox?, gallerySettings, FileSystem.canonical, FileSystem.start,
      FileSystem.isAbsolute, FileSystem.walk, names, albumFiles, FileSystem.node?, Text.splitAt,
      Text.splitWhere, Except.toOption]
  have hpicture : albumFiles.walk false FileSystem.maxLinks ["public"]
      (names "album/50% + #1.png") = .ok ["public", "album", "50% + #1.png"] := by
    simp +decide [FileSystem.walk, names, albumFiles, FileSystem.node?, Text.splitAt,
      Text.splitWhere]
  have hlink : albumFiles.walk false FileSystem.maxLinks ["public"] (names "first.png") =
      .ok ["public", "album", "50% + #1.png"] := by
    simp +decide [FileSystem.walk, names, albumFiles, FileSystem.node?, Text.splitAt,
      Text.splitWhere]
  have hfile : resolve galleryRegistry albumFiles gallerySettings "album/50% + #1.png" =
      .ok ⟨["public", "album", "50% + #1.png"], "/public/album/50%25%20%2B%20%231.png",
        "image/png"⟩ := by
    rw [resolve, hroot]
    simp only [hpicture]
    decide
  have hfile' : resolve galleryRegistry albumFiles gallerySettings "first.png" =
      .ok ⟨["public", "album", "50% + #1.png"], "/public/album/50%25%20%2B%20%231.png",
        "image/png"⟩ := by
    rw [resolve, hroot]
    simp only [hlink]
    decide
  obtain ⟨-, -, hsame⟩ := resolve_names_place galleryRegistry albumFiles gallerySettings
  exact ⟨_, _, hfile, hfile', rfl, (hsame _ _ _ _ hfile' hfile).2 rfl⟩

end PublicFile

end NoteLinks
