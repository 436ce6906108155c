import NoteLinks.Proofs.Dictionaries
import NoteLinks.Proofs.MergedValues
import NoteLinks.Proofs.Results
import NoteLinks.Settings.Document

/-!
# Settings that a document states

A document states a setting at a path of keys: the setting is what the value there says it is, and
what it was if there is no value (`Takes`).  In these terms it is said exactly when a value means
help settings (`help?_eq_some_iff`), a dictionary (`dictionary?_eq_some_iff`) or settings
(`ofValue?_eq_some_iff`), and which ones.
-/

namespace NoteLinks.Settings

open Yaml (Value valueAt?)

variable {α : Type} {v w document : Value} {es : List (Value × Value)} {path : List Text}
  {key t : Text} {read? : Value → Option α} {initial old new : α}
  {fields : List (Text × Value)}

/-! ### Fields -/

/-- A setting is what the value at the end of a path in a document says it is, or what it was if
there is no value. -/
inductive Takes (document : Value) (path : List Text) (read? : Value → Option α) (old : α) :
    α → Prop
  | stated {v : Value} {new : α} (hat : document.at? (path.map .text) = some v)
      (hread : read? v = some new) : Takes document path read? old new
  | kept (hat : document.at? (path.map .text) = none) : Takes document path read? old old

/-- A setting that is stated is what is stated. -/
lemma takes_iff_of_some (path : List Text) (hat : document.at? (path.map .text) = some v) :
    Takes document path read? old new ↔ read? v = some new := by
  constructor
  · intro h
    cases h with
    | stated hat' hread =>
      obtain rfl := Option.some.inj (hat.symm.trans hat')
      exact hread
    | kept hat' => cases hat.symm.trans hat'
  · exact .stated hat

/-- A setting that is not stated is what it was. -/
lemma takes_iff_of_none (path : List Text) (hat : document.at? (path.map .text) = none) :
    Takes document path read? old new ↔ new = old := by
  constructor
  · intro h
    cases h with
    | stated hat' => cases hat.symm.trans hat'
    | kept => rfl
  · rintro rfl
    exact .kept hat

/-- It only counts what the path leads to. -/
lemma takes_congr (path path' : List Text)
    (h : document.at? (path.map .text) = w.at? (path'.map .text)) :
    Takes document path read? old new ↔ Takes w path' read? old new := by
  cases hat : w.at? (path'.map .text) with
  | none => rw [takes_iff_of_none path (h.trans hat), takes_iff_of_none path' hat]
  | some v => rw [takes_iff_of_some path (h.trans hat), takes_iff_of_some path' hat]

/-- A document leaves no choice of a setting. -/
lemma Takes.unique {new' : α} (h : Takes document path read? old new)
    (h' : Takes document path read? old new') : new = new' := by
  cases h with
  | stated hat hread => exact Option.some.inj (hread.symm.trans ((takes_iff_of_some path hat).1 h'))
  | kept hat => exact ((takes_iff_of_none path hat).1 h').symm

/-- The value is null or a mapping whose keys are all text. -/
inductive HasFields : Value → Prop
  | null : HasFields .null
  | mapping {entries : List (Value × Value)} (hkeys : ∀ e ∈ entries, ∃ t, e.1 = .text t) :
      HasFields (.mapping entries)

lemma text?_eq_some_iff : text? v = some t ↔ v = .text t := by
  constructor
  · intro h
    cases v with
    | scalar s =>
      cases s with
      | text u => exact congrArg Value.text (Option.some.inj h)
      | null => cases h
      | bool => cases h
      | int => cases h
      | fraction => cases h
    | list => cases h
    | mapping => cases h
  · rintro rfl
    rfl

lemma fields?_mapping_eq_some_iff :
    fields? (.mapping es) = some fields ↔ es = fields.map fun f => (.text f.1, f.2) := by
  have hstep : ∀ (e : Value × Value) (f : Text × Value),
      (text? e.1).map (·, e.2) = some f ↔ e = (.text f.1, f.2) := by
    rintro ⟨k, v⟩ ⟨t, w⟩
    simp [Option.map_eq_some_iff, text?_eq_some_iff, and_comm]
  exact mapM_eq_some_iff_map hstep

/-- The values that have fields. -/
lemma hasFields_iff : HasFields v ↔ ∃ fields, fields? v = some fields := by
  constructor
  · rintro (_ | hkeys)
    · exact ⟨[], rfl⟩
    · rename_i entries
      simp only [fields?_mapping_eq_some_iff]
      -- by induction on the entries, each of which has a text for its key
      induction entries with
      | nil => exact ⟨[], rfl⟩
      | cons e es ih =>
        obtain ⟨⟨t, ht⟩, hkeys⟩ := List.forall_mem_cons.1 hkeys
        obtain ⟨fields, hfields⟩ := ih hkeys
        refine ⟨(t, e.2) :: fields, ?_⟩
        rw [List.map_cons, ← hfields, ← ht]
  · rintro ⟨fields, hfields⟩
    cases v with
    | scalar s =>
      cases s with
      | null => exact .null
      | bool => cases hfields
      | int => cases hfields
      | fraction => cases hfields
      | text => cases hfields
    | list => cases hfields
    | mapping es =>
      refine .mapping fun e he => ?_
      rw [fields?_mapping_eq_some_iff.1 hfields] at he
      obtain ⟨f, -, rfl⟩ := List.mem_map.1 he
      exact ⟨f.1, rfl⟩

lemma text_same_iff {u : Text} : (Value.text t).same (.text u) = true ↔ t = u := by
  rw [Value.text, Value.scalar_same_iff]
  simp [Value.text, eq_comm]

lemma valueAt?_map_text (fields : List (Text × Value)) (key : Text) :
    valueAt? (fields.map fun f => (.text f.1, f.2)) (.text key) = fields.lookup key := by
  induction fields with
  | nil => rfl
  | cons f fields ih =>
    rw [List.map_cons, Yaml.valueAt?_cons, lookup_cons, ih]
    by_cases hkey : key = f.1
    · rw [if_pos hkey, hkey, if_pos (Value.same_refl _)]
    · rw [if_neg hkey, if_neg]
      exact fun hsame => hkey (text_same_iff.1 hsame)

/-- What stands under a key of a value is the field with this key. -/
lemma at?_eq_lookup (h : fields? v = some fields) (key : Text) :
    v.at? [.text key] = fields.lookup key := by
  cases hasFields_iff.2 ⟨fields, h⟩ with
  | null =>
    obtain rfl := Option.some.inj h
    rfl
  | @mapping es =>
    rw [fields?_mapping_eq_some_iff.1 h, Value.at?_mapping_singleton, valueAt?_map_text]

/-- What a field is read as is what the value states. -/
lemma field?_eq_some_iff (h : fields? v = some fields) :
    field? fields key read? initial = some new ↔ Takes v [key] read? initial new := by
  have hat := at?_eq_lookup h key
  rw [← find?_map_eq_lookup] at hat
  rw [field?]
  cases hfind : fields.find? (·.1 == key) with
  | none =>
    rw [hfind] at hat
    rw [takes_iff_of_none [key] hat, Option.some_inj, eq_comm]
  | some f =>
    rw [hfind] at hat
    rw [takes_iff_of_some [key] hat]

/-! ### Groups of fields -/

/-- The help settings that a value states. -/
lemma help?_eq_some_iff {help : HelpSettings} :
    help? v = some help ↔ HasFields v ∧
      Takes v ["wiki_base"] text? HelpSettings.initial.wikiBase help.wikiBase ∧
      Takes v ["default_url"] text? HelpSettings.initial.defaultUrl help.defaultUrl := by
  simp only [help?, Option.bind_eq_bind, Option.bind_eq_some_iff, hasFields_iff]
  constructor
  · rintro ⟨fields, hfields, wikiBase, hwiki, defaultUrl, hdefault, heq⟩
    obtain rfl := Option.some.inj heq
    exact ⟨⟨fields, hfields⟩, (field?_eq_some_iff hfields).1 hwiki,
      (field?_eq_some_iff hfields).1 hdefault⟩
  · rintro ⟨⟨fields, hfields⟩, hwiki, hdefault⟩
    exact ⟨fields, hfields, _, (field?_eq_some_iff hfields).2 hwiki, _,
      (field?_eq_some_iff hfields).2 hdefault, rfl⟩

/-- The text that a value has a dictionary store. -/
def storedText? (v : Value) : Option (Option Text) := (text? v).map some

/-- The keys of fields differ where a value has no key twice. -/
lemma pairwise_ne_of_fields? (hv : v.IsProper) (h : fields? v = some fields) :
    fields.Pairwise fun e f => e.1 ≠ f.1 := by
  cases hasFields_iff.2 ⟨fields, h⟩ with
  | null =>
    obtain rfl := Option.some.inj h
    exact .nil
  | mapping =>
    rw [fields?_mapping_eq_some_iff.1 h] at hv
    cases hv with
    | mapping _ _ hdistinct =>
      refine (List.pairwise_map.1 hdistinct).imp fun {e f} hne heq => ?_
      rw [heq, Value.same_refl] at hne
      cases hne

lemma mapM_text?_eq_some_iff {entries : List (Text × Text)} :
    fields.mapM (fun e => (text? e.2).map (e.1, ·)) = some entries ↔
      fields = entries.map fun e => (e.1, .text e.2) := by
  apply mapM_eq_some_iff_map
  rintro ⟨t, v⟩ ⟨u, w⟩
  simp [Option.map_eq_some_iff, text?_eq_some_iff, and_comm]

/-- Entries that are fields of a value are what a dictionary of the value stores. -/
lemma takes_lookup {entries : List (Text × Text)} (h : fields? v = some fields)
    (hentries : fields = entries.map fun e => (e.1, .text e.2)) (key : Text) :
    Takes v [key] storedText? none (entries.lookup key) := by
  have hat := at?_eq_lookup h key
  rw [hentries, lookup_map_snd] at hat
  cases hlookup : entries.lookup key with
  | none =>
    rw [hlookup] at hat
    exact .kept hat
  | some t =>
    rw [hlookup] at hat
    exact .stated hat rfl

/-- Fields that a dictionary takes are entries of a dictionary. -/
lemma exists_entries {d : Dictionary} (hv : v.IsProper) (h : fields? v = some fields)
    (htakes : ∀ key, Takes v [key] storedText? none (d.get? key)) :
    ∃ entries : List (Text × Text), fields = entries.map fun e => (e.1, .text e.2) := by
  have htext : ∀ f ∈ fields, ∃ t, f.2 = .text t := by
    intro f hf
    have hat := at?_eq_lookup h f.1
    rw [(lookup_eq_some_iff_mem (pairwise_ne_of_fields? hv h)).2 hf] at hat
    obtain ⟨t, ht, -⟩ := Option.map_eq_some_iff.1 ((takes_iff_of_some [f.1] hat).1 (htakes f.1))
    exact ⟨t, text?_eq_some_iff.1 ht⟩
  clear h htakes hv
  induction fields with
  | nil => exact ⟨[], rfl⟩
  | cons f fields ih =>
    obtain ⟨⟨t, ht⟩, htext⟩ := List.forall_mem_cons.1 htext
    obtain ⟨entries, hentries⟩ := ih htext
    refine ⟨(f.1, t) :: entries, ?_⟩
    rw [List.map_cons, ← hentries, ← ht]

/-- The dictionary that a value states. -/
lemma dictionary?_eq_some_iff {d : Dictionary} (hv : v.IsProper) :
    dictionary? v = some d ↔ HasFields v ∧ ∀ key, Takes v [key] storedText? none (d.get? key) := by
  simp only [dictionary?, Option.bind_eq_bind, Option.bind_eq_some_iff, mapM_text?_eq_some_iff,
    hasFields_iff]
  -- what a dictionary of the entries stores
  have hstored : ∀ fields entries, fields? v = some fields →
      fields = entries.map (fun e => (e.1, Value.text e.2)) →
      ∀ key, (Dictionary.ofList entries).get? key = entries.lookup key := by
    intro fields entries hfields hentries key
    have hne := pairwise_ne_of_fields? hv hfields
    rw [hentries, List.pairwise_map] at hne
    exact Dictionary.get?_ofList hne
  constructor
  · rintro ⟨fields, hfields, entries, hentries, heq⟩
    obtain rfl := Option.some.inj heq
    refine ⟨⟨fields, hfields⟩, fun key => ?_⟩
    rw [hstored fields entries hfields hentries]
    exact takes_lookup hfields hentries key
  · rintro ⟨⟨fields, hfields⟩, htakes⟩
    obtain ⟨entries, hentries⟩ := exists_entries hv hfields htakes
    refine ⟨fields, hfields, entries, hentries, congrArg some (Dictionary.ext_get? fun key => ?_)⟩
    rw [hstored fields entries hfields hentries]
    exact (takes_lookup hfields hentries key).unique (htakes key)

/-! ### Documents -/

/-- The settings that have no parts are what a document says they are, or what they were. -/
structure TakesPlain (document : Value) (old new : Settings) : Prop where
  siteUrl : Takes document ["site_url"] text? old.siteUrl new.siteUrl
  recordRoute : Takes document ["record_route"] text? old.recordRoute new.recordRoute
  diagramRoute : Takes document ["diagram_route"] text? old.diagramRoute new.diagramRoute
  sandboxRoot : Takes document ["sandbox_root"] optionalText? old.sandboxRoot new.sandboxRoot
  publicUrl : Takes document ["public_url"] text? old.publicUrl new.publicUrl
  imageClasses : Takes document ["image_classes"] texts? old.imageClasses new.imageClasses
  imageTitleClasses :
    Takes document ["image_title_classes"] texts? old.imageTitleClasses new.imageTitleClasses
  defaultWidth : Takes document ["default_width"] number? old.defaultWidth new.defaultWidth
  defaultHeight : Takes document ["default_height"] number? old.defaultHeight new.defaultHeight
  wikipediaLanguage :
    Takes document ["wikipedia_language"] text? old.wikipediaLanguage new.wikipediaLanguage
  expandLinks : Takes document ["expand_links"] bool? old.expandLinks new.expandLinks
  logLevel : Takes document ["log_level"] text? old.logLevel new.logLevel

/-- The settings that a value states. -/
lemma ofValue?_eq_some_iff {s : Settings} :
    ofValue? v = some s ↔ HasFields v ∧ TakesPlain v Settings.initial s ∧
      Takes v ["help"] help? Settings.initial.help s.help ∧
      Takes v ["messages"] dictionary? Settings.initial.messages s.messages := by
  constructor
  · intro h
    obtain ⟨fields, hfields, h⟩ := Option.bind_eq_some_iff.1 h
    -- every field is read alike, so one step back to what is stated serves all of them
    have htakes {α : Type} {key : Text} {read? : Value → Option α} {initial new : α}
        (h : field? fields key read? initial = some new) : Takes v [key] read? initial new :=
      (field?_eq_some_iff hfields).1 h
    obtain ⟨_, hsite, h⟩ := Option.bind_eq_some_iff.1 h
    obtain ⟨_, hrecord, h⟩ := Option.bind_eq_some_iff.1 h
    obtain ⟨_, hdiagram, h⟩ := Option.bind_eq_some_iff.1 h
    obtain ⟨_, hsandbox, h⟩ := Option.bind_eq_some_iff.1 h
    obtain ⟨_, hpublic, h⟩ := Option.bind_eq_some_iff.1 h
    obtain ⟨_, himage, h⟩ := Option.bind_eq_some_iff.1 h
    obtain ⟨_, htitle, h⟩ := Option.bind_eq_some_iff.1 h
    obtain ⟨_, hwidth, h⟩ := Option.bind_eq_some_iff.1 h
    obtain ⟨_, hheight, h⟩ := Option.bind_eq_some_iff.1 h
    obtain ⟨_, hlanguage, h⟩ := Option.bind_eq_some_iff.1 h
    obtain ⟨_, hexpand, h⟩ := Option.bind_eq_some_iff.1 h
    obtain ⟨_, hhelp, h⟩ := Option.bind_eq_some_iff.1 h
    obtain ⟨_, hmessages, h⟩ := Option.bind_eq_some_iff.1 h
    obtain ⟨_, hlog, h⟩ := Option.bind_eq_some_iff.1 h
    obtain rfl := Option.some.inj h
    exact ⟨hasFields_iff.2 ⟨fields, hfields⟩, ⟨htakes hsite, htakes hrecord, htakes hdiagram,
      htakes hsandbox, htakes hpublic, htakes himage, htakes htitle, htakes hwidth, htakes hheight,
      htakes hlanguage, htakes hexpand, htakes hlog⟩, htakes hhelp, htakes hmessages⟩
  · rintro ⟨hfields, hplain, hhelp, hmessages⟩
    obtain ⟨fields, hfields⟩ := hasFields_iff.1 hfields
    have hfield {α : Type} {key : Text} {read? : Value → Option α} {initial new : α}
        (h : Takes v [key] read? initial new) : field? fields key read? initial = some new :=
      (field?_eq_some_iff hfields).2 h
    refine Option.bind_eq_some_iff.2 ⟨_, hfields, ?_⟩
    refine Option.bind_eq_some_iff.2 ⟨_, hfield hplain.siteUrl, ?_⟩
    refine Option.bind_eq_some_iff.2 ⟨_, hfield hplain.recordRoute, ?_⟩
    refine Option.bind_eq_some_iff.2 ⟨_, hfield hplain.diagramRoute, ?_⟩
    refine Option.bind_eq_some_iff.2 ⟨_, hfield hplain.sandboxRoot, ?_⟩
    refine Option.bind_eq_some_iff.2 ⟨_, hfield hplain.publicUrl, ?_⟩
    refine Option.bind_eq_some_iff.2 ⟨_, hfield hplain.imageClasses, ?_⟩
    refine Option.bind_eq_some_iff.2 ⟨_, hfield hplain.imageTitleClasses, ?_⟩
    refine Option.bind_eq_some_iff.2 ⟨_, hfield hplain.defaultWidth, ?_⟩
    refine Option.bind_eq_some_iff.2 ⟨_, hfield hplain.defaultHeight, ?_⟩
    refine Option.bind_eq_some_iff.2 ⟨_, hfield hplain.wikipediaLanguage, ?_⟩
    refine Option.bind_eq_some_iff.2 ⟨_, hfield hplain.expandLinks, ?_⟩
    refine Option.bind_eq_some_iff.2 ⟨_, hfield hhelp, ?_⟩
    refine Option.bind_eq_some_iff.2 ⟨_, hfield hmessages, ?_⟩
    refine Option.bind_eq_some_iff.2 ⟨_, hfield hplain.logLevel, ?_⟩
    rfl

end NoteLinks.Settings
