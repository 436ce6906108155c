import NoteLinks.Proofs.FileSystems
import NoteLinks.Proofs.StatedSettings
import NoteLinks.Settings.File

/-!
# Settings laid over settings

A document is laid over the document of some settings, and what comes out states settings again.
For a setting without parts this means that it is what the document states, or what it was
(`takes_merge_iff`); a setting with parts, the help settings or the messages, has each part in this
way, unless a null clears it (`takes_merge_parts_iff`).  Together the settings of a document over
others are those that the document states over them (`over?_eq_some_iff`), and these are what is
loaded from a file if they are valid (`loadOver_layers`).
-/

namespace NoteLinks.Settings

open Yaml (Value valueAt? mergeEntries laidOver)

variable {α : Type} {v w document : Value} {bs os es : List (Value × Value)} {path : List Text}
  {key t : Text} {read? : Value → Option α} {initial old new : α} {s : Settings}
  {fields : List (Text × Value)}

/-! ### Settings as a value -/

/-- The keys of settings. -/
def settingKeys : List Text :=
  ["site_url", "record_route", "diagram_route", "sandbox_root", "public_url", "image_classes",
    "image_title_classes", "default_width", "default_height", "wikipedia_language",
    "expand_links", "help", "messages", "log_level"]

/-- Help settings as a value. -/
def helpValue (help : HelpSettings) : Value :=
  .mapping [(.text "wiki_base", .text help.wikiBase), (.text "default_url", .text help.defaultUrl)]

@[simp]
lemma isProper_text (t : Text) : (Value.text t).IsProper := .scalar _

/-- A mapping whose keys are different texts has no key twice. -/
lemma isProper_of_keys (keys : List Text) (hes : es.map (·.1) = keys.map Value.text)
    (hne : keys.Pairwise (· ≠ ·)) (hvalues : ∀ e ∈ es, e.2.IsProper) :
    (Value.mapping es).IsProper := by
  refine .mapping (fun e he => ?_) hvalues ?_
  · obtain ⟨t, -, ht⟩ := List.mem_map.1 (hes ▸ List.mem_map_of_mem he)
    exact ht ▸ isProper_text t
  · have hdistinct : (keys.map Value.text).Pairwise fun v w => v.same w = false := by
      refine List.pairwise_map.2 (hne.imp fun {t u} htu => Bool.eq_false_iff.2 fun hsame => ?_)
      exact htu (text_same_iff.1 hsame)
    rw [← hes] at hdistinct
    exact List.pairwise_map.1 hdistinct

lemma isProper_textsValue (ts : List Text) : (textsValue ts).IsProper := by
  apply Value.IsProper.list
  intro v hv
  obtain ⟨t, -, rfl⟩ := List.mem_map.1 hv
  exact isProper_text t

lemma isProper_helpValue (help : HelpSettings) : (helpValue help).IsProper :=
  isProper_of_keys ["wiki_base", "default_url"] rfl (by decide) (by simp)

lemma isProper_dictionaryValue (d : Dictionary) : (dictionaryValue d).IsProper := by
  apply isProper_of_keys (d.entries.map (·.1)) (by simp) (List.pairwise_map.2 d.pairwise_ne)
  intro e he
  obtain ⟨f, -, rfl⟩ := List.mem_map.1 he
  exact isProper_text f.2

/-- The document of settings has no key twice. -/
lemma isProper_toValue (s : Settings) : s.toValue.IsProper := by
  apply isProper_of_keys settingKeys rfl (by decide)
  have hroot : ((s.sandboxRoot.map Value.text).getD .null).IsProper := by
    cases s.sandboxRoot with
    | none => exact .scalar _
    | some root => exact isProper_text root
  simp only [List.forall_mem_cons]
  exact ⟨isProper_text _, isProper_text _, isProper_text _, hroot, isProper_text _,
    isProper_textsValue _, isProper_textsValue _, .scalar _, .scalar _, isProper_text _, .scalar _,
    isProper_helpValue s.help, isProper_dictionaryValue s.messages, isProper_text _,
    fun e he => absurd he List.not_mem_nil⟩

/-! ### One setting over another -/

/-- The keys of a mapping are text if it has something under texts only. -/
lemma hasFields_mapping_iff (hes : (Value.mapping es).IsProper) :
    HasFields (.mapping es) ↔
      ∀ key, key.IsProper → (valueAt? es key).isSome = true → ∃ t, key = .text t := by
  constructor
  · rintro (_ | hkeys) key hkey hsome
    obtain ⟨v, hv⟩ := Option.isSome_iff_exists.1 hsome
    obtain ⟨e, he, hsame, -⟩ := Yaml.exists_mem_of_valueAt? hv
    obtain ⟨t, ht⟩ := hkeys e he
    rw [ht] at hsame
    exact ⟨t, Value.scalar_same_iff.1 (hkey.same_symm hsame)⟩
  · intro h
    refine .mapping fun e he => h e.1 (hes.of_key he) ?_
    rw [hes.valueAt?_eq he]
    rfl

/-- A document that is laid over a mapping with texts as keys leaves it so if its own keys are
texts. -/
lemma hasFields_merge_iff (hbs : (Value.mapping bs).IsProper) (hdocument : document.IsProper)
    (hbase : HasFields (.mapping bs)) :
    HasFields ((Value.mapping bs).merge document) ↔ HasFields document := by
  cases document with
  | scalar s =>
    cases s with
    | null => exact iff_of_true hbase .null
    | bool => rfl
    | int => rfl
    | fraction => rfl
    | text => rfl
  | list => rfl
  | mapping os =>
    have hmerged := hbs.merge hdocument
    rw [Value.mapping_merge_mapping] at hmerged ⊢
    rw [hasFields_mapping_iff hbs] at hbase
    rw [hasFields_mapping_iff hmerged, hasFields_mapping_iff hdocument]
    refine forall_congr' fun key => forall_congr' fun hkey => ?_
    rw [Yaml.isSome_valueAt?_mergeEntries hdocument hkey, Bool.or_eq_true]
    exact ⟨fun h hsome => h (Or.inr hsome), fun h hsome => hsome.elim (hbase key hkey) h⟩

/-- Under a key that the document does not have stands what stood there. -/
lemma at?_merge_of_none (hdocument : HasFields document) (hproper : document.IsProper)
    (hat : document.at? [.text key] = none) (bs : List (Value × Value)) :
    ((Value.mapping bs).merge document).at? [.text key] = valueAt? bs (.text key) := by
  cases hdocument with
  | null => exact Value.at?_mapping_singleton
  | mapping =>
    have hlays := Yaml.lays_mergeEntries hproper (isProper_text key) bs
    rw [Value.at?_mapping_singleton] at hat
    rw [hat] at hlays
    rw [Value.mapping_merge_mapping, Value.at?_mapping_singleton]
    exact hlays.eq_lower

/-- Under a key that the document has stands what it puts there. -/
lemma at?_merge_of_some (hproper : document.IsProper) (hat : document.at? [.text key] = some v)
    (bs : List (Value × Value)) :
    ((Value.mapping bs).merge document).at? [.text key] =
      some (laidOver (valueAt? bs (.text key)) v) := by
  obtain ⟨os, w, rfl, hupper, hw⟩ := Value.exists_of_at?_cons hat
  obtain rfl := Option.some.inj hw
  have hlays := Yaml.lays_mergeEntries hproper (isProper_text key) bs
  rw [hupper] at hlays
  rw [Value.mapping_merge_mapping, Value.at?_mapping_singleton]
  exact hlays.eq_laidOver

/-- A setting without parts takes what the document states over what it was. -/
lemma takes_merge_iff (hdocument : HasFields document) (hproper : document.IsProper)
    (hslot : (valueAt? bs (.text key)).any Value.isMapping = false)
    (hold : Takes (.mapping bs) [key] read? initial old) :
    Takes ((Value.mapping bs).merge document) [key] read? initial new ↔
      Takes document [key] read? old new := by
  cases hat : document.at? [.text key] with
  | none =>
    have hmerged := at?_merge_of_none hdocument hproper hat bs
    rw [← Value.at?_mapping_singleton] at hmerged
    rw [takes_congr [key] [key] hmerged, takes_iff_of_none [key] hat]
    exact ⟨fun h => h.unique hold, fun h => h ▸ hold⟩
  | some v =>
    have hmerged := at?_merge_of_some hproper hat bs
    have hput : laidOver (valueAt? bs (.text key)) v = v := by
      cases hlower : valueAt? bs (.text key) with
      | none => rfl
      | some w =>
        rw [hlower, Option.any_some] at hslot
        rw [laidOver, hslot]
        rfl
    rw [hput] at hmerged
    rw [takes_iff_of_some [key] hmerged, takes_iff_of_some [key] hat]

/-- A setting with parts is cleared by a null; otherwise it has the given parts. -/
inductive TakesParts (document : Value) (key : Text) (none : α) (parts : α → Prop) : α → Prop
  | cleared (hat : document.at? [.text key] = some .null) : TakesParts document key none parts none
  | merged {new : α}
      (hfields : ∀ v ∈ document.at? [.text key], v.isMapping = true ∧ HasFields v)
      (hparts : parts new) : TakesParts document key none parts new

/-- A setting with parts takes the parts that the document states over those that it had. -/
lemma takes_merge_parts_iff {hs : List (Value × Value)} {cleared : α} {parts : α → Prop}
    (hdocument : HasFields document) (hproper : document.IsProper)
    (hslot : valueAt? bs (.text key) = some (.mapping hs))
    (hhs : (Value.mapping hs).IsProper) (hbase : HasFields (.mapping hs))
    (hnull : read? .null = some cleared) (hread : ∀ v, read? v = some new → HasFields v)
    (hparts : ∀ u, HasFields u → u.IsProper →
      (∀ k, document.at? [.text key, .text k] = u.at? [.text k]) →
      (read? ((Value.mapping hs).merge u) = some new ↔ parts new)) :
    Takes ((Value.mapping bs).merge document) [key] read? initial new ↔
      TakesParts document key cleared parts new := by
  have hstep : ∀ k, document.at? [.text key, .text k] =
      (document.at? [.text key]).bind (Value.at? [.text k]) := fun k => Value.at?_cons _ _ _
  cases hat : document.at? [.text key] with
  | none =>
    -- the document says nothing under the key, which is as if it said null to all the parts
    have hmerged := at?_merge_of_none hdocument hproper hat bs
    rw [takes_iff_of_some [key] (hmerged.trans hslot), ← Value.merge_null (.mapping hs),
      hparts .null .null (.scalar _) fun k => (hstep k).trans (by rw [hat]; rfl)]
    constructor
    · intro h
      exact .merged (by simp [hat]) h
    · rintro (hat' | ⟨-, h⟩)
      · cases hat.symm.trans hat'
      · exact h
  | some v =>
    have hmerged := at?_merge_of_some hproper hat bs
    rw [takes_iff_of_some [key] hmerged, hslot]
    cases hmapping : v.isMapping with
    | false =>
      -- what is no mapping replaces the parts, and only null can be read there
      rw [Yaml.laidOver_eq_self hmapping]
      constructor
      · intro h
        cases hread v h with
        | null =>
          obtain rfl := Option.some.inj (hnull.symm.trans h)
          exact .cleared hat
        | mapping => cases hmapping
      · rintro (hat' | ⟨hfields, -⟩)
        · obtain rfl := Option.some.inj (hat.symm.trans hat')
          exact hnull
        · rw [(hfields v hat).1] at hmapping
          cases hmapping
    | true =>
      have hv : v.IsProper := hproper.of_at? hat
      have hpath : ∀ k, document.at? [.text key, .text k] = v.at? [.text k] :=
        fun k => (hstep k).trans (by rw [hat]; rfl)
      rw [Yaml.laidOver_eq_merge hmapping, Option.getD_some]
      constructor
      · intro h
        have hfields := (hasFields_merge_iff hhs hv hbase).1 (hread _ h)
        refine .merged (fun w hw => ?_) ((hparts v hfields hv hpath).1 h)
        obtain rfl := Option.some.inj (hat.symm.trans hw)
        exact ⟨hmapping, hfields⟩
      · rintro (hat' | ⟨hfields, h⟩)
        · obtain rfl := Option.some.inj (hat.symm.trans hat')
          cases hmapping
        · exact (hparts v (hfields v hat).2 hv hpath).2 h

/-! ### Parts of settings -/

/-- The help settings that a document states over others. -/
def TakesHelp (document : Value) (old : HelpSettings) : HelpSettings → Prop :=
  TakesParts document "help" HelpSettings.initial fun new =>
    Takes document ["help", "wiki_base"] text? old.wikiBase new.wikiBase ∧
      Takes document ["help", "default_url"] text? old.defaultUrl new.defaultUrl

/-- The messages that a document states over others. -/
def TakesMessages (document : Value) (old : Catalog) : Catalog → Prop :=
  TakesParts document "messages" Dictionary.empty fun new =>
    ∀ key, Takes document ["messages", key] storedText? (old.get? key) (new.get? key)

lemma takes_help_iff {help help' : HelpSettings} (hdocument : HasFields document)
    (hproper : document.IsProper) (hslot : valueAt? bs (.text "help") = some (helpValue help)) :
    Takes ((Value.mapping bs).merge document) ["help"] help? HelpSettings.initial help' ↔
      TakesHelp document help help' := by
  have hbase : HasFields (helpValue help) := hasFields_iff.2 ⟨_, rfl⟩
  have hhelp := isProper_helpValue help
  refine takes_merge_parts_iff hdocument hproper hslot hhelp hbase rfl
    (fun v h => (help?_eq_some_iff.1 h).1) fun u hu huproper hpath => ?_
  have hfields := (hasFields_merge_iff hhelp huproper hbase).2 hu
  rw [help?_eq_some_iff, iff_true_intro hfields, true_and]
  refine and_congr ?_ ?_
  · rw [takes_congr ["help", "wiki_base"] ["wiki_base"] (hpath "wiki_base")]
    exact takes_merge_iff hu huproper rfl (.stated rfl rfl)
  · rw [takes_congr ["help", "default_url"] ["default_url"] (hpath "default_url")]
    exact takes_merge_iff hu huproper rfl (.stated rfl rfl)

lemma fields?_dictionaryValue (d : Dictionary) :
    fields? (dictionaryValue d) = some (d.entries.map fun e => (e.1, .text e.2)) := by
  rw [dictionaryValue, fields?_mapping_eq_some_iff, List.map_map]
  rfl

/-- Under a key of a dictionary as a value stands what the dictionary stores. -/
lemma at?_dictionaryValue (d : Dictionary) (key : Text) :
    (dictionaryValue d).at? [.text key] = (d.get? key).map .text := by
  rw [at?_eq_lookup (fields?_dictionaryValue d), lookup_map_snd, Dictionary.get?_eq_lookup]

lemma takes_messages_iff {messages messages' : Catalog} (hdocument : HasFields document)
    (hproper : document.IsProper)
    (hslot : valueAt? bs (.text "messages") = some (dictionaryValue messages)) :
    Takes ((Value.mapping bs).merge document) ["messages"] dictionary? Dictionary.empty messages' ↔
      TakesMessages document messages messages' := by
  have hbase : HasFields (dictionaryValue messages) :=
    hasFields_iff.2 ⟨_, fields?_dictionaryValue messages⟩
  have hmessages := isProper_dictionaryValue messages
  have hstored := takes_lookup (fields?_dictionaryValue messages) rfl
  have hplain : ∀ key, ((dictionaryValue messages).at? [.text key]).any Value.isMapping = false := by
    intro key
    rw [at?_dictionaryValue]
    cases messages.get? key <;> rfl
  obtain ⟨hs, hvalue⟩ : ∃ hs, dictionaryValue messages = .mapping hs := ⟨_, rfl⟩
  rw [hvalue] at hslot hbase hmessages hstored hplain
  refine takes_merge_parts_iff hdocument hproper hslot hmessages hbase rfl
    (fun v h => ?_) fun u hu huproper hpath => ?_
  · obtain ⟨fields, hfields, -⟩ := Option.bind_eq_some_iff.1 h
    exact hasFields_iff.2 ⟨fields, hfields⟩
  · have hfields := (hasFields_merge_iff hmessages huproper hbase).2 hu
    rw [dictionary?_eq_some_iff (hmessages.merge huproper), iff_true_intro hfields, true_and]
    refine forall_congr' fun key => ?_
    rw [takes_congr ["messages", key] [key] (hpath key), Dictionary.get?_eq_lookup messages]
    exact takes_merge_iff hu huproper (Value.at?_mapping_singleton ▸ hplain key) (hstored key)

/-! ### Settings -/

/-- The settings `new` are what a document states, laid over the settings `old`: the keys of the
document are texts, and each setting is what the document says it is, or what it was. -/
structure IsLayered (document : Value) (old new : Settings) : Prop where
  hasFields : HasFields document
  plain : TakesPlain document old new
  help : TakesHelp document old.help new.help
  messages : TakesMessages document old.messages new.messages

lemma number?_numberValue (n : UInt32) : number? (numberValue n) = some n := by
  have hbound : (n.toNat : Int) < UInt32.size := Int.ofNat_lt.2 n.toNat_lt
  change (if 0 ≤ (n.toNat : Int) ∧ (n.toNat : Int) < UInt32.size then
    some (UInt32.ofNat (n.toNat : Int).toNat) else none) = some n
  rw [if_pos ⟨Int.natCast_nonneg _, hbound⟩, Int.toNat_natCast, UInt32.ofNat_toNat]

lemma texts?_textsValue (ts : List Text) : texts? (textsValue ts) = some ts :=
  (mapM_eq_some_iff_map fun _ _ => text?_eq_some_iff).2 rfl

/-- The document of settings states all of them. -/
lemma takesPlain_toValue (s old : Settings) : TakesPlain s.toValue old s where
  siteUrl := .stated rfl rfl
  recordRoute := .stated rfl rfl
  diagramRoute := .stated rfl rfl
  sandboxRoot := by
    refine .stated rfl ?_
    cases s.sandboxRoot <;> rfl
  publicUrl := .stated rfl rfl
  imageClasses := .stated rfl (texts?_textsValue _)
  imageTitleClasses := .stated rfl (texts?_textsValue _)
  defaultWidth := .stated rfl (number?_numberValue _)
  defaultHeight := .stated rfl (number?_numberValue _)
  wikipediaLanguage := .stated rfl rfl
  expandLinks := .stated rfl rfl
  logLevel := .stated rfl rfl

/-- The settings without parts that a document states over others. -/
lemma takesPlain_merge_iff {base : Settings} (hdocument : HasFields document)
    (hproper : document.IsProper) :
    TakesPlain (base.toValue.merge document) Settings.initial s ↔ TakesPlain document base s := by
  have htakes {α : Type} {key : Text} {read? : Value → Option α} {initial old new : α}
      (hslot : (base.toValue.at? [.text key]).any Value.isMapping = false)
      (hold : Takes base.toValue [key] read? initial old) :
      Takes (base.toValue.merge document) [key] read? initial new ↔
        Takes document [key] read? old new :=
    takes_merge_iff hdocument hproper (Value.at?_mapping_singleton ▸ hslot) hold
  -- this is the only plain setting that may be null
  have hroot : (base.toValue.at? [.text "sandbox_root"]).any Value.isMapping = false := by
    change Value.isMapping ((base.sandboxRoot.map Value.text).getD .null) = false
    cases base.sandboxRoot <;> rfl
  have hold := takesPlain_toValue base Settings.initial
  constructor
  · intro h
    exact ⟨(htakes rfl hold.siteUrl).1 h.siteUrl, (htakes rfl hold.recordRoute).1 h.recordRoute,
      (htakes rfl hold.diagramRoute).1 h.diagramRoute,
      (htakes hroot hold.sandboxRoot).1 h.sandboxRoot, (htakes rfl hold.publicUrl).1 h.publicUrl,
      (htakes rfl hold.imageClasses).1 h.imageClasses,
      (htakes rfl hold.imageTitleClasses).1 h.imageTitleClasses,
      (htakes rfl hold.defaultWidth).1 h.defaultWidth,
      (htakes rfl hold.defaultHeight).1 h.defaultHeight,
      (htakes rfl hold.wikipediaLanguage).1 h.wikipediaLanguage,
      (htakes rfl hold.expandLinks).1 h.expandLinks, (htakes rfl hold.logLevel).1 h.logLevel⟩
  · intro h
    exact ⟨(htakes rfl hold.siteUrl).2 h.siteUrl, (htakes rfl hold.recordRoute).2 h.recordRoute,
      (htakes rfl hold.diagramRoute).2 h.diagramRoute,
      (htakes hroot hold.sandboxRoot).2 h.sandboxRoot, (htakes rfl hold.publicUrl).2 h.publicUrl,
      (htakes rfl hold.imageClasses).2 h.imageClasses,
      (htakes rfl hold.imageTitleClasses).2 h.imageTitleClasses,
      (htakes rfl hold.defaultWidth).2 h.defaultWidth,
      (htakes rfl hold.defaultHeight).2 h.defaultHeight,
      (htakes rfl hold.wikipediaLanguage).2 h.wikipediaLanguage,
      (htakes rfl hold.expandLinks).2 h.expandLinks, (htakes rfl hold.logLevel).2 h.logLevel⟩

/-- The settings of a document over others are those that the document states over them. -/
lemma over?_eq_some_iff {base : Settings} (hproper : document.IsProper) :
    over? base document = some s ↔ IsLayered document base s := by
  have hbase : HasFields base.toValue := hasFields_iff.2 ⟨_, rfl⟩
  have hfields : HasFields (base.toValue.merge document) ↔ HasFields document :=
    hasFields_merge_iff (isProper_toValue base) hproper hbase
  rw [over?, ofValue?_eq_some_iff, hfields]
  constructor
  · rintro ⟨hdocument, hplain, hhelp, hmessages⟩
    exact ⟨hdocument, (takesPlain_merge_iff hdocument hproper).1 hplain,
      (takes_help_iff hdocument hproper rfl).1 hhelp,
      (takes_messages_iff hdocument hproper rfl).1 hmessages⟩
  · rintro ⟨hdocument, hplain, hhelp, hmessages⟩
    exact ⟨hdocument, (takesPlain_merge_iff hdocument hproper).2 hplain,
      (takes_help_iff hdocument hproper rfl).2 hhelp,
      (takes_messages_iff hdocument hproper rfl).2 hmessages⟩

/-! ### Settings of a file -/

/-- A text that is read over settings gives what its document states over them, if that is valid. -/
lemma readOver_eq_ok_iff {base : Settings} :
    readOver base t = .ok s ↔
      s.Valid ∧ ∃ document, Yaml.readValue? t = some document ∧ IsLayered document base s := by
  have hlayered : (Yaml.readValue? t).bind (over? base) = some s ↔
      ∃ document, Yaml.readValue? t = some document ∧ IsLayered document base s := by
    rw [Option.bind_eq_some_iff]
    refine exists_congr fun document => and_congr_right fun hvalue => ?_
    exact over?_eq_some_iff (Yaml.isProper_of_readValue? hvalue)
  rw [← hlayered, readOver]
  cases (Yaml.readValue? t).bind (over? base) with
  | none => simp
  | some s' =>
    rw [Option.some_inj]
    cases hfault : s'.fault? with
    | none =>
      simp only [hfault, Except.ok.injEq]
      exact ⟨fun h => ⟨h ▸ hfault, h⟩, fun h => h.2⟩
    | some fault =>
      simp only [hfault, reduceCtorEq, false_iff]
      rintro ⟨hvalid, rfl⟩
      exact Option.some_ne_none fault (hfault.symm.trans hvalid)

/-- What is loaded from a file is what its document states over the settings that were there, if
that is valid. -/
lemma loadOver_eq_ok_iff {fs : FileSystem} {file : Text} {base : Settings}
    (hexists : fs.pathExists file = true) :
    loadOver fs file base = .ok s ↔
      s.Valid ∧ ∃ t document, fs.readText file = .ok t ∧ Yaml.readValue? t = some document ∧
        IsLayered document base s := by
  rw [loadOver, if_pos hexists]
  cases hread : fs.readText file with
  | error fault => simp
  | ok t =>
    change (readOver base t).mapError Failure.config = .ok s ↔ _
    rw [mapError_eq_ok_iff, readOver_eq_ok_iff]
    simp

end NoteLinks.Settings
