import NoteLinks.Proofs.LayeredSettings
import NoteLinks.Proofs.WrittenDocuments

/-!
# Settings that were saved

Settings are saved as the document that states all of them.  Laid over any other settings, this
document gives the saved ones back, but for messages under keys that only the others have
(`over?_toValue`); there are none of them in the initial settings.  The document is written without
loss (`readValue?_writeDocument_toValue`).  So what was saved in a file is what is loaded from there
(`load_save`).
-/

namespace NoteLinks.Settings

open Yaml (Value)

variable {s base : Settings} {fs : FileSystem} {file : Text} {held : Option Utf8.Bytes}

/-- The settings with the messages of others under the keys that they do not have themselves. -/
def withMessagesOf (s base : Settings) : Settings :=
  { s with messages := base.messages.overlay s.messages }

lemma valid_withMessagesOf : (s.withMessagesOf base).Valid ↔ s.Valid := Iff.rfl

/-- The document of settings states them over any others. -/
lemma isLayered_toValue (s base : Settings) : IsLayered s.toValue base (s.withMessagesOf base) where
  hasFields := hasFields_iff.2 ⟨_, rfl⟩
  plain := by
    obtain ⟨hsite, hrecord, hdiagram, hsandbox, hpublic, himage, htitle, hwidth, hheight, hlanguage,
      hexpand, hlog⟩ := takesPlain_toValue s base
    exact ⟨hsite, hrecord, hdiagram, hsandbox, hpublic, himage, htitle, hwidth, hheight, hlanguage,
      hexpand, hlog⟩
  help := by
    refine .merged ?_ ⟨.stated rfl rfl, .stated rfl rfl⟩
    rintro v hv
    obtain rfl := Option.some.inj hv
    exact ⟨rfl, hasFields_iff.2 ⟨_, rfl⟩⟩
  messages := by
    refine .merged ?_ fun key => ?_
    · rintro v hv
      obtain rfl := Option.some.inj hv
      exact ⟨rfl, hasFields_iff.2 ⟨_, fields?_dictionaryValue s.messages⟩⟩
    · change Takes s.toValue _ storedText? _ ((base.messages.overlay s.messages).get? key)
      rw [Dictionary.get?_overlay]
      have hat : s.toValue.at? ([("messages" : Text), key].map .text) =
          (s.messages.get? key).map .text :=
        at?_dictionaryValue s.messages key
      -- a message that the saved settings do not have is kept
      cases hget : s.messages.get? key with
      | none =>
        rw [hget] at hat
        exact .kept hat
      | some t =>
        rw [hget] at hat
        exact .stated hat rfl

/-- The document of settings gives them back over any others, with the messages of these under keys
that it does not have. -/
lemma over?_toValue (s base : Settings) : over? base s.toValue = some (s.withMessagesOf base) :=
  (over?_eq_some_iff (isProper_toValue s)).2 (isLayered_toValue s base)

/-- The initial settings have no messages. -/
lemma withMessagesOf_initial (s : Settings) : s.withMessagesOf initial = s := by
  have hmessages : initial.messages.overlay s.messages = s.messages := by
    refine Dictionary.ext_get? fun key => ?_
    rw [Dictionary.get?_overlay]
    exact Option.or_none
  rw [withMessagesOf, hmessages]

/-! ### The text of settings -/

/-- A mapping whose keys are texts is written without loss if its values are. -/
lemma isWritable_of_keys {n : Nat} {entries : List (Value × Value)} (keys : List Text)
    (hentries : entries.map (·.1) = keys.map Value.text)
    (hvalues : ∀ e ∈ entries, e.2.IsWritable n) : (Value.mapping entries).IsWritable (n + 1) := by
  refine .mapping (fun e he => ?_) hvalues
  obtain ⟨t, -, ht⟩ := List.mem_map.1 (hentries ▸ List.mem_map_of_mem he)
  exact ht ▸ .text t

lemma isWritable_textsValue (ts : List Text) : (textsValue ts).IsWritable 1 := by
  apply Value.IsWritable.list
  intro v hv
  obtain ⟨t, -, rfl⟩ := List.mem_map.1 hv
  exact .text t

lemma isWritable_helpValue (help : HelpSettings) : (helpValue help).IsWritable 1 := by
  apply isWritable_of_keys ["wiki_base", "default_url"] rfl
  simp only [List.forall_mem_cons]
  exact ⟨.text _, .text _, fun e he => absurd he List.not_mem_nil⟩

lemma isWritable_dictionaryValue (d : Dictionary) : (dictionaryValue d).IsWritable 1 := by
  apply isWritable_of_keys (d.entries.map (·.1)) (by simp)
  intro e he
  obtain ⟨f, -, rfl⟩ := List.mem_map.1 he
  exact .text f.2

lemma isWritable_numberValue (n : UInt32) : (numberValue n).IsWritable 1 := by
  have hbound : n.toNat < 2 ^ 32 := n.toNat_lt
  apply Value.IsWritable.word (.int ?_)
  rw [Yaml.fits, Bool.and_eq_true, decide_eq_true_eq, decide_eq_true_eq]
  simp only [Nat.pow_eq]
  omega

/-- The document of settings is written without loss, as a mapping of mappings and lists of
scalars. -/
lemma isWritable_toValue (s : Settings) : s.toValue.IsWritable 2 := by
  have hroot : ((s.sandboxRoot.map Value.text).getD .null).IsWritable 1 := by
    cases s.sandboxRoot with
    | none => exact .word .null
    | some root => exact .text root
  apply isWritable_of_keys settingKeys rfl
  simp only [List.forall_mem_cons]
  exact ⟨.text _, .text _, .text _, hroot, .text _, isWritable_textsValue _,
    isWritable_textsValue _, isWritable_numberValue _, isWritable_numberValue _, .text _,
    .word (.bool _), isWritable_helpValue s.help, isWritable_dictionaryValue _, .text _,
    fun e he => absurd he List.not_mem_nil⟩

/-- The document of settings is read back from its text. -/
lemma readValue?_writeDocument_toValue (s : Settings) :
    Yaml.readValue? (Yaml.writeDocument s.toValue) = some s.toValue :=
  Yaml.readValue?_writeDocument (isWritable_toValue s) (by decide) (isProper_toValue s)
    (by rintro _ ⟨⟩)

/-! ### Files of settings -/

/-- The file gives settings back.  Loaded on its own it has just them; loaded over any others it has
them too, but for the messages of the others under keys for which the settings have none. -/
structure GivesBack (fs : FileSystem) (file : Text) (s : Settings) : Prop where
  alone : load fs file = .ok s
  layered : ∀ base, ∃ loaded, loadOver fs file base = .ok loaded ∧ loaded.Valid ∧
    { loaded with messages := s.messages } = s ∧
    ∀ key, loaded.messages.get? key = (s.messages.get? key).or (base.messages.get? key)

/-- A file with any text that is read as the document of valid settings gives them back. -/
lemma givesBack_of_readText {t : Text} (hs : s.Valid) (hexists : fs.pathExists file = true)
    (htext : fs.readText file = .ok t) (hvalue : Yaml.readValue? t = some s.toValue) :
    GivesBack fs file s := by
  have hover : ∀ base, loadOver fs file base = .ok (s.withMessagesOf base) := fun base =>
    (loadOver_eq_ok_iff hexists).2
      ⟨valid_withMessagesOf.2 hs, t, s.toValue, htext, hvalue, isLayered_toValue s base⟩
  refine ⟨?_, fun base => ⟨_, hover base, valid_withMessagesOf.2 hs, rfl, fun key => ?_⟩⟩
  · rw [load, hover, withMessagesOf_initial]
  · exact Dictionary.get?_overlay _ _ key

/-- Settings are saved where a file can be written. -/
lemma exists_save (hheld : fs.Holds file held) (s : Settings) :
    ∃ fs', save fs file s = .ok fs' := by
  obtain ⟨fs', hwrite, -⟩ := hheld.writeBytes (Utf8.encode (Yaml.writeDocument s.toValue))
  exact ⟨fs', by rw [save, hwrite]⟩

/-- A file to which settings were saved has their text. -/
lemma holds_of_save {fs' : FileSystem} (htree : fs.IsTree) (hsave : save fs file s = .ok fs') :
    fs'.Holds file (some (Utf8.encode (Yaml.writeDocument s.toValue))) := by
  have hwrite : fs.writeBytes file (Utf8.encode (Yaml.writeDocument s.toValue)) = .ok fs' := by
    unfold save at hsave
    split at hsave
    · rename_i hwrite
      rwa [Except.ok.inj hsave] at hwrite
    · cases hsave
  exact (FileSystem.exists_holds_of_writeBytes htree hwrite).2

/-- Saving valid settings and loading them again loses nothing.  Their document laid over the one of
the initial settings states just them.  So a file whose text is read as their document gives them
back, and they can be saved to such a file wherever one can be written. -/
theorem load_save {s : Settings} (hs : s.Valid) :
    ofValue? (initial.toValue.merge s.toValue) = some s ∧
    (∀ fs file t, fs.pathExists file = true → fs.readText file = .ok t →
      Yaml.readValue? t = some s.toValue → GivesBack fs file s) ∧
    ∀ fs file, fs.IsTree →
      (∀ held, fs.Holds file held → ∃ fs', save fs file s = .ok fs') ∧
      ∀ fs', save fs file s = .ok fs' → GivesBack fs' file s := by
  refine ⟨?_, fun fs file t => givesBack_of_readText hs, fun fs file htree => ⟨?_, ?_⟩⟩
  · have hover := over?_toValue s initial
    rwa [withMessagesOf_initial, over?] at hover
  · exact fun held hheld => exists_save hheld s
  · intro fs' hsave
    obtain ⟨hexists, htext⟩ := (holds_of_save htree hsave).readText
    exact givesBack_of_readText hs hexists htext (readValue?_writeDocument_toValue s)

/-- Settings with a directory of public files, without classes for images and with a message. -/
def sandboxSettings : Settings :=
  { initial with
    sandboxRoot := some "/srv/public", imageClasses := []
    messages := Dictionary.ofList [("image.none", "Kein Bild für %s")] }

/-- Settings with other classes and with messages under that key and another one. -/
def shopSettings : Settings :=
  { Profile.production.settings with
    imageClasses := ["wide"]
    messages := Dictionary.ofList [("image.none", "No picture"), ("tree.open", "Open")] }

/-- The settings are saved to a new file and loaded from there, over others with their message for
the other key. -/
theorem load_save_sandbox :
    sandboxSettings.Valid ∧ FileSystem.empty.IsTree ∧
      ∃ fs', save FileSystem.empty "/site.yaml" sandboxSettings = .ok fs' ∧
        load fs' "/site.yaml" = .ok sandboxSettings ∧
        ∃ loaded, loadOver fs' "/site.yaml" shopSettings = .ok loaded ∧ loaded.imageClasses = [] ∧
          loaded.messages.get? "image.none" = some "Kein Bild für %s".toList ∧
          loaded.messages.get? "tree.open" = some "Open".toList := by
  have hvalid : sandboxSettings.Valid := by decide
  have htree : FileSystem.empty.IsTree := by
    intro place hplace
    by_cases hroot : place = []
    · rw [hroot]
      rfl
    · rw [FileSystem.node?, if_neg hroot] at hplace
      cases hplace
  have hheld : FileSystem.empty.Holds "/site.yaml" none := by
    have hopen : FileSystem.IsOpenable "/site.yaml" := ⟨by decide, by decide, by decide⟩
    refine ⟨["site.yaml".toList], FileSystem.openAt_eq_ok_iff.2 ⟨hopen, ?_⟩, by decide⟩
    exact .stay (by decide) (Or.inl rfl)
      (.create (by decide) ⟨by decide, by decide, by decide, by decide, by decide⟩ rfl rfl)
  obtain ⟨-, -, hsave⟩ := load_save hvalid
  obtain ⟨hwritten, hgives⟩ := hsave FileSystem.empty "/site.yaml" htree
  obtain ⟨fs', hfs'⟩ := hwritten none hheld
  obtain ⟨halone, hlayered⟩ := hgives fs' hfs'
  obtain ⟨loaded, hloaded, -, hsettings, hmessages⟩ := hlayered shopSettings
  refine ⟨hvalid, htree, fs', hfs', halone, loaded, hloaded, ?_, ?_, ?_⟩
  · exact congrArg imageClasses hsettings
  · rw [hmessages]
    decide
  · rw [hmessages]
    decide

end NoteLinks.Settings
