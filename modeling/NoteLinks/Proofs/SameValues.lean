import Mathlib.Data.List.Forall2
import Mathlib.Tactic.Common
import NoteLinks.Yaml.Reader

/-!
# Values that are the same

Values are compared without regard to the order of entries, and so are the keys of a mapping.  Among
values in which no mapping has a key twice (`Value.IsProper`), being the same is an equivalence
(`Value.same_refl`, `Value.IsProper.same_symm`, `Value.same_trans`): as keys are not repeated, the
entries of one mapping cannot all be matched by some of the entries of another.  So a mapping has
one value under a key in whichever way the key is written (`valueAt?_congr`), and setting a key
changes what stands under it and nothing else (`valueAt?_setEntry`).

The values that are read from documents are such values (`isProper_of_readValue?`).
-/

namespace NoteLinks.Yaml

variable {v w u key k : Value} {vs : List Value} {es fs bs os : List (Value × Value)}

/-! ### Induction on values -/

/-- What holds of scalars, of a list if it holds of its items, and of a mapping if it holds of its
keys and values, holds of all values. -/
@[elab_as_elim]
lemma Value.induction {motive : Value → Prop} (scalar : ∀ s, motive (.scalar s))
    (list : ∀ items, (∀ v ∈ items, motive v) → motive (.list items))
    (mapping : ∀ entries, (∀ e ∈ entries, motive e.1 ∧ motive e.2) → motive (.mapping entries))
    (v : Value) : motive v := by
  refine @Value.rec motive (fun items => ∀ v ∈ items, motive v)
    (fun entries => ∀ e ∈ entries, motive e.1 ∧ motive e.2) (fun e => motive e.1 ∧ motive e.2)
    scalar list mapping ?_ ?_ ?_ ?_ ?_ v
  · exact fun v hv => absurd hv List.not_mem_nil
  · exact fun v vs hv hvs => List.forall_mem_cons.2 ⟨hv, hvs⟩
  · exact fun e he => absurd he List.not_mem_nil
  · exact fun e es he hes => List.forall_mem_cons.2 ⟨he, hes⟩
  · exact fun k v hk hv => ⟨hk, hv⟩

/-! ### Values that are the same -/

lemma Value.scalar_same_iff {s : Scalar} : (Value.scalar s).same w = true ↔ w = .scalar s := by
  cases w with
  | scalar t => rw [Value.same, beq_iff_eq, Value.scalar.injEq, eq_comm]
  | list => simp [Value.same]
  | mapping => simp [Value.same]

lemma sameItems_iff {vs ws : List Value} :
    sameItems vs ws = true ↔ List.Forall₂ (fun v w => v.same w = true) vs ws := by
  induction vs generalizing ws with
  | nil => cases ws <;> simp [sameItems]
  | cons v vs ih => cases ws <;> simp [sameItems, ih]

lemma Value.list_same_iff :
    (Value.list vs).same w = true ↔
      ∃ ws, w = .list ws ∧ List.Forall₂ (fun v w => v.same w = true) vs ws := by
  cases w <;> simp [Value.same, sameItems_iff]

lemma hasEntries_iff :
    hasEntries fs es = true ↔ ∀ e ∈ es, ∃ f ∈ fs, e.1.same f.1 = true ∧ e.2.same f.2 = true := by
  induction es with
  | nil => simp [hasEntries]
  | cons e es ih => simp [hasEntries, ih]

lemma Value.mapping_same_iff :
    (Value.mapping es).same w = true ↔
      ∃ fs, w = .mapping fs ∧ es.length = fs.length ∧
        ∀ e ∈ es, ∃ f ∈ fs, e.1.same f.1 = true ∧ e.2.same f.2 = true := by
  cases w <;> simp [Value.same, hasEntries_iff]

@[simp]
lemma Value.same_refl (v : Value) : v.same v = true := by
  induction v using Value.induction with
  | scalar s => exact Value.scalar_same_iff.2 rfl
  | list items ih => exact Value.list_same_iff.2 ⟨items, rfl, List.forall₂_same.2 ih⟩
  | mapping entries ih =>
    exact Value.mapping_same_iff.2 ⟨entries, rfl, rfl, fun e he => ⟨e, he, ih e he⟩⟩

/-- Values that are the same as one value are the same. -/
lemma Value.same_trans (hvw : v.same w = true) (hwu : w.same u = true) : v.same u = true := by
  induction v using Value.induction generalizing w u with
  | scalar s =>
    obtain rfl := Value.scalar_same_iff.1 hvw
    exact hwu
  | list items ih =>
    obtain ⟨ws, rfl, hws⟩ := Value.list_same_iff.1 hvw
    obtain ⟨us, rfl, hus⟩ := Value.list_same_iff.1 hwu
    refine Value.list_same_iff.2 ⟨us, rfl, ?_⟩
    clear hvw hwu
    induction hws generalizing us with
    | nil => exact hus
    | cons hvw hws ihs =>
      cases hus with
      | cons hwu hus =>
        exact .cons (ih _ (by simp) hvw hwu) (ihs (fun v hv => ih v (by simp [hv])) _ hus)
  | mapping entries ih =>
    obtain ⟨fs, rfl, hlength, hfs⟩ := Value.mapping_same_iff.1 hvw
    obtain ⟨gs, rfl, hlength', hgs⟩ := Value.mapping_same_iff.1 hwu
    refine Value.mapping_same_iff.2 ⟨gs, rfl, hlength.trans hlength', fun e he => ?_⟩
    obtain ⟨f, hf, hkey, hvalue⟩ := hfs e he
    obtain ⟨g, hg, hkey', hvalue'⟩ := hgs f hf
    exact ⟨g, hg, (ih e he).1 hkey hkey', (ih e he).2 hvalue hvalue'⟩

/-- No mapping in the value has a key twice. -/
inductive Value.IsProper : Value → Prop
  | scalar (s : Scalar) : IsProper (.scalar s)
  | list {items : List Value} (hitems : ∀ v ∈ items, IsProper v) : IsProper (.list items)
  | mapping {entries : List (Value × Value)} (hkeys : ∀ e ∈ entries, IsProper e.1)
      (hvalues : ∀ e ∈ entries, IsProper e.2)
      (hdistinct : entries.Pairwise fun e f => e.1.same f.1 = false) : IsProper (.mapping entries)

/-- If each of some things has a match, no two of them have the same one, and there are not more
matches than things, then each match is the match of something. -/
lemma exists_of_mem_of_length_eq {α β : Type} {r : α → β → Prop} {as : List α} {bs : List β}
    (hlength : as.length = bs.length) (hmatch : ∀ a ∈ as, ∃ b ∈ bs, r a b)
    (hdistinct : as.Pairwise fun a a' => ∀ b, r a b → ¬ r a' b) :
    ∀ b ∈ bs, ∃ a ∈ as, r a b := by
  induction as generalizing bs with
  | nil =>
    intro b hb
    obtain rfl := List.eq_nil_of_length_eq_zero hlength.symm
    exact absurd hb List.not_mem_nil
  | cons a as ih =>
    obtain ⟨hfirst, hrest⟩ := List.pairwise_cons.1 hdistinct
    -- the partner of the first member is taken out, and no other member has it
    obtain ⟨b₀, hb₀, hab₀⟩ := hmatch a List.mem_cons_self
    obtain ⟨left, right, rfl⟩ := List.append_of_mem hb₀
    have hothers : ∀ b ∈ left ++ right, ∃ a ∈ as, r a b := by
      apply ih
      · rw [List.length_cons, List.length_append, List.length_cons] at hlength
        rw [List.length_append]
        omega
      · intro a' ha'
        obtain ⟨b, hb, hab⟩ := hmatch a' (List.mem_cons_of_mem a ha')
        have hne : b ≠ b₀ := by
          rintro rfl
          exact hfirst a' ha' b hab₀ hab
        exact ⟨b, by simpa [hne] using hb, hab⟩
      · exact hrest
    intro b hb
    by_cases hbb₀ : b = b₀
    · exact ⟨a, List.mem_cons_self, hbb₀ ▸ hab₀⟩
    · obtain ⟨a', ha', hab⟩ := hothers b (by simpa [hbb₀] using hb)
      exact ⟨a', List.mem_cons_of_mem a ha', hab⟩

/-- If a value without repeated keys is the same as another, that one is the same as it. -/
lemma Value.IsProper.same_symm (hv : v.IsProper) (h : v.same w = true) : w.same v = true := by
  induction v using Value.induction generalizing w with
  | scalar s =>
    obtain rfl := Value.scalar_same_iff.1 h
    exact h
  | list items ih =>
    obtain ⟨ws, rfl, hws⟩ := Value.list_same_iff.1 h
    cases hv with
    | list hitems =>
      have hsymm : ∀ v ∈ items, ∀ w, v.same w = true → w.same v = true :=
        fun v hv w => ih v hv (hitems v hv)
      have hsame := (List.forall₂_and_left items ws).2 ⟨hsymm, hws⟩
      exact Value.list_same_iff.2 ⟨items, rfl, .flip (hsame.imp fun v w h => h.1 w h.2)⟩
  | mapping entries ih =>
    obtain ⟨fs, rfl, hlength, hfs⟩ := Value.mapping_same_iff.1 h
    cases hv with
    | mapping hkeys hvalues hdistinct =>
      refine Value.mapping_same_iff.2 ⟨entries, rfl, hlength.symm, fun f hf => ?_⟩
      have hmatched := exists_of_mem_of_length_eq hlength hfs (hdistinct.imp_of_mem ?_)
      · obtain ⟨e, he, hkey, hvalue⟩ := hmatched f hf
        exact ⟨e, he, (ih e he).1 (hkeys e he) hkey, (ih e he).2 (hvalues e he) hvalue⟩
      · -- keys with one match are the same
        intro e e' he he' hne f hef he'f
        rw [Value.same_trans hef.1 ((ih e' he').1 (hkeys e' he') he'f.1)] at hne
        cases hne

lemma Value.IsProper.of_key (h : (Value.mapping es).IsProper) {e : Value × Value} (he : e ∈ es) :
    e.1.IsProper := by
  cases h with
  | mapping hkeys => exact hkeys e he

lemma Value.IsProper.of_value (h : (Value.mapping es).IsProper) {e : Value × Value} (he : e ∈ es) :
    e.2.IsProper := by
  cases h with
  | mapping _ hvalues => exact hvalues e he

/-- The keys and values of a mapping without repeated keys, one entry after the other. -/
lemma isProper_cons_iff {e : Value × Value} :
    (Value.mapping (e :: es)).IsProper ↔
      e.1.IsProper ∧ e.2.IsProper ∧ (∀ f ∈ es, e.1.same f.1 = false) ∧
        (Value.mapping es).IsProper := by
  constructor
  · rintro ⟨⟩
    rename_i hkeys hvalues hdistinct
    obtain ⟨hkey, hkeys⟩ := List.forall_mem_cons.1 hkeys
    obtain ⟨hvalue, hvalues⟩ := List.forall_mem_cons.1 hvalues
    obtain ⟨hfirst, hdistinct⟩ := List.pairwise_cons.1 hdistinct
    exact ⟨hkey, hvalue, hfirst, .mapping hkeys hvalues hdistinct⟩
  · rintro ⟨hkey, hvalue, hfirst, ⟨⟩⟩
    rename_i hkeys hvalues hdistinct
    exact .mapping (List.forall_mem_cons.2 ⟨hkey, hkeys⟩) (List.forall_mem_cons.2 ⟨hvalue, hvalues⟩)
      (List.pairwise_cons.2 ⟨hfirst, hdistinct⟩)

/-! ### Looking up and setting -/

lemma valueAt?_cons (e : Value × Value) (es : List (Value × Value)) (key : Value) :
    valueAt? (e :: es) key = if key.same e.1 then some e.2 else valueAt? es key := by
  rw [valueAt?, List.find?_cons]
  cases key.same e.1 <;> rfl

lemma valueAt?_eq_none (h : ∀ e ∈ es, key.same e.1 = false) : valueAt? es key = none := by
  rw [valueAt?, List.find?_eq_none.2 fun e he => by simp [h e he]]
  rfl

lemma exists_mem_of_valueAt? (h : valueAt? es key = some v) :
    ∃ e ∈ es, key.same e.1 = true ∧ e.2 = v := by
  obtain ⟨e, hfind, rfl⟩ := Option.map_eq_some_iff.1 h
  exact ⟨e, List.mem_of_find?_eq_some hfind, by simpa using List.find?_some hfind, rfl⟩

/-- The value that an entry of a mapping without repeated keys has stands under its key. -/
lemma Value.IsProper.valueAt?_eq (h : (Value.mapping es).IsProper) {e : Value × Value}
    (he : e ∈ es) : valueAt? es e.1 = some e.2 := by
  induction es with
  | nil => exact absurd he List.not_mem_nil
  | cons f es ih =>
    obtain ⟨hf, -, hfirst, hes⟩ := isProper_cons_iff.1 h
    rw [valueAt?_cons]
    rcases List.mem_cons.1 he with rfl | he
    · rw [if_pos (Value.same_refl _)]
    · rw [if_neg, ih hes he]
      intro hsame
      have hfe := (hes.of_key he).same_symm hsame
      rw [hfirst e he] at hfe
      cases hfe

lemma Value.IsProper.of_valueAt? (h : (Value.mapping es).IsProper) (hv : valueAt? es key = some v) :
    v.IsProper := by
  obtain ⟨e, he, -, rfl⟩ := exists_mem_of_valueAt? hv
  exact h.of_value he

/-- The same stands under keys that are the same. -/
lemma valueAt?_congr (hkey : key.IsProper) (h : key.same k = true) :
    valueAt? es key = valueAt? es k := by
  have hiff : ∀ w : Value, key.same w = k.same w := fun w =>
    Bool.eq_iff_iff.2 ⟨Value.same_trans (hkey.same_symm h), Value.same_trans h⟩
  simp only [valueAt?, hiff]

/-- Under a key that was set stands what it was set to, under other keys what stood there. -/
lemma valueAt?_setEntry (hkey : key.IsProper) (hk : k.IsProper) :
    valueAt? (setEntry k v es) key = if key.same k then some v else valueAt? es key := by
  induction es with
  | nil => rw [setEntry, valueAt?_cons]
  | cons e es ih =>
    rw [setEntry]
    by_cases he : k.same e.1 = true
    · have hiff : key.same e.1 = key.same k := Bool.eq_iff_iff.2
        ⟨fun h => Value.same_trans h (hk.same_symm he), fun h => Value.same_trans h he⟩
      rw [if_pos he, valueAt?_cons, valueAt?_cons, hiff]
      split <;> rfl
    · rw [if_neg he, valueAt?_cons, ih, valueAt?_cons]
      by_cases hkeye : key.same e.1 = true
      · rw [if_pos hkeye, if_pos hkeye, if_neg]
        intro hkeyk
        exact he (Value.same_trans (hkey.same_symm hkeyk) hkeye)
      · rw [if_neg hkeye, if_neg hkeye]

/-- The entries of a mapping in which a key was set. -/
lemma mem_setEntry {e : Value × Value} (h : e ∈ setEntry k v es) :
    (e.1 = k ∨ ∃ f ∈ es, e.1 = f.1) ∧ (e.2 = v ∨ ∃ f ∈ es, e.2 = f.2) := by
  induction es with
  | nil =>
    obtain rfl := List.mem_singleton.1 h
    exact ⟨Or.inl rfl, Or.inl rfl⟩
  | cons f es ih =>
    rw [setEntry] at h
    split at h
    · rcases List.mem_cons.1 h with rfl | he
      · exact ⟨Or.inr ⟨f, List.mem_cons_self, rfl⟩, Or.inl rfl⟩
      · have hmem := List.mem_cons_of_mem f he
        exact ⟨Or.inr ⟨e, hmem, rfl⟩, Or.inr ⟨e, hmem, rfl⟩⟩
    · rcases List.mem_cons.1 h with rfl | he
      · exact ⟨Or.inr ⟨e, List.mem_cons_self, rfl⟩, Or.inr ⟨e, List.mem_cons_self, rfl⟩⟩
      · obtain ⟨hkey, hvalue⟩ := ih he
        have hmem : ∀ g ∈ es, g ∈ f :: es := fun g hg => List.mem_cons_of_mem f hg
        exact ⟨hkey.imp_right fun ⟨g, hg, heq⟩ => ⟨g, hmem g hg, heq⟩,
          hvalue.imp_right fun ⟨g, hg, heq⟩ => ⟨g, hmem g hg, heq⟩⟩

/-- Setting a key repeats none. -/
lemma pairwise_setEntry (hkeys : ∀ e ∈ es, e.1.IsProper)
    (h : es.Pairwise fun e f => e.1.same f.1 = false) :
    (setEntry k v es).Pairwise fun e f => e.1.same f.1 = false := by
  induction es with
  | nil => exact List.pairwise_singleton _ _
  | cons e es ih =>
    obtain ⟨hfirst, hrest⟩ := List.pairwise_cons.1 h
    obtain ⟨he, hes⟩ := List.forall_mem_cons.1 hkeys
    rw [setEntry]
    split
    · exact List.pairwise_cons.2 ⟨hfirst, hrest⟩
    · rename_i hne
      refine List.pairwise_cons.2 ⟨fun f hf => ?_, ih hes hrest⟩
      obtain ⟨rfl | ⟨g, hg, hkey⟩, -⟩ := mem_setEntry hf
      · exact Bool.eq_false_iff.2 fun hsame => hne (he.same_symm hsame)
      · rw [hkey]
        exact hfirst g hg

/-- A mapping without repeated keys has none after a key was set. -/
lemma Value.IsProper.setEntry (h : (Value.mapping es).IsProper) (hk : k.IsProper)
    (hv : v.IsProper) : (Value.mapping (setEntry k v es)).IsProper := by
  cases h with
  | mapping hkeys hvalues hdistinct =>
    refine .mapping (fun e he => ?_) (fun e he => ?_) (pairwise_setEntry hkeys hdistinct)
    · obtain ⟨hkey | ⟨f, hf, hkey⟩, -⟩ := mem_setEntry he
      · exact hkey ▸ hk
      · exact hkey ▸ hkeys f hf
    · obtain ⟨-, hvalue | ⟨f, hf, hvalue⟩⟩ := mem_setEntry he
      · exact hvalue ▸ hv
      · exact hvalue ▸ hvalues f hf

/-! ### Values of documents -/

/-- What holds of scalars, of a list if it holds of its items, and of a mapping if it holds of its
keys and values, holds of all nodes. -/
@[elab_as_elim]
lemma Node.induction {motive : Node → Prop} (plain : ∀ t, motive (.plain t))
    (quoted : ∀ t, motive (.quoted t))
    (list : ∀ items, (∀ n ∈ items, motive n) → motive (.list items))
    (mapping : ∀ entries, (∀ e ∈ entries, motive e.1 ∧ motive e.2) → motive (.mapping entries))
    (n : Node) : motive n := by
  refine @Node.rec motive (fun items => ∀ n ∈ items, motive n)
    (fun entries => ∀ e ∈ entries, motive e.1 ∧ motive e.2) (fun e => motive e.1 ∧ motive e.2)
    plain quoted list mapping ?_ ?_ ?_ ?_ ?_ n
  · exact fun n hn => absurd hn List.not_mem_nil
  · exact fun n ns hn hns => List.forall_mem_cons.2 ⟨hn, hns⟩
  · exact fun e he => absurd he List.not_mem_nil
  · exact fun e es he hes => List.forall_mem_cons.2 ⟨he, hes⟩
  · exact fun k n hk hn => ⟨hk, hn⟩

/-- The values of nodes are values of them. -/
lemma exists_of_mem_listValues? {ns : List Node} (h : Node.listValues? ns = some vs)
    (hv : v ∈ vs) : ∃ n ∈ ns, n.value? = some v := by
  induction ns generalizing vs with
  | nil =>
    obtain rfl := Option.some.inj h
    exact absurd hv List.not_mem_nil
  | cons n ns ih =>
    simp only [Node.listValues?, Option.bind_eq_bind, Option.bind_eq_some_iff] at h
    obtain ⟨w, hw, ws, hws, heq⟩ := h
    obtain rfl := Option.some.inj heq
    rcases List.mem_cons.1 hv with rfl | hv
    · exact ⟨n, List.mem_cons_self, hw⟩
    · obtain ⟨m, hm, hvalue⟩ := ih hws hv
      exact ⟨m, List.mem_cons_of_mem n hm, hvalue⟩

/-- The values of pairs of nodes are values of them. -/
lemma exists_of_mem_entryValues? {ns : List (Node × Node)} (h : Node.entryValues? ns = some es)
    {e : Value × Value} (he : e ∈ es) :
    ∃ n ∈ ns, n.1.value? = some e.1 ∧ n.2.value? = some e.2 := by
  induction ns generalizing es with
  | nil =>
    obtain rfl := Option.some.inj h
    exact absurd he List.not_mem_nil
  | cons n ns ih =>
    simp only [Node.entryValues?, Option.bind_eq_bind, Option.bind_eq_some_iff] at h
    obtain ⟨key, hkey, value, hvalue, rest, hrest, heq⟩ := h
    obtain rfl := Option.some.inj heq
    rcases List.mem_cons.1 he with rfl | he
    · exact ⟨n, List.mem_cons_self, hkey, hvalue⟩
    · obtain ⟨m, hm, hmkey, hmvalue⟩ := ih hrest he
      exact ⟨m, List.mem_cons_of_mem n hm, hmkey, hmvalue⟩

lemma haveDistinctKeys_iff :
    Node.haveDistinctKeys es = true ↔ es.Pairwise fun e f => e.1.same f.1 = false := by
  induction es with
  | nil => simp [Node.haveDistinctKeys]
  | cons e es ih => simp [Node.haveDistinctKeys, ih]

/-- No mapping that a node means has a key twice. -/
lemma isProper_of_value? {n : Node} (h : n.value? = some v) : v.IsProper := by
  induction n using Node.induction generalizing v with
  | plain t =>
    obtain ⟨s, -, rfl⟩ := Option.map_eq_some_iff.1 h
    exact .scalar s
  | quoted t =>
    obtain rfl := Option.some.inj h
    exact .scalar _
  | list items ih =>
    obtain ⟨vs, hvs, rfl⟩ := Option.map_eq_some_iff.1 h
    refine .list fun v hv => ?_
    obtain ⟨n, hn, hvalue⟩ := exists_of_mem_listValues? hvs hv
    exact ih n hn hvalue
  | mapping entries ih =>
    obtain ⟨es, hes, heq⟩ := Option.bind_eq_some_iff.1 h
    obtain ⟨hdistinct, hmapping⟩ := Option.ite_none_right_eq_some.1 heq
    obtain rfl := Option.some.inj hmapping
    refine .mapping (fun e he => ?_) (fun e he => ?_) (haveDistinctKeys_iff.1 hdistinct)
    · obtain ⟨n, hn, hkey, -⟩ := exists_of_mem_entryValues? hes he
      exact (ih n hn).1 hkey
    · obtain ⟨n, hn, -, hvalue⟩ := exists_of_mem_entryValues? hes he
      exact (ih n hn).2 hvalue

/-- No mapping that is read from a document has a key twice. -/
lemma isProper_of_readValue? {t : Text} (h : readValue? t = some v) : v.IsProper := by
  obtain ⟨n, -, hvalue⟩ := Option.bind_eq_some_iff.1 h
  exact isProper_of_value? hvalue

end NoteLinks.Yaml
