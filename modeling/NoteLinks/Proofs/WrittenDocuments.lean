import NoteLinks.Proofs.FlowTokens
import NoteLinks.Proofs.SameValues

/-!
# Written YAML documents

A value is written on one line, and what is read from the line is the value.  This goes in three
steps.  The text of a list or mapping is read as a row of tokens (`ofText?_writeDocument`), by
induction on the value: each part is read as its own tokens wherever it stands inside brackets
(`isScanned_of_isWritable`), and items and entries alike are parts with commas in between
(`scans_parts`).  The tokens of a value, those of any value, are read as one node (`isParsed`).
That node means the value (`value?_node`).  Together they give `readValue?_writeDocument`.

Values with fractions are left out; no settings have them.
-/

namespace NoteLinks.Yaml

variable {c : Char} {t gap : Text} {k : Token} {ts us : List Token} {levels : List Bool}
variable {isFree isOuterFree mayBeKey : Bool}

/-! ### Values -/

/-- A value that is written without loss: its scalars are texts and words, and at most `n` lists and
mappings stand inside each other. -/
inductive Value.IsWritable : (n : Nat) → Value → Prop
  | text {n : Nat} (t : Text) : IsWritable n (.text t)
  | word {n : Nat} {s : Scalar} (hs : HasWord s) : IsWritable n (.scalar s)
  | list {n : Nat} {items : List Value} (hitems : ∀ v ∈ items, IsWritable n v) :
      IsWritable (n + 1) (.list items)
  | mapping {n : Nat} {entries : List (Value × Value)} (hkeys : ∀ e ∈ entries, IsWritable n e.1)
      (hvalues : ∀ e ∈ entries, IsWritable n e.2) : IsWritable (n + 1) (.mapping entries)

mutual

/-- The tokens that a value is written with. -/
def Value.tokens : Value → List Token
  | .scalar (.text t) => [.quoted t]
  | .scalar s => [.plain (writeScalar s)]
  | .list items => .openBracket :: ((itemTokens items).tail ++ [.closeBracket])
  | .mapping entries => .openBrace :: ((entryTokens entries).tail ++ [.closeBrace])

/-- The tokens that items are written with, each of them behind a comma. -/
def itemTokens : List Value → List Token
  | [] => []
  | v :: vs => .comma :: (v.tokens ++ itemTokens vs)

/-- The tokens that entries are written with, each of them behind a comma. -/
def entryTokens : List (Value × Value) → List Token
  | [] => []
  | (k, v) :: es => .comma :: .key :: (k.tokens ++ .value :: (v.tokens ++ entryTokens es))

end

variable {n : Nat} {v : Value} {items : List Value} {entries : List (Value × Value)} {s : Scalar}

lemma tokens_word (hs : HasWord s) : (Value.scalar s).tokens = [.plain (writeScalar s)] := by
  cases hs <;> rfl

lemma writeValue_list (items : List Value) :
    writeValue (.list items) = '[' :: (writeItems items ++ [']']) := by
  simp [writeValue]

lemma writeValue_mapping (entries : List (Value × Value)) :
    writeValue (.mapping entries) = '{' :: (writeEntries entries ++ ['}']) := by
  simp [writeValue]

/-- Behind the first item there are further ones, each behind a comma. -/
lemma writeItems_cons (v : Value) (vs : List Value) :
    writeItems (v :: vs) = writeValue v ++ vs.flatMap fun v => ',' :: ' ' :: writeValue v := by
  induction vs generalizing v with
  | nil => simp [writeItems]
  | cons w vs ih =>
    rw [writeItems, ih, List.flatMap_cons, List.append_assoc]
    · rfl
    · exact List.cons_ne_nil w vs

def writeEntry (e : Value × Value) : Text :=
  '?' :: ' ' :: (writeValue e.1 ++ ':' :: ' ' :: writeValue e.2)

/-- Behind the first entry there are further ones, each behind a comma. -/
lemma writeEntries_cons (e : Value × Value) (es : List (Value × Value)) :
    writeEntries (e :: es) = writeEntry e ++ es.flatMap fun e => ',' :: ' ' :: writeEntry e := by
  induction es generalizing e with
  | nil => simp [writeEntries, writeEntry]
  | cons f es ih =>
    rw [writeEntries, ih, List.flatMap_cons]
    · simp [writeEntry]
    · exact List.cons_ne_nil f es

namespace Layout

/-- The value is read back as its tokens inside brackets, behind spaces and before anything that can
stand behind a word. -/
def IsScanned (v : Value) : Prop :=
  ∀ (gap t : Text) (ts : List Token) (isFree isOuterFree : Bool) (levels : List Bool)
    (mayBeKey : Bool), (∀ d ∈ gap, d = ' ') → EndsWord t →
    Scans ⟨gap ++ (writeValue v ++ t), ts, isFree :: isOuterFree :: levels, mayBeKey⟩
      ⟨t, v.tokens.reverse ++ ts, (!mayBeKey && isFree) :: isOuterFree :: levels, false⟩

/-! ### Parts between commas -/
section Parts

variable {α : Type} {write : α → Text} {tokens : α → List Token} {isFreeAfter : Bool} {a : α}
  {as : List α}

/-- Each of some parts is read as its tokens where a part can begin inside brackets, and frees the
level or does not. -/
def AreScanned (write : α → Text) (tokens : α → List Token) (isFreeAfter : Bool) (as : List α) :
    Prop :=
  ∀ a ∈ as, ∀ (gap t : Text) (ts : List Token) (isOuterFree : Bool) (levels : List Bool),
    (∀ d ∈ gap, d = ' ') → EndsWord t →
    Scans ⟨gap ++ (write a ++ t), ts, true :: isOuterFree :: levels, true⟩
      ⟨t, (tokens a).reverse ++ ts, isFreeAfter :: isOuterFree :: levels, false⟩

lemma endsWord_more (as : List α) (write : α → Text) (hc : isFlowMark c = true) :
    EndsWord ((as.flatMap fun a => ',' :: ' ' :: write a) ++ c :: t) := by
  cases as with
  | nil => exact .mark hc
  | cons a as => exact .mark (by decide)

/-- Further parts are read as their tokens. -/
lemma scans_moreParts (hparts : AreScanned write tokens isFreeAfter as)
    (hc : isFlowMark c = true) :
    Scans
      ⟨(as.flatMap fun a => ',' :: ' ' :: write a) ++ c :: t, ts,
        isFreeAfter :: isOuterFree :: levels, false⟩
      ⟨c :: t, (as.flatMap fun a => .comma :: tokens a).reverse ++ ts,
        isFreeAfter :: isOuterFree :: levels, false⟩ := by
  induction as generalizing ts with
  | nil => exact .refl _
  | cons a as ih =>
    obtain ⟨ha, has⟩ := List.forall_mem_cons.1 hparts
    have hpart := ha [' '] _ (.comma :: ts) isOuterFree levels (by simp)
      (endsWord_more (t := t) as write hc)
    have htokens : ((a :: as).flatMap fun a => .comma :: tokens a).reverse ++ ts =
        (as.flatMap fun a => .comma :: tokens a).reverse ++
          ((tokens a).reverse ++ .comma :: ts) := by
      simp
    rw [List.flatMap_cons, List.append_assoc, htokens]
    exact scans_comma.trans (hpart.trans (ih has))

/-- One or more parts are read as their tokens. -/
lemma scans_parts (hparts : AreScanned write tokens isFreeAfter (a :: as))
    (hc : isFlowMark c = true) :
    Scans
      ⟨(write a ++ as.flatMap fun a => ',' :: ' ' :: write a) ++ c :: t, ts,
        true :: isOuterFree :: levels, true⟩
      ⟨c :: t, (tokens a ++ as.flatMap fun a => .comma :: tokens a).reverse ++ ts,
        isFreeAfter :: isOuterFree :: levels, false⟩ := by
  obtain ⟨ha, has⟩ := List.forall_mem_cons.1 hparts
  have hpart := ha [] _ ts isOuterFree levels (by simp) (endsWord_more (t := t) as write hc)
  rw [List.append_assoc, List.reverse_append, List.append_assoc]
  exact hpart.trans (scans_moreParts has hc)

end Parts

/-! ### Lists and mappings -/

/-- An item leaves a candidate for a key behind, so the level is not free. -/
lemma areScanned_items (hitems : ∀ v ∈ items, IsScanned v) :
    AreScanned writeValue Value.tokens false items :=
  fun v hv gap t ts isOuterFree levels hgap ht =>
    hitems v hv gap t ts true isOuterFree levels true hgap ht

lemma itemTokens_eq (items : List Value) :
    itemTokens items = items.flatMap fun v => .comma :: v.tokens := by
  induction items with
  | nil => rfl
  | cons v vs ih => rw [itemTokens, ih, List.flatMap_cons, List.cons_append]

/-- The items of a list are read as their tokens. -/
lemma scans_items (t : Text) (ts : List Token) (hitems : ∀ v ∈ items, IsScanned v)
    (hc : isFlowMark c = true) :
    ∃ isFree' mayBeKey', Scans
      ⟨writeItems items ++ c :: t, ts, true :: isOuterFree :: levels, true⟩
      ⟨c :: t, (itemTokens items).tail.reverse ++ ts, isFree' :: isOuterFree :: levels,
        mayBeKey'⟩ := by
  cases items with
  | nil => exact ⟨_, _, .refl _⟩
  | cons v vs =>
    rw [writeItems_cons, itemTokens, List.tail_cons, itemTokens_eq]
    exact ⟨_, _, scans_parts (areScanned_items hitems) hc⟩

/-- The tokens that an entry is written with. -/
def tokensOfEntry (e : Value × Value) : List Token := .key :: e.1.tokens ++ .value :: e.2.tokens

/-- An entry marks its key, so no candidate for one is left and the level is free. -/
lemma areScanned_entries (hkeys : ∀ e ∈ entries, IsScanned e.1)
    (hvalues : ∀ e ∈ entries, IsScanned e.2) :
    AreScanned writeEntry tokensOfEntry true entries := by
  intro e he gap t ts isOuterFree levels hgap ht
  have hspace : ∀ d ∈ [' '], d = ' ' := by simp
  have hshape : gap ++ (writeEntry e ++ t) =
      gap ++ '?' :: ([' '] ++ (writeValue e.1 ++ ':' :: ([' '] ++ (writeValue e.2 ++ t)))) := by
    simp [writeEntry]
  have htokens : (tokensOfEntry e).reverse ++ ts =
      e.2.tokens.reverse ++ .value :: (e.1.tokens.reverse ++ .key :: ts) := by
    simp [tokensOfEntry]
  rw [hshape, htokens]
  exact (scans_key hgap).trans ((hkeys e he _ _ _ _ _ _ _ hspace .colon).trans
    (scans_value.trans (hvalues e he _ _ _ _ _ _ _ hspace ht)))

lemma entryTokens_eq (entries : List (Value × Value)) :
    entryTokens entries = entries.flatMap fun e => .comma :: tokensOfEntry e := by
  induction entries with
  | nil => rfl
  | cons e es ih => simp [entryTokens, tokensOfEntry, ih]

/-- The entries of a mapping are read as their tokens. -/
lemma scans_entries (t : Text) (ts : List Token) (hkeys : ∀ e ∈ entries, IsScanned e.1)
    (hvalues : ∀ e ∈ entries, IsScanned e.2) (hc : isFlowMark c = true) :
    ∃ isFree' mayBeKey', Scans
      ⟨writeEntries entries ++ c :: t, ts, true :: isOuterFree :: levels, true⟩
      ⟨c :: t, (entryTokens entries).tail.reverse ++ ts, isFree' :: isOuterFree :: levels,
        mayBeKey'⟩ := by
  cases entries with
  | nil => exact ⟨_, _, .refl _⟩
  | cons e es =>
    rw [writeEntries_cons, entryTokens_eq, List.flatMap_cons, List.cons_append, List.tail_cons]
    exact ⟨_, _, scans_parts (areScanned_entries hkeys hvalues) hc⟩

/-- A list is read as its tokens, also outside brackets. -/
lemma scans_list (hitems : ∀ v ∈ items, IsScanned v) (hgap : ∀ d ∈ gap, d = ' ') :
    Scans ⟨gap ++ (writeValue (.list items) ++ t), ts, isFree :: levels, mayBeKey⟩
      ⟨t, (Value.list items).tokens.reverse ++ ts, (!mayBeKey && isFree) :: levels, false⟩ := by
  have hshape : writeValue (.list items) ++ t = '[' :: (writeItems items ++ ']' :: t) := by
    simp [writeValue_list]
  have htokens : (Value.list items).tokens.reverse ++ ts =
      .closeBracket :: ((itemTokens items).tail.reverse ++ .openBracket :: ts) := by
    simp [Value.tokens]
  obtain ⟨_, _, hinside⟩ := scans_items t (.openBracket :: ts) hitems
    (show isFlowMark ']' = true by decide)
  rw [hshape, htokens]
  exact (scans_open hgap (.inl ⟨rfl, rfl⟩)).trans
    (hinside.trans (scans_close (.inl ⟨rfl, rfl⟩)))

/-- A mapping is read as its tokens, also outside brackets. -/
lemma scans_mapping (hkeys : ∀ e ∈ entries, IsScanned e.1) (hvalues : ∀ e ∈ entries, IsScanned e.2)
    (hgap : ∀ d ∈ gap, d = ' ') :
    Scans ⟨gap ++ (writeValue (.mapping entries) ++ t), ts, isFree :: levels, mayBeKey⟩
      ⟨t, (Value.mapping entries).tokens.reverse ++ ts, (!mayBeKey && isFree) :: levels,
        false⟩ := by
  have hshape : writeValue (.mapping entries) ++ t = '{' :: (writeEntries entries ++ '}' :: t) := by
    simp [writeValue_mapping]
  have htokens : (Value.mapping entries).tokens.reverse ++ ts =
      .closeBrace :: ((entryTokens entries).tail.reverse ++ .openBrace :: ts) := by
    simp [Value.tokens]
  obtain ⟨_, _, hinside⟩ := scans_entries t (.openBrace :: ts) hkeys hvalues
    (show isFlowMark '}' = true by decide)
  rw [hshape, htokens]
  exact (scans_open hgap (.inr ⟨rfl, rfl⟩)).trans
    (hinside.trans (scans_close (.inr ⟨rfl, rfl⟩)))

/-- A value that is written without loss is read as its tokens inside brackets. -/
lemma isScanned_of_isWritable (hv : v.IsWritable n) : IsScanned v := by
  induction hv with
  | text u =>
    intro gap t ts isFree isOuterFree levels mayBeKey hgap ht
    exact scans_text hgap u
  | word hs =>
    intro gap t ts isFree isOuterFree levels mayBeKey hgap ht
    rw [tokens_word hs]
    exact scans_word hgap (isWord_writeScalar hs) ht
  | list _ ih =>
    intro gap t ts isFree isOuterFree levels mayBeKey hgap ht
    exact scans_list ih hgap
  | mapping _ _ ihkeys ihvalues =>
    intro gap t ts isFree isOuterFree levels mayBeKey hgap ht
    exact scans_mapping ihkeys ihvalues hgap

end Layout

/-! ### Documents -/

lemma isShown_mark : ∀ d ∈ [',', ' ', '[', ']', '{', '}', '?', ':'], IsShown d := by
  have hascii : [',', ' ', '[', ']', '{', '}', '?', ':'].all
      (fun d => 0x20 ≤ d.toNat && d.toNat < 0x7F) = true := by
    decide
  exact fun d hd => isShown_of_ascii (by simpa using List.all_eq_true.1 hascii d hd)

/-- The characters of parts show if those of each part do. -/
lemma isShown_parts {α : Type} {write : α → Text} {a : α} {as : List α}
    (h : ∀ b ∈ a :: as, ∀ c ∈ write b, IsShown c) :
    ∀ c ∈ write a ++ as.flatMap fun b => ',' :: ' ' :: write b, IsShown c := by
  obtain ⟨ha, has⟩ := List.forall_mem_cons.1 h
  refine List.forall_mem_append.2 ⟨ha, fun c hc => ?_⟩
  obtain ⟨b, hb, hc⟩ := List.mem_flatMap.1 hc
  exact List.forall_mem_cons.2 ⟨isShown_mark _ (by simp),
    List.forall_mem_cons.2 ⟨isShown_mark _ (by simp), has b hb⟩⟩ c hc

lemma isShown_writeItems (h : ∀ v ∈ items, ∀ c ∈ writeValue v, IsShown c) :
    ∀ c ∈ writeItems items, IsShown c := by
  cases items with
  | nil => exact fun c hc => absurd hc List.not_mem_nil
  | cons v vs =>
    rw [writeItems_cons]
    exact isShown_parts h

lemma isShown_writeEntry {e : Value × Value} (hkey : ∀ c ∈ writeValue e.1, IsShown c)
    (hvalue : ∀ c ∈ writeValue e.2, IsShown c) : ∀ c ∈ writeEntry e, IsShown c := by
  have hspace := isShown_mark ' ' (by simp)
  simp only [writeEntry, List.forall_mem_cons, List.forall_mem_append]
  exact ⟨isShown_mark _ (by simp), hspace, hkey, isShown_mark _ (by simp), hspace, hvalue⟩

lemma isShown_writeEntries (h : ∀ e ∈ entries, ∀ c ∈ writeEntry e, IsShown c) :
    ∀ c ∈ writeEntries entries, IsShown c := by
  cases entries with
  | nil => exact fun c hc => absurd hc List.not_mem_nil
  | cons e es =>
    rw [writeEntries_cons]
    exact isShown_parts h

/-- All characters of a value that is written without loss show. -/
lemma isShown_of_mem_writeValue (hv : v.IsWritable n) : ∀ c ∈ writeValue v, IsShown c := by
  induction hv with
  | text u => exact fun c hc => isShown_of_mem_writeText hc
  | word hs => exact fun c hc => isShown_of_isWordChar ((isWord_writeScalar hs).chars c hc)
  | list _ ih =>
    simp only [writeValue_list, List.forall_mem_cons, List.forall_mem_append]
    exact ⟨isShown_mark _ (by simp), isShown_writeItems ih, isShown_mark _ (by simp),
      fun c hc => absurd hc List.not_mem_nil⟩
  | mapping _ _ ihkeys ihvalues =>
    have hentries := isShown_writeEntries fun e he =>
      isShown_writeEntry (ihkeys e he) (ihvalues e he)
    simp only [writeValue_mapping, List.forall_mem_cons, List.forall_mem_append]
    exact ⟨isShown_mark _ (by simp), hentries, isShown_mark _ (by simp),
      fun c hc => absurd hc List.not_mem_nil⟩

/-- A text without carriage returns and next-line characters stays as it is. -/
lemma unifyLineEnds_eq_self (ht : ∀ c ∈ t, c ≠ '\r' ∧ c ≠ Char.ofNat 0x85) :
    unifyLineEnds t = t := by
  induction t with
  | nil => rfl
  | cons c t ih =>
    obtain ⟨⟨hreturn, hnext⟩, ht⟩ := List.forall_mem_cons.1 ht
    rw [unifyLineEnds, if_neg (by simp [hreturn, hnext]), ih ht]
    exact fun u hc _ => hreturn hc

/-- The text of a list or mapping is read as its tokens. -/
lemma scans_writeDocument (hv : v.IsWritable n) (hscalar : ∀ s, v ≠ .scalar s) :
    Layout.Scans ⟨writeDocument v, [], [true], true⟩
      ⟨['\n'], v.tokens.reverse ++ [], [false], false⟩ := by
  have hgap : ∀ d ∈ ([] : Text), d = ' ' := by simp
  change Layout.Scans ⟨[] ++ (writeValue v ++ ['\n']), [], [true], true⟩ _
  cases hv with
  | text => exact absurd rfl (hscalar _)
  | word => exact absurd rfl (hscalar _)
  | list hitems =>
    exact Layout.scans_list (fun v hv => Layout.isScanned_of_isWritable (hitems v hv)) hgap
  | mapping hkeys hvalues =>
    exact Layout.scans_mapping (fun e he => Layout.isScanned_of_isWritable (hkeys e he))
      (fun e he => Layout.isScanned_of_isWritable (hvalues e he)) hgap

/-- A document of a list or mapping that is written without loss has the tokens of this value. -/
theorem ofText?_writeDocument (hv : v.IsWritable n) (hscalar : ∀ s, v ≠ .scalar s) :
    Token.ofText? (writeDocument v) = some v.tokens := by
  have hshown := isShown_of_mem_writeValue hv
  have hpermitted : (writeDocument v).all isPermitted = true := by
    rw [writeDocument, List.all_append, Bool.and_eq_true]
    exact ⟨List.all_eq_true.2 fun c hc => (hshown c hc).permitted, by decide⟩
  have hends : unifyLineEnds (writeDocument v) = writeDocument v := by
    refine unifyLineEnds_eq_self (List.forall_mem_append.2
      ⟨fun c hc => ?_, List.forall_mem_singleton.2 (by decide)⟩)
    exact ⟨(hshown c hc).ne_return, (hshown c hc).ne_nextLine⟩
  obtain ⟨s, n, hs, hn, hread⟩ := scans_writeDocument hv hscalar _ (Layout.isAt_start _)
  have hfuel : (writeDocument v).length + 1 = (writeDocument v).length - n + 1 + n := by
    rw [List.length_singleton] at hn
    change n + 1 ≤ (writeDocument v).length at hn
    omega
  obtain ⟨u, hu, htokens⟩ := Layout.readAll?_newline hs ((writeDocument v).length - n)
  rw [Token.ofText?, if_pos hpermitted]
  simp only [hends]
  rw [hfuel, hread, hu, Option.map_some, htokens, List.append_nil, List.reverse_reverse]

/-! ### Nodes -/

mutual

/-- The node that a value is written as. -/
def Value.node : Value → Node
  | .scalar (.text t) => .quoted t
  | .scalar s => .plain (writeScalar s)
  | .list items => .list (itemNodes items)
  | .mapping entries => .mapping (entryNodes entries)

/-- The nodes that items are written as. -/
def itemNodes : List Value → List Node
  | [] => []
  | v :: vs => v.node :: itemNodes vs

/-- The pairs of nodes that entries are written as. -/
def entryNodes : List (Value × Value) → List (Node × Node)
  | [] => []
  | (k, v) :: es => (k.node, v.node) :: entryNodes es

end

/-- A token that a written value begins with. -/
inductive BeginsValue : Token → Prop
  | plain (t : Text) : BeginsValue (.plain t)
  | quoted (t : Text) : BeginsValue (.quoted t)
  | openBracket : BeginsValue .openBracket
  | openBrace : BeginsValue .openBrace

lemma exists_tokens_eq_cons (v : Value) : ∃ k us, v.tokens = k :: us ∧ BeginsValue k := by
  cases v with
  | scalar s =>
    cases s with
    | text t => exact ⟨_, _, rfl, .quoted t⟩
    | _ => exact ⟨_, _, rfl, .plain _⟩
  | list items => exact ⟨_, _, rfl, .openBracket⟩
  | mapping entries => exact ⟨_, _, rfl, .openBrace⟩

lemma length_tokens_pos (v : Value) : 0 < v.tokens.length := by
  obtain ⟨k, us, htokens, -⟩ := exists_tokens_eq_cons v
  simp [htokens]

/-- The value is read from its tokens as its node, whatever follows. -/
def IsParsed (v : Value) : Prop :=
  ∀ (block nested : Bool) (fuel : Nat) (rest : List Token), v.tokens.length ≤ fuel →
    node? block nested fuel (v.tokens ++ rest) = some (v.node, rest)

variable {fuel : Nat} {rest ends : List Token}

/-- A part that is not empty is read as its node. -/
lemma part?_tokens (hv : IsParsed v) (hfuel : v.tokens.length + 1 ≤ fuel)
    (hends : ∀ k ∈ ends, ¬ BeginsValue k) :
    part? false false ends fuel (v.tokens ++ rest) = some (v.node, rest) := by
  obtain ⟨fuel, rfl⟩ : ∃ n, fuel = n + 1 := ⟨fuel - 1, by omega⟩
  have hnext : isNext ends (v.tokens ++ rest) = false := by
    obtain ⟨k, us, htokens, hk⟩ := exists_tokens_eq_cons v
    rw [htokens, isNext, List.cons_append, List.head?_cons, Option.any_some, List.contains_eq_mem,
      decide_eq_false_iff_not]
    exact fun hmem => hends k hmem hk
  rw [part?, hnext, if_neg Bool.false_ne_true]
  exact hv false false fuel rest (by omega)

variable {ns : List Node} {es : List (Node × Node)} {after : List Token}

/-- An item is read as its node; it stands behind a comma unless it is the first one. -/
lemma bracketItems?_item (isFirst : Bool) (hv : IsParsed v) (hfuel : v.tokens.length ≤ fuel)
    (hrest : bracketItems? false fuel rest = some (ns, after)) :
    bracketItems? isFirst (fuel + 1) ((bif isFirst then [] else [.comma]) ++ (v.tokens ++ rest)) =
      some (v.node :: ns, after) := by
  have hnode := hv false false fuel rest hfuel
  obtain ⟨k, us, htokens, hk⟩ := exists_tokens_eq_cons v
  rw [htokens, List.cons_append] at hnode ⊢
  cases isFirst <;> cases hk <;> simp [bracketItems?, afterComma?, hnode, hrest]

/-- The further items up to the closing bracket are read as their nodes. -/
lemma bracketItems?_itemTokens (hitems : ∀ v ∈ items, IsParsed v)
    (hfuel : (itemTokens items).length < fuel) :
    bracketItems? false fuel (itemTokens items ++ .closeBracket :: rest) =
      some (itemNodes items, rest) := by
  obtain ⟨fuel, rfl⟩ : ∃ n, fuel = n + 1 := ⟨fuel - 1, by omega⟩
  induction items generalizing fuel with
  | nil => rfl
  | cons v vs ih =>
    obtain ⟨hv, hvs⟩ := List.forall_mem_cons.1 hitems
    rw [itemTokens, List.length_cons, List.length_append] at hfuel
    rw [itemTokens, List.cons_append, List.append_assoc, itemNodes]
    obtain ⟨fuel, rfl⟩ : ∃ n, fuel = n + 1 := ⟨fuel - 1, by omega⟩
    exact bracketItems?_item false hv (by omega) (ih hvs fuel (by omega))

/-- The tokens of a list are read as its node. -/
lemma isParsed_list (hitems : ∀ v ∈ items, IsParsed v) : IsParsed (.list items) := by
  intro block nested fuel rest hfuel
  rw [Value.tokens] at hfuel ⊢
  rw [List.length_cons, List.length_append, List.length_singleton] at hfuel
  obtain ⟨fuel, rfl⟩ : ∃ n, fuel = n + 2 := ⟨fuel - 2, by omega⟩
  have hinside : bracketItems? true (fuel + 1) ((itemTokens items).tail ++ .closeBracket :: rest) =
      some (itemNodes items, rest) := by
    cases items with
    | nil => rfl
    | cons v vs =>
      obtain ⟨hv, hvs⟩ := List.forall_mem_cons.1 hitems
      have hpos := length_tokens_pos v
      rw [itemTokens, List.tail_cons, List.length_append] at hfuel
      rw [itemTokens, List.tail_cons, List.append_assoc]
      exact bracketItems?_item true hv (by omega) (bracketItems?_itemTokens hvs (by omega))
  rw [List.cons_append, List.append_assoc, List.singleton_append, node?, hinside]
  rfl

/-- An entry is read as its nodes; it stands behind a comma unless it is the first one. -/
lemma braceEntries?_entry (isFirst : Bool) {e : Value × Value} (hkey : IsParsed e.1)
    (hvalue : IsParsed e.2) (hfuel : e.1.tokens.length + e.2.tokens.length < fuel)
    (hrest : braceEntries? false fuel rest = some (es, after)) :
    braceEntries? isFirst (fuel + 1) ((bif isFirst then [] else [.comma]) ++
        .key :: (e.1.tokens ++ .value :: (e.2.tokens ++ rest))) =
      some ((e.1.node, e.2.node) :: es, after) := by
  have hpos := length_tokens_pos e.1
  have hends : ∀ k ∈ [Token.value, .comma, .closeBrace], ¬ BeginsValue k := by
    rintro k hk hbegins
    cases hbegins <;> simp at hk
  have hfirst : part? false false [.value, .comma, .closeBrace] fuel
      (e.1.tokens ++ .value :: (e.2.tokens ++ rest)) =
        some (e.1.node, .value :: (e.2.tokens ++ rest)) :=
    part?_tokens hkey (by omega) hends
  have hsecond : valuePart? false false [.comma, .closeBrace] fuel
      (.value :: (e.2.tokens ++ rest)) = some (e.2.node, rest) := by
    obtain ⟨fuel, rfl⟩ : ∃ n, fuel = n + 1 := ⟨fuel - 1, by omega⟩
    exact part?_tokens hvalue (by omega) fun k hk => hends k (List.mem_cons_of_mem _ hk)
  cases isFirst <;> simp [braceEntries?, afterComma?, hfirst, hsecond, hrest]

/-- The further entries up to the closing brace are read as their nodes. -/
lemma braceEntries?_entryTokens (hkeys : ∀ e ∈ entries, IsParsed e.1)
    (hvalues : ∀ e ∈ entries, IsParsed e.2) (hfuel : (entryTokens entries).length < fuel) :
    braceEntries? false fuel (entryTokens entries ++ .closeBrace :: rest) =
      some (entryNodes entries, rest) := by
  obtain ⟨fuel, rfl⟩ : ∃ n, fuel = n + 1 := ⟨fuel - 1, by omega⟩
  induction entries generalizing fuel with
  | nil => rfl
  | cons e es ih =>
    obtain ⟨hkey, hkeys⟩ := List.forall_mem_cons.1 hkeys
    obtain ⟨hvalue, hvalues⟩ := List.forall_mem_cons.1 hvalues
    simp only [entryTokens, List.length_cons, List.length_append] at hfuel
    simp only [entryTokens, List.cons_append, List.append_assoc, entryNodes]
    obtain ⟨fuel, rfl⟩ : ∃ n, fuel = n + 1 := ⟨fuel - 1, by omega⟩
    exact braceEntries?_entry false hkey hvalue (by omega) (ih hkeys hvalues fuel (by omega))

/-- The tokens of a mapping are read as its node. -/
lemma isParsed_mapping (hkeys : ∀ e ∈ entries, IsParsed e.1)
    (hvalues : ∀ e ∈ entries, IsParsed e.2) : IsParsed (.mapping entries) := by
  intro block nested fuel rest hfuel
  rw [Value.tokens] at hfuel ⊢
  rw [List.length_cons, List.length_append, List.length_singleton] at hfuel
  -- the braces are two tokens, so there is fuel for two steps
  obtain ⟨fuel, rfl⟩ : ∃ n, fuel = n + 2 := ⟨fuel - 2, by omega⟩
  have hinside : braceEntries? true (fuel + 1) ((entryTokens entries).tail ++ .closeBrace :: rest) =
      some (entryNodes entries, rest) := by
    cases entries with
    | nil => rfl
    | cons e es =>
      obtain ⟨hkey, hkeys⟩ := List.forall_mem_cons.1 hkeys
      obtain ⟨hvalue, hvalues⟩ := List.forall_mem_cons.1 hvalues
      simp only [entryTokens, List.tail_cons, List.length_cons, List.length_append] at hfuel
      simp only [entryTokens, List.tail_cons, List.cons_append, List.append_assoc, entryNodes]
      exact braceEntries?_entry true hkey hvalue (by omega)
        (braceEntries?_entryTokens hkeys hvalues (by omega))
  rw [List.cons_append, List.append_assoc, List.singleton_append, node?, hinside]
  rfl

/-- Every value is read from its tokens as its node. -/
lemma isParsed (v : Value) : IsParsed v := by
  induction v using Value.induction with
  | scalar s =>
    intro block nested fuel rest hfuel
    have hpos := length_tokens_pos (.scalar s)
    obtain ⟨fuel, rfl⟩ : ∃ n, fuel = n + 1 := ⟨fuel - 1, by omega⟩
    cases s <;> rfl
  | list items ih => exact isParsed_list ih
  | mapping entries ih =>
    exact isParsed_mapping (fun e he => (ih e he).1) fun e he => (ih e he).2

lemma listDepth_itemNodes_le (h : ∀ v ∈ items, v.node.depth ≤ n) :
    Node.listDepth (itemNodes items) ≤ n := by
  induction items with
  | nil => exact Nat.zero_le n
  | cons v vs ih =>
    obtain ⟨hv, hvs⟩ := List.forall_mem_cons.1 h
    exact Nat.max_le.2 ⟨hv, ih hvs⟩

lemma entriesDepth_entryNodes_le (hkeys : ∀ e ∈ entries, e.1.node.depth ≤ n)
    (hvalues : ∀ e ∈ entries, e.2.node.depth ≤ n) : Node.entriesDepth (entryNodes entries) ≤ n := by
  induction entries with
  | nil => exact Nat.zero_le n
  | cons e es ih =>
    obtain ⟨hkey, hkeys⟩ := List.forall_mem_cons.1 hkeys
    obtain ⟨hvalue, hvalues⟩ := List.forall_mem_cons.1 hvalues
    exact Nat.max_le.2 ⟨Nat.max_le.2 ⟨hkey, hvalue⟩, ih hkeys hvalues⟩

/-- No more nodes stand inside each other than values do. -/
lemma depth_node_le (hv : v.IsWritable n) : v.node.depth ≤ n := by
  induction hv with
  | text t => exact Nat.zero_le _
  | word hs => cases hs <;> exact Nat.zero_le _
  | list _ ih => exact Nat.succ_le_succ (listDepth_itemNodes_le ih)
  | mapping _ _ ihkeys ihvalues =>
    exact Nat.succ_le_succ (entriesDepth_entryNodes_le ihkeys ihvalues)

/-- The tokens of a value are those of a document that is its node. -/
lemma ofTokens?_tokens (hdepth : v.node.depth ≤ maxDepth) :
    Node.ofTokens? v.tokens = some v.node := by
  have hnode := isParsed v true false (3 * v.tokens.length + 3) [] (by omega)
  rw [List.append_nil] at hnode
  obtain ⟨k, us, htokens, hk⟩ := exists_tokens_eq_cons v
  have hdocument : document? v.tokens = some (v.node, []) := by
    rw [htokens] at hnode ⊢
    cases hk <;> exact hnode
  have hne : ¬ (v.tokens = [] ∨ v.tokens = [.documentStart]) := by
    rw [htokens]
    cases hk <;> simp
  rw [Node.ofTokens?, if_neg hne, hdocument]
  simp [hdepth]

/-! ### Meaning -/

lemma listValues?_itemNodes (h : ∀ v ∈ items, v.node.value? = some v) :
    Node.listValues? (itemNodes items) = some items := by
  induction items with
  | nil => rfl
  | cons v vs ih =>
    obtain ⟨hv, hvs⟩ := List.forall_mem_cons.1 h
    rw [itemNodes, Node.listValues?, hv, ih hvs]
    rfl

lemma entryValues?_entryNodes
    (h : ∀ e ∈ entries, e.1.node.value? = some e.1 ∧ e.2.node.value? = some e.2) :
    Node.entryValues? (entryNodes entries) = some entries := by
  induction entries with
  | nil => rfl
  | cons e es ih =>
    obtain ⟨⟨hkey, hvalue⟩, hes⟩ := List.forall_mem_cons.1 h
    rw [entryNodes, Node.entryValues?, hkey, hvalue, ih hes]
    rfl

/-- The node of a value that is written without loss means this value. -/
lemma value?_node (hv : v.IsWritable n) (hproper : v.IsProper) : v.node.value? = some v := by
  induction hv with
  | text t => rfl
  | @word _ s hs =>
    have hnode : (Value.scalar s).node = .plain (writeScalar s) := by cases hs <;> rfl
    rw [hnode, Node.value?, ofPlain?_writeScalar hs]
    rfl
  | list _ ih =>
    cases hproper with
    | list hitems =>
      rw [Value.node, Node.value?, listValues?_itemNodes fun v hv => ih v hv (hitems v hv)]
      rfl
  | mapping _ _ ihkeys ihvalues =>
    cases hproper with
    | mapping hkeys hvalues hdistinct =>
      have hentries := entryValues?_entryNodes fun e he =>
        ⟨ihkeys e he (hkeys e he), ihvalues e he (hvalues e he)⟩
      rw [Value.node, Node.value?, hentries]
      simp only [Option.bind_eq_bind, Option.bind_some]
      rw [if_pos (haveDistinctKeys_iff.2 hdistinct)]

/-- The document of a list or mapping that is written without loss is read back, if no mapping in it
has a key twice and no more parts stand inside each other than a document may have. -/
theorem readValue?_writeDocument (hv : v.IsWritable n) (hn : n ≤ maxDepth) (hproper : v.IsProper)
    (hscalar : ∀ s, v ≠ .scalar s) : readValue? (writeDocument v) = some v := by
  rw [readValue?, read?, ofText?_writeDocument hv hscalar, Option.bind_some,
    ofTokens?_tokens ((depth_node_le hv).trans hn), Option.bind_some, value?_node hv hproper]

end NoteLinks.Yaml
