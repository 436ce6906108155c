import NoteLinks.CrossReference
import NoteLinks.Proofs.Cutting
import NoteLinks.Proofs.Trimming

/-!
# The values of cross-references

A value states a cross-reference exactly if it consists of the code of a kind, an identifier and
some text without a line feed, with an `@` behind the first two (`IsValue`, `read?_eq_some_iff`).
What stands behind the identifier says where to look for the record, and whether its interactive
tree is asked for: it is if the text ends, up to blanks, in a blank and the word `dia`, and what is
left of it names the tree (`TrailingSays`, `trailingSays_iff`).

A cross-reference is read back from the value that states it, if its tree can stand there
(`IsWritable`).

A media record is named by its identifier between two `@` and by nothing else
(`readMedia?_eq_some_iff`).
-/

namespace NoteLinks

/-- The codes with the kinds of record that they ask for. -/
def RecordKind.codes : List (Text × RecordKind) :=
  [("", generic), ("i", individual), ("f", family), ("s", source), ("r", repository), ("n", note),
    ("l", sharedPlace)]

/-- A text asks for a kind if it is a code of it. -/
lemma RecordKind.ofCode?_eq_some_iff {code : Text} {kind : RecordKind} :
    ofCode? code = some kind ↔ (code, kind) ∈ codes := by
  constructor
  · intro h
    unfold ofCode? at h
    split at h
    case h_8 => cases h
    all_goals
      obtain rfl := Option.some.inj h
      decide
  · intro h
    have hall : ∀ e ∈ codes, ofCode? e.1 = some e.2 := by decide
    exact hall (code, kind) h

namespace CrossReference

variable {value code xref trailing front t : Text} {kind : RecordKind} {tree : Option Text}
  {diagram : Bool} {c : CrossReference}

/-! ## The word for the interactive tree -/

/-- The text ends in a blank and the word `dia`, in any letter case, and `front` stands before
them. -/
def EndsInDiagram (front t : Text) : Prop :=
  ∃ blank word, Text.isBlank blank = true ∧ Text.lower word = "dia" ∧ t = front ++ blank :: word

/-- A word of three letters is given by its letters. -/
lemma lower_eq_dia {word : Text} (h : Text.lower word = "dia") :
    ∃ d i a, word = [d, i, a] ∧ Text.lower [d, i, a] = "dia" := by
  have hmap : word.map Char.toLower = ['d', 'i', 'a'] := h
  obtain ⟨d, word, rfl, -, hmap⟩ := List.map_eq_cons_iff.1 hmap
  obtain ⟨i, word, rfl, -, hmap⟩ := List.map_eq_cons_iff.1 hmap
  obtain ⟨a, word, rfl, -, hmap⟩ := List.map_eq_cons_iff.1 hmap
  obtain rfl := List.map_eq_nil_iff.1 hmap
  exact ⟨d, i, a, rfl, h⟩

/-- The word and the blank before it are taken from a text that ends in them. -/
lemma splitDiagram_of_endsInDiagram (h : EndsInDiagram front t) :
    splitDiagram t = (front, true) := by
  obtain ⟨blank, word, hblank, hword, rfl⟩ := h
  obtain ⟨d, i, a, rfl, hdia⟩ := lower_eq_dia hword
  have hreverse : (front ++ blank :: [d, i, a]).reverse = a :: i :: d :: blank :: front.reverse := by
    simp
  simp only [splitDiagram, hreverse, hdia, hblank]
  simp

/-- Any other text is left as it is. -/
lemma splitDiagram_of_not (h : ∀ front, ¬ EndsInDiagram front t) : splitDiagram t = (t, false) := by
  unfold splitDiagram
  split
  · rename_i a i d blank rest hreverse
    refine if_neg fun hdia => ?_
    rw [Bool.and_eq_true, decide_eq_true_eq] at hdia
    have ht : t = rest.reverse ++ blank :: [d, i, a] := by
      rw [← List.reverse_reverse t, hreverse]
      simp
    exact h rest.reverse ⟨blank, [d, i, a], hdia.2, hdia.1, ht⟩
  · rfl

/-! ## The text behind the identifier -/

/-- What the text behind the identifier says about the tree and the interactive tree. -/
structure TrailingSays (trailing : Text) (tree : Option Text) (diagram : Bool) : Prop where
  /-- The interactive tree is asked for by a blank and the word `dia` before the blanks at the
  end. -/
  diagram_iff : diagram = true ↔ ∃ front, EndsInDiagram front (Text.trimEnd trailing)
  /-- What stands before them names the tree. -/
  tree_of_endsInDiagram : ∀ front, EndsInDiagram front (Text.trimEnd trailing) →
    tree = nonEmpty? (Text.trim front)
  /-- Where it is not asked for, the whole text names the tree. -/
  tree_of_not : diagram = false → tree = nonEmpty? (Text.trim trailing)

/-- The tree and the word are found as the text says them. -/
lemma trailingSays_iff :
    TrailingSays trailing tree diagram ↔
      tree = nonEmpty? (Text.trim (splitDiagram (Text.trimEnd trailing)).1) ∧
        diagram = (splitDiagram (Text.trimEnd trailing)).2 := by
  by_cases hends : ∃ front, EndsInDiagram front (Text.trimEnd trailing)
  · obtain ⟨front, hfront⟩ := hends
    rw [splitDiagram_of_endsInDiagram hfront]
    constructor
    · intro h
      exact ⟨h.tree_of_endsInDiagram front hfront, h.diagram_iff.2 ⟨front, hfront⟩⟩
    · rintro ⟨rfl, rfl⟩
      refine ⟨iff_of_true rfl ⟨front, hfront⟩, fun other hother => ?_, fun h => by simp at h⟩
      have hsame : (other, true) = (front, true) := by
        rw [← splitDiagram_of_endsInDiagram hother, splitDiagram_of_endsInDiagram hfront]
      rw [(Prod.mk.inj hsame).1]
  · rw [splitDiagram_of_not (not_exists.1 hends), Text.trim_trimEnd]
    constructor
    · intro h
      have hfalse : diagram = false := Bool.eq_false_iff.2 (mt h.diagram_iff.1 hends)
      exact ⟨h.tree_of_not hfalse, hfalse⟩
    · rintro ⟨rfl, rfl⟩
      exact ⟨iff_of_false Bool.false_ne_true hends, fun front hfront => absurd ⟨front, hfront⟩ hends,
        fun _ => rfl⟩

/-! ## Values -/

/-- The value consists of a code for the kind, the identifier and the text behind it. -/
structure IsValue (value code : Text) (kind : RecordKind) (xref trailing : Text) : Prop where
  value_eq : value = code ++ "@" ++ xref ++ "@" ++ trailing
  code_mem : (code, kind) ∈ RecordKind.codes
  xref_ne_nil : xref ≠ []
  /-- The identifier has ASCII letters and digits only. -/
  isAlphanum : ∀ x ∈ xref, x.isAlphanum = true
  line_feed_not_mem : '\n' ∉ trailing

lemma at_not_mem_code (h : (code, kind) ∈ RecordKind.codes) : '@' ∉ code := by
  have hall : ∀ e ∈ RecordKind.codes, '@' ∉ e.1 := by decide
  exact hall (code, kind) h

lemma at_not_mem_xref (h : ∀ x ∈ xref, x.isAlphanum = true) : '@' ∉ xref :=
  fun hmem => absurd (h '@' hmem) (by decide)

/-- A value is read as a cross-reference exactly if it consists of a code, an identifier and a text
that says the tree and whether the interactive tree is asked for. -/
lemma read?_eq_some_iff :
    read? value = some c ↔ ∃ code trailing, IsValue value code c.kind c.xref trailing ∧
      TrailingSays trailing c.tree c.diagram := by
  constructor
  · intro h
    simp only [read?, Option.bind_eq_bind, Option.bind_eq_some_iff, Prod.exists] at h
    obtain ⟨code, rest, hcode, xref, trailing, hxref, kind, hkind, h⟩ := h
    obtain ⟨-, rfl⟩ := Text.cutWhere?_char_eq_some_iff.1 hcode
    obtain ⟨-, rfl⟩ := Text.cutWhere?_char_eq_some_iff.1 hxref
    split at h
    · rename_i hform
      obtain rfl := Option.some.inj h
      have hform' : (xref ≠ [] ∧ ∀ x ∈ xref, x.isAlphanum = true) ∧ '\n' ∉ trailing := by
        simpa [Text.isIdentifier, Text.isWordChar] using hform
      refine ⟨code, trailing, ⟨by simp, RecordKind.ofCode?_eq_some_iff.1 hkind, hform'.1.1,
        hform'.1.2, hform'.2⟩, trailingSays_iff.2 ⟨rfl, rfl⟩⟩
    · simp at h
  · rintro ⟨code, trailing, ⟨rfl, hcode, hne, hxref, hfeed⟩, hsays⟩
    obtain ⟨htree, hdiagram⟩ := trailingSays_iff.1 hsays
    have hvalue : code ++ "@" ++ c.xref ++ "@" ++ trailing =
        code ++ '@' :: (c.xref ++ '@' :: trailing) := by simp
    -- neither the code nor the identifier has an `@`, so the value is cut into them
    have hfirst : Text.cutWhere? (· == '@') (code ++ '@' :: (c.xref ++ '@' :: trailing)) =
        some (code, c.xref ++ '@' :: trailing) :=
      Text.cutWhere?_char_eq_some_iff.2 ⟨at_not_mem_code hcode, rfl⟩
    have hsecond : Text.cutWhere? (· == '@') (c.xref ++ '@' :: trailing) =
        some (c.xref, trailing) :=
      Text.cutWhere?_char_eq_some_iff.2 ⟨at_not_mem_xref hxref, rfl⟩
    have hform : (Text.isIdentifier c.xref && !trailing.contains '\n') = true := by
      simpa [Text.isIdentifier, Text.isWordChar, hne, hfeed] using hxref
    rw [hvalue, read?]
    simp only [hfirst, hsecond, RecordKind.ofCode?_eq_some_iff.2 hcode, hform, Option.bind_eq_bind,
      Option.bind_some, if_true, ← htree, ← hdiagram]

lemma exists_trailingSays (trailing : Text) : ∃ tree diagram, TrailingSays trailing tree diagram :=
  ⟨_, _, trailingSays_iff.2 ⟨rfl, rfl⟩⟩

/-! ## Writing -/

/-- The cross-reference can be written as a value. -/
structure IsWritable (c : CrossReference) : Prop where
  /-- The kind has a code, or a record of any kind is asked for. -/
  kind : c.kind.code?.isSome = true ∨ c.kind = .generic
  xref_ne_nil : c.xref ≠ []
  isAlphanum : ∀ x ∈ c.xref, x.isAlphanum = true
  tree_ne_nil : ∀ tree ∈ c.tree, tree ≠ []
  trim_tree : ∀ tree ∈ c.tree, Text.trim tree = tree
  line_feed_not_mem : ∀ tree ∈ c.tree, '\n' ∉ tree
  /-- The name of the tree does not itself ask for the interactive tree. -/
  not_endsInDiagram : c.diagram = false → ∀ tree ∈ c.tree, ∀ front, ¬ EndsInDiagram front tree

/-- The text that is written behind the identifier. -/
def trailingOf (c : CrossReference) : Text :=
  c.tree.getD [] ++ if c.diagram then (" dia" : Text) else []

lemma nonEmpty?_getD (h : ∀ t ∈ tree, t ≠ []) : nonEmpty? (tree.getD []) = tree := by
  cases tree with
  | none => rfl
  | some t => exact if_neg (h t rfl)

/-- The text that is written behind the identifier says what the cross-reference does. -/
lemma IsWritable.trailingSays (h : c.IsWritable) : TrailingSays c.trailingOf c.tree c.diagram := by
  have htrim : Text.trim (c.tree.getD []) = c.tree.getD [] := by
    cases htree : c.tree with
    | none => rfl
    | some t => exact h.trim_tree t htree
  have hname : nonEmpty? (Text.trim (c.tree.getD [])) = c.tree := by
    rw [htrim, nonEmpty?_getD h.tree_ne_nil]
  rw [trailingSays_iff, trailingOf]
  cases hdiagram : c.diagram with
  | true =>
    have hend : Text.trimEnd (c.tree.getD [] ++ (" dia" : Text)) =
        c.tree.getD [] ++ (" dia" : Text) := by
      refine Text.trimEnd_eq_self fun x hx => ?_
      obtain rfl : 'a' = x := by simpa using hx
      decide
    have hsplit : EndsInDiagram (c.tree.getD []) (c.tree.getD [] ++ (" dia" : Text)) :=
      ⟨' ', "dia", by decide, by decide, rfl⟩
    rw [if_pos rfl, hend, splitDiagram_of_endsInDiagram hsplit]
    exact ⟨hname.symm, rfl⟩
  | false =>
    -- what is written is the name alone, which does not end as if it asked for the tree
    have hnot : ∀ front, ¬ EndsInDiagram front (c.tree.getD []) := by
      cases htree : c.tree with
      | none =>
        rintro front ⟨blank, word, -, -, hnil⟩
        simp at hnil
      | some t => exact h.not_endsInDiagram hdiagram t htree
    have hend : Text.trimEnd (c.tree.getD []) = c.tree.getD [] :=
      Text.trimEnd_eq_self (Text.trim_eq_self_iff.1 htrim).last
    rw [if_neg (by decide), List.append_nil, hend, splitDiagram_of_not hnot]
    exact ⟨hname.symm, rfl⟩

/-- A value is written from the code, the identifier and the text behind it. -/
lemma IsWritable.isValue (h : c.IsWritable) :
    IsValue c.write c.kind.code?.toList c.kind c.xref c.trailingOf where
  value_eq := by simp [write, trailingOf]
  code_mem := by
    have hall : ∀ kind : RecordKind, kind.code?.isSome = true ∨ kind = .generic →
        (kind.code?.toList, kind) ∈ RecordKind.codes := by
      intro kind
      cases kind <;> decide
    exact hall c.kind h.kind
  xref_ne_nil := h.xref_ne_nil
  isAlphanum := h.isAlphanum
  line_feed_not_mem := by
    have htree : '\n' ∉ c.tree.getD [] := by
      cases htree : c.tree with
      | none => simp
      | some t => exact h.line_feed_not_mem t htree
    rw [trailingOf, List.mem_append, not_or]
    refine ⟨htree, ?_⟩
    split
    · decide
    · simp

/-- A cross-reference is read back from its value. -/
lemma IsWritable.read?_write (h : c.IsWritable) : read? c.write = some c :=
  read?_eq_some_iff.2 ⟨_, _, h.isValue, h.trailingSays⟩

/-- Exactly the values of that form are read, as what their parts say; and every cross-reference
that can be written is read back from its value. -/
theorem read?_grammar :
    (∀ value, (read? value).isSome ↔
      ∃ code kind xref trailing, IsValue value code kind xref trailing) ∧
    (∀ value code kind xref trailing, IsValue value code kind xref trailing →
      ∃ tree diagram, read? value = some ⟨kind, xref, tree, diagram⟩ ∧
        TrailingSays trailing tree diagram) ∧
    ∀ c : CrossReference, c.IsWritable → read? c.write = some c := by
  have haccept : ∀ value code kind xref trailing, IsValue value code kind xref trailing →
      ∃ tree diagram, read? value = some ⟨kind, xref, tree, diagram⟩ ∧
        TrailingSays trailing tree diagram := by
    intro value code kind xref trailing hvalue
    obtain ⟨tree, diagram, hsays⟩ := exists_trailingSays trailing
    exact ⟨tree, diagram, read?_eq_some_iff.2 ⟨code, trailing, hvalue, hsays⟩, hsays⟩
  refine ⟨fun value => ?_, haccept, fun c hc => hc.read?_write⟩
  rw [Option.isSome_iff_exists]
  constructor
  · rintro ⟨c, hread⟩
    obtain ⟨code, trailing, hvalue, -⟩ := read?_eq_some_iff.1 hread
    exact ⟨code, c.kind, c.xref, trailing, hvalue⟩
  · rintro ⟨code, kind, xref, trailing, hvalue⟩
    obtain ⟨tree, diagram, hread, -⟩ := haccept value code kind xref trailing hvalue
    exact ⟨_, hread⟩

/-- Directly behind the identifier the word `dia` is the name of a tree. -/
example : read? "i@I1@dia" = some ⟨.individual, "I1", some "dia", false⟩ := by decide

/-- The name of a tree may hold the marks of a value. -/
example : read? "@X1@a@b dia c DIA " = some ⟨.generic, "X1", some "a@b dia c", true⟩ := by decide

/-! ## Media -/

/-- One or more ASCII letters and digits. -/
def IsIdentifier (xref : Text) : Prop := xref ≠ [] ∧ ∀ x ∈ xref, x.isAlphanum = true

lemma isIdentifier_eq_true_iff : Text.isIdentifier xref = true ↔ IsIdentifier xref := by
  rw [Text.isIdentifier, Bool.and_eq_true, bne_iff_ne, List.all_eq_true]
  rfl

/-- Just the identifiers between two `@` are read. -/
lemma readMedia?_eq_some_iff :
    readMedia? value = some xref ↔ value = "@" ++ xref ++ "@" ∧ IsIdentifier xref := by
  constructor
  · intro h
    unfold readMedia? at h
    split at h
    · rename_i t
      split at h
      · rename_i hcut
        obtain ⟨hform, hxref⟩ := Option.ite_none_right_eq_some.1 h
        obtain rfl := Option.some.inj hxref
        obtain ⟨-, rfl⟩ := Text.cutWhere?_char_eq_some_iff.1 hcut
        exact ⟨by simp, isIdentifier_eq_true_iff.1 hform⟩
      · cases h
    · cases h
  · rintro ⟨rfl, hxref⟩
    have hvalue : "@" ++ xref ++ "@" = '@' :: (xref ++ '@' :: []) := by simp
    have hcut : Text.cutWhere? (· == '@') (xref ++ '@' :: []) = some (xref, []) :=
      Text.cutWhere?_char_eq_some_iff.2 ⟨at_not_mem_xref hxref.2, rfl⟩
    rw [hvalue, readMedia?]
    simp only [hcut, isIdentifier_eq_true_iff.2 hxref, if_true]

end CrossReference

end NoteLinks
