import NoteLinks.Proofs.Markup

/-!
# Quotes in written attributes

Attributes are read back as they were written, and no value can end its quotes or its tag: there are
no angle brackets in written attributes, and their double quotes are those that stand around the
values (`writeAttributes_readBack`).  Where a double quote stands is said by what is written before
it and behind it (`QuotesValue`).
-/

namespace NoteLinks.Html

variable {as : List Attribute} {a : Attribute} {before after : Text}

/-- A character that does not occur in the front of a text stands behind it. -/
lemma append_eq_append_cons_iff {c : Char} {front back : Text} (h : c ∉ front) :
    front ++ back = before ++ c :: after ↔
      ∃ rest, before = front ++ rest ∧ back = rest ++ c :: after := by
  rw [List.append_eq_append_iff]
  constructor
  · rintro (hbehind | ⟨rest, rfl, hback⟩)
    · exact hbehind
    · cases rest with
      | nil => exact ⟨[], by simp, hback.symm⟩
      | cons d rest =>
        obtain rfl : c = d := (List.cons.inj hback).1
        simp at h
  · exact Or.inl

/-- Of a character behind a text without it, either this or a later occurrence is meant. -/
lemma append_cons_eq_append_cons_iff {c : Char} {front back : Text} (h : c ∉ front) :
    front ++ c :: back = before ++ c :: after ↔
      before = front ∧ after = back ∨
        ∃ rest, before = front ++ c :: rest ∧ back = rest ++ c :: after := by
  rw [append_eq_append_cons_iff h]
  constructor
  · rintro ⟨rest, rfl, hrest⟩
    cases rest with
    | nil => exact Or.inl ⟨List.append_nil front, (List.cons.inj hrest).2.symm⟩
    | cons d rest =>
      obtain ⟨rfl, hback⟩ := List.cons.inj hrest
      exact Or.inr ⟨rest, rfl, hback⟩
  · rintro (⟨rfl, rfl⟩ | ⟨rest, rfl, rfl⟩)
    · exact ⟨[], by simp, rfl⟩
    · exact ⟨c :: rest, rfl, rfl⟩

/-- A double quote with `before` in front of it and `after` behind it opens or closes a value of the
written attributes. -/
inductive QuotesValue (as : List Attribute) : (before after : Text) → Prop
  /-- The quote stands behind the equals sign of an attribute. -/
  | opening {bs cs : List Attribute} {name v : Text} (heq : as = bs ++ ⟨name, some v⟩ :: cs) :
      QuotesValue as (writeAttributes bs ++ ' ' :: (name ++ ['=']))
        (escapeValue v ++ '"' :: writeAttributes cs)
  /-- The quote stands behind the value of an attribute. -/
  | closing {bs cs : List Attribute} {name v : Text} (heq : as = bs ++ ⟨name, some v⟩ :: cs) :
      QuotesValue as (writeAttributes bs ++ ' ' :: (name ++ '=' :: '"' :: escapeValue v))
        (writeAttributes cs)

lemma writeAttributes_cons (a : Attribute) (as : List Attribute) :
    writeAttributes (a :: as) = writeAttribute a ++ writeAttributes as :=
  List.flatMap_cons

lemma writeAttributes_append (as bs : List Attribute) :
    writeAttributes (as ++ bs) = writeAttributes as ++ writeAttributes bs :=
  List.flatMap_append

/-- The quotes around values stand in the written text. -/
lemma QuotesValue.eq_append (h : QuotesValue as before after) :
    writeAttributes as = before ++ '"' :: after := by
  cases h with
  | opening heq =>
    rw [heq, writeAttributes_append, writeAttributes_cons, writeAttribute_value]
    simp
  | closing heq =>
    rw [heq, writeAttributes_append, writeAttributes_cons, writeAttribute_value]
    simp

/-- A quote around a value is one also if a further attribute is written in front of it. -/
lemma QuotesValue.cons (h : QuotesValue as before after) (a : Attribute) :
    QuotesValue (a :: as) (writeAttribute a ++ before) after := by
  cases h with
  | opening heq =>
    rw [← List.append_assoc, ← writeAttributes_cons]
    exact .opening (by rw [heq, List.cons_append])
  | closing heq =>
    rw [← List.append_assoc, ← writeAttributes_cons]
    exact .closing (by rw [heq, List.cons_append])

/-- Every double quote in written attributes stands around a value. -/
lemma quotesValue_of_eq_append (h : AreNamed as)
    (hquote : writeAttributes as = before ++ '"' :: after) : QuotesValue as before after := by
  induction as generalizing before with
  | nil => simp [writeAttributes] at hquote
  | cons a as ih =>
    obtain ⟨ha, has⟩ := List.forall_mem_cons.1 h
    obtain ⟨name, value⟩ := a
    have hname : '"' ∉ name := not_mem_of_isAttributeName ha '"' (by decide)
    rw [writeAttributes_cons] at hquote
    cases value with
    | none =>
      have hfront : '"' ∉ writeAttribute ⟨name, none⟩ := by simpa [writeAttribute] using hname
      obtain ⟨rest, rfl, hrest⟩ := (append_eq_append_cons_iff hfront).1 hquote
      exact (ih has hrest).cons _
    | some v =>
      have hfront : '"' ∉ ' ' :: (name ++ ['=']) := by simpa using hname
      have hvalue : '"' ∉ escapeValue v := not_mem_escapeValue (by decide) v
      have hwritten : writeAttribute ⟨name, some v⟩ ++ writeAttributes as =
          ' ' :: (name ++ ['=']) ++ '"' :: (escapeValue v ++ '"' :: writeAttributes as) := by
        simp [writeAttribute_value]
      rw [hwritten] at hquote
      -- the quote in question opens the value, or closes it, or belongs to a later attribute
      rcases (append_cons_eq_append_cons_iff hfront).1 hquote with
        ⟨rfl, rfl⟩ | ⟨rest, rfl, hbehind⟩
      · exact @QuotesValue.opening _ [] as name v rfl
      · rcases (append_cons_eq_append_cons_iff hvalue).1 hbehind with
          ⟨rfl, rfl⟩ | ⟨rest, rfl, hlater⟩
        · simpa [writeAttributes] using @QuotesValue.closing _ [] as name v rfl
        · simpa [writeAttribute_value] using (ih has hlater).cons ⟨name, some v⟩

/-- Attributes are read back from the text that is written for them, whatever their values hold.  In
this text there are no angle brackets, and no double quotes but the two around each value. -/
theorem writeAttributes_readBack (h : AreNamed as) :
    readAttributes (writeAttributes as) = as ∧
      '<' ∉ writeAttributes as ∧ '>' ∉ writeAttributes as ∧
      (∀ before after, writeAttributes as = before ++ '"' :: after ↔ QuotesValue as before after) ∧
      (writeAttributes as).count '"' = 2 * as.countP (·.value.isSome) := by
  obtain ⟨hlt, hgt, hquotes⟩ := count_writeAttributes h
  refine ⟨readAttributes_writeAttributes h, List.count_eq_zero.1 hlt, List.count_eq_zero.1 hgt,
    fun before after => ?_, hquotes⟩
  exact ⟨quotesValue_of_eq_append h, QuotesValue.eq_append⟩

/-- Two attributes of one name, the first with a value that reads like markup, one without a value
and one with an empty value. -/
def trickyAttributes : List Attribute :=
  [⟨"title", some "a=\"b\" <c> &quot; 'd'"⟩, ⟨"download", none⟩, ⟨"title", some []⟩, ⟨"x", none⟩]

/-- They are read back as they are. -/
theorem writeAttributes_readBack_tricky :
    AreNamed trickyAttributes ∧
      writeAttributes trickyAttributes =
        " title=\"a=&quot;b&quot; &lt;c&gt; &amp;quot; 'd'\" download title=\"\" x" ∧
      readAttributes " title=\"a=&quot;b&quot; &lt;c&gt; &amp;quot; 'd'\" download title=\"\" x" =
        trickyAttributes := by
  have hnamed : AreNamed trickyAttributes := by
    unfold AreNamed trickyAttributes
    decide
  have hwritten : writeAttributes trickyAttributes =
      " title=\"a=&quot;b&quot; &lt;c&gt; &amp;quot; 'd'\" download title=\"\" x" := by decide
  exact ⟨hnamed, hwritten, hwritten ▸ (writeAttributes_readBack hnamed).1⟩

end NoteLinks.Html
