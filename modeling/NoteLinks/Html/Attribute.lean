import NoteLinks.Html.Reference
import NoteLinks.Text.Blank

/-!
# Attributes

The attributes of a tag are names with or without a value. A value is written in double quotes, in
single quotes or bare; between the attributes stand blanks, and stray characters there are passed
over. Attributes are always written with a blank before the name and the value in double quotes.
-/

namespace NoteLinks.Html

/-- A name and the text of its value, references undone. -/
structure Attribute where
  name : Text
  value : Option Text
deriving DecidableEq, Repr

/-! ### Reading -/
section Read

def isNameChar (c : Char) : Bool :=
  !Text.isBlank c && !(['"', '\'', '<', '>', '/', '='].contains c)

def isBareChar (c : Char) : Bool :=
  !Text.isBlank c && !(['"', '\'', '=', '<', '>', Char.ofNat 96].contains c)

/-- The bare value at the start of a text and what follows it. -/
def bareValue? (t : Text) : Option (Text × Text) :=
  match t.takeWhile isBareChar with
  | [] => none
  | v => some (v, t.dropWhile isBareChar)

/-- The value after an equals sign and what follows it. -/
def valueAfterEquals? (t : Text) : Option (Text × Text) :=
  match Text.trimStart t with
  | '"' :: u => Text.cutWhere? (· == '"') u
  | '\'' :: u => Text.cutWhere? (· == '\'') u
  | u => bareValue? u

/-- The equals sign and the value that follow a name, as the value and what follows it. -/
def value? (t : Text) : Option (Text × Text) :=
  match Text.trimStart t with
  | '=' :: u => valueAfterEquals? u
  | _ => none

theorem length_of_cutWhere? {p : Char → Bool} {t a b : Text}
    (h : Text.cutWhere? p t = some (a, b)) : b.length < t.length := by
  induction t generalizing a with
  | nil => simp [Text.cutWhere?] at h
  | cons c t ih =>
    simp only [Text.cutWhere?] at h
    split at h
    · simp only [Option.some.injEq, Prod.mk.injEq] at h
      simp [h.2]
    · simp only [Option.map_eq_some_iff, Prod.mk.injEq, Prod.exists] at h
      obtain ⟨a', b', h', _, rfl⟩ := h
      have := ih h'
      simp; omega

theorem length_of_valueAfterEquals? {t a b : Text} (h : valueAfterEquals? t = some (a, b)) :
    b.length ≤ t.length := by
  have ht := length_dropWhile_le Text.isBlank t
  unfold valueAfterEquals? Text.trimStart at h
  split at h
  · have := length_of_cutWhere? h
    simp_all; omega
  · have := length_of_cutWhere? h
    simp_all; omega
  · unfold bareValue? at h
    split at h
    · simp at h
    · simp only [Option.some.injEq, Prod.mk.injEq] at h
      have := length_dropWhile_le isBareChar (t.dropWhile Text.isBlank)
      rw [← h.2]; omega

theorem length_of_value? {t a b : Text} (h : value? t = some (a, b)) : b.length < t.length := by
  have ht := length_dropWhile_le Text.isBlank t
  unfold value? Text.trimStart at h
  split at h
  · have := length_of_valueAfterEquals? h
    simp_all; omega
  · simp at h

/-- The attributes that stand in the text of a tag after its element's name. -/
def readAttributes : Text → List Attribute
  | [] => []
  | c :: t =>
    if isNameChar c then
      let name := c :: t.takeWhile isNameChar
      match _h : value? (t.dropWhile isNameChar) with
      | some (v, rest) => ⟨name, some (unescape v)⟩ :: readAttributes rest
      | none => ⟨name, none⟩ :: readAttributes (t.dropWhile isNameChar)
    else readAttributes t
termination_by t => t.length
decreasing_by
  · have h₁ := length_of_value? ‹_›
    have h₂ := length_dropWhile_le isNameChar t
    simp
    omega
  · have := length_dropWhile_le isNameChar t
    simp
    omega
  · simp

end Read

/-! ### Writing -/
section Write

/-- An attribute with the blank before it. -/
def writeAttribute (a : Attribute) : Text :=
  match a.value with
  | some v => " " ++ a.name ++ "=\"" ++ escapeValue v ++ "\""
  | none => " " ++ a.name

def writeAttributes (as : List Attribute) : Text := as.flatMap writeAttribute

end Write

/-! ### Changing -/
section Change

/-- The attribute has a name, in any letter case. -/
def Attribute.isNamed (name : Text) (a : Attribute) : Bool := Text.sameLetters a.name name

/-- The value of the first attribute with a name, if it has one. -/
def attribute? (name : Text) (as : List Attribute) : Option Text :=
  (as.find? (·.isNamed name)).bind (·.value)

/-- Attributes with the first one of a name given a value, or a new one added at the end. -/
def setAttribute (name value : Text) : List Attribute → List Attribute
  | [] => [⟨name, some value⟩]
  | a :: as =>
    if a.isNamed name then { a with value := some value } :: as
    else a :: setAttribute name value as

/-- Attributes without those of a name. -/
def removeAttribute (name : Text) (as : List Attribute) : List Attribute :=
  as.filter fun a => !a.isNamed name

end Change

end NoteLinks.Html
