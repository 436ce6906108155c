import NoteLinks.Failure
import NoteLinks.Record.Store
import NoteLinks.Yaml.Reader

/-!
# Records as a document

The records of a store are listed in a YAML document: a mapping from the names of trees to lists of
records. A record has an identifier and a kind; its name, its files and the rest may be left out.
Keys that name nothing are ignored, but what stands under them must mean something.
-/

namespace NoteLinks.RecordStore

open Yaml (Node Scalar)

/-! ### Fields -/
section Fields

/-- The value of a field among the entries of a mapping. There is none if the field is left out, and
no answer if it is stated twice. -/
def field? (entries : List (Text × Node)) (name : Text) : Option (Option Node) :=
  match entries.filter (·.1 == name) with
  | [] => some none
  | [e] => some (some e.2)
  | _ => none

/-- The value of a field that must be stated. -/
def required? {α : Type} (entries : List (Text × Node)) (name : Text) (read? : Node → Option α) :
    Option α := do
  read? (← (← field? entries name))

/-- The value of a field, or a default where it is left out. -/
def optional? {α : Type} (entries : List (Text × Node)) (name : Text) (read? : Node → Option α)
    (default : α) : Option α := do
  match ← field? entries name with
  | none => some default
  | some n => read? n

/-- The entries of a mapping with scalar keys, whatever they mean. -/
def entries? : Node → Option (List (Text × Node))
  | .mapping es => es.mapM fun e => e.1.text?.map (·, e.2)
  | _ => none

/-- The name that a key stands for where names may also be given by their numbers. A number without
a name stands for none, and other keys have no meaning. -/
def name? (names : List Text) (key : Node) : Option Text :=
  match key.scalar? with
  | some (.text t) => some t
  | some (.int n) => if 0 ≤ n then some (names.getD n.toNat []) else none
  | _ => none

/-- The text that a node means; plain text that means something else is no text. -/
def text? (n : Node) : Option Text :=
  match n.scalar? with
  | some (.text t) => some t
  | _ => none

/-- The text that a node means, or none for null. -/
def nullableText? (n : Node) : Option (Option Text) :=
  match n.scalar? with
  | some .null => some none
  | some (.text t) => some (some t)
  | _ => none

/-- The text that a node holds, whatever it means, or none for null. -/
def nullableRaw? (n : Node) : Option (Option Text) :=
  match n.scalar? with
  | some .null => some none
  | _ => n.text?.map some

/-- The truth value that a node means. -/
def bool? (n : Node) : Option Bool :=
  match n.scalar? with
  | some (.bool b) => some b
  | _ => none

end Fields

/-! ### Records -/
section Records

/-- The file that a node states: a mapping, or its fields one after the other. -/
def mediaFile? : Node → Option MediaFile
  | .list [url, mime] => do some ⟨← text? url, ← text? mime, none⟩
  | .list [url, mime, title] => do some ⟨← text? url, ← text? mime, ← nullableText? title⟩
  | .mapping es => do
    let es ← es.mapM fun e => (name? ["url", "mime", "title"] e.1).map (·, e.2)
    some
      { url := ← required? es "url" text?
        mime := ← required? es "mime" text?
        title := ← optional? es "title" nullableText? none }
  | _ => none

/-- The files that a node lists. -/
def mediaFiles? : Node → Option (List MediaFile)
  | .list items => items.mapM mediaFile?
  | _ => none

def isNothing : Node → Bool
  | .mapping [] => true
  | n => n.scalar? == some .null

/-- The kind that a node states: its name, or a mapping from the name to nothing. -/
def kind? : Node → Option RecordKind
  | .mapping [(key, n)] =>
    if isNothing n then (name? (RecordKind.all.map (·.name)) key).bind RecordKind.ofName? else none
  | n => (text? n).bind RecordKind.ofName?

/-- All that is stated means something, except for the reason, which is taken as it is written. -/
def areMeaningful (entries : List (Text × Node)) : Bool :=
  entries.all fun e => e.1 == "denial_reason" || e.2.isMeaningful

/-- The record that a node states. -/
def storedRecord? (n : Node) : Option StoredRecord := do
  let es ← entries? n
  guard (areMeaningful es)
  let record : Record :=
    { xref := ← required? es "xref" text?
      kind := ← required? es "kind" kind?
      name := ← optional? es "name" text? []
      mediaFiles := ← optional? es "media_files" mediaFiles? [] }
  some
    { record := record
      isPrivate := ← optional? es "private" bool? false
      denialReason := ← optional? es "denial_reason" nullableRaw? none }

/-- The records that a node lists; where nothing is written there are none. -/
def storedRecords? : Node → Option (List StoredRecord)
  | .plain [] => some []
  | .list items => items.mapM storedRecord?
  | _ => none

/-- The trees with the records of one of them replaced, or the tree added. -/
def setTree (tree : Text) (records : List StoredRecord) :
    List (Text × List StoredRecord) → List (Text × List StoredRecord)
  | [] => [(tree, records)]
  | e :: es => if e.1 = tree then (tree, records) :: es else e :: setTree tree records es

/-- The store that a document states; of two trees with one name the later is kept. -/
def ofNode? : Node → Option RecordStore
  | .plain [] => some empty
  | n => do
    let trees ← (← entries? n).mapM fun e => (storedRecords? e.2).map (e.1, ·)
    some ⟨trees.foldl (fun ts e => setTree e.1 e.2 ts) []⟩

/-- The store that a text states. -/
def read (t : Text) : Except Failure RecordStore :=
  match (Yaml.read? t).bind ofNode? with
  | some s => .ok s
  | none => .error .invalidRecords

/-- The store that the file at a path states. -/
def load (fs : FileSystem) (path : Text) : Except Failure RecordStore :=
  if fs.isFile path then
    match fs.readText path with
    | .ok t => read t
    | .error fault => .error (.config (.unreadableRecords path fault))
  else .error (.fileNotFound path)

end Records

end NoteLinks.RecordStore
