import NoteLinks.Yaml.Scalar

/-!
# YAML values

A document is a tree of scalars, lists and mappings. The keys of a mapping are values of any kind,
and it holds each key once, where values that differ only in the order of entries are the same. Tags
and aliases are left out of what is read, so values have no tags.

`Value.merge` lays one value over another: a mapping is laid over a mapping key by key, anything
else replaces what it is laid over, and the null document changes nothing.
-/

namespace NoteLinks.Yaml

/-! ### Values -/
section Values

/-- A YAML value. -/
inductive Value where
  | scalar (s : Scalar)
  | list (items : List Value)
  | mapping (entries : List (Value × Value))

def Value.null : Value := .scalar .null

/-- A text as a value. -/
def Value.text (t : Text) : Value := .scalar (.text t)

def Value.isMapping : Value → Bool
  | .mapping _ => true
  | _ => false

mutual

/-- Two values are the same, in whatever order their mappings state their entries. -/
def Value.same : Value → Value → Bool
  | .scalar s, .scalar t => s == t
  | .list vs, .list ws => sameItems vs ws
  | .mapping es, .mapping fs => es.length == fs.length && hasEntries fs es
  | _, _ => false

/-- Two lists have the same values. -/
def sameItems : List Value → List Value → Bool
  | [], [] => true
  | v :: vs, w :: ws => v.same w && sameItems vs ws
  | _, _ => false

/-- Each of some entries stands among the entries `fs`. -/
def hasEntries (fs : List (Value × Value)) : List (Value × Value) → Bool
  | [] => true
  | (k, v) :: es => fs.any (fun f => k.same f.1 && v.same f.2) && hasEntries fs es

end

/-- The value under a key among entries. -/
def valueAt? (entries : List (Value × Value)) (key : Value) : Option Value :=
  (entries.find? fun e => key.same e.1).map (·.2)

/-- Entries with a key set to a value: in its place if it has one, at the end otherwise. -/
def setEntry (key v : Value) : List (Value × Value) → List (Value × Value)
  | [] => [(key, v)]
  | e :: es => if key.same e.1 then (e.1, v) :: es else e :: setEntry key v es

mutual

/-- `upper` laid over `base`. -/
def Value.merge (base : Value) : (upper : Value) → Value
  | .scalar .null => base
  | .mapping os =>
    match base with
    | .mapping bs => .mapping (mergeEntries bs os)
    | _ => .mapping os
  | v => v

/-- The entries `os` laid over the entries `bs`. -/
def mergeEntries (bs : List (Value × Value)) : (os : List (Value × Value)) → List (Value × Value)
  | [] => bs
  | (k, v) :: os =>
    mergeEntries
      (match valueAt? bs k with
        | some slot =>
          if slot.isMapping && v.isMapping then setEntry k (slot.merge v) bs else setEntry k v bs
        | none => setEntry k v bs)
      os

end

end Values

end NoteLinks.Yaml
