import NoteLinks.Record
import NoteLinks.Text.Order

/-!
# Record stores

A store holds the records of several trees and says which of them the reader may see. Within a tree
the first record with an identifier decides: records added later under the same identifier are
never looked at.

Links and images know nothing of stores. They ask an archive for one record at a time; a store is an
archive, and any other keeper of records may be one.
-/

namespace NoteLinks

/-- A record and whether the reader may see it. -/
structure StoredRecord where
  record : Record
  isPrivate : Bool
  /-- What the reader is told when access is denied. -/
  denialReason : Option Text
deriving DecidableEq, Repr

/-- The trees of a store by name, in the order in which they were named first. -/
structure RecordStore where
  trees : List (Text × List StoredRecord)
deriving DecidableEq, Repr

/-- Why a record cannot be had. -/
inductive LookupError where
  | unknownTree
  | notFound
  | accessDenied (reason : Option Text)
deriving DecidableEq, Repr

namespace LookupError

/-- The error in words. -/
def message : LookupError → Text
  | unknownTree => "unknown tree"
  | notFound => "record not found"
  | accessDenied none => "access denied"
  | accessDenied (some reason) => "access denied: " ++ reason

end LookupError

/-- What the reader of a page can ask for records. -/
structure Archive where
  /-- The record with an identifier in a tree, or why it cannot be had. -/
  lookup : (tree xref : Text) → Except LookupError Record

namespace RecordStore

def empty : RecordStore := ⟨[]⟩

/-- The trees with `stored` added at the end of the tree `tree`. -/
def append (tree : Text) (stored : StoredRecord) :
    List (Text × List StoredRecord) → List (Text × List StoredRecord)
  | [] => [(tree, [stored])]
  | (t, rs) :: rest =>
    if t = tree then (t, rs ++ [stored]) :: rest else (t, rs) :: append tree stored rest

/-- The store with one more record in a tree, which comes into being if need be. -/
def add (s : RecordStore) (tree : Text) (stored : StoredRecord) : RecordStore :=
  ⟨append tree stored s.trees⟩

/-- The store with a record that everyone may see. -/
def insert (s : RecordStore) (tree : Text) (r : Record) : RecordStore :=
  s.add tree ⟨r, false, none⟩

/-- The store with a record that the reader may not see. -/
def insertPrivate (s : RecordStore) (tree : Text) (r : Record) (reason : Option Text) :
    RecordStore :=
  s.add tree ⟨r, true, reason⟩

def treeNames (s : RecordStore) : List Text := Text.sortDistinct (s.trees.map (·.1))

def tree? (s : RecordStore) (tree : Text) : Option (List StoredRecord) :=
  (s.trees.find? (·.1 == tree)).map (·.2)

/-- The record with an identifier in a tree, if the reader may see it. -/
def lookup (s : RecordStore) (tree xref : Text) : Except LookupError Record :=
  match s.tree? tree with
  | none => .error .unknownTree
  | some records =>
    match records.find? (·.record.xref == xref) with
    | none => .error .notFound
    | some stored =>
      if stored.isPrivate then .error (.accessDenied stored.denialReason) else .ok stored.record

def archive (s : RecordStore) : Archive := ⟨s.lookup⟩

end RecordStore

end NoteLinks
