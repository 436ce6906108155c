import NoteLinks.Yaml.Value

/-!
# YAML nodes

A node is a part of a document as it is written: plain text has not been given a meaning yet, and a
mapping may hold a key twice. `Node.value?` gives a node its meaning as a value; there is none if a
plain text has no meaning or a key is repeated.
-/

namespace NoteLinks.Yaml

/-- A part of a document. -/
inductive Node where
  | plain (t : Text)
  | quoted (t : Text)
  | list (items : List Node)
  | mapping (entries : List (Node × Node))

namespace Node

/-! ### Scalars -/
section Scalars

def empty : Node := .plain []

/-- The scalar that a node means. -/
def scalar? : Node → Option Scalar
  | plain t => Scalar.ofPlain? t
  | quoted t => some (.text t)
  | _ => none

/-- The text that a scalar node holds, whatever it means. -/
def text? : Node → Option Text
  | plain t => some t
  | quoted t => some t
  | _ => none

end Scalars

/-! ### Parts -/
section Parts

mutual

/-- The number of lists and mappings that stand inside each other, this one included. -/
def depth : Node → Nat
  | plain _ => 0
  | quoted _ => 0
  | list items => listDepth items + 1
  | mapping entries => entriesDepth entries + 1

def listDepth : List Node → Nat
  | [] => 0
  | n :: ns => max (depth n) (listDepth ns)

def entriesDepth : List (Node × Node) → Nat
  | [] => 0
  | (k, n) :: es => max (max (depth k) (depth n)) (entriesDepth es)

end

mutual

/-- All plain text in a node means something. -/
def isMeaningful : Node → Bool
  | plain t => (Scalar.ofPlain? t).isSome
  | quoted _ => true
  | list items => areMeaningful items
  | mapping entries => haveMeaning entries

/-- All plain text in nodes means something. -/
def areMeaningful : List Node → Bool
  | [] => true
  | n :: ns => isMeaningful n && areMeaningful ns

/-- All plain text in pairs of nodes means something. -/
def haveMeaning : List (Node × Node) → Bool
  | [] => true
  | (k, n) :: es => isMeaningful k && isMeaningful n && haveMeaning es

end

end Parts

/-! ### Values -/
section Values

/-- No two of some pairs of values have the same key. -/
def haveDistinctKeys : List (Value × Value) → Bool
  | [] => true
  | (k, _) :: es => es.all (fun e => !k.same e.1) && haveDistinctKeys es

mutual

/-- The value that a node means. -/
def value? : Node → Option Value
  | plain t => (Scalar.ofPlain? t).map .scalar
  | quoted t => some (.text t)
  | list items => (listValues? items).map .list
  | mapping entries => do
    let es ← entryValues? entries
    if haveDistinctKeys es then some (.mapping es) else none

/-- The values that nodes mean. -/
def listValues? : List Node → Option (List Value)
  | [] => some []
  | n :: ns => do
    let v ← value? n
    let vs ← listValues? ns
    some (v :: vs)

/-- The pairs of values that pairs of nodes mean. -/
def entryValues? : List (Node × Node) → Option (List (Value × Value))
  | [] => some []
  | (k, n) :: es => do
    let key ← value? k
    let v ← value? n
    let rest ← entryValues? es
    some ((key, v) :: rest)

end

end Values

end Node

end NoteLinks.Yaml
