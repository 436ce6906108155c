import NoteLinks.Yaml.Node
import NoteLinks.Yaml.Token

/-!
# Reading YAML

A document is the node that its tokens form. Lists and mappings are written with their parts on
lines of their own or in brackets and braces; a part that is left out is the empty node.
-/

namespace NoteLinks.Yaml

/-! ### Nodes -/
section Nodes

/-- The next token is one of `ks`. -/
def isNext (ks : List Token) (ts : List Token) : Bool := ts.head?.any ks.contains

/-- What follows the comma that stands before a further part in brackets. -/
def afterComma? (isFirst : Bool) : List Token → Option (List Token)
  | .comma :: rest => if isFirst then some (.comma :: rest) else some rest
  | ts => if isFirst then some ts else none

mutual

/-- The node at the start of some tokens, and what follows it. On lines of its own (`block`) it may
be written by indentation; a list as the value of a mapping (`nested`) need not be indented. -/
def node? (block nested : Bool) : (fuel : Nat) → List Token → Option (Node × List Token)
  | 0, _ => none
  | fuel + 1, ts =>
    match ts with
    | .plain t :: rest => some (.plain t, rest)
    | .quoted t :: rest => some (.quoted t, rest)
    | .openBracket :: rest => (bracketItems? true fuel rest).map fun (ns, rest) => (.list ns, rest)
    | .openBrace :: rest => (braceEntries? true fuel rest).map fun (es, rest) => (.mapping es, rest)
    | .item :: _ =>
      if nested then (items? true fuel ts).map fun (ns, rest) => (.list ns, rest) else none
    | .listStart :: rest =>
      if block then (items? false fuel rest).map fun (ns, rest) => (.list ns, rest) else none
    | .mappingStart :: rest =>
      if block then (entries? fuel rest).map fun (es, rest) => (.mapping es, rest) else none
    | _ => none

/-- The node at the start of some tokens, which is empty if one of the tokens `ends` follows. -/
def part? (block nested : Bool) (ends : List Token) : (fuel : Nat) → List Token →
    Option (Node × List Token)
  | 0, _ => none
  | fuel + 1, ts => if isNext ends ts then some (.empty, ts) else node? block nested fuel ts

/-- The value after a key, which is empty if there is no colon or one of the tokens `ends` follows
it. -/
def valuePart? (block nested : Bool) (ends : List Token) : (fuel : Nat) → List Token →
    Option (Node × List Token)
  | 0, _ => none
  | fuel + 1, ts =>
    match ts with
    | .value :: rest => part? block nested ends fuel rest
    | _ => some (.empty, ts)

/-- The items of a list on lines of their own, and what follows the list. -/
def items? (nested : Bool) : (fuel : Nat) → List Token → Option (List Node × List Token)
  | 0, _ => none
  | fuel + 1, ts =>
    match ts with
    | .item :: rest => do
      -- a list at the indentation of its mapping ends where the mapping goes on
      let ends := if nested then [.item, .key, .value, .blockEnd] else [.item, .blockEnd]
      let (n, rest) ← part? true false ends fuel rest
      let (ns, rest) ← items? nested fuel rest
      some (n :: ns, rest)
    | .blockEnd :: rest => some ([], if nested then ts else rest)
    | _ => if nested then some ([], ts) else none

/-- The entries of a mapping on lines of their own, and what follows the mapping. -/
def entries? : (fuel : Nat) → List Token → Option (List (Node × Node) × List Token)
  | 0, _ => none
  | fuel + 1, ts =>
    match ts with
    | .key :: rest => do
      let ends := [.key, .value, .blockEnd]
      let (k, rest) ← part? true true ends fuel rest
      let (n, rest) ← valuePart? true true ends fuel rest
      let (es, rest) ← entries? fuel rest
      some ((k, n) :: es, rest)
    | .blockEnd :: rest => some ([], rest)
    | _ => none

/-- The items up to the closing bracket, and what follows it. An item with a key is a mapping. -/
def bracketItems? (isFirst : Bool) : (fuel : Nat) → List Token → Option (List Node × List Token)
  | 0, _ => none
  | fuel + 1, ts =>
    match ts with
    | .closeBracket :: rest => some ([], rest)
    | _ => do
      match ← afterComma? isFirst ts with
      | .closeBracket :: rest => some ([], rest)
      | .key :: rest => do
        let (k, rest) ← node? false false fuel rest
        let (n, rest) ← valuePart? false false [.comma, .closeBracket] fuel rest
        let (ns, rest) ← bracketItems? false fuel rest
        -- a pair without braces is a mapping by itself
        some (.mapping [(k, n)] :: ns, rest)
      | rest => do
        let (n, rest) ← node? false false fuel rest
        let (ns, rest) ← bracketItems? false fuel rest
        some (n :: ns, rest)

/-- The entries up to the closing brace, and what follows it. -/
def braceEntries? (isFirst : Bool) : (fuel : Nat) → List Token →
    Option (List (Node × Node) × List Token)
  | 0, _ => none
  | fuel + 1, ts =>
    match ts with
    | .closeBrace :: rest => some ([], rest)
    | _ => do
      match ← afterComma? isFirst ts with
      | .closeBrace :: rest => some ([], rest)
      | .key :: rest => do
        let (k, rest) ← part? false false [.value, .comma, .closeBrace] fuel rest
        let (n, rest) ← valuePart? false false [.comma, .closeBrace] fuel rest
        let (es, rest) ← braceEntries? false fuel rest
        some ((k, n) :: es, rest)
      | rest => do
        let (k, rest) ← node? false false fuel rest
        let (es, rest) ← braceEntries? false fuel rest
        -- a node without a colon is a key that has nothing under it
        some ((k, .empty) :: es, rest)

end

end Nodes

/-! ### Documents -/
section Documents

/-- The greatest number of lists and mappings that stand inside each other. -/
def maxDepth : Nat := 128

/-- The node of the document at the start of some tokens, and what follows it. -/
def document? (ts : List Token) : Option (Node × List Token) :=
  let fuel := 3 * ts.length + 3
  match ts with
  | .documentStart :: rest => part? true false [.documentStart, .documentEnd] fuel rest
  | _ => node? true false fuel ts

/-- The node of the only document that some tokens form; no tokens form the empty node. -/
def Node.ofTokens? (ts : List Token) : Option Node :=
  if ts = [] ∨ ts = [.documentStart] then some .empty
  else do
    let (n, rest) ← document? ts
    if rest.all (· == .documentEnd) && n.depth ≤ maxDepth then some n else none

/-- The node of the only document of a text; a text without documents has the empty node. -/
def read? (t : Text) : Option Node := (Token.ofText? t).bind Node.ofTokens?

/-- The value of the only document of a text. -/
def readValue? (t : Text) : Option Value := (read? t).bind Node.value?

end Documents

end NoteLinks.Yaml
