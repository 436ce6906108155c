import NoteLinks.Yaml.Gap
import NoteLinks.Yaml.Scalar

/-!
# Quoted YAML scalars

Between single quotes every character stands for itself, and a quote is written twice. Between
double quotes a backslash begins an escape. In both the gaps between words are folded.
-/

namespace NoteLinks.Yaml.Quoted

/-! ### Escapes -/
section Escapes

/-- The character that an escape of one letter means. -/
def letter? : Char → Option Char
  | '0' => some (Char.ofNat 0)
  | 'a' => some (Char.ofNat 7)
  | 'b' => some (Char.ofNat 8)
  | 't' => some '\t'
  | 'n' => some '\n'
  | 'v' => some (Char.ofNat 11)
  | 'f' => some (Char.ofNat 12)
  | 'r' => some '\r'
  | 'e' => some (Char.ofNat 27)
  | 'N' => some (Char.ofNat 0x85)
  | '_' => some (Char.ofNat 0xA0)
  | 'L' => some (Char.ofNat 0x2028)
  | 'P' => some (Char.ofNat 0x2029)
  | c => if [' ', '\t', '"', '/', '\\'].contains c then some c else none

/-- The number of hexadecimal digits that an escape takes. -/
def digits : Char → Nat
  | 'x' => 2
  | 'u' => 4
  | 'U' => 8
  | _ => 0

/-- The character that the escape at the start of a text means, and what follows it. The text begins
after the backslash. -/
def escape? : Text → Option (Char × Text)
  | [] => none
  | c :: rest =>
    let k := digits c
    if k = 0 then (letter? c).map (·, rest)
    else
      (readBase? 16 (rest.take k)).bind fun n =>
        if k ≤ rest.length ∧ n.isValidChar then some (Char.ofNat n, rest.drop k) else none

end Escapes

/-! ### Quotes -/
section Quotes

/-- The text up to the quote that closes it, and what follows that quote. -/
def textFrom? (quote : Char) : (fuel : Nat) → Text → Option (Text × Text)
  | 0, _ => none
  | fuel + 1, t =>
    let go (before rest : Text) : Option (Text × Text) :=
      (textFrom? quote fuel rest).map fun (a, b) => (before ++ a, b)
    match t with
    | [] => none
    | c :: rest =>
      if isBlank c then do
        let (gap, rest) ← Gap.read? 0 t
        if gap.leavesDocument rest then none else go gap.text rest
      else if c = '\\' ∧ quote = '"' then
        -- an escaped line end joins the lines without a space
        if rest.head?.any isBreak then do
          let (breaks, column, after) ← Gap.breaks? 0 0 (rest.drop 1)
          if column = 0 ∧ isDocumentMark after then none else go breaks after
        else do
          let (d, rest) ← escape? rest
          go [d] rest
      else if c = quote then
        -- between single quotes a doubled quote stands for one
        if quote = '\'' ∧ rest.head? = some quote then go [quote] (rest.drop 1)
        else some ([], rest)
      else go [c] rest

/-- The text between the quotes at the start of a text, and what follows them. -/
def read? : Text → Option (Text × Text)
  | [] => none
  | quote :: rest => textFrom? quote (rest.length + 1) rest

end Quotes

end NoteLinks.Yaml.Quoted
