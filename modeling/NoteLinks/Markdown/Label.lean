import NoteLinks.Markdown.Break
import NoteLinks.Text.Fold

/-!
# Labels

A link can name its target by a label in brackets, and a footnote is always named by one, which then
begins with a circumflex. Runs of blanks in a label count as one blank, and labels are compared
without regard to case. A label may continue on the next line, where the caller says how.
-/

namespace NoteLinks.Markdown

/-! ### Reading -/
section Reading

/-- A blank of ASCII. -/
def isLabelBlank (c : Char) : Bool := c == ' ' || (9 ≤ c.toNat && c.toNat ≤ 13)

/-- The weight of the blanks and of at most one line break at the start of a text, and what follows
them: a space weighs one and anything else two. `next` takes the text after a line break to where
its line continues the label. -/
def labelGap? (next : Text → Option Text) :
    (fuel weight : Nat) → (broken : Bool) → Text → Option (Nat × Text)
  | 0, _, _, _ => none
  | fuel + 1, weight, broken, t =>
    match t with
    | [] => some (weight, [])
    | c :: rest =>
      if isBreak c then
        if broken then none
        else
          match (afterBreak? t).bind next with
          | some u => labelGap? next fuel (weight + 2) true u
          | none => none
      else if c = ' ' then labelGap? next fuel (weight + 1) broken rest
      else if isLabelBlank c then labelGap? next fuel (weight + 2) broken rest
      else some (weight, t)

/-- The size that a label does not reach. -/
def maxLabel : Nat := 1000

/-- What an ordinary character adds to the size of a label: only those beyond ASCII count, by their
bytes. -/
def labelSize (c : Char) : Nat := if c.toNat < 0x80 then 0 else c.utf8Size

/-- The rest of a label, up to the `]` that closes it, and what follows. `blank` says that only
blanks and escapes have been read. -/
def labelRest? (next : Text → Option Text) :
    (fuel size : Nat) → (blank : Bool) → Text → Option (Text × Text)
  | 0, _, _, _ => none
  | fuel + 1, size, blank, t =>
    if maxLabel ≤ size then none
    else
      match t with
      | [] => none
      | '[' :: _ => none
      | ']' :: rest => if blank then none else some ([], rest)
      | '\\' :: p :: rest =>
        let wide := labelSize p
        (labelRest? next fuel (size + 2 + (wide - 1)) (blank && wide == 0) rest).map
          fun (l, u) => ('\\' :: p :: l, u)
      | c :: rest =>
        if isLabelBlank c then
          match labelGap? next (t.length + 1) 0 false t with
          | none => none
          | some (weight, u) =>
            -- several blanks in a row count as one space, a single blank as itself
            if 1 < weight then
              (labelRest? next fuel (size + (t.length - u.length)) blank u).map
                fun (l, v) => (' ' :: l, v)
            else (labelRest? next fuel (size + 1) blank u).map fun (l, v) => (c :: l, v)
        else
          (labelRest? next fuel (size + labelSize c) false rest).map fun (l, u) => (c :: l, u)

/-- The label in brackets that a text begins with, and what follows it. -/
def readLabel? (next : Text → Option Text) : Text → Option (Text × Text)
  | '[' :: t => labelRest? next (t.length + 1) 0 true t
  | _ => none

/-- The label of a footnote that a text begins with, and what follows it. It stands on one line. -/
def readFootnoteLabel? : Text → Option (Text × Text)
  | '[' :: '^' :: t => labelRest? (fun _ => none) (t.length + 1) 0 true t
  | _ => none

end Reading

/-! ### References -/
section References

/-- What a text in brackets refers to. -/
inductive Reference where
  | link (label : Text)
  | footnote (label : Text)
deriving DecidableEq, Repr

/-- The reference that a text begins with, and what follows it. -/
def readReference? (t : Text) : Option (Reference × Text) :=
  match readFootnoteLabel? t with
  | some (label, rest) => some (.footnote label, rest)
  | none => (readLabel? some t).map fun (label, rest) => (.link label, rest)

/-- The reference that a whole text is. -/
def reference? (t : Text) : Option Reference :=
  match readReference? t with
  | some (r, []) => some r
  | _ => none

/-- The form in which labels are compared. -/
def foldLabel (label : Text) : Text := Text.fold label

end References

end NoteLinks.Markdown
