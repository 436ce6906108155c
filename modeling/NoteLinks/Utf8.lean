import NoteLinks.Text

/-!
# UTF-8

Texts are stored and percent-coded as the bytes of their UTF-8 form. Reading bytes back never
fails: every maximal run of bytes that begins a character but does not finish one, and every byte
that begins none, is read as the replacement character U+FFFD. Bytes are *valid* when they are the
UTF-8 form of what they are read as.
-/

namespace NoteLinks.Utf8

/-- The bytes of a text or a file. -/
abbrev Bytes := List UInt8

/-! ### Writing -/
section Encode

/-- A byte that continues a character, holding the low six bits of `n`. -/
def continuation (n : Nat) : UInt8 := UInt8.ofNat (0x80 + n % 64)

/-- The UTF-8 form of one character. -/
def encodeChar (c : Char) : Bytes :=
  let n := c.toNat
  if n < 0x80 then [UInt8.ofNat n]
  else if n < 0x800 then [UInt8.ofNat (0xC0 + n / 64), continuation n]
  else if n < 0x10000 then
    [UInt8.ofNat (0xE0 + n / 4096), continuation (n / 64), continuation n]
  else
    [UInt8.ofNat (0xF0 + n / 262144), continuation (n / 4096), continuation (n / 64),
      continuation n]

def encode (t : Text) : Bytes := t.flatMap encodeChar

def size (t : Text) : Nat := (encode t).length

end Encode

/-! ### Reading

The reader goes through the bytes once. Between characters it is `ready`; inside one it remembers
how many bytes are still needed, the bits read so far and the range that the next byte must fall
in. The range excludes overlong forms, surrogates and numbers above U+10FFFF. -/
section Decode

/-- The character that stands for bytes that are no UTF-8. -/
def replacement : Char := '\uFFFD'

/-- What the reader knows between two bytes. -/
inductive State where
  | ready
  /-- Inside a character: `more + 1` bytes are needed, the next one between `low` and `high`. -/
  | inside (more : Nat) (bits : Nat) (low high : Nat)

/-- Text written and the state reached by a byte at the start of a character. -/
def start (b : Nat) : Text × State :=
  if b < 0x80 then ([Char.ofNat b], .ready)
  else if b < 0xC2 then ([replacement], .ready)
  else if b < 0xE0 then ([], .inside 0 (b - 0xC0) 0x80 0xBF)
  else if b = 0xE0 then ([], .inside 1 0 0xA0 0xBF)
  else if b = 0xED then ([], .inside 1 13 0x80 0x9F)
  else if b < 0xF0 then ([], .inside 1 (b - 0xE0) 0x80 0xBF)
  else if b = 0xF0 then ([], .inside 2 0 0x90 0xBF)
  else if b < 0xF4 then ([], .inside 2 (b - 0xF0) 0x80 0xBF)
  else if b = 0xF4 then ([], .inside 2 4 0x80 0x8F)
  else ([replacement], .ready)

/-- Text written and the state reached by one byte. -/
def step : State → Nat → Text × State
  | .ready, b => start b
  | .inside more bits low high, b =>
    if low ≤ b ∧ b ≤ high then
      let bits := bits * 64 + (b - 0x80)
      match more with
      | 0 => ([Char.ofNat bits], .ready)
      | more + 1 => ([], .inside more bits 0x80 0xBF)
    else
      let (out, next) := start b
      (replacement :: out, next)

/-- The text that is read from bytes in a given state. -/
def run : State → Bytes → Text
  | .ready, [] => []
  | .inside .., [] => [replacement]
  | s, b :: bs => (step s b.toNat).1 ++ run (step s b.toNat).2 bs

/-- The text that bytes are read as, with U+FFFD for what is no UTF-8. -/
def decodeLossy (bs : Bytes) : Text := run .ready bs

/-- The text whose UTF-8 form the bytes are. -/
def decode? (bs : Bytes) : Option Text :=
  let t := decodeLossy bs
  if encode t = bs then some t else none

/-- The number of bytes before the first byte that is part of no UTF-8 form. -/
def validUpTo (bs : Bytes) : Nat :=
  go 0 bs (decodeLossy bs)
where
  /-- Compares the bytes with the UTF-8 form of what they are read as, character by character. -/
  go (n : Nat) (bs : Bytes) : Text → Nat
    | [] => n
    | c :: t =>
      let k := (encodeChar c).length
      if bs.take k = encodeChar c then go (n + k) (bs.drop k) t else n

end Decode

end NoteLinks.Utf8
