/-!
# Text from outside

Bytes are read as UTF-8. Where they are not well formed, each longest run of bytes that begins some
character, or else each single byte, is read as one replacement character. White space is every
character with the white space property.
-/

namespace LinkReliability.Text

/-! ## White space -/

def isBlank (c : Char) : Bool :=
  let n := c.toNat
  (0x9 ≤ n ∧ n ≤ 0xD) ∨ n = 0x20 ∨ n = 0x85 ∨ n = 0xA0 ∨ n = 0x1680 ∨
    (0x2000 ≤ n ∧ n ≤ 0x200A) ∨ n = 0x2028 ∨ n = 0x2029 ∨ n = 0x202F ∨ n = 0x205F ∨ n = 0x3000

def trimStart (cs : List Char) : List Char := cs.dropWhile isBlank

def trim (cs : List Char) : List Char := (trimStart (trimStart cs).reverse).reverse

/-! ## Bytes as text -/

def replacement : Char := Char.ofNat 0xFFFD

/-- How a character with a given first byte goes on: the number of bytes that follow, the range of
the first of them, and the bits of the first byte. -/
structure Lead where
  more : Nat
  low : Nat
  high : Nat
  bits : Nat
deriving DecidableEq, Repr

def lead? (b : Nat) : Option Lead :=
  if 0xC2 ≤ b ∧ b ≤ 0xDF then some ⟨1, 0x80, 0xBF, b - 0xC0⟩
  else if b = 0xE0 then some ⟨2, 0xA0, 0xBF, 0⟩
  else if b = 0xED then some ⟨2, 0x80, 0x9F, 0xD⟩
  else if 0xE1 ≤ b ∧ b ≤ 0xEF then some ⟨2, 0x80, 0xBF, b - 0xE0⟩
  else if b = 0xF0 then some ⟨3, 0x90, 0xBF, 0⟩
  else if 0xF1 ≤ b ∧ b ≤ 0xF3 then some ⟨3, 0x80, 0xBF, b - 0xF0⟩
  else if b = 0xF4 then some ⟨3, 0x80, 0x8F, 4⟩
  else none

/-- An unfinished character: the bits read so far, how many bytes are missing and which range the
next one has. -/
structure Unfinished where
  bits : Nat
  missing : Nat
  low : Nat
  high : Nat
deriving DecidableEq, Repr

/-- Starts a character at `b`: what is written at once, and what is left open. -/
def begin (b : Nat) : List Char × Option Unfinished :=
  if b < 0x80 then ([Char.ofNat b], none)
  else
    match lead? b with
    | some l => ([], some ⟨l.bits, l.more, l.low, l.high⟩)
    | none => ([replacement], none)

def decodeFrom (open? : Option Unfinished) : List UInt8 → List Char
  | [] => if open?.isSome then [replacement] else []
  | byte :: rest =>
    let b := byte.toNat
    match open? with
    | none =>
      let (written, next) := begin b
      written ++ decodeFrom next rest
    | some p =>
      if p.low ≤ b ∧ b ≤ p.high then
        let bits := p.bits * 64 + (b - 0x80)
        if p.missing ≤ 1 then Char.ofNat bits :: decodeFrom none rest
        else decodeFrom (some ⟨bits, p.missing - 1, 0x80, 0xBF⟩) rest
      else
        let (written, next) := begin b
        replacement :: written ++ decodeFrom next rest

def decodeUtf8 (bytes : List UInt8) : List Char := decodeFrom none bytes

end LinkReliability.Text
