import LinkReliability.Document

/-!
# Documents as JSON

Reading keeps whole numbers apart from fractions: a number with a point or an exponent, `-0`, and a
whole number beyond 64 bits are read as doubles. A number too large for a double cannot be read. The
text of a double is left to the writer.
-/

namespace LinkReliability.Document.Json

/-! ## Reading -/

abbrev Input := List Char

def isBlank (c : Char) : Bool := c = ' ' ∨ c = '\n' ∨ c = '\r' ∨ c = '\t'

def skipBlanks (input : Input) : Input := input.dropWhile isBlank

def hexValue? (c : Char) : Option Nat :=
  if c.isDigit then some (c.toNat - '0'.toNat)
  else if 'a' ≤ c ∧ c ≤ 'f' then some (c.toNat - 'a'.toNat + 10)
  else if 'A' ≤ c ∧ c ≤ 'F' then some (c.toNat - 'A'.toNat + 10)
  else none

/-- Four hexadecimal digits after a backslash and a `u`. -/
def unit? : Input → Option Nat
  | a :: b :: c :: d :: _ => do
    let a ← hexValue? a
    let b ← hexValue? b
    let c ← hexValue? c
    let d ← hexValue? d
    some (((a * 16 + b) * 16 + c) * 16 + d)
  | _ => none

def isHighUnit (n : Nat) : Bool := 0xD800 ≤ n ∧ n < 0xDC00

def isLowUnit (n : Nat) : Bool := 0xDC00 ≤ n ∧ n < 0xE000

/-- The character after a backslash, and how many characters of the input it took. A pair of units
stands for one character, and half a pair for none. -/
def escape? : Input → Option (Char × Nat)
  | 'u' :: rest => do
    let high ← unit? rest
    if isHighUnit high then
      match rest.drop 4 with
      | '\\' :: 'u' :: more =>
        let low ← unit? more
        if isLowUnit low then
          some (Char.ofNat (0x10000 + (high - 0xD800) * 1024 + (low - 0xDC00)), 11)
        else none
      | _ => none
    else if isLowUnit high then none
    else some (Char.ofNat high, 5)
  | 'n' :: _ => some ('\n', 1)
  | 't' :: _ => some ('\t', 1)
  | 'r' :: _ => some ('\r', 1)
  | 'b' :: _ => some (Char.ofNat 8, 1)
  | 'f' :: _ => some (Char.ofNat 12, 1)
  | c :: _ => if c = '"' ∨ c = '\\' ∨ c = '/' then some (c, 1) else none
  | [] => none

/-- The rest of a text after its opening quote; `acc` holds what was read, latest first. -/
def readText (acc : List Char) (input : Input) : Option (String × Input) :=
  match input with
  | [] => none
  | '"' :: rest => some (String.ofList acc.reverse, rest)
  | '\\' :: rest =>
    match escape? rest with
    | some (c, taken) => readText (c :: acc) (rest.drop taken)
    | none => none
  | c :: rest => readText (c :: acc) rest
termination_by input.length
decreasing_by
  · simp only [List.length_drop, List.length_cons]
    omega
  · simp only [List.length_cons]
    omega

def isNumberChar (c : Char) : Bool :=
  c.isDigit || c = '-' || c = '+' || c = '.' || c = 'e' || c = 'E'

def natOf (ds : List Char) : Nat := ds.foldl (fun n c => 10 * n + (c.toNat - '0'.toNat)) 0

def exponentOf : Input → Int
  | _ :: '-' :: ds => -(Int.ofNat (natOf ds))
  | _ :: '+' :: ds => Int.ofNat (natOf ds)
  | _ :: ds => Int.ofNat (natOf ds)
  | [] => 0

def signedFloat? (negative : Bool) (d : Decimal.Scientific) : Option Document :=
  d.float?.map (fun x => .float (if negative then -x else x))

def wholeNumber? (negative : Bool) (ds : Input) : Option Document :=
  let n := natOf ds
  if negative then
    if n = 0 ∨ Nat.pow 2 63 < n then signedFloat? negative (Decimal.Scientific.ofDigits ds [])
    else some (.int (-(Int.ofNat n)))
  else if n < Nat.pow 2 64 then some (.int (Int.ofNat n))
  else signedFloat? negative (Decimal.Scientific.ofDigits ds [])

def numberOf? (cs : Input) : Option Document :=
  let negative := cs.head? = some '-'
  let cs := if negative then cs.drop 1 else cs
  let whole := cs.takeWhile Char.isDigit
  match cs.dropWhile Char.isDigit with
  | [] => wholeNumber? negative whole
  | c :: rest =>
    let places := if c = '.' then rest.takeWhile Char.isDigit else []
    let exponent := exponentOf (if c = '.' then rest.dropWhile Char.isDigit else c :: rest)
    let d := Decimal.Scientific.ofDigits whole places
    signedFloat? negative ⟨d.digits, d.scale + exponent⟩

mutual

/-- Every step down takes at least one character, so the length of the input is enough. -/
def readValue : Nat → Input → Option (Document × Input)
  | 0, _ => none
  | fuel + 1, input =>
    match skipBlanks input with
    | '\x7b' :: rest =>
      match skipBlanks rest with
      | '\x7d' :: rest => some (.record [], rest)
      | rest => readFields fuel [] rest
    | '[' :: rest =>
      match skipBlanks rest with
      | ']' :: rest => some (.list [], rest)
      | rest => readItems fuel [] rest
    | '"' :: rest => (readText [] rest).map (fun p => (.text p.1, p.2))
    | 't' :: 'r' :: 'u' :: 'e' :: rest => some (.bool true, rest)
    | 'f' :: 'a' :: 'l' :: 's' :: 'e' :: rest => some (.bool false, rest)
    | 'n' :: 'u' :: 'l' :: 'l' :: rest => some (.null, rest)
    | rest =>
      let number := rest.takeWhile isNumberChar
      if number.isEmpty then none
      else (numberOf? number).map (fun d => (d, rest.drop number.length))

def readItems : Nat → List Document → Input → Option (Document × Input)
  | 0, _, _ => none
  | fuel + 1, acc, input =>
    match readValue fuel input with
    | none => none
    | some (item, rest) =>
      match skipBlanks rest with
      | ',' :: rest => readItems fuel (item :: acc) rest
      | ']' :: rest => some (.list (item :: acc).reverse, rest)
      | _ => none

def readFields : Nat → List (String × Document) → Input → Option (Document × Input)
  | 0, _, _ => none
  | fuel + 1, acc, input =>
    match skipBlanks input with
    | '"' :: rest =>
      match readText [] rest with
      | none => none
      | some (name, rest) =>
        match skipBlanks rest with
        | ':' :: rest =>
          match readValue fuel rest with
          | none => none
          | some (value, rest) =>
            match skipBlanks rest with
            | ',' :: rest => readFields fuel ((name, value) :: acc) rest
            | '\x7d' :: rest => some (.record ((name, value) :: acc).reverse, rest)
            | _ => none
        | _ => none
    | _ => none

end

/-- The document that a text holds, with nothing but white space around it. -/
def read? (s : String) : Option Document :=
  let input := s.toList
  match readValue (input.length + 1) input with
  | some (d, rest) => if (skipBlanks rest).isEmpty then some d else none
  | none => none

/-! ## Writing -/

/-- The letter after a backslash that stands for `c`. -/
def letter? (c : Char) : Option Char :=
  match c with
  | '"' => some '"'
  | '\\' => some '\\'
  | '\n' => some 'n'
  | '\r' => some 'r'
  | '\t' => some 't'
  | '\x08' => some 'b'
  | '\x0c' => some 'f'
  | _ => none

/-- Other control characters are written by number. -/
def writeChar (c : Char) : List Char :=
  match letter? c with
  | some letter => ['\\', letter]
  | none =>
    if c.toNat < 0x20 then
      ['\\', 'u', '0', '0', Nat.digitChar (c.toNat / 16), Nat.digitChar (c.toNat % 16)]
    else [c]

def writeText (s : String) : String :=
  "\"" ++ String.ofList (s.toList.flatMap writeChar) ++ "\""

mutual

/-- Writes a document on one line, doubles as `real` writes them. -/
def write (real : Float → String) : Document → String
  | .null => "null"
  | .bool b => if b then "true" else "false"
  | .int n => toString n
  | .float x => real x
  | .text s => writeText s
  | .list items => "[" ++ ",".intercalate (writeItems real items) ++ "]"
  | .record fields => "\x7b" ++ ",".intercalate (writeFields real fields) ++ "\x7d"

def writeItems (real : Float → String) : List Document → List String
  | [] => []
  | d :: rest => write real d :: writeItems real rest

def writeFields (real : Float → String) : List (String × Document) → List String
  | [] => []
  | (name, d) :: rest => (writeText name ++ ":" ++ write real d) :: writeFields real rest

end

end LinkReliability.Document.Json
