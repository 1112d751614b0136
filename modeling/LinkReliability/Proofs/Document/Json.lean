import LinkReliability.Document.Json
import Mathlib.Data.List.TakeWhile
import Mathlib.Tactic.IntervalCases

/-!
# What is read of what was written

A document that was written as text is read again as it was. Only a double depends on the text that
the writer gives it: it is read as the number that stands there, which may be a neighbour. Reader
and writer meet at the values: each is read up to its end, with whatever follows left over.
-/

namespace LinkReliability.Document.Json

variable {real : Float → String} {carry : Float → Float} {rest : Input} {fuel : Nat}

/-! ## Texts -/

theorem escape?_letter {c letter : Char} (h : letter? c = some letter) (input : Input) :
    escape? (letter :: input) = some (c, 1) := by
  unfold letter? at h
  split at h <;> cases h <;> rfl

theorem escape?_number {n : Nat} (h : n < 0x20) (input : Input) :
    escape? ('u' :: '0' :: '0' :: Nat.digitChar (n / 16) :: Nat.digitChar (n % 16) :: input) =
      some (Char.ofNat n, 5) := by
  interval_cases n <;> rfl

theorem readText_escape {c : Char} {taken : Nat} {input : Input} (acc : List Char)
    (h : escape? input = some (c, taken)) :
    readText acc ('\\' :: input) = readText (c :: acc) (input.drop taken) := by
  rw [readText, h]

theorem readText_plain {c : Char} (hquote : c ≠ '"') (hslash : c ≠ '\\') (acc : List Char)
    (input : Input) : readText acc (c :: input) = readText (c :: acc) input := by
  rw [readText]
  · exact hquote
  · exact hslash

theorem readText_writeChar (c : Char) (acc : List Char) (input : Input) :
    readText acc (writeChar c ++ input) = readText (c :: acc) input := by
  unfold writeChar
  split
  · next letter hletter => exact readText_escape acc (escape?_letter hletter input)
  · next hnone =>
      split
      · next hsmall =>
          have hnumber := escape?_number hsmall input
          rw [Char.ofNat_toNat] at hnumber
          exact readText_escape acc hnumber
      · refine readText_plain ?_ ?_ acc input
        · rintro rfl
          cases hnone
        · rintro rfl
          cases hnone

theorem readText_write (cs acc : List Char) (input : Input) :
    readText acc (cs.flatMap writeChar ++ '"' :: input) =
      some (String.ofList (acc.reverse ++ cs), input) := by
  induction cs generalizing acc with
  | nil => rw [List.flatMap_nil, List.nil_append, readText, List.append_nil]
  | cons c cs ih =>
      rw [List.flatMap_cons, List.append_assoc, readText_writeChar, ih, List.reverse_cons,
        List.append_assoc, List.singleton_append]

theorem toList_writeText (s : String) :
    (writeText s).toList = '"' :: (s.toList.flatMap writeChar ++ ['"']) := by
  simp [writeText]

theorem readText_writeText (s : String) (input : Input) :
    readText [] (s.toList.flatMap writeChar ++ '"' :: input) = some (s, input) := by
  rw [readText_write, List.reverse_nil, List.nil_append, String.ofList_toList]

/-! ## Numbers -/

/-- The text of a number, and the document as which it is read. -/
structure Denotes (text : String) (number : Document) : Prop where
  nonempty : text.toList ≠ []
  chars : ∀ c ∈ text.toList, isNumberChar c = true
  read : numberOf? text.toList = some number

theorem natOf_toDigits (n : Nat) : natOf (Nat.toDigits 10 n) = n := by
  unfold natOf
  rw [← Nat.ofDigitChars_eq_foldl, Nat.ofDigitChars_ten_toDigits]

theorem isDigit_toDigits (n : Nat) : ∀ c ∈ Nat.toDigits 10 n, c.isDigit = true :=
  fun _ hc => Nat.isDigit_of_mem_toDigits (by decide) (by decide) hc

theorem isNumberChar_of_isDigit {c : Char} (h : c.isDigit = true) : isNumberChar c = true := by
  simp [isNumberChar, h]

theorem numberOf?_toDigits {n : Nat} (h : n < Nat.pow 2 64) :
    numberOf? (Nat.toDigits 10 n) = some (.int n) := by
  have hdigits := isDigit_toDigits n
  have hsign : (Nat.toDigits 10 n).head? ≠ some '-' := fun hhead => by
    exact absurd (hdigits '-' (List.mem_of_head? hhead)) (by decide)
  simp only [numberOf?, hsign, decide_false, Bool.false_eq_true, if_false,
    List.takeWhile_eq_self_iff.2 hdigits, List.dropWhile_eq_nil_iff.2 hdigits, wholeNumber?,
    natOf_toDigits, h, if_true]
  rfl

theorem numberOf?_minus {n : Nat} (hpos : 0 < n) (h : n ≤ Nat.pow 2 63) :
    numberOf? ('-' :: Nat.toDigits 10 n) = some (.int (-n)) := by
  have hdigits := isDigit_toDigits n
  have hfits : ¬ (n = 0 ∨ Nat.pow 2 63 < n) := by omega
  simp only [numberOf?, List.head?_cons, decide_true, if_true, List.drop_succ_cons, List.drop_zero,
    List.takeWhile_eq_self_iff.2 hdigits, List.dropWhile_eq_nil_iff.2 hdigits, wholeNumber?,
    natOf_toDigits, hfits, if_false]
  rfl

/-- The whole numbers that are not read as doubles. -/
def Fits (n : Int) : Prop := -(Nat.pow 2 63 : Int) ≤ n ∧ n < (Nat.pow 2 64 : Int)

theorem denotes_toString {n : Int} (h : Fits n) : Denotes (toString n) (.int n) := by
  obtain ⟨hlow, hhigh⟩ := h
  have hrepr : toString n = n.repr := rfl
  rw [hrepr, Int.repr_eq_if]
  split
  · next hpos =>
      obtain ⟨m, rfl⟩ := Int.eq_ofNat_of_zero_le hpos
      have hfits : m < Nat.pow 2 64 := by exact_mod_cast hhigh
      rw [Int.toNat_natCast]
      refine ⟨?_, ?_, ?_⟩ <;> rw [Nat.toList_repr]
      · exact Nat.toDigits_ne_nil
      · exact fun c hc => isNumberChar_of_isDigit (isDigit_toDigits m c hc)
      · exact numberOf?_toDigits hfits
  · next hneg =>
      obtain ⟨m, hm⟩ := Int.eq_ofNat_of_zero_le (a := -n) (by omega)
      obtain rfl : n = -m := by omega
      have hlow : m ≤ Nat.pow 2 63 := by omega
      have htext : ("-" ++ (- -(m : Int)).toNat.repr).toList = '-' :: Nat.toDigits 10 m := by
        simp [Nat.toList_repr]
      refine ⟨?_, ?_, ?_⟩ <;> rw [htext]
      · exact List.cons_ne_nil _ _
      · rw [List.forall_mem_cons]
        exact ⟨by decide, fun c hc => isNumberChar_of_isDigit (isDigit_toDigits m c hc)⟩
      · exact numberOf?_minus (by omega) hlow

/-! ## Where values begin and end -/

/-- No number goes on here. -/
def Ends (rest : Input) : Prop := ∀ c ∈ rest.head?, isNumberChar c = false

/-- Neither white space nor the end of a list begins here. -/
def Begins (input : Input) : Prop := ∃ c ∈ input.head?, isBlank c = false ∧ c ≠ ']'

theorem skipBlanks_of_begins (h : Begins rest) : skipBlanks rest = rest := by
  obtain ⟨c, hc, hblank, -⟩ := h
  obtain ⟨cs, rfl⟩ := List.head?_eq_some_iff.1 hc
  exact List.dropWhile_cons_of_neg (by simp [hblank])

theorem begins_of_isNumberChar {c : Char} {cs : Input} (h : isNumberChar c = true) :
    Begins (c :: cs) := by
  refine ⟨c, rfl, ?_, ?_⟩
  · rw [Bool.eq_false_iff]
    intro hblank
    obtain rfl | rfl | rfl | rfl : c = ' ' ∨ c = '\n' ∨ c = '\r' ∨ c = '\t' := by
      simpa [isBlank] using hblank
    all_goals exact absurd h (by decide)
  · rintro rfl
    exact absurd h (by decide)

theorem Denotes.begins {text : String} {d : Document} (h : Denotes text d) (rest : Input) :
    Begins (text.toList ++ rest) := by
  obtain ⟨c, cs, htext⟩ := List.exists_cons_of_ne_nil h.nonempty
  rw [htext]
  exact begins_of_isNumberChar (h.chars c (htext ▸ List.mem_cons_self))

theorem readValue_number {text : String} {d : Document} (h : Denotes text d) (hrest : Ends rest) :
    readValue (fuel + 1) (text.toList ++ rest) = some (d, rest) := by
  have hnone : rest.takeWhile isNumberChar = [] := by
    cases rest with
    | nil => rfl
    | cons c cs => exact List.takeWhile_cons_of_neg (by simp [hrest c rfl])
  have hnumber : (text.toList ++ rest).takeWhile isNumberChar = text.toList := by
    rw [List.takeWhile_append_of_pos h.chars, hnone, List.append_nil]
  have hhead : ∀ {c : Char} {cs : Input}, text.toList ++ rest = c :: cs →
      isNumberChar c = true := by
    intro c cs heq
    obtain ⟨first, more, htext⟩ := List.exists_cons_of_ne_nil h.nonempty
    rw [htext, List.cons_append] at heq
    exact (List.cons.inj heq).1 ▸ h.chars first (htext ▸ List.mem_cons_self)
  rw [readValue, skipBlanks_of_begins (h.begins rest)]
  split
  case h_7 =>
    have hnot : ¬ text.toList.isEmpty = true := by simpa using h.nonempty
    dsimp only
    rw [hnumber, if_neg hnot, h.read, Option.map_some, List.drop_left]
  -- No other value begins with a character of a number.
  all_goals
    next heq => exact absurd (hhead heq) (by decide)

/-! ## Documents -/

mutual

/-- What is read of a document: each double as the one that its text stands for. -/
def carried (carry : Float → Float) : Document → Document
  | .float x => .float (carry x)
  | .list items => .list (carriedItems carry items)
  | .record fields => .record (carriedFields carry fields)
  | d => d

def carriedItems (carry : Float → Float) : List Document → List Document
  | [] => []
  | d :: items => carried carry d :: carriedItems carry items

def carriedFields (carry : Float → Float) : List (String × Document) → List (String × Document)
  | [] => []
  | (name, d) :: fields => (name, carried carry d) :: carriedFields carry fields

end

mutual

/-- Whole numbers are not too large, and the text of each double is read as `carry` has it. -/
def Readable (real : Float → String) (carry : Float → Float) : Document → Prop
  | .int n => Fits n
  | .float x => Denotes (real x) (.float (carry x))
  | .list items => ReadableItems real carry items
  | .record fields => ReadableFields real carry fields
  | _ => True

def ReadableItems (real : Float → String) (carry : Float → Float) : List Document → Prop
  | [] => True
  | d :: items => Readable real carry d ∧ ReadableItems real carry items

def ReadableFields (real : Float → String) (carry : Float → Float) :
    List (String × Document) → Prop
  | [] => True
  | (_, d) :: fields => Readable real carry d ∧ ReadableFields real carry fields

end

/-- What stands between the brackets of a list. -/
def itemsText (real : Float → String) (items : List Document) : Input :=
  (",".intercalate (writeItems real items)).toList

/-- What stands between the braces of a record. -/
def fieldsText (real : Float → String) (fields : List (String × Document)) : Input :=
  (",".intercalate (writeFields real fields)).toList

theorem itemsText_single (d : Document) : itemsText real [d] = (write real d).toList := by
  simp [itemsText, writeItems]

theorem itemsText_cons (d next : Document) (items : List Document) :
    itemsText real (d :: next :: items) =
      (write real d).toList ++ ',' :: itemsText real (next :: items) := by
  simp [itemsText, writeItems, String.intercalate_cons_cons]

theorem fieldsText_single (name : String) (d : Document) :
    fieldsText real [(name, d)] = (writeText name).toList ++ ':' :: (write real d).toList := by
  simp [fieldsText, writeFields]

theorem fieldsText_cons (name : String) (d : Document) (next : String × Document)
    (fields : List (String × Document)) :
    fieldsText real ((name, d) :: next :: fields) =
      (writeText name).toList ++ ':' :: ((write real d).toList ++
        ',' :: fieldsText real (next :: fields)) := by
  simp [fieldsText, writeFields, String.intercalate_cons_cons]

theorem length_lt_fieldsText_single (name : String) (d : Document) :
    (write real d).toList.length < (fieldsText real [(name, d)]).length := by
  rw [fieldsText_single, List.length_append, List.length_cons]
  exact Nat.lt_of_lt_of_le (Nat.lt_succ_self _) (Nat.le_add_left _ _)

theorem length_lt_fieldsText_cons (name : String) (d : Document) (next : String × Document)
    (fields : List (String × Document)) :
    (write real d).toList.length + (fieldsText real (next :: fields)).length <
      (fieldsText real ((name, d) :: next :: fields)).length := by
  rw [fieldsText_cons, List.length_append, List.length_cons, List.length_append, List.length_cons]
  generalize (writeText name).toList.length = named
  omega

theorem toList_write_null : (write real .null).toList = ['n', 'u', 'l', 'l'] := by simp [write]

theorem toList_write_bool (b : Bool) :
    (write real (.bool b)).toList =
      if b then ['t', 'r', 'u', 'e'] else ['f', 'a', 'l', 's', 'e'] := by
  cases b <;> simp [write]

theorem toList_write_list (items : List Document) :
    (write real (.list items)).toList = '[' :: (itemsText real items ++ [']']) := by
  simp [write, itemsText]

theorem toList_write_record (fields : List (String × Document)) :
    (write real (.record fields)).toList = '\x7b' :: (fieldsText real fields ++ ['\x7d']) := by
  simp [write, fieldsText]

theorem begins_write {d : Document} (h : Readable real carry d) (rest : Input) :
    Begins ((write real d).toList ++ rest) := by
  cases d with
  | null =>
      rw [toList_write_null]
      exact ⟨'n', rfl, by decide, by decide⟩
  | bool b =>
      rw [toList_write_bool]
      cases b with
      | true => exact ⟨'t', rfl, by decide, by decide⟩
      | false => exact ⟨'f', rfl, by decide, by decide⟩
  | int n =>
      rw [Readable] at h
      exact (denotes_toString h).begins rest
  | float x =>
      rw [Readable] at h
      exact h.begins rest
  | text s =>
      rw [write, toList_writeText]
      exact ⟨'"', rfl, by decide, by decide⟩
  | list items =>
      rw [toList_write_list]
      exact ⟨'[', rfl, by decide, by decide⟩
  | record fields =>
      rw [toList_write_record]
      exact ⟨'\x7b', rfl, by decide, by decide⟩

theorem begins_itemsText {d : Document} {items : List Document}
    (h : ReadableItems real carry (d :: items)) (rest : Input) :
    Begins (itemsText real (d :: items) ++ rest) := by
  rw [ReadableItems] at h
  cases items with
  | nil =>
      rw [itemsText_single]
      exact begins_write h.1 rest
  | cons next items =>
      rw [itemsText_cons, List.append_assoc]
      exact begins_write h.1 _

theorem fieldsText_begins (real : Float → String) (name : String) (d : Document)
    (fields : List (String × Document)) :
    ∃ cs, fieldsText real ((name, d) :: fields) = '"' :: cs := by
  cases fields with
  | nil =>
      rw [fieldsText_single, toList_writeText]
      exact ⟨_, rfl⟩
  | cons next fields =>
      rw [fieldsText_cons, toList_writeText]
      exact ⟨_, rfl⟩

/-! ### Lists and records -/

theorem ends_of_separator {c : Char} (h : isNumberChar c = false) (input : Input) :
    Ends (c :: input) := by
  rintro c' ⟨⟩
  exact h

theorem readItems_last {acc : List Document} {d : Document} {input : Input}
    (h : readValue fuel input = some (d, ']' :: rest)) :
    readItems (fuel + 1) acc input = some (.list (acc.reverse ++ [d]), rest) := by
  have hskip : skipBlanks (']' :: rest) = ']' :: rest := rfl
  rw [readItems, h]
  simp only [hskip, List.reverse_cons]

theorem readItems_more {acc : List Document} {d : Document} {input : Input}
    (h : readValue fuel input = some (d, ',' :: rest)) :
    readItems (fuel + 1) acc input = readItems fuel (d :: acc) rest := by
  have hskip : skipBlanks (',' :: rest) = ',' :: rest := rfl
  rw [readItems, h]
  simp only [hskip]

/-- What follows a field: another field, or the end of the record. -/
def readNextField (fuel : Nat) (acc : List (String × Document)) (rest : Input) :
    Option (Document × Input) :=
  match skipBlanks rest with
  | ',' :: rest => readFields fuel acc rest
  | '\x7d' :: rest => some (.record acc.reverse, rest)
  | _ => none

theorem readFields_field {acc : List (String × Document)} {name : String} {d : Document}
    {input : Input} (h : readValue fuel input = some (d, rest)) :
    readFields (fuel + 1) acc ((writeText name).toList ++ ':' :: input) =
      readNextField fuel ((name, d) :: acc) rest := by
  have hquote : ∀ cs : Input, skipBlanks ('"' :: cs) = '"' :: cs := fun cs => rfl
  have hcolon : skipBlanks (':' :: input) = ':' :: input := rfl
  rw [toList_writeText, List.cons_append, List.append_assoc, List.singleton_append, readFields,
    hquote]
  simp only [readText_writeText, hcolon, h]
  rfl

theorem readFields_last {acc : List (String × Document)} {name : String} {d : Document}
    {input : Input} (h : readValue fuel input = some (d, '\x7d' :: rest)) :
    readFields (fuel + 1) acc ((writeText name).toList ++ ':' :: input) =
      some (.record (acc.reverse ++ [(name, d)]), rest) := by
  have hskip : skipBlanks ('\x7d' :: rest) = '\x7d' :: rest := rfl
  rw [readFields_field h]
  simp only [readNextField, hskip, List.reverse_cons]

theorem readFields_more {acc : List (String × Document)} {name : String} {d : Document}
    {input : Input} (h : readValue fuel input = some (d, ',' :: rest)) :
    readFields (fuel + 1) acc ((writeText name).toList ++ ':' :: input) =
      readFields fuel ((name, d) :: acc) rest := by
  have hskip : skipBlanks (',' :: rest) = ',' :: rest := rfl
  rw [readFields_field h]
  simp only [readNextField, hskip]

theorem exists_fuel {n : Nat} (h : n < fuel) : ∃ left, fuel = left + 1 :=
  Nat.exists_eq_add_one.2 (Nat.zero_lt_of_lt h)

/-- The reader takes what was written and leaves the rest. Every value takes at least one character,
and what is inside a list or a record at least one less. The length of the text is enough fuel. -/
def ReadsBack (real : Float → String) (carry : Float → Float) (d : Document) : Prop :=
  ∀ (rest : Input) (fuel : Nat), Ends rest → (write real d).toList.length ≤ fuel →
    readValue fuel ((write real d).toList ++ rest) = some (carried carry d, rest)

theorem readItems_write {d : Document} {items : List Document}
    (h : ∀ d' ∈ d :: items, ReadsBack real carry d') (acc : List Document) (rest : Input)
    (fuel : Nat) (hfuel : (itemsText real (d :: items)).length < fuel) :
    readItems fuel acc (itemsText real (d :: items) ++ ']' :: rest) =
      some (.list (acc.reverse ++ carriedItems carry (d :: items)), rest) := by
  induction items generalizing d acc fuel with
  | nil =>
      obtain ⟨fuel, rfl⟩ := exists_fuel hfuel
      have hends : Ends (']' :: rest) := ends_of_separator (by decide) rest
      rw [itemsText_single] at hfuel ⊢
      exact readItems_last (h d List.mem_cons_self _ fuel hends (by omega))
  | cons next items ih =>
      obtain ⟨fuel, rfl⟩ := exists_fuel hfuel
      rw [List.forall_mem_cons] at h
      have hends : Ends (',' :: (itemsText real (next :: items) ++ ']' :: rest)) :=
        ends_of_separator (by decide) _
      rw [itemsText_cons] at hfuel ⊢
      rw [List.length_append, List.length_cons] at hfuel
      rw [List.append_assoc, List.cons_append, readItems_more (h.1 _ fuel hends (by omega)),
        ih h.2 _ fuel (by omega), List.reverse_cons, List.append_assoc]
      rfl

theorem readFields_write {f : String × Document} {fields : List (String × Document)}
    (h : ∀ f' ∈ f :: fields, ReadsBack real carry f'.2) (acc : List (String × Document))
    (rest : Input) (fuel : Nat) (hfuel : (fieldsText real (f :: fields)).length < fuel) :
    readFields fuel acc (fieldsText real (f :: fields) ++ '\x7d' :: rest) =
      some (.record (acc.reverse ++ carriedFields carry (f :: fields)), rest) := by
  induction fields generalizing f acc fuel with
  | nil =>
      obtain ⟨fuel, rfl⟩ := exists_fuel hfuel
      obtain ⟨name, d⟩ := f
      have hread : ReadsBack real carry d := h (name, d) List.mem_cons_self
      have hends : Ends ('\x7d' :: rest) := ends_of_separator (by decide) rest
      have hvalue := Nat.lt_of_lt_of_le (length_lt_fieldsText_single name d)
        (Nat.le_of_lt_succ hfuel)
      rw [fieldsText_single, List.append_assoc, List.cons_append, carriedFields, carriedFields]
      exact readFields_last (hread _ fuel hends hvalue.le)
  | cons next fields ih =>
      obtain ⟨fuel, rfl⟩ := exists_fuel hfuel
      obtain ⟨name, d⟩ := f
      rw [List.forall_mem_cons] at h
      have hread : ReadsBack real carry d := h.1
      have hends : Ends (',' :: (fieldsText real (next :: fields) ++ '\x7d' :: rest)) :=
        ends_of_separator (by decide) _
      have hvalues := Nat.lt_of_lt_of_le (length_lt_fieldsText_cons name d next fields)
        (Nat.le_of_lt_succ hfuel)
      rw [fieldsText_cons, List.append_assoc, List.cons_append, List.append_assoc, List.cons_append,
        readFields_more (hread _ fuel hends (by omega)), ih h.2 _ fuel (by omega),
        List.reverse_cons, List.append_assoc]
      rfl

theorem readable_of_mem_items {d : Document} {items : List Document}
    (h : ReadableItems real carry items) (hd : d ∈ items) : Readable real carry d := by
  induction items with
  | nil => cases hd
  | cons next items ih =>
      rw [ReadableItems] at h
      rcases List.mem_cons.1 hd with rfl | hd
      · exact h.1
      · exact ih h.2 hd

theorem readable_of_mem_fields {f : String × Document} {fields : List (String × Document)}
    (h : ReadableFields real carry fields) (hf : f ∈ fields) : Readable real carry f.2 := by
  induction fields with
  | nil => cases hf
  | cons next fields ih =>
      rw [ReadableFields] at h
      rcases List.mem_cons.1 hf with rfl | hf
      · exact h.1
      · exact ih h.2 hf

theorem readsBack_list {items : List Document} (h : ReadableItems real carry items)
    (hitems : ∀ d ∈ items, ReadsBack real carry d) : ReadsBack real carry (.list items) := by
  intro rest fuel hrest hfuel
  rw [toList_write_list, List.length_cons, List.length_append, List.length_singleton] at hfuel
  obtain ⟨fuel, rfl⟩ := exists_fuel hfuel
  have hbracket : ∀ cs : Input, skipBlanks ('[' :: cs) = '[' :: cs := fun cs => rfl
  rw [toList_write_list, List.cons_append, List.append_assoc, List.singleton_append, readValue,
    hbracket]
  cases items with
  | nil => rfl
  | cons d items =>
      have hbegins := begins_itemsText h (']' :: rest)
      simp only [skipBlanks_of_begins hbegins]
      split
      · next rest' heq =>
          obtain ⟨c, hc, -, hne⟩ := hbegins
          rw [heq] at hc
          cases hc
          exact absurd rfl hne
      · exact readItems_write hitems [] rest fuel (by omega)

theorem readsBack_record {fields : List (String × Document)}
    (hfields : ∀ f ∈ fields, ReadsBack real carry f.2) : ReadsBack real carry (.record fields) := by
  intro rest fuel hrest hfuel
  rw [toList_write_record, List.length_cons, List.length_append, List.length_singleton] at hfuel
  obtain ⟨fuel, rfl⟩ := exists_fuel hfuel
  have hbrace : ∀ cs : Input, skipBlanks ('\x7b' :: cs) = '\x7b' :: cs := fun cs => rfl
  rw [toList_write_record, List.cons_append, List.append_assoc, List.singleton_append, readValue,
    hbrace]
  cases fields with
  | nil => rfl
  | cons f fields =>
      obtain ⟨name, d⟩ := f
      have hread := readFields_write hfields [] rest fuel (by omega)
      obtain ⟨cs, hquote⟩ := fieldsText_begins real name d fields
      rw [hquote] at hread ⊢
      exact hread

theorem readsBack_number {text : String} {d number : Document} (hwrite : write real d = text)
    (hcarried : carried carry d = number) (h : Denotes text number) : ReadsBack real carry d := by
  intro rest fuel hrest hfuel
  rw [hwrite] at hfuel
  obtain ⟨fuel, rfl⟩ := exists_fuel (Nat.lt_of_lt_of_le (List.length_pos_iff.2 h.nonempty) hfuel)
  rw [hwrite, hcarried]
  exact readValue_number h hrest

theorem readsBack_text (s : String) : ReadsBack real carry (.text s) := by
  intro rest fuel hrest hfuel
  rw [write, toList_writeText, List.length_cons] at hfuel
  obtain ⟨fuel, rfl⟩ := exists_fuel hfuel
  have hquote : ∀ cs : Input, skipBlanks ('"' :: cs) = '"' :: cs := fun cs => rfl
  rw [write, toList_writeText, List.cons_append, List.append_assoc, List.singleton_append,
    readValue, hquote]
  simp only [readText_writeText, Option.map_some]
  rfl

/-- By recursion on the document, where the values inside a list or a record are smaller. -/
theorem readsBack (d : Document) (h : Readable real carry d) : ReadsBack real carry d := by
  cases d with
  | null =>
      intro rest fuel hrest hfuel
      rw [toList_write_null] at hfuel ⊢
      obtain ⟨fuel, rfl⟩ := exists_fuel hfuel
      rw [readValue]
      rfl
  | bool b =>
      intro rest fuel hrest hfuel
      rw [toList_write_bool] at hfuel ⊢
      have hpos : 0 < fuel := by cases b <;> exact Nat.zero_lt_of_lt hfuel
      obtain ⟨fuel, rfl⟩ := exists_fuel hpos
      rw [readValue]
      cases b <;> rfl
  | int n =>
      rw [Readable] at h
      exact readsBack_number rfl rfl (denotes_toString h)
  | float x =>
      rw [Readable] at h
      exact readsBack_number rfl rfl h
  | text s => exact readsBack_text s
  | list items =>
      rw [Readable] at h
      exact readsBack_list h (fun d hd => readsBack d (readable_of_mem_items h hd))
  | record fields =>
      rw [Readable] at h
      exact readsBack_record (fun f hf => readsBack f.2 (readable_of_mem_fields h hf))
termination_by sizeOf d
decreasing_by
  · subst_vars
    have hlt := List.sizeOf_lt_of_mem hd
    simp only [Document.list.sizeOf_spec]
    omega
  · subst_vars
    have hlt := List.sizeOf_lt_of_mem hf
    obtain ⟨name, value⟩ := f
    simp only [Document.record.sizeOf_spec, Prod.mk.sizeOf_spec] at hlt ⊢
    omega

/-- A document whose numbers can be read is read as it was written. -/
theorem read?_write {d : Document} (h : Readable real carry d) :
    read? (write real d) = some (carried carry d) := by
  have hread := readsBack d h [] ((write real d).toList.length + 1) nofun (Nat.le_succ _)
  rw [List.append_nil] at hread
  simp only [read?, hread]
  rfl

end LinkReliability.Document.Json
