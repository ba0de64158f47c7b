import BulkWrite.Json.Number

/-!
JSON documents as written. Reading stops at the grammar: numbers and strings
stay as their parts, and members stay in order with repetitions. What a part
means, and whether it means anything, is asked later and only of the parts that
are used.
-/

namespace BulkWrite.Json

/-- A character of a string, or a 16-bit unit given by its number. -/
inductive StringPiece where
  | char (c : Char)
  | unit (n : Nat)
deriving DecidableEq

abbrev StringText := List StringPiece

inductive Document where
  | null
  | bool (b : Bool)
  | number (text : NumberText)
  | string (text : StringText)
  | array (items : List Document)
  | object (members : List (StringText × Document))

/-! Readers take what they read from the front of the text and return the
rest. -/

abbrev Reader (α : Type) := List Char → Option (α × List Char)

def isBlank (c : Char) : Bool := c == ' ' || c == '\n' || c == '\t' || c == '\r'

def skipBlanks (s : List Char) : List Char := s.dropWhile isBlank

/-- The character that a letter behind a backslash stands for. -/
def unescape? (c : Char) : Option Char :=
  if c = '"' then some '"'
  else if c = '\\' then some '\\'
  else if c = '/' then some '/'
  else if c = 'b' then some '\x08'
  else if c = 'f' then some '\x0c'
  else if c = 'n' then some '\n'
  else if c = 'r' then some '\r'
  else if c = 't' then some '\t'
  else none

private def prepend {α : Type} (x : α) (read : List α × List Char) :
    List α × List Char :=
  (x :: read.1, read.2)

/-- Reads a string behind its opening quote. Control characters below a space
are refused. -/
def readString : Reader StringText
  | [] => none
  | '"' :: rest => some ([], rest)
  | '\\' :: 'u' :: a :: b :: c :: d :: rest => do
      let n ← Text.hexNumber? [a, b, c, d]
      prepend (.unit n) <$> readString rest
  | '\\' :: letter :: rest => do
      let c ← unescape? letter
      prepend (.char c) <$> readString rest
  | c :: rest =>
      if c = '\\' ∨ c.toNat < 32 then none
      else prepend (.char c) <$> readString rest

def readDigits (s : List Char) : Option (List Char × List Char) :=
  let digits := s.takeWhile Text.isDigit
  if digits.isEmpty then none else some (digits, s.dropWhile Text.isDigit)

def readPart : Reader (List Char)
  | '.' :: rest => readDigits rest
  | rest => some ([], rest)

def readExponent : Reader (Option ExponentText)
  | c :: rest =>
      if c = 'e' ∨ c = 'E' then
        let (negative, rest) :=
          match rest with
          | '-' :: rest => (true, rest)
          | '+' :: rest => (false, rest)
          | rest => (false, rest)
        (readDigits rest).map fun (digits, rest) =>
          (some ⟨negative, digits⟩, rest)
      else some (none, c :: rest)
  | [] => some (none, [])

/-- Reads a number. A leading zero stands alone before the point. -/
def readNumber (s : List Char) : Option (NumberText × List Char) := do
  let (negative, s) :=
    match s with
    | '-' :: rest => (true, rest)
    | rest => (false, rest)
  let (whole, s) ← readDigits s
  if 1 < whole.length ∧ whole.head? = some '0' then none
  else
    let (part, s) ← readPart s
    let (exponent, s) ← readExponent s
    some (⟨negative, whole, part, exponent⟩, s)

/-- Reads items with commas between them up to the closing character. -/
def readItems {α : Type} (item : Reader α) (close : Char) :
    Nat → Reader (List α)
  | 0, _ => none
  | fuel + 1, s => do
      let (x, s) ← item s
      match skipBlanks s with
      | ',' :: rest => prepend x <$> readItems item close fuel rest
      | c :: rest => if c = close then some ([x], rest) else none
      | [] => none

/-- Reads the inside of brackets behind the opening one. Each item takes a
character at least. -/
def readEnclosed {α : Type} (item : Reader α) (close : Char) (s : List Char) :
    Option (List α × List Char) :=
  match skipBlanks s with
  | [] => none
  | c :: rest =>
      if c = close then some ([], rest)
      else readItems item close (rest.length + 1) (c :: rest)

def readMember {α : Type} (value : Reader α) (s : List Char) :
    Option ((StringText × α) × List Char) :=
  match skipBlanks s with
  | '"' :: rest => do
      let (name, s) ← readString rest
      match skipBlanks s with
      | ':' :: rest => do
          let (x, s) ← value rest
          some ((name, x), s)
      | _ => none
  | _ => none

/-- Reads a value nested at most `depth` deep. -/
def readValue : Nat → Reader Document
  | 0, _ => none
  | depth + 1, s =>
      match skipBlanks s with
      | 'n' :: 'u' :: 'l' :: 'l' :: rest => some (.null, rest)
      | 't' :: 'r' :: 'u' :: 'e' :: rest => some (.bool true, rest)
      | 'f' :: 'a' :: 'l' :: 's' :: 'e' :: rest => some (.bool false, rest)
      | '"' :: rest => (readString rest).map fun (text, s) => (.string text, s)
      | '[' :: rest =>
          (readEnclosed (readValue depth) ']' rest).map fun (items, s) =>
            (.array items, s)
      | '\x7b' :: rest =>
          (readEnclosed (readMember (readValue depth)) '\x7d' rest).map
              fun (members, s) =>
            (.object members, s)
      | s => (readNumber s).map fun (text, s) => (.number text, s)

/-- A text is a document if nothing but blanks follows its value. Every level of
nesting takes a character, so the length of the text bounds the depth. -/
def Document.ofText? (text : String) : Option Document :=
  match readValue text.length text.toList with
  | some (document, rest) =>
      if (skipBlanks rest).isEmpty then some document else none
  | none => none

/-- Joins 16-bit units to characters. A unit of a surrogate pair must stand next
to its partner. -/
def stringChars? : StringText → Option (List Char)
  | [] => some []
  | .char c :: rest => (c :: ·) <$> stringChars? rest
  | .unit n :: .unit m :: rest =>
      if 0xD800 ≤ n ∧ n < 0xDC00 then
        if 0xDC00 ≤ m ∧ m < 0xE000 then
          (Char.ofNat (0x10000 + (n - 0xD800) * 0x400 + (m - 0xDC00)) :: ·) <$>
            stringChars? rest
        else none
      else if 0xDC00 ≤ n ∧ n < 0xE000 then none
      else (Char.ofNat n :: ·) <$> stringChars? (.unit m :: rest)
  | .unit n :: rest =>
      if 0xD800 ≤ n ∧ n < 0xE000 then none
      else (Char.ofNat n :: ·) <$> stringChars? rest

def StringText.string? (text : StringText) : Option String :=
  String.ofList <$> stringChars? text

mutual

/-- The number of arrays and objects around the innermost value. -/
def Document.depth : Document → Nat
  | .array items => itemsDepth items + 1
  | .object members => membersDepth members + 1
  | _ => 0

def itemsDepth : List Document → Nat
  | [] => 0
  | item :: rest => max item.depth (itemsDepth rest)

def membersDepth : List (StringText × Document) → Nat
  | [] => 0
  | (_, value) :: rest => max value.depth (membersDepth rest)

end

mutual

/-- The value of a document, if every number and string in it has one. -/
def Document.value? : Document → Option Json
  | .null => some .null
  | .bool b => some (.bool b)
  | .number text => .number <$> text.value?
  | .string text => .string <$> StringText.string? text
  | .array items => .array <$> itemValues? items
  | .object members => ofMembers <$> memberValues? members

def itemValues? : List Document → Option (List Json)
  | [] => some []
  | item :: rest => do
      let value ← item.value?
      let values ← itemValues? rest
      some (value :: values)

def memberValues? : List (StringText × Document) → Option (List (String × Json))
  | [] => some []
  | (name, value) :: rest => do
      let name ← StringText.string? name
      let value ← value.value?
      let values ← memberValues? rest
      some ((name, value) :: values)

end

/-- Values are read from documents nested at most this deep. -/
def maxDepth : Nat := 127

def ofText? (text : String) : Option Json := do
  let document ← Document.ofText? text
  if document.depth ≤ maxDepth then document.value? else none

end BulkWrite.Json
