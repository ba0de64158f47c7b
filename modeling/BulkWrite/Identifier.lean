/-!
Quoted identifiers. A name stands between two delimiters with every delimiter
inside it doubled, so that any text at all is a name.
-/

namespace BulkWrite

theorem intercalate_cons {α : Type} (separator first : List α)
    (rest : List (List α)) :
    separator.intercalate (first :: rest) =
      first ++ rest.flatMap (separator ++ ·) := by
  induction rest generalizing first with
  | nil => simp
  | cons second rest ih =>
      rw [List.intercalate_cons_cons, ih, List.flatMap_cons, List.append_assoc,
        List.append_assoc]

structure Quoter where
  delimiter : Char
deriving DecidableEq

namespace Quoter

def backtick : Quoter := ⟨'\x60'⟩

def doubleQuote : Quoter := ⟨'"'⟩

instance : Inhabited Quoter := ⟨backtick⟩

def doubled (delimiter : Char) (name : List Char) : List Char :=
  name.flatMap fun c => if c = delimiter then [c, c] else [c]

@[simp] theorem doubled_nil (delimiter : Char) :
    doubled delimiter [] = [] := rfl

@[simp] theorem doubled_cons_self (delimiter : Char) (name : List Char) :
    doubled delimiter (delimiter :: name) =
      delimiter :: delimiter :: doubled delimiter name := by
  simp [doubled]

theorem doubled_cons_other {delimiter c : Char} (name : List Char)
    (different : c ≠ delimiter) :
    doubled delimiter (c :: name) = c :: doubled delimiter name := by
  simp [doubled, different]

@[simp] theorem doubled_append (delimiter : Char) (first second : List Char) :
    doubled delimiter (first ++ second) =
      doubled delimiter first ++ doubled delimiter second := by
  simp [doubled]

def chars (quoter : Quoter) (name : String) : List Char :=
  quoter.delimiter ::
    (doubled quoter.delimiter name.toList ++ [quoter.delimiter])

/-- Writes a character of a name behind the text, the delimiter twice. -/
def pushDoubled (quoter : Quoter) (text : String) (c : Char) : String :=
  (if c = quoter.delimiter then text.push c else text).push c

def writeQuoted (quoter : Quoter) (text name : String) : String :=
  (name.toList.foldl quoter.pushDoubled (text.push quoter.delimiter)).push
    quoter.delimiter

theorem toList_foldl_pushDoubled (quoter : Quoter) (text : String)
    (name : List Char) :
    (name.foldl quoter.pushDoubled text).toList =
      text.toList ++ doubled quoter.delimiter name := by
  induction name generalizing text with
  | nil => simp
  | cons c name ih =>
      rw [List.foldl_cons, ih, pushDoubled]
      by_cases same : c = quoter.delimiter
      · simp [same]
      · simp [same, doubled_cons_other name same]

@[simp] theorem toList_writeQuoted (quoter : Quoter) (text name : String) :
    (quoter.writeQuoted text name).toList =
      text.toList ++ quoter.chars name := by
  simp [writeQuoted, toList_foldl_pushDoubled, chars]

def quote (quoter : Quoter) (name : String) : String :=
  quoter.writeQuoted "" name

@[simp] theorem toList_quote (quoter : Quoter) (name : String) :
    (quoter.quote name).toList = quoter.chars name := by
  simp [quote]

def quoteAll (quoter : Quoter) (names : List String) : List String :=
  names.map quoter.quote

def listChars (quoter : Quoter) (names : List String) : List Char :=
  [',', ' '].intercalate (names.map quoter.chars)

/-- Writes the name with the given index in a list, where every name but the
first is separated from the one before. -/
def writeListed (quoter : Quoter) (text : String) (name : String × Nat) :
    String :=
  quoter.writeQuoted (if 0 < name.2 then text ++ ", " else text) name.1

def quoteList (quoter : Quoter) (names : List String) : String :=
  names.zipIdx.foldl quoter.writeListed ""

end Quoter

end BulkWrite
