import BulkWrite.Json.Document

/-!
The grammar of JSON: which texts spell a document. Values nested in arrays and
objects are spelled one level further in, so the grammar is given level by
level, and a document may be nested as deep as there are levels.
-/

namespace BulkWrite.Json

/-- The letters behind a backslash, each with the character it stands for. -/
def escapes : List (Char × Char) :=
  [('"', '"'), ('\\', '\\'), ('/', '/'), ('b', '\x08'), ('f', '\x0c'),
    ('n', '\n'), ('r', '\r'), ('t', '\t')]

inductive SpellsPiece : StringPiece → List Char → Prop
  | plain {c : Char} (printable : 32 ≤ c.toNat) (noQuote : c ≠ '"')
      (noBackslash : c ≠ '\\') :
      SpellsPiece (.char c) [c]
  | escaped {letter c : Char} (listed : (letter, c) ∈ escapes) :
      SpellsPiece (.char c) ['\\', letter]
  | unit {a b c d : Char} {n : Nat}
      (digits : Text.hexNumber? [a, b, c, d] = some n) :
      SpellsPiece (.unit n) ['\\', 'u', a, b, c, d]

inductive SpellsPieces : StringText → List Char → Prop
  | nil : SpellsPieces [] []
  | cons {piece : StringPiece} {s : List Char} {text : StringText}
      {t : List Char}
      (first : SpellsPiece piece s) (rest : SpellsPieces text t) :
      SpellsPieces (piece :: text) (s ++ t)

inductive SpellsString (text : StringText) : List Char → Prop
  | quoted {s : List Char} (inside : SpellsPieces text s) :
      SpellsString text ('"' :: s ++ ['"'])

structure Digits (s : List Char) : Prop where
  nonempty : s ≠ []
  digit : ∀ c ∈ s, Text.isDigit c = true

inductive SpellsPart : List Char → List Char → Prop
  | absent : SpellsPart [] []
  | present {digits : List Char} (written : Digits digits) :
      SpellsPart digits ('.' :: digits)

inductive SpellsExponent : Option ExponentText → List Char → Prop
  | absent : SpellsExponent none []
  | unsigned {mark : Char} {digits : List Char}
      (marks : mark = 'e' ∨ mark = 'E')
      (written : Digits digits) :
        SpellsExponent (some ⟨false, digits⟩) (mark :: digits)
  | positive {mark : Char} {digits : List Char}
      (marks : mark = 'e' ∨ mark = 'E')
      (written : Digits digits) :
        SpellsExponent (some ⟨false, digits⟩) (mark :: '+' :: digits)
  | negative {mark : Char} {digits : List Char}
      (marks : mark = 'e' ∨ mark = 'E')
      (written : Digits digits) :
        SpellsExponent (some ⟨true, digits⟩) (mark :: '-' :: digits)

def signChars (negative : Bool) : List Char := if negative then ['-'] else []

/-- A zero in front stands alone before the point. -/
inductive SpellsNumber (text : NumberText) : List Char → Prop
  | number {part exponent : List Char} (whole : Digits text.whole)
      (zero : text.whole.head? = some '0' → text.whole = ['0'])
      (behindPoint : SpellsPart text.part part)
      (scale : SpellsExponent text.exponent exponent) :
      SpellsNumber text (signChars text.negative ++ text.whole ++
        part ++ exponent)

def Blank (s : List Char) : Prop := ∀ c ∈ s, isBlank c = true

section

variable {α : Type} (spells : α → List Char → Prop)

/-- There may be blanks around it. -/
inductive Padded (x : α) : List Char → Prop
  | padded {before s after : List Char} (blankBefore : Blank before)
      (written : spells x s)
      (blankAfter : Blank after) : Padded x (before ++ s ++ after)

inductive SpellsMember : StringText × α → List Char → Prop
  | member {name : StringText} {x : α} {s t : List Char}
      (named : Padded SpellsString name s) (written : Padded spells x t) :
      SpellsMember (name, x) (s ++ ':' :: t)

inductive Separated : List α → List Char → Prop
  | last {x : α} {s : List Char} (written : spells x s) : Separated [x] s
  | more {x : α} {s : List Char} {items : List α} {t : List Char}
      (written : spells x s)
      (rest : Separated items t) : Separated (x :: items) (s ++ ',' :: t)

inductive Enclosed : List α → List Char → Prop
  | empty {s : List Char} (blank : Blank s) : Enclosed [] s
  | filled {items : List α} {s : List Char}
      (written : Separated spells items s) : Enclosed items s

end

/-- The texts of one level, from those further in. -/
inductive Layer (inner : Document → List Char → Prop) :
    Document → List Char → Prop
  | null : Layer inner .null ['n', 'u', 'l', 'l']
  | yes : Layer inner (.bool true) ['t', 'r', 'u', 'e']
  | no : Layer inner (.bool false) ['f', 'a', 'l', 's', 'e']
  | number {text : NumberText} {s : List Char} (written : SpellsNumber text s) :
      Layer inner (.number text) s
  | string {text : StringText} {s : List Char} (written : SpellsString text s) :
      Layer inner (.string text) s
  | array {items : List Document} {s : List Char}
      (inside : Enclosed (Padded inner) items s) :
      Layer inner (.array items) ('[' :: s ++ [']'])
  | object {members : List (StringText × Document)} {s : List Char}
      (inside : Enclosed (SpellsMember inner) members s) :
      Layer inner (.object members) ('\x7b' :: s ++ ['\x7d'])

/-- The text spells the document, which takes at most so many levels. -/
def Spells : Nat → Document → List Char → Prop
  | 0 => fun _ _ => False
  | levels + 1 => Layer (Spells levels)

/-- The text is the document, with blanks around it or not. -/
def Document.Written (document : Document) (text : String) : Prop :=
  ∃ levels, Padded (Spells levels) document text.toList

end BulkWrite.Json
