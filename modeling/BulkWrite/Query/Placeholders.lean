/-!
Placeholders in SQL text. A question mark is a placeholder unless it stands in a
quoted string, a quoted identifier or a comment. The text is scanned a character
at a time; what a character means depends on the mode that the text before it
has led to.
-/

namespace BulkWrite.Query

/-- Where the scan stands. After a dash, a slash or a star the next character
may complete a comment mark, so these are remembered. -/
inductive Mode where
  | code
  | dash
  | slash
  | quoted (delimiter : Char)
  | escaped (delimiter : Char)
  | lineComment
  | blockComment
  | blockStar
deriving DecidableEq

namespace Mode

/-- Both kinds of string, and the identifiers of the default dialect. -/
def opensQuote (c : Char) : Bool := c == '\'' || c == '"' || c == '\x60'

def ofCode (c : Char) : Mode :=
  if opensQuote c then .quoted c
  else if c = '-' then .dash
  else if c = '/' then .slash
  else if c = '#' then .lineComment
  else .code

def next : Mode → Char → Mode
  | .code, c => ofCode c
  | .dash, c => if c = '-' then .lineComment else ofCode c
  | .slash, c => if c = '*' then .blockComment else ofCode c
  | .quoted delimiter, c =>
      if c = '\\' ∧ delimiter ≠ '\x60' then .escaped delimiter
      else if c = delimiter then .code
      else .quoted delimiter
  | .escaped delimiter, _ => .quoted delimiter
  | .lineComment, c => if c = '\n' then .code else .lineComment
  | .blockComment, c => if c = '*' then .blockStar else .blockComment
  | .blockStar, c =>
      if c = '/' then .code
      else if c = '*' then .blockStar
      else .blockComment

def isCode : Mode → Bool
  | .code => true
  | .dash => true
  | .slash => true
  | _ => false

end Mode

structure Scan where
  mode : Mode
  found : Nat
deriving DecidableEq

namespace Scan

def start : Scan := ⟨.code, 0⟩

def step (scan : Scan) (c : Char) : Scan :=
  ⟨scan.mode.next c,
    if scan.mode.isCode && c == '?' then scan.found + 1 else scan.found⟩

def run (scan : Scan) (text : List Char) : Scan := text.foldl step scan

@[simp] theorem run_nil (scan : Scan) : scan.run [] = scan := rfl

@[simp] theorem run_cons (scan : Scan) (c : Char) (text : List Char) :
    scan.run (c :: text) = (scan.step c).run text := rfl

theorem run_append (scan : Scan) (first second : List Char) :
    scan.run (first ++ second) = (scan.run first).run second := by
  simp [run]

end Scan

def countPlaceholders (text : List Char) : Nat := (Scan.start.run text).found

end BulkWrite.Query
