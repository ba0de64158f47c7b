import BulkWrite.Text.Case

/-!
Texts in small letters. Two letters need more than the table: a capital I with a
dot keeps the dot as a mark of its own, and a capital sigma at the end of a word
has a small form of its own.
-/

namespace BulkWrite.Text

def capitalSigma : Char := '\u03a3'

def smallSigma : Char := '\u03c3'

def finalSigma : Char := '\u03c2'

def capitalDottedI : Char := '\u0130'

def combiningDot : Char := '\u0307'

/-- Whether the first character that counts has case. -/
def meetsCased (s : List Char) : Bool :=
  match s.dropWhile isCaseIgnorable with
  | c :: _ => isCased c
  | [] => false

/-- A sigma ends a word if a cased letter comes before it and none behind it.
The text before it is given backwards. -/
def sigma (before after : List Char) : Char :=
  if meetsCased before && !meetsCased after then finalSigma else smallSigma

def lowercaseChar (before : List Char) (c : Char) (after : List Char) :
    List Char :=
  if c = capitalSigma then [sigma before after]
  else if c = capitalDottedI then ['i', combiningDot]
  else [smallLetter c]

/-- Small letters for the text that follows the one given backwards. -/
def lowercaseFrom (before : List Char) : List Char → List Char
  | [] => []
  | c :: after =>
      lowercaseChar before c after ++ lowercaseFrom (c :: before) after

def lowercase (s : List Char) : List Char := lowercaseFrom [] s

end BulkWrite.Text
