import BulkWrite.Text.Digits

/-!
Calendar dates and times of day, and their texts. Years run through zero; a year
outside 0 to 9999 is written with its sign. A leap second is the sixtieth second
of its minute: it is held as second 59 with a full second of nanoseconds added.
-/

namespace BulkWrite

structure Date where
  year : Int
  month : Nat
  day : Nat
deriving DecidableEq, Inhabited

structure DateTime where
  date : Date
  hour : Nat
  minute : Nat
  second : Nat
  nanosecond : Nat
deriving DecidableEq, Inhabited

def nanosPerSecond : Nat := 1000000000

namespace Date

def yearChars (year : Int) : List Char :=
  let digits := Text.padded 4 year.natAbs
  if year < 0 then '-' :: digits
  else if 9999 < year then '+' :: digits
  else digits

def chars (date : Date) : List Char :=
  yearChars date.year ++ '-' :: Text.padded 2 date.month ++ '-' ::
    Text.padded 2 date.day

def text (date : Date) : String := String.ofList date.chars

end Date

namespace DateTime

/-- The second of the minute as shown, 60 in a leap second. -/
def shownSecond (time : DateTime) : Nat :=
  time.second + time.nanosecond / nanosPerSecond

/-- The fraction of a second in three, six or nine digits, the fewest that lose
nothing. A whole second has none. -/
def fractionChars (nanos : Nat) : List Char :=
  if nanos = 0 then []
  else if nanos % 1000000 = 0 then '.' :: Text.padded 3 (nanos / 1000000)
  else if nanos % 1000 = 0 then '.' :: Text.padded 6 (nanos / 1000)
  else '.' :: Text.padded 9 nanos

def chars (time : DateTime) : List Char :=
  time.date.chars ++ 'T' :: Text.padded 2 time.hour ++ ':' ::
    Text.padded 2 time.minute ++
    ':' :: Text.padded 2 time.shownSecond ++
    fractionChars (time.nanosecond % nanosPerSecond)

def text (time : DateTime) : String := String.ofList time.chars

/-- The text of a time in universal time. -/
def utcText (time : DateTime) : String := String.ofList (time.chars ++ ['Z'])

end DateTime

end BulkWrite
