import BlobCluster.Bytes

/-!
# Dates and times of a TOML file

A date, a time, or both with or without an offset from universal time.  Only the text counts here:
`moment?` gives the one form in which a moment is written.
-/

namespace BlobCluster.Settings.Toml

/-! ## Numbers of fixed width -/

/-- Reads a number of that many decimal digits. -/
def readWidth? (width : Nat) (text : List Char) : Option (Nat × List Char) :=
  let digits := text.take width
  if digits.length = width && digits.all Char.isDigit then
    some (digits.foldl (fun n c => 10 * n + (c.toNat - 48)) 0, text.drop width)
  else none

def readPair? (most : Nat) (text : List Char) : Option (Nat × List Char) :=
  (readWidth? 2 text).filter (·.1 ≤ most)

/-- Removes a character from the front. -/
def dropMark? (mark : Char) : List Char → Option (List Char)
  | [] => none
  | c :: rest => if c = mark then some rest else none

def padded (width n : Nat) : List Char :=
  let digits := Nat.toDigits 10 n
  List.replicate (width - digits.length) '0' ++ digits

/-! ## Dates -/

/-- A year with a 29th of February. -/
def isLeap (year : Nat) : Bool := year % 4 == 0 && (year % 100 != 0 || year % 400 == 0)

def monthLength (year month : Nat) : Nat :=
  if month = 2 then (if isLeap year then 29 else 28)
  else if [4, 6, 9, 11].contains month then 30
  else 31

def readDate? (text : List Char) : Option (List Char × List Char) := do
  let (year, text) ← readWidth? 4 text
  let (month, text) ← readPair? 12 (← dropMark? '-' text)
  let (day, text) ← readPair? (monthLength year month) (← dropMark? '-' text)
  if month = 0 || day = 0 then none
  else return (padded 4 year ++ '-' :: padded 2 month ++ '-' :: padded 2 day, text)

/-! ## Times -/

/-- Reads the digits after the point of the seconds; nine count, without zeros at their end. -/
def readFraction? (text : List Char) : Option (List Char × List Char) :=
  match text with
  | '.' :: rest =>
    let digits := rest.takeWhile Char.isDigit
    let kept := ((digits.take 9).reverse.dropWhile (· == '0')).reverse
    if digits.isEmpty then none
    else some ('.' :: (if kept.isEmpty then ['0'] else kept), rest.dropWhile Char.isDigit)
  | other => some ([], other)

/-- Reads the seconds after the minutes; they may be missing, and then they are not written. -/
def readSeconds? (text : List Char) : Option (List Char × List Char) :=
  match text with
  | ':' :: rest => do
    let (second, rest) ← readPair? 60 rest
    let (fraction, rest) ← readFraction? rest
    return (':' :: padded 2 second ++ fraction, rest)
  | other => some ([], other)

def readTime? (text : List Char) : Option (List Char × List Char) := do
  let (hour, text) ← readPair? 23 text
  let (minute, text) ← readPair? 59 (← dropMark? ':' text)
  let (seconds, text) ← readSeconds? text
  return (padded 2 hour ++ ':' :: padded 2 minute ++ seconds, text)

/-- Reads an offset, or nothing at the end of the text. -/
def offset? (text : List Char) : Option (List Char) :=
  match text with
  | [] => some []
  | mark :: rest =>
    if (mark = 'Z' || mark = 'z') && rest.isEmpty then some ['Z']
    else if mark = '+' || mark = '-' then do
      let (hours, rest) ← readPair? 23 rest
      let (minutes, rest) ← readPair? 59 (← dropMark? ':' rest)
      let sign := if hours = 0 && minutes = 0 then '+' else mark
      if rest.isEmpty then return sign :: padded 2 hours ++ ':' :: padded 2 minutes else none
    else none

/-! ## Moments -/

def isDate (text : List Char) : Bool := (readDate? text).any (·.2.isEmpty)

/-- The written form of a date, of a time, or of both. -/
def moment? (text : List Char) : Option String :=
  match readDate? text with
  | some (date, []) => some (String.ofList date)
  | some (date, mark :: rest) =>
    if ['T', 't', ' '].contains mark then do
      let (time, rest) ← readTime? rest
      return String.ofList (date ++ 'T' :: time ++ (← offset? rest))
    else none
  | none =>
    match readTime? text with
    | some (time, []) => some (String.ofList time)
    | _ => none

end BlobCluster.Settings.Toml
