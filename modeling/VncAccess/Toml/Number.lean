import VncAccess.Toml.Lexeme

/-! Numbers, dates and times of a TOML document. -/

namespace VncAccess.Toml

/-- A recogniser gives what it has read and the rest. -/
abbrev Recogniser := List Char → Option (List Char × List Char)

def isDigit (c : Char) : Bool := '0' ≤ c && c ≤ '9'

/-! ## Dates and times -/

/-- As many digits as asked for, with a value in the range. -/
def digitsIn (count low high : Nat) : Recogniser := fun s =>
  let written := s.take count
  let value := Decimal.value written
  if written.length = count ∧ written.all isDigit ∧ low ≤ value ∧ value ≤ high then
    some (written, s.drop count)
  else
    none

def oneOf (cs : List Char) : Recogniser
  | c :: rest => if cs.contains c then some ([c], rest) else none
  | [] => none

/-- What the first recogniser reads, then the second. -/
def Recogniser.andThen (a b : Recogniser) : Recogniser := fun s => do
  let (first, rest) ← a s
  let (second, rest) ← b rest
  return (first ++ second, rest)

/-- What the recogniser reads, or nothing. -/
def Recogniser.optional (a : Recogniser) : Recogniser := fun s => some ((a s).getD ([], s))

def Recogniser.orElse (a b : Recogniser) : Recogniser := fun s => a s <|> b s

def someDigits : Recogniser := fun s =>
  let written := s.takeWhile isDigit
  if written = [] then none else some (written, s.dropWhile isDigit)

def date : Recogniser :=
  (digitsIn 4 0 9999).andThen <| (oneOf ['-']).andThen <| (digitsIn 2 1 12).andThen <|
    (oneOf ['-']).andThen (digitsIn 2 1 31)

def hourAndMinute : Recogniser :=
  (digitsIn 2 0 23).andThen <| (oneOf [':']).andThen (digitsIn 2 0 59)

def timeOfDay : Recogniser :=
  hourAndMinute.andThen <| (oneOf [':']).andThen <| (digitsIn 2 0 59).andThen
    ((oneOf ['.']).andThen someDigits).optional

def offset : Recogniser :=
  (oneOf ['Z', 'z']).orElse ((oneOf ['+', '-']).andThen hourAndMinute)

def dateAndTime : Recogniser :=
  date.andThen ((oneOf ['T', 't', ' ']).andThen (timeOfDay.andThen offset.optional)).optional

def isLeapYear (year : Nat) : Bool := year % 4 = 0 && (year % 100 ≠ 0 || year % 400 = 0)

def daysIn (year month : Nat) : Nat :=
  if month = 2 then (if isLeapYear year then 29 else 28)
  else if [4, 6, 9, 11].contains month then 30
  else 31

/-- Whether a written date is one of the calendar, which begins with the year one. -/
def isCalendarDate (written : List Char) : Bool :=
  let year := Decimal.value (written.take 4)
  let month := Decimal.value ((written.drop 5).take 2)
  let day := Decimal.value ((written.drop 8).take 2)
  1 ≤ year && day ≤ daysIn year month

/-! ## Numbers -/

/-- Digits with single underscores between them, after the first digit. -/
def moreDigits (test : Char → Bool) : List Char → List Char × List Char
  | '_' :: c :: rest =>
    if test c then
      let (more, rest) := moreDigits test rest
      ('_' :: c :: more, rest)
    else
      ([], '_' :: c :: rest)
  | c :: rest =>
    if test c then
      let (more, rest) := moreDigits test rest
      (c :: more, rest)
    else
      ([], c :: rest)
  | [] => ([], [])

def groupedDigits (first test : Char → Bool) : Recogniser
  | c :: rest =>
    if first c then
      let (more, rest) := moreDigits test rest
      some (c :: more, rest)
    else
      none
  | [] => none

def isHexDigit (c : Char) : Bool := (hexValue? c).isSome

def prefixed : Recogniser :=
  let digitsAfter (letter : Char) (test : Char → Bool) : Recogniser :=
    (oneOf ['0']).andThen <| (oneOf [letter]).andThen (groupedDigits test test)
  (digitsAfter 'x' isHexDigit).orElse <|
    (digitsAfter 'b' fun c => c = '0' || c = '1').orElse
      (digitsAfter 'o' fun c => '0' ≤ c && c ≤ '7')

def sign : Recogniser := (oneOf ['+', '-']).optional

def wholePart : Recogniser :=
  sign.andThen ((oneOf ['0']).orElse (groupedDigits (fun c => '1' ≤ c && c ≤ '9') isDigit))

def fractionPart : Recogniser :=
  ((oneOf ['.']).andThen (groupedDigits isDigit isDigit)).optional.andThen
    ((oneOf ['e', 'E']).andThen (sign.andThen (groupedDigits isDigit isDigit))).optional

/-- The most digits of a decimal numeral that is read. -/
def digitLimit : Nat := 4300

/-- The value of digits in a base, underscores left out. -/
def valueIn (base : Nat) (written : List Char) : Nat :=
  (written.filterMap hexValue?).foldl (fun n digit => base * n + digit) 0

def prefixedValue (written : List Char) : Int :=
  let base := match written with
    | _ :: 'x' :: _ => 16
    | _ :: 'b' :: _ => 2
    | _ => 8
  valueIn base (written.drop 2)

def decimalValue (written : List Char) : Except Fault Int :=
  let digits := written.countP isDigit
  if digitLimit < digits then
    .error (.numeralTooLong digits)
  else if written.head? = some '-' then
    .ok (-(valueIn 10 written : Int))
  else
    .ok (valueIn 10 written)

def specialFloats : List (List Char) :=
  [['i', 'n', 'f'], ['n', 'a', 'n'], ['+', 'i', 'n', 'f'], ['-', 'i', 'n', 'f'],
    ['+', 'n', 'a', 'n'], ['-', 'n', 'a', 'n']]

/-- A number, a date or a time. Where a date can be read, nothing else is tried. -/
def numberOrMoment : Reader Value := do
  let s ← get
  if let some (written, rest) := dateAndTime s then
    if !isCalendarDate written then throw .malformed
    set rest
    return .moment
  else if let some (_, rest) := timeOfDay s then
    set rest
    return .moment
  else if let some (written, rest) := prefixed s then
    set rest
    return .integer (prefixedValue written)
  else if let some (whole, rest) := wholePart s then
    match fractionPart rest with
    | some ([], _) | none =>
      set rest
      return .integer (← MonadExcept.ofExcept (decimalValue whole))
    | some (_, rest) =>
      set rest
      return .float
  else
    match specialFloats.find? (·.isPrefixOf s) with
    | some word =>
      set (s.drop word.length)
      return .float
    | none => throw .malformed

end VncAccess.Toml
