import TagFilter.TomlText

/-!
# The bare values of TOML

Truth values, numbers, dates and times: values that are one word, but for the
blank that may part a time from its date.  A date or a time is a text here, as
nothing is asked of it but to be valid.
-/

namespace TagFilter

/-! ## Numbers -/

/-- Digits of a base without the underscores between them. -/
def tomlDigits? (base : Nat) : Text → Option Text
  | [] => none
  | [c] => (digitValue? base c).map fun _ => [c]
  | c :: '_' :: rest => (digitValue? base c).bind fun _ => (tomlDigits? base rest).map (c :: ·)
  | c :: rest => (digitValue? base c).bind fun _ => (tomlDigits? base rest).map (c :: ·)

/-- An integer of 64 bits with these digits after an optional minus. -/
def tomlInteger? (base : Nat) (negative : Bool) (digits : Text) : Option Document :=
  match (tomlDigits? base digits).bind (numberOfDigits? base) with
  | none => none
  | some value =>
    if value < Nat.pow 2 63 || (negative && value = Nat.pow 2 63) then some (.number (value = 0))
    else none

/-- Whether a decimal number has no zero too many at its start. -/
def hasNoLeadingZero (digits : Text) : Bool := digits.length = 1 || digits.head? ≠ some '0'

/-- An exponent of ten with its sign, behind the letter E. -/
def tomlExponent? (text : Text) : Option Int :=
  let (sign, digits) := splitSign text
  ((tomlDigits? 10 digits).bind (numberOfDigits? 10)).map fun value =>
    if sign = some '-' then -(value : Int) else value

/-- A number with a fraction, an exponent, or both. -/
def tomlFloat? (text : Text) : Option Document := do
  let isPart (c : Char) : Bool := isDigit c || c = '_'
  let whole ← tomlDigits? 10 (text.takeWhile isPart)
  let (fraction, rest) ← match text.dropWhile isPart with
    | '.' :: rest =>
      (tomlDigits? 10 (rest.takeWhile isPart)).map fun digits => (digits, rest.dropWhile isPart)
    | rest => some ([], rest)
  let exponent ← match rest with
    | [] => some 0
    | c :: rest => if c = 'e' || c = 'E' then tomlExponent? rest else none
  let number := decimalOf whole fraction exponent
  if hasNoLeadingZero whole && !number.overflows then some (.number number.roundsToZero)
  else none

/-- The number that a whole word writes. -/
def tomlNumber? (word : Text) : Option Document :=
  match word with
  | '0' :: 'x' :: digits => tomlInteger? 16 false digits
  | '0' :: 'o' :: digits => tomlInteger? 8 false digits
  | '0' :: 'b' :: digits => tomlInteger? 2 false digits
  | _ =>
    let (sign, unsigned) := splitSign word
    if unsigned = ['i', 'n', 'f'] || unsigned = ['n', 'a', 'n'] then some (.number false)
    else if unsigned.all fun c => isDigit c || c = '_' then
      if hasNoLeadingZero unsigned then tomlInteger? 10 (sign = some '-') unsigned else none
    else tomlFloat? unsigned

/-! ## Dates and times -/

/-- Reads a number of so many decimal digits. -/
def readTomlCount (width : Nat) (text : Text) : Option (Nat × Text) :=
  let digits := text.take width
  if digits.length = width then
    (numberOfDigits? 10 digits).map fun value => (value, text.drop width)
  else none

/-- Reads a number of two digits that is at most `greatest`, behind a character
that parts it from what comes before. -/
def readTomlPart (separator : Char) (greatest : Nat) : Text → Option (Nat × Text)
  | c :: rest =>
    if c = separator then (readTomlCount 2 rest).filter fun part => part.1 ≤ greatest else none
  | [] => none

/-- Whether a year has a day more than others. -/
def isLeapYear (year : Nat) : Bool := year % 4 = 0 && (year % 100 ≠ 0 || year % 400 = 0)

/-- The number of days in a month. -/
def daysInMonth (year month : Nat) : Nat :=
  if month = 2 then if isLeapYear year then 29 else 28
  else if month = 4 || month = 6 || month = 9 || month = 11 then 30
  else 31

/-- What follows a date. -/
def afterDate? (text : Text) : Option Text := do
  let (year, rest) ← readTomlCount 4 text
  let (month, rest) ← readTomlPart '-' 12 rest
  let (day, rest) ← readTomlPart '-' (daysInMonth year month) rest
  if month = 0 || day = 0 then none else some rest

/-- What follows a time of day; its seconds may be left out. -/
def afterTime? (text : Text) : Option Text := do
  let (hour, rest) ← readTomlCount 2 text
  let (_, rest) ← readTomlPart ':' 59 rest
  let rest ← match rest with
    | ':' :: _ =>
      (readTomlPart ':' 60 rest).bind fun (_, rest) =>
        match rest with
        | '.' :: c :: rest => if isDigit c then some (rest.dropWhile isDigit) else none
        | _ => some rest
    | _ => some rest
  if hour ≤ 23 then some rest else none

/-- Whether a text is the distance from universal time that a time may end
with: the letter Z, or at most a day. -/
def isTomlOffset : Text → Bool
  | [c] => c = 'Z' || c = 'z'
  | c :: rest =>
    (c = '+' || c = '-') &&
      match readTomlCount 2 rest with
      | none => false
      | some (hours, rest) =>
        match readTomlPart ':' 59 rest with
        | some (minutes, []) => hours * 60 + minutes ≤ 24 * 60
        | _ => false
  | [] => false

/-- Whether a word is a date, a time, or both. -/
def isTomlMoment (word : Text) : Bool :=
  match afterDate? word with
  | none => afterTime? word = some []
  | some [] => true
  | some (c :: time) =>
    (c = 'T' || c = 't' || c = ' ') &&
      match afterTime? time with
      | none => false
      | some offset => offset = [] || isTomlOffset offset

/-! ## Words -/

/-- Whether a word goes on with the character. -/
def isTomlWordChar (c : Char) : Bool := isBareKeyChar c || c = '+' || c = '.' || c = ':'

/-- The word at the start of a text, and the rest.  A word behind a date and one
blank belongs to it. -/
def splitTomlWord (text : Text) : Text × Text :=
  let word := text.takeWhile isTomlWordChar
  match text.dropWhile isTomlWordChar with
  | ' ' :: c :: rest =>
    if afterDate? word = some [] && isTomlWordChar c then
      (word ++ ' ' :: c :: rest.takeWhile isTomlWordChar, rest.dropWhile isTomlWordChar)
    else (word, ' ' :: c :: rest)
  | rest => (word, rest)

/-- The value that a word writes. -/
def tomlWord? : Text → Option Document
  | ['t', 'r', 'u', 'e'] => some (.flag true)
  | ['f', 'a', 'l', 's', 'e'] => some (.flag false)
  | word => if isTomlMoment word then some (.text word) else tomlNumber? word

/-- Reads a string or a word. -/
def readTomlScalar (text : Text) : Option (Document × Text) :=
  match text with
  | '"' :: _ | '\x27' :: _ => (readTomlText text).map fun (value, rest) => (.text value, rest)
  | _ =>
    let (word, rest) := splitTomlWord text
    (tomlWord? word).map fun value => (value, rest)

end TagFilter
