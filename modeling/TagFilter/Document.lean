import TagFilter.Blank

/-!
# Documents

The tree that a settings document holds, whatever format it is written in, and
the numbers in it.  Of a number only one thing matters here: whether a double
holds it as zero, as something else, or not at all.
-/

namespace TagFilter

/-- A number as it is written: `digits` with the decimal point moved. -/
structure Decimal where
  /-- All digits, read as one number. -/
  digits : Nat
  /-- The power of ten that they count. -/
  exponent : Int
  deriving DecidableEq, Repr

namespace Decimal

/-- An upper bound of the decimal point's place: the number is less than ten to
this power. -/
def magnitude (number : Decimal) : Int := (Nat.toDigits 10 number.digits).length + number.exponent

/-- Whether the nearest double is zero: at most half of the least positive one,
which is two to the power of -1074. -/
def roundsToZero (number : Decimal) : Bool :=
  number.digits = 0 || number.magnitude < -400 ||
    (number.exponent < 0 && number.digits * Nat.pow 2 1075 ≤ Nat.pow 10 (-number.exponent).toNat)

/-- Whether the number is beyond every double: at least halfway from the
greatest to the next power of two. -/
def overflows (number : Decimal) : Bool :=
  let bound := (Nat.pow 2 54 - 1) * Nat.pow 2 970
  number.digits ≠ 0 && (number.magnitude > 400 ||
    (number.magnitude > -400 &&
      bound * Nat.pow 10 (-number.exponent).toNat ≤
        number.digits * Nat.pow 10 number.exponent.toNat))

end Decimal

/-- A settings document, or a part of one. -/
inductive Document where
  | null
  | flag (value : Bool)
  /-- A number; `isZero` says which ones count as false. -/
  | number (isZero : Bool)
  | text (value : Text)
  /-- Values in order. -/
  | list (items : List Document)
  /-- Values by name. -/
  | table (entries : List (Text × Document))
  deriving Inhabited, Repr

/-! ## Values by name -/

/-- The value of a name. -/
def lookup {α : Type} (name : Text) : List (Text × α) → Option α
  | [] => none
  | (key, value) :: entries => if key = name then some value else lookup name entries

/-- Gives a name a value, in the place of the one it had. -/
def assign {α : Type} (name : Text) (value : α) : List (Text × α) → List (Text × α)
  | [] => [(name, value)]
  | (key, old) :: entries =>
    if key = name then (key, value) :: entries else (key, old) :: assign name value entries

/-! ## Digits and numbers -/

/-- The value of a digit in a base up to sixteen. -/
def digitValue? (base : Nat) (c : Char) : Option Nat :=
  let value :=
    if '0' ≤ c && c ≤ '9' then some (c.toNat - '0'.toNat)
    else if 'a' ≤ c && c ≤ 'f' then some (c.toNat - 'a'.toNat + 10)
    else if 'A' ≤ c && c ≤ 'F' then some (c.toNat - 'A'.toNat + 10)
    else none
  value.filter (· < base)

/-- Whether the character is a decimal digit. -/
def isDigit (c : Char) : Bool := '0' ≤ c && c ≤ '9'

/-- The number that some digits write. -/
def numberOfDigits? (base : Nat) : Text → Option Nat
  | [] => none
  | digits => digits.foldlM (fun number c => (digitValue? base c).map (number * base + ·)) 0

/-- The character with a code point, if there is one. -/
def characterAt? (codePoint : Nat) : Option Char :=
  if codePoint.isValidChar then some (Char.ofNat codePoint) else none

/-- A sign at the start of a text, and the rest. -/
def splitSign : Text → Option Char × Text
  | '+' :: rest => (some '+', rest)
  | '-' :: rest => (some '-', rest)
  | text => (none, text)

/-- An exponent of ten at the start of a text, if the letter E begins one:
at least one digit, with a sign or without. -/
def readExponent? : Text → Option (Int × Text)
  | c :: rest =>
    if c = 'e' || c = 'E' then
      let (sign, rest) := splitSign rest
      let digits := rest.takeWhile isDigit
      (numberOfDigits? 10 digits).map fun value =>
        (if sign = some '-' then -(value : Int) else value, rest.dropWhile isDigit)
    else some (0, c :: rest)
  | [] => some (0, [])

/-- The number with a whole part, a fraction and an exponent. -/
def decimalOf (whole fraction : Text) (exponent : Int) : Decimal :=
  ⟨(numberOfDigits? 10 (whole ++ fraction)).getD 0, exponent - fraction.length⟩

end TagFilter
