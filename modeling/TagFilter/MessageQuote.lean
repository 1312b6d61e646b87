import TagFilter.MessageTable

/-!
# Quotations in messages

A message that quotes text it was given shows it between quotes on one line:
the control characters that have a name are written by it, the quote and the
backslash are escaped, and whatever else cannot be printed is shown by its
code point.
-/

namespace TagFilter

/-- The code point in hexadecimal between braces, as in `\u{a0}`. -/
def codePointEscape (c : Char) : Text :=
  ['\\', 'u', '\x7b'] ++ Nat.toDigits 16 c.toNat ++ ['\x7d']

/-- One character inside a quotation delimited by `quote`. -/
def quotedChar (quote c : Char) : Text :=
  if c = '\x00' then ['\\', '0']
  else if c = '\t' then ['\\', 't']
  else if c = '\r' then ['\\', 'r']
  else if c = '\n' then ['\\', 'n']
  else if c = '\\' || c = quote then ['\\', c]
  else if unprintableRanges.has c then codePointEscape c
  else [c]

/-- The text between double quotes. -/
def quoteText (text : Text) : Text := '"' :: text.flatMap (quotedChar '"') ++ ['"']

/-- The character between single quotes. -/
def quoteChar (c : Char) : Text := '\x27' :: quotedChar '\x27' c ++ ['\x27']

end TagFilter
