import TagFilter.Blank

/-!
# Quoted text

Between two equal quotes any text can be written: a backslash goes before each
quote and each backslash.  A reader takes that backslash away again, keeps any
other one, and stops at the first quote that has none.
-/

namespace TagFilter

/-- Whether a quoted text can begin with the character. -/
def isQuote (c : Char) : Bool := c = '"' || c = '\x27'

/-- A backslash before each `quote` and each backslash. -/
def escape (quote : Char) : Text → Text
  | [] => []
  | c :: rest =>
    if c = quote || c = '\\' then '\\' :: c :: escape quote rest else c :: escape quote rest

/-- The text in quotes. -/
def enclose (quote : Char) (text : Text) : Text := quote :: escape quote text ++ [quote]

/-- What a backslash and the character behind it stand for. -/
def unescape (quote c : Char) : Text := if c = quote || c = '\\' then [c] else ['\\', c]

/-- Reads what follows an opening quote: the text up to the closing one, and
what comes after that.  There is none if no quote closes it. -/
def readQuoted (quote : Char) : Text → Option (Text × Text)
  | [] => none
  | [c] => if c = quote then some ([], []) else none
  | c :: d :: rest =>
    if c = '\\' then
      (readQuoted quote rest).map fun (value, after) => (unescape quote d ++ value, after)
    else if c = quote then some ([], d :: rest)
    else (readQuoted quote (d :: rest)).map fun (value, after) => (c :: value, after)

/-- What follows a quoted text is shorter than what followed its opening quote. -/
theorem length_lt_of_readQuoted {quote : Char} {text value after : Text}
    (h : readQuoted quote text = some (value, after)) : after.length < text.length := by
  fun_induction readQuoted quote text generalizing value with
  | case1 => simp at h
  | case2 => simp_all
  | case3 => simp_all
  | case4 d rest ih =>
      obtain ⟨⟨value', after'⟩, hread, hpair⟩ := Option.map_eq_some_iff.mp h
      obtain ⟨-, rfl⟩ := Prod.mk.inj hpair
      have := ih hread
      simp only [List.length_cons]
      omega
  | case5 d rest => simp_all
  | case6 c d rest hslash hquote ih =>
      obtain ⟨⟨value', after'⟩, hread, hpair⟩ := Option.map_eq_some_iff.mp h
      obtain ⟨-, rfl⟩ := Prod.mk.inj hpair
      have := ih hread
      simp only [List.length_cons] at this ⊢
      omega

end TagFilter
