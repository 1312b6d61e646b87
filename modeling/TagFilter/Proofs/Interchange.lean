import TagFilter.Command
import TagFilter.Proofs.Flattening
import TagFilter.Proofs.Readable

/-!
# A filter and its canonical text

Every command that reads a filter fails on the same texts, and with the same
failure.  Where they do not fail, the canonical text of the filter can be used in
place of the filter: it is read with the same marker, as the normal form of the
query, and what a command prints is the same for a query and its normal form.
-/

namespace TagFilter

/-- The canonical text of a query that was read is read as its normal form. -/
theorem parse_write_of_parse {marker : Char} {input : Text} {query : Query}
    (h : parse marker input = .ok query) :
    parse marker (query.write marker) = .ok query.normal := by
  rcases Query.formed_of_parse h with rfl | hformed
  · exact parse_nil marker
  · exact (hformed.mono (by decide)).parse_write

/-- The normal form holds of the same collections, whatever is asked of them. -/
theorem Query.holds_normal {κ : Type} [Collection κ] (matching : Matching) (tags : κ)
    (query : Query) : query.normal.holds matching tags = query.holds matching tags := by
  rw [holds, ask_normal, holds]

namespace Command

variable {settings : Settings} {expression : Text}

/-- What is printed of a filter that can be read. -/
theorem withQuery_of_parse {query : Query} (h : parse settings.marker expression = .ok query)
    (print : Query → Outcome) : withQuery settings expression print = .ok (print query) := by
  rw [withQuery, h]

/-- A filter that cannot be read is told of, whatever is to be printed. -/
theorem withQuery_of_failure {failure : Failure}
    (h : parse settings.marker expression = .error failure) (print : Query → Outcome) :
    withQuery settings expression print = .error (.expression expression failure) := by
  rw [withQuery, h]

/-- What is printed alike for a query and its normal form is printed alike for a
filter and its canonical text. -/
theorem withQuery_write {query : Query} (h : parse settings.marker expression = .ok query)
    {print : Query → Outcome} (hprint : print query.normal = print query) :
    withQuery settings (query.write settings.marker) print = .ok (print query) := by
  rw [withQuery_of_parse (parse_write_of_parse h), hprint]

/-- **A filter and its canonical text are interchangeable.**  Matching a filter,
writing it and listing its tags either all fail with one failure, or they all
succeed; writing it then prints one line, and matching that line and listing its
tags has the outcome that it has for the filter. -/
theorem run_interchangeable (settings : Settings) (expression : Text) (tags : List Text) :
    (∃ failure,
      run settings (.holds expression tags) = .error failure ∧
        run settings (.write expression) = .error failure ∧
        run settings (.mentions expression) = .error failure) ∨
    ∃ line matched mentioned,
      run settings (.write expression) = .ok ⟨[line], true⟩ ∧
        run settings (.holds expression tags) = .ok matched ∧
        run settings (.holds line tags) = .ok matched ∧
        run settings (.mentions expression) = .ok mentioned ∧
        run settings (.mentions line) = .ok mentioned := by
  cases hparse : parse settings.marker expression with
  | error failure =>
      exact .inl ⟨.expression expression failure, withQuery_of_failure hparse _,
        withQuery_of_failure hparse _, withQuery_of_failure hparse _⟩
  | ok query =>
      refine .inr ⟨query.write settings.marker, _, _, withQuery_of_parse hparse _,
        withQuery_of_parse hparse _, withQuery_write hparse ?_, withQuery_of_parse hparse _,
        withQuery_write hparse ?_⟩
      · simp only [Query.holds_normal]
      · rw [Query.mentions_normal]

end Command

end TagFilter
