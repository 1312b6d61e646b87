import TagFilter.Proofs.FinalFailure
import TagFilter.Proofs.Interleaving
import TagFilter.TagList

/-!
# What a tag list is refused for

A tag list is read up to the first element of its stream that is neither a plain tag nor
the end, and that element alone decides why the list cannot be read (`Offends`).  Any
stream is some plain tags and then either its end or such an element (`plain_or_offended`).
The tags in front add their names to what is listed and change nothing else
(`plainNames_append`), and nothing behind the element is looked at.
-/

namespace TagFilter

variable {marker : Char}

/-! ## One element -/

/-- The token is a tag in a tag list: a name, not empty, without the marker in it. -/
structure Token.IsPlain (marker : Char) (token : Token) : Prop where
  kind : token.kind = .text
  nonempty : token.value ≠ []
  unmarked : marker ∉ token.value

/-- Why an element cannot stand in a tag list, and the failure that tells it. -/
inductive Offends (marker : Char) : Pulled → Failure → Prop
  | openQuote (offset : Nat) : Offends marker (.ending (.openQuote offset)) (.openQuote offset)
  /-- A bare word that is the marker. -/
  | wildcard {token : Token} (kind : token.kind = .wildcard) :
      Offends marker (.token token) (Complaint.unexpectedWildcard.about token)
  /-- A name with the marker in it, bare or quoted. -/
  | marked {token : Token} (kind : token.kind = .text) (marked : marker ∈ token.value) :
      Offends marker (.token token) (Complaint.unexpectedWildcard.about token)
  /-- A pair of quotes with nothing inside. -/
  | nameless {token : Token} (kind : token.kind = .text) (empty : token.value = []) :
      Offends marker (.token token) (Complaint.unexpectedToken.about token)
  /-- A connective or a parenthesis. -/
  | misplaced {token : Token} (text : token.kind ≠ .text) (wildcard : token.kind ≠ .wildcard) :
      Offends marker (.token token) (Complaint.unexpectedToken.about token)

/-- A token is a tag of a list or cannot stand in one. -/
theorem Token.isPlain_or_offends (marker : Char) (token : Token) :
    token.IsPlain marker ∨ ∃ failure, Offends marker (.token token) failure := by
  by_cases htext : token.kind = .text
  · by_cases hmarked : marker ∈ token.value
    · exact .inr ⟨_, .marked htext hmarked⟩
    · by_cases hempty : token.value = []
      · exact .inr ⟨_, .nameless htext hempty⟩
      · exact .inl ⟨htext, hempty, hmarked⟩
  · by_cases hwildcard : token.kind = .wildcard
    · exact .inr ⟨_, .wildcard hwildcard⟩
    · exact .inr ⟨_, .misplaced htext hwildcard⟩

/-- A tag of a list is its own name. -/
theorem Token.IsPlain.plainName_eq {token : Token} (h : token.IsPlain marker) :
    token.plainName marker = .ok token.value := by
  rw [Token.plainName, h.kind]
  dsimp only
  rw [if_neg h.unmarked, if_neg h.nonempty]

/-- A token that cannot stand in a list fails as it should. -/
theorem plainName_of_offends {token : Token} {failure : Failure}
    (h : Offends marker (.token token) failure) : token.plainName marker = .error failure := by
  unfold Token.plainName
  cases h with
  | wildcard kind => rw [kind]
  | marked kind marked =>
      rw [kind]
      exact if_pos marked
  | nameless kind empty =>
      rw [kind, empty]
      rfl
  | misplaced text wildcard => split <;> simp_all

/-! ## A whole stream -/

/-- Behind a tag the list goes on. -/
theorem plainNames_cons_of_isPlain {token : Token} (h : token.IsPlain marker)
    (found : List Token) (ending : Ending) :
    plainNames marker (token :: found) ending =
      (plainNames marker found ending).map (token.value :: ·) := by
  rw [plainNames, h.plainName_eq]
  cases plainNames marker found ending <;> rfl

/-- Plain tags in front add their names to those that are listed behind them. -/
theorem plainNames_append {listed : List Token} (h : ∀ token ∈ listed, token.IsPlain marker)
    (found : List Token) (ending : Ending) :
    plainNames marker (listed ++ found) ending =
      (plainNames marker found ending).map (listed.map Token.value ++ ·) := by
  induction listed with
  | nil => cases hfound : plainNames marker found ending <;> simp [hfound, Except.map]
  | cons token listed ih =>
      obtain ⟨htoken, hlisted⟩ := List.forall_mem_cons.mp h
      rw [List.cons_append, plainNames_cons_of_isPlain htoken, ih hlisted]
      cases plainNames marker found ending <;> rfl

/-- Tags up to the end are listed, all of them. -/
theorem plainNames_of_isPlain {listed : List Token} (h : ∀ token ∈ listed, token.IsPlain marker)
    (stop : Nat) : plainNames marker listed (.done stop) = .ok (listed.map Token.value) := by
  have happend := plainNames_append h [] (.done stop)
  rwa [List.append_nil, plainNames, Except.map, List.append_nil] at happend

/-- A token that offends is what the list fails with, whatever stands behind it. -/
theorem plainNames_of_token_offends {listed : List Token} {token : Token} {failure : Failure}
    (h : ∀ token ∈ listed, token.IsPlain marker)
    (hoffends : Offends marker (.token token) failure) (later : List Token) (ending : Ending) :
    plainNames marker (listed ++ token :: later) ending = .error failure := by
  rw [plainNames_append h, plainNames, plainName_of_offends hoffends]
  rfl

/-- The elements of a stream are its tokens and then its ending. -/
theorem Stream.split_toList {stream : Stream} {before : List Token} {element : Pulled}
    {later : List Pulled} (h : stream.toList = before.map Pulled.token ++ element :: later) :
    (∃ token after, element = .token token ∧ stream.tokens = before ++ token :: after) ∨
      element = .ending stream.ending ∧ stream.tokens = before := by
  obtain ⟨found, ending⟩ := stream
  induction before generalizing found with
  | nil =>
      cases found with
      | nil =>
          obtain ⟨helement, -⟩ := List.cons.inj h
          exact .inr ⟨helement.symm, rfl⟩
      | cons token found =>
          obtain ⟨helement, -⟩ := List.cons.inj h
          exact .inl ⟨token, found, helement.symm, rfl⟩
  | cons token before ih =>
      cases found with
      | nil =>
          obtain ⟨hending, -⟩ := List.cons.inj h
          cases hending
      | cons other found =>
          obtain ⟨htoken, hrest⟩ := List.cons.inj h
          obtain rfl := Pulled.token.inj htoken
          rcases ih found hrest with ⟨next, after, helement, hfound⟩ | ⟨helement, hfound⟩
          · exact .inl ⟨next, after, helement, congrArg (other :: ·) hfound⟩
          · exact .inr ⟨helement, congrArg (other :: ·) hfound⟩

/-- A stream is told by its elements. -/
theorem Stream.toList_eq_iff {stream : Stream} {found : List Token} {ending : Ending} :
    stream.toList = found.map Pulled.token ++ [.ending ending] ↔ stream = ⟨found, ending⟩ := by
  constructor
  · intro h
    rcases Stream.split_toList h with ⟨token, after, hending, -⟩ | ⟨hending, hfound⟩
    · cases hending
    · rw [← hfound, Pulled.ending.inj hending]
  · rintro rfl
    rfl

/-- An element that offends behind plain tags is what the list fails with. -/
theorem plainNames_of_offends {stream : Stream} {listed : List Token} {offender : Pulled}
    {later : List Pulled} {failure : Failure}
    (hsplit : stream.toList = listed.map Pulled.token ++ offender :: later)
    (h : ∀ token ∈ listed, token.IsPlain marker) (hoffends : Offends marker offender failure) :
    plainNames marker stream.tokens stream.ending = .error failure := by
  rcases Stream.split_toList hsplit with ⟨token, after, rfl, hfound⟩ | ⟨rfl, hfound⟩
  · rw [hfound]
    exact plainNames_of_token_offends h hoffends after stream.ending
  · rw [hfound]
    cases hending : stream.ending with
    | done stop =>
        rw [hending] at hoffends
        cases hoffends
    | openQuote offset =>
        rw [hending] at hoffends
        cases hoffends
        have happend := plainNames_append h [] (.openQuote offset)
        rwa [List.append_nil] at happend

/-- **Plain tags, and what ends them.**  A stream is a list of plain tags up to its end, or
has a first element that offends. -/
theorem plain_or_offended (marker : Char) (stream : Stream) :
    (∃ stop, stream.ending = .done stop ∧ ∀ token ∈ stream.tokens, token.IsPlain marker) ∨
      ∃ (listed : List Token) (offender : Pulled) (later : List Pulled) (failure : Failure),
        stream.toList = listed.map Pulled.token ++ offender :: later ∧
          (∀ token ∈ listed, token.IsPlain marker) ∧ Offends marker offender failure := by
  obtain ⟨found, ending⟩ := stream
  induction found with
  | nil =>
      cases ending with
      | done stop => exact .inl ⟨stop, rfl, by simp⟩
      | openQuote offset => exact .inr ⟨[], _, [], _, rfl, by simp, .openQuote offset⟩
  | cons token found ih =>
      rcases token.isPlain_or_offends marker with htoken | ⟨failure, hoffends⟩
      · rcases ih with ⟨stop, hending, hfound⟩ |
          ⟨listed, offender, later, failure, hsplit, hlisted, hoffends⟩
        · exact .inl ⟨stop, hending, List.forall_mem_cons.mpr ⟨htoken, hfound⟩⟩
        · exact .inr ⟨token :: listed, offender, later, failure,
            congrArg (Pulled.token token :: ·) hsplit,
            List.forall_mem_cons.mpr ⟨htoken, hlisted⟩, hoffends⟩
      · exact .inr ⟨[], _, _, failure, rfl, by simp, hoffends⟩

/-- **Listed names.**  A stream lists names if it is plain tags up to its end, and these are
the names of the tags. -/
theorem plainNames_eq_ok_iff {found : List Token} {ending : Ending} {names : List Text} :
    plainNames marker found ending = .ok names ↔
      (∃ stop, ending = .done stop) ∧ (∀ token ∈ found, token.IsPlain marker) ∧
        names = found.map Token.value := by
  constructor
  · intro h
    rcases plain_or_offended marker ⟨found, ending⟩ with ⟨stop, hending, hplain⟩ |
      ⟨listed, offender, later, failure, hsplit, hlisted, hoffends⟩
    · obtain rfl : ending = .done stop := hending
      rw [plainNames_of_isPlain hplain] at h
      exact ⟨⟨stop, rfl⟩, hplain, (Except.ok.inj h).symm⟩
    · have hfails := plainNames_of_offends hsplit hlisted hoffends
      cases hfails.symm.trans h
  · rintro ⟨⟨stop, rfl⟩, hplain, rfl⟩
    exact plainNames_of_isPlain hplain stop

/-- A list fails at its first element that cannot stand in one, which only tags come before. -/
theorem plainNames_eq_error_iff {stream : Stream} {failure : Failure} :
    plainNames marker stream.tokens stream.ending = .error failure ↔
      ∃ (listed : List Token) (offender : Pulled) (later : List Pulled),
        stream.toList = listed.map Pulled.token ++ offender :: later ∧
        (∀ token ∈ listed, token.IsPlain marker) ∧ Offends marker offender failure := by
  constructor
  · intro h
    rcases plain_or_offended marker stream with ⟨stop, hending, hplain⟩ |
      ⟨listed, offender, later, other, hsplit, hlisted, hoffends⟩
    · rw [hending, plainNames_of_isPlain hplain] at h
      cases h
    · rw [plainNames_of_offends hsplit hlisted hoffends] at h
      obtain rfl := Except.error.inj h
      exact ⟨listed, offender, later, hsplit, hlisted, hoffends⟩
  · rintro ⟨listed, offender, later, hsplit, hlisted, hoffends⟩
    exact plainNames_of_offends hsplit hlisted hoffends

/-! ## Texts -/

/-- **A tag list is its plain tags, or fails at the first other element.**  It is read if a
new scan yields plain tags and the end, as their names in order.  It fails if the scan
yields plain tags and then an element that offends, with what that element tells; if that
is a token, the text up to its end fails in the same way in front of a blank and any text. -/
theorem parseTagList_decided (marker : Char) (input : Text) :
    let yielded := (Scan.start marker input).drain.1
    (∀ names, parseTagList marker input = .ok names ↔
      ∃ (listed : List Token) (stop : Nat),
        yielded = listed.map Pulled.token ++ [.ending (.done stop)] ∧
        (∀ token ∈ listed, token.IsPlain marker) ∧ names = listed.map Token.value) ∧
    (∀ failure, parseTagList marker input = .error failure ↔
      ∃ (listed : List Token) (offender : Pulled) (later : List Pulled),
        yielded = listed.map Pulled.token ++ offender :: later ∧
        (∀ token ∈ listed, token.IsPlain marker) ∧ Offends marker offender failure) ∧
    ∀ (listed : List Token) (offender : Token) (later : List Pulled) (failure : Failure),
      yielded = listed.map Pulled.token ++ .token offender :: later →
      (∀ token ∈ listed, token.IsPlain marker) → Offends marker (.token offender) failure →
        ∀ more, parseTagList marker (input.take offender.stop ++ ' ' :: more) =
          .error failure := by
  have hyielded : (Scan.start marker input).drain.1 = (tokens marker input).toList :=
    Scan.drain_eq rfl
  simp only [hyielded, Stream.toList_eq_iff]
  refine ⟨fun names => ?_, fun failure => plainNames_eq_error_iff, ?_⟩
  · rw [parseTagList, plainNames_eq_ok_iff]
    constructor
    · rintro ⟨⟨stop, hending⟩, hplain, rfl⟩
      exact ⟨_, stop, by rw [← hending], hplain, rfl⟩
    · rintro ⟨listed, stop, hfound, hplain, rfl⟩
      rw [hfound]
      exact ⟨⟨stop, rfl⟩, hplain, rfl⟩
  · intro listed offender later failure hsplit hlisted hoffends more
    rcases Stream.split_toList hsplit with ⟨token, after, htoken, hfound⟩ | ⟨hending, -⟩
    · obtain rfl := Pulled.token.inj htoken
      have hblank : isWordChar ' ' = false := by decide
      have hmore : Separated (' ' :: more) := separated_cons hblank
      obtain ⟨behind, ending, htokens⟩ := exists_tokens_take hfound hmore
      rw [parseTagList, htokens]
      exact plainNames_of_token_offends hlisted hoffends behind ending
    · cases hending

/-- The marker decides, and not the open quote behind it. -/
theorem parseTagList_decided_wildcard :
    parseTagList '*' ['a', ' ', '*', ' ', '"', 'b'] =
        .error (.grammar .unexpectedWildcard 2 ['*']) ∧
      ∀ more, parseTagList '*' (['a', ' ', '*'] ++ ' ' :: more) =
        .error (.grammar .unexpectedWildcard 2 ['*']) := by
  have hyielded : (Scan.start '*' ['a', ' ', '*', ' ', '"', 'b']).drain.1 =
      [Token.mk .text ['a'] 0 1].map Pulled.token ++ .token ⟨.wildcard, ['*'], 2, 3⟩ ::
        [.ending (.openQuote 4)] := by cbv
  have hlisted : ∀ token ∈ [Token.mk .text ['a'] 0 1], token.IsPlain '*' :=
    List.forall_mem_singleton.mpr ⟨rfl, by decide, by decide⟩
  have hoffends : Offends '*' (.token ⟨.wildcard, ['*'], 2, 3⟩)
      (.grammar .unexpectedWildcard 2 ['*']) := .wildcard rfl
  obtain ⟨-, hfails, hfinal⟩ := parseTagList_decided '*' ['a', ' ', '*', ' ', '"', 'b']
  exact ⟨(hfails _).mpr ⟨_, _, _, hyielded, hlisted, hoffends⟩,
    hfinal _ _ _ _ hyielded hlisted hoffends⟩

end TagFilter
