import Mathlib
import TagFilter.Proofs.Dependence
import TagFilter.Proofs.GlobMatching
import TagFilter.Proofs.GlobText
import TagFilter.Proofs.LowercaseContext
import TagFilter.Reading

/-!
# Ignoring case

A match that ignores case compares lowercases: that of the whole tag with that of a whole
name, or with those of the pieces of a glob, each by itself.  A name that is equal stays
equal.  A glob that accepts a tag need not accept its lowercase, since a gap may hide from
a piece what decides on the form of its capital sigmas.

* `Glob.settled_iff`: that happens to the globs with a piece that is not settled, and to
  no others.
* `holds_ignoring_case`: so without negations, and with settled globs, a match that
  ignores case finds everything that one with case does.
-/

namespace TagFilter

namespace Glob

/-- Every piece has the same lowercase whatever fills the gaps. -/
def Settled (glob : Glob) : Prop :=
  ∀ front piece back, glob.pieces = front ++ piece :: back →
    SettledPiece (front ≠ []) (back ≠ []) piece

instance (glob : Glob) : Decidable glob.Settled :=
  decidable_of_iff _ (forall_cut_iff fun front piece back =>
    SettledPiece (front ≠ []) (back ≠ []) piece).symm

/-! ## Settled globs -/

/-- The lowercase of the pieces stands in the lowercase of a text in which they stand. -/
theorem follow_lowercase {before text : Text} {pieces : List Text}
    (hpieces : ∀ front piece back, pieces = front ++ piece :: back →
      SettledPiece True (back ≠ []) piece)
    (h : Follow pieces text) :
    Follow (pieces.map TagFilter.lowercase) (lowercaseBetween before [] text) := by
  induction pieces generalizing before text with
  | nil =>
      obtain rfl : text = [] := h
      rfl
  | cons piece pieces ih =>
      obtain ⟨gap, rest, rfl, hrest⟩ := h
      have hpiece : SettledPiece True (pieces ≠ []) piece := hpieces [] piece pieces rfl
      have hlater : ∀ front other back, pieces = front ++ other :: back →
          SettledPiece True (back ≠ []) other := by
        intro front other back hsplit
        exact hpieces (piece :: front) other back (by rw [hsplit, List.cons_append])
      have hend : rest ++ [] = [] ∨ pieces ≠ [] := by
        cases pieces with
        | nil =>
            obtain rfl : rest = [] := hrest
            exact .inl rfl
        | cons next pieces => exact .inr (by simp)
      rw [lowercaseBetween_append, lowercaseBetween_append,
        hpiece.lowercaseBetween_eq (.inr trivial) hend]
      exact ⟨_, _, rfl, ih hlater hrest⟩

/-- A settled glob that accepts a name accepts its lowercase in lowercase. -/
theorem Settled.accepts_lowercase {glob : Glob} (h : glob.Settled) {name : Text}
    (hname : glob.accepts name) : glob.lowercase.accepts (TagFilter.lowercase name) := by
  obtain ⟨head, tail⟩ := glob
  obtain ⟨rest, rfl, hfollow⟩ := accepts_iff.mp hname
  have hhead : SettledPiece False (tail ≠ []) head := by
    have hpiece := h [] head tail rfl
    exact ⟨fun hgap => hgap.elim, hpiece.behind⟩
  have htail : ∀ front piece back, tail = front ++ piece :: back →
      SettledPiece True (back ≠ []) piece := by
    intro front piece back hsplit
    have hpiece := h (head :: front) piece back (congrArg (head :: ·) hsplit)
    exact ⟨fun _ => hpiece.before (by simp), hpiece.behind⟩
  have hend : rest ++ [] = [] ∨ tail ≠ [] := by
    cases tail with
    | nil =>
        obtain rfl : rest = [] := hfollow
        exact .inl rfl
    | cons piece tail => exact .inr (by simp)
  rw [lowercase_eq_lowercaseBetween, lowercaseBetween_append,
    hhead.lowercaseBetween_eq (.inl rfl) hend]
  exact accepts_iff.mpr ⟨_, rfl, follow_lowercase htail hfollow⟩

/-! ## Globs that are not settled

The name that shows it has a blank in every gap, and a letter next to the piece. -/

/-- How often a character stands in the pieces of a glob. -/
def countPieces (c : Char) (glob : Glob) : Nat := glob.pieces.flatten.count c

/-- The first piece is counted by itself. -/
theorem countPieces_cons (c : Char) (head piece : Text) (tail : List Text) :
    countPieces c ⟨head, piece :: tail⟩ = head.count c + countPieces c ⟨piece, tail⟩ := by
  simp [countPieces, pieces]

/-- What stands in the pieces stands in a text that has them in order. -/
theorem countPieces_le_of_follow (c : Char) {head rest : Text} {tail : List Text}
    (h : Follow tail rest) : countPieces c ⟨head, tail⟩ ≤ (head ++ rest).count c := by
  induction tail generalizing head rest with
  | nil => simp [countPieces, pieces]
  | cons piece tail ih =>
      obtain ⟨gap, after, rfl, hafter⟩ := h
      have hlater : countPieces c ⟨piece, tail⟩ ≤ (piece ++ after).count c := ih hafter
      rw [countPieces_cons, List.count_append, List.count_append]
      omega

/-- An accepted name has the characters of the pieces, and maybe more. -/
theorem countPieces_le_of_accepts (c : Char) {glob : Glob} {name : Text} (h : glob.accepts name) :
    glob.countPieces c ≤ name.count c := by
  obtain ⟨rest, rfl, hfollow⟩ := accepts_iff.mp h
  exact countPieces_le_of_follow c hfollow

/-- The text of a glob has no other characters than its pieces and the marker. -/
theorem count_toText {c marker : Char} (h : c ≠ marker) (glob : Glob) :
    (glob.toText marker).count c = glob.countPieces c := by
  obtain ⟨head, tail⟩ := glob
  induction tail generalizing head with
  | nil => simp [toText, countPieces, pieces]
  | cons piece tail ih =>
      rw [toText_cons, List.count_append, List.count_cons_of_ne h.symm, ih, countPieces_cons]

/-- Blanks in the gaps keep the pieces apart, each with its own lowercase. -/
theorem lowercase_toText_blank (glob : Glob) :
    TagFilter.lowercase (glob.toText ' ') = glob.lowercase.toText ' ' := by
  obtain ⟨head, tail⟩ := glob
  induction tail generalizing head with
  | nil => simp [toText, lowercase]
  | cons piece tail ih =>
      rw [toText_cons, lowercase_append_blank, ih, lowercase, lowercase, List.map_cons, toText_cons]

/-- Pieces with the marker in front of each are in the text in order. -/
theorem follow_flatMap (marker : Char) (pieces : List Text) :
    Follow pieces (pieces.flatMap (marker :: ·)) := by
  induction pieces with
  | nil => rfl
  | cons piece pieces ih => exact ⟨[marker], _, by simp, ih⟩

/-- So are more pieces in front of them. -/
theorem Follow.flatMap_append (marker : Char) {pieces : List Text} {text : Text}
    (h : Follow pieces text) (front : List Text) :
    Follow (front ++ pieces) (front.flatMap (marker :: ·) ++ text) := by
  induction front with
  | nil => exact h
  | cons piece front ih => exact ⟨[marker], _, by simp, ih⟩

/-- Text around a piece, on sides with a gap, is part of what fills the gap. -/
theorem accepts_toText_of_pieces (marker : Char) {glob other : Glob} {front back : List Text}
    {before piece after : Text} (hglob : glob.pieces = front ++ piece :: back)
    (hother : other.pieces = front ++ (before ++ (piece ++ after)) :: back)
    (hbefore : front = [] → before = []) (hafter : back = [] → after = []) :
    glob.accepts (other.toText marker) := by
  obtain ⟨head, tail⟩ := glob
  obtain ⟨otherHead, otherTail⟩ := other
  replace hglob : head :: tail = front ++ piece :: back := hglob
  replace hother : otherHead :: otherTail = front ++ (before ++ (piece ++ after)) :: back := hother
  have hback : Follow back (after ++ back.flatMap (marker :: ·)) := by
    cases back with
    | nil =>
        rw [hafter rfl]
        rfl
    | cons next back => exact (follow_flatMap marker (next :: back)).prepend (by simp) after
  cases front with
  | nil =>
      obtain ⟨rfl, rfl⟩ := List.cons.inj hglob
      obtain ⟨rfl, rfl⟩ := List.cons.inj hother
      rw [hbefore rfl]
      exact accepts_iff.mpr ⟨_, by simp [toText], hback⟩
  | cons first front =>
      obtain ⟨rfl, rfl⟩ := List.cons.inj hglob
      obtain ⟨rfl, rfl⟩ := List.cons.inj hother
      have hpiece : Follow (piece :: back)
          (marker :: before ++ (piece ++ (after ++ back.flatMap (marker :: ·)))) :=
        ⟨marker :: before, _, rfl, hback⟩
      exact accepts_iff.mpr ⟨_, by simp [toText], hpiece.flatMap_append marker front⟩

/-- Where a piece has another lowercase next to a letter, with less of some character, the
glob does not accept the lowercase of every name that it accepts. -/
theorem exists_name_of_count_lt {glob : Glob} {front back : List Text} {before piece after : Text}
    (c : Char) (hc : c ≠ ' ') (hglob : glob.pieces = front ++ piece :: back)
    (hbefore : front = [] → before = []) (hafter : back = [] → after = [])
    (hcount : (TagFilter.lowercase (before ++ (piece ++ after))).count c <
      (TagFilter.lowercase piece).count c) :
    ∃ name, glob.accepts name ∧ ¬glob.lowercase.accepts (TagFilter.lowercase name) := by
  obtain ⟨other, hother⟩ : ∃ other : Glob,
      other.pieces = front ++ (before ++ (piece ++ after)) :: back := by
    cases front with
    | nil => exact ⟨⟨_, back⟩, rfl⟩
    | cons first front => exact ⟨⟨first, _⟩, rfl⟩
  refine ⟨other.toText ' ', accepts_toText_of_pieces ' ' hglob hother hbefore hafter, ?_⟩
  intro haccepts
  have hle := countPieces_le_of_accepts c haccepts
  have hpieces : glob.lowercase.pieces = glob.pieces.map TagFilter.lowercase := rfl
  have hothers : other.lowercase.pieces = other.pieces.map TagFilter.lowercase := rfl
  rw [lowercase_toText_blank, count_toText hc, countPieces, countPieces, hpieces, hothers, hglob,
    hother] at hle
  simp only [List.map_append, List.map_cons, List.flatten_append, List.flatten_cons,
    List.count_append] at hle
  omega

/-- A piece behind a letter has the lowercase that it has there. -/
theorem lowercase_behind_letter (piece : Text) :
    TagFilter.lowercase ('A' :: piece) = 'a' :: lowercaseBetween ['A'] [] piece := by
  have hletter : lowercaseAt [] [] 'A' = ['a'] := by decide +kernel
  rw [lowercase_eq_lowercaseBetween, lowercaseBetween, lowercaseAt_of_ne (by decide) [] _ [] [],
    hletter]
  rfl

/-- So has a piece in front of one. -/
theorem lowercase_before_letter (piece : Text) :
    TagFilter.lowercase (piece ++ ['A']) = lowercaseBetween [] ['A'] piece ++ ['a'] := by
  have hletter : lowercaseAt [] [] 'A' = ['a'] := by decide +kernel
  rw [lowercase_eq_lowercaseBetween, lowercaseBetween_append, lowercaseBetween,
    lowercaseAt_of_ne (by decide) _ _ [] [], hletter]
  rfl

/-- **Settled globs are those that keep their names.**  A glob accepts the lowercase of
every name that it accepts, in lowercase, exactly if all of its pieces are settled. -/
theorem settled_iff (glob : Glob) :
    glob.Settled ↔
      ∀ name, glob.accepts name → glob.lowercase.accepts (TagFilter.lowercase name) := by
  constructor
  · exact fun h name => h.accepts_lowercase
  · intro h front piece back hglob
    constructor
    · intro hgap before after hpiece hbefore
      apply Classical.byContradiction
      intro hcased
      have hcount := count_lowercase_behind_letter hbefore (Bool.eq_false_iff.mpr hcased)
      have hletter : (TagFilter.lowercase (['A'] ++ (piece ++ []))).count 'σ' <
          (TagFilter.lowercase piece).count 'σ' := by
        rw [List.append_nil, List.singleton_append, lowercase_behind_letter,
          List.count_cons_of_ne (by decide), hpiece]
        exact hcount
      obtain ⟨name, hname, hlost⟩ := exists_name_of_count_lt 'σ' (by decide) hglob
        (fun hfront => absurd hfront hgap) (fun _ => rfl) hletter
      exact hlost (h name hname)
    · intro hgap before after hpiece hafter
      apply Classical.byContradiction
      intro hcased
      have hcount := count_lowercase_before_letter hafter (eq_true_of_ne_false hcased)
      have hletter : (TagFilter.lowercase ([] ++ (piece ++ ['A']))).count 'ς' <
          (TagFilter.lowercase piece).count 'ς' := by
        rw [List.nil_append, lowercase_before_letter, List.count_append,
          List.count_singleton, hpiece]
        simpa using hcount
      obtain ⟨name, hname, hlost⟩ := exists_name_of_count_lt 'ς' (by decide) hglob
        (fun _ => rfl) (fun hback => absurd hback hgap) hletter
      exact hlost (h name hname)

end Glob

/-! ## Queries -/

namespace Query

section

variable {κ : Type} [Collection κ] {tags : κ} {emptyMatchesAll : Bool}

/-- A tag that a collection has is found without regard to case. -/
theorem value_tag_ignoring_case [LawfulCollection κ] {name : Text}
    (h : (Query.tag name).value ⟨true, emptyMatchesAll⟩ tags = true) :
    (Query.tag name).value ⟨false, emptyMatchesAll⟩ tags = true := by
  rw [value] at h ⊢
  have hmem : name ∈ Collection.tags tags := (LawfulCollection.has_iff tags name).mp h
  exact List.any_eq_true.mpr ⟨name, hmem, by simp⟩

/-- A glob whose pieces are settled is not lost where case is ignored. -/
theorem value_glob_ignoring_case {g : Glob} (settled : g.Settled)
    (h : (Query.glob g).value ⟨true, emptyMatchesAll⟩ tags = true) :
    (Query.glob g).value ⟨false, emptyMatchesAll⟩ tags = true := by
  rw [value] at h ⊢
  obtain ⟨tag, hmem, haccepts⟩ := List.any_eq_true.mp h
  have hlower : g.lowercase.accepts (lowercase tag) := settled.accepts_lowercase haccepts
  exact List.any_eq_true.mpr ⟨tag, hmem, hlower⟩

/-- **Without negations.**  A query with settled globs that is true with case is true
without regard to it. -/
theorem value_ignoring_case [LawfulCollection κ] {query : Query}
    (positive : ∀ place operand, query.at? place ≠ some (.negation operand))
    (settled : ∀ place g, query.at? place = some (.glob g) → g.Settled)
    (h : query.value ⟨true, emptyMatchesAll⟩ tags = true) :
    query.value ⟨false, emptyMatchesAll⟩ tags = true := by
  induction query using join_induction with
  | leaf query hleaf =>
      cases hleaf with
      | empty =>
          rw [value] at h ⊢
          exact h
      | tag name => exact value_tag_ignoring_case h
      | glob g => exact value_glob_ignoring_case (settled [] g (at?_nil _)) h
  | join connective operands ih =>
      refine value_join_mono connective ?_ h
      intro query hmem hquery
      obtain ⟨i, hi⟩ := List.getElem?_of_mem hmem
      refine ih query hmem ?_ ?_ hquery
      · intro place operand
        rw [← at?_join connective hi]
        exact positive (i :: place) operand
      · intro place g
        rw [← at?_join connective hi]
        exact settled (i :: place) g
  | negation query => exact absurd (at?_nil _) (positive [] query)

end

end Query

/-- **Ignoring case adds matches.**  Where a query has no negation and its globs are
settled, it holds without regard to case of every collection that it holds of with case.
A glob is settled exactly if its lowercase accepts the lowercase of every name that it
accepts. -/
theorem holds_ignoring_case :
    (∀ (query : Query) (κ : Type) [Collection κ] [LawfulCollection κ] (tags : κ)
      (emptyMatchesAll : Bool),
      (∀ place operand, query.at? place ≠ some (.negation operand)) →
      (∀ place g, query.at? place = some (.glob g) → g.Settled) →
      query.holds ⟨true, emptyMatchesAll⟩ tags = true →
        query.holds ⟨false, emptyMatchesAll⟩ tags = true) ∧
    ∀ g : Glob, g.Settled ↔
      ∀ name, g.accepts name = true → g.lowercase.accepts (lowercase name) = true := by
  refine ⟨?_, Glob.settled_iff⟩
  intro query κ _ _ tags emptyMatchesAll positive settled h
  rw [Query.holds, Query.holds_ask] at h ⊢
  exact Query.value_ignoring_case positive settled h

/-- The letter next to each capital sigma settles its form, at both ends of the glob. -/
theorem holds_ignoring_case_sigmas :
    (∀ place operand, (Query.glob ⟨['Σ', 'Ο'], [['Ο', 'Σ']]⟩).at? place ≠
        some (.negation operand)) ∧
      (⟨['Σ', 'Ο'], [['Ο', 'Σ']]⟩ : Glob).Settled ∧
      (Query.glob ⟨['Σ', 'Ο'], [['Ο', 'Σ']]⟩).holds ⟨true, false⟩ [['Σ', 'Ο', 'Ο', 'Σ']] = true ∧
      (Query.glob ⟨['Σ', 'Ο'], [['Ο', 'Σ']]⟩).holds ⟨false, false⟩ [['Σ', 'Ο', 'Ο', 'Σ']] =
        true := by
  have hpositive : ∀ place operand,
      (Query.glob ⟨['Σ', 'Ο'], [['Ο', 'Σ']]⟩).at? place ≠ some (.negation operand) := by
    intro place operand hat
    obtain ⟨-, hpart⟩ := (Query.IsLeaf.glob _).eq_of_at? hat
    cases hpart
  have hsettled : (⟨['Σ', 'Ο'], [['Ο', 'Σ']]⟩ : Glob).Settled := by decide +kernel
  have hglobs : ∀ place g,
      (Query.glob ⟨['Σ', 'Ο'], [['Ο', 'Σ']]⟩).at? place = some (.glob g) → g.Settled := by
    intro place g hat
    obtain ⟨-, hpart⟩ := (Query.IsLeaf.glob _).eq_of_at? hat
    obtain rfl := Query.glob.inj hpart
    exact hsettled
  have hholds : (Query.glob ⟨['Σ', 'Ο'], [['Ο', 'Σ']]⟩).holds ⟨true, false⟩
      [['Σ', 'Ο', 'Ο', 'Σ']] = true := by decide
  exact ⟨hpositive, hsettled, hholds,
    holds_ignoring_case.1 _ (List Text) _ false hpositive hglobs hholds⟩

/-- **Ignoring case can lose a match.**  The sigma of the glob is the last letter of its
piece, and not of the tag. -/
theorem not_holds_ignoring_case :
    parse '*' ['Α', 'Σ', '*'] = .ok (.glob ⟨['Α', 'Σ'], [[]]⟩) ∧
      (Query.glob ⟨['Α', 'Σ'], [[]]⟩).holds ⟨true, true⟩ [['Α', 'Σ', 'Α']] = true ∧
      (Query.glob ⟨['Α', 'Σ'], [[]]⟩).holds ⟨false, true⟩ [['Α', 'Σ', 'Α']] = false ∧
      (⟨['Α', 'Σ'], [[]]⟩ : Glob).accepts ['Α', 'Σ', 'Α'] = true ∧
      (⟨['Α', 'Σ'], [[]]⟩ : Glob).lowercase.accepts (lowercase ['Α', 'Σ', 'Α']) = false := by
  have hparse : parse '*' ['Α', 'Σ', '*'] = .ok (.glob ⟨['Α', 'Σ'], [[]]⟩) := by cbv
  exact ⟨hparse, by decide, by decide +kernel, by decide, by decide +kernel⟩

end TagFilter
