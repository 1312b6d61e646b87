import Mathlib
import TagFilter.Proofs.Scanning

/-!
# Bare words

What a word without quotes is to the grammar.  A keyword is known by its letters, each of
which may be a small letter or a capital; no letter beyond ASCII stands for one of them.
Another word is a lone marker if it is the marker and nothing else, and else a name.

* `keyword?_eq_some_iff`: which words are keywords, letter by letter.
* `classify_eq_iff`: what a word is.  No keyword is as short as a marker, so a lone marker is
  known without a look at the keywords (`classify_eq_wildcard_iff`).
-/

namespace TagFilter

/-! ## Letter case -/

/-- A character is made into a small letter exactly if it is that letter or its capital. -/
theorem toLower_eq_iff {letter : Char} (h : letter.isLower) (c : Char) :
    c.toLower = letter ↔ c = letter ∨ c = letter.toUpper := by
  constructor
  · rintro rfl
    rw [Char.toUpper_toLower_eq_toUpper]
    by_cases hc : c.isUpper
    · exact .inr (Char.toUpper_eq_of_not_isLower (Char.not_isLower_of_isUpper hc)).symm
    · exact .inl (Char.toLower_eq_of_not_isUpper hc).symm
  · have hletter : letter.toLower = letter :=
      Char.toLower_eq_of_not_isUpper (Char.not_isUpper_of_isLower h)
    rintro (rfl | rfl)
    · exact hletter
    · rw [Char.toLower_toUpper_eq_toLower, hletter]

/-- The word has the small letters, each of which may be a capital in it. -/
def Capitalized (letters word : Text) : Prop :=
  List.Forall₂ (fun letter c => c = letter ∨ c = letter.toUpper) letters word

/-- So it has them if it is made into small letters. -/
theorem map_toLower_eq_iff {letters : Text} (h : ∀ letter ∈ letters, letter.isLower)
    (word : Text) : word.map Char.toLower = letters ↔ Capitalized letters word := by
  induction letters generalizing word with
  | nil =>
      rw [List.map_eq_nil_iff, Capitalized]
      exact List.forall₂_nil_left_iff.symm
  | cons letter letters ih =>
      have hletter := toLower_eq_iff (h letter List.mem_cons_self)
      have hletters := ih fun other hother => h other (List.mem_cons_of_mem letter hother)
      cases word with
      | nil => simp [Capitalized]
      | cons c word =>
          rw [List.map_cons, List.cons.injEq, hletter, hletters, Capitalized, Capitalized,
            List.forall₂_cons]

/-! ## Keywords -/

/-- The small letters of the keyword of this kind. -/
def Kind.letters? : Kind → Option Text
  | .and => some ['a', 'n', 'd']
  | .or => some ['o', 'r']
  | .not => some ['n', 'o', 't']
  | .text | .opening | .closing | .wildcard => none

/-- The letters of keywords are small. -/
theorem Kind.isLower_letters {kind : Kind} {letters : Text} (h : kind.letters? = some letters) :
    ∀ letter ∈ letters, letter.isLower := by
  have hall : letters.all Char.isLower := by
    cases kind <;> cases h <;> rfl
  exact List.all_eq_true.mp hall

/-- A word is the keyword of a kind if it is made into its letters. -/
theorem keyword?_eq_some_iff_map {word : Text} {kind : Kind} :
    keyword? word = some kind ↔ kind.letters? = some (word.map Char.toLower) := by
  unfold keyword?
  split
  case h_4 hand hor hnot =>
    -- other letters are those of no kind
    cases kind <;> simp_all [Kind.letters?, eq_comm]
  all_goals
    rename_i hletters
    rw [hletters]
    cases kind <;> decide

/-- **Keywords.**  A word is the keyword of a kind exactly if it has the letters of that
keyword, each of them small or a capital. -/
theorem keyword?_eq_some_iff {word : Text} {kind : Kind} :
    keyword? word = some kind ↔ ∃ letters, kind.letters? = some letters ∧
      Capitalized letters word := by
  rw [keyword?_eq_some_iff_map]
  constructor
  · intro h
    exact ⟨_, h, (map_toLower_eq_iff (Kind.isLower_letters h) word).mp rfl⟩
  · rintro ⟨letters, hletters, hword⟩
    rw [hletters, (map_toLower_eq_iff (Kind.isLower_letters hletters) word).mpr hword]

/-- A keyword has letters alone. -/
theorem keyword?_eq_none_of_mem {c : Char} {word : Text} (hc : c ∈ word)
    (hletter : c.isAlpha = false) : keyword? word = none := by
  cases hkeyword : keyword? word with
  | none => rfl
  | some kind =>
      have hsmall := Kind.isLower_letters (keyword?_eq_some_iff_map.mp hkeyword) c.toLower
        (List.mem_map_of_mem hc)
      rw [Char.isLower_toLower_eq_isAlpha, hletter] at hsmall
      cases hsmall

/-! ## Words of every kind -/

/-- **Bare words.**  A word is the keyword that it spells, else the lone marker if it is the
marker alone, and else a name. -/
theorem classify_eq_iff {marker : Char} {word : Text} {kind : Kind} :
    classify marker word = kind ↔
      keyword? word = some kind ∨
        keyword? word = none ∧
          (kind = .wildcard ∧ word = [marker] ∨ kind = .text ∧ word ≠ [marker]) := by
  unfold classify
  cases hkeyword : keyword? word with
  | some found => simp
  | none =>
      by_cases hword : word = [marker]
      · simp [hword, eq_comm]
      · simp [hword, eq_comm]

/-- Words that are no keywords are names, or the lone marker. -/
theorem keyword?_eq_none_iff {marker : Char} {word : Text} :
    keyword? word = none ↔
      classify marker word = .text ∨ classify marker word = .wildcard := by
  constructor
  · intro hnone
    by_cases hword : word = [marker]
    · exact .inr (classify_eq_wildcard_iff.mpr hword)
    · exact .inl (classify_eq_iff.mpr (.inr ⟨hnone, .inr ⟨rfl, hword⟩⟩))
  · intro h
    cases hkeyword : keyword? word with
    | none => rfl
    | some kind =>
        have hletters := keyword?_eq_some_iff_map.mp hkeyword
        have hclassify : classify marker word = kind := classify_eq_iff.mpr (.inl hkeyword)
        rw [hclassify] at h
        rcases h with rfl | rfl <;> cases hletters

end TagFilter
