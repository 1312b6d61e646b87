import Mathlib.Data.List.Forall2
import Mathlib.Data.List.TakeWhile
import TagFilter.LetterCase

/-!
# Lowercase in its surroundings

What stands around a text plays a part in its lowercase at one kind of character: a
capital sigma has the final form where a cased letter stands before it and none after
it, and either of them may lie outside the text.

* `forall₂_lowercaseBetween`: the lowercases of a text in two surroundings are alike if
  its capital sigmas are.
* `SettledPiece.lowercaseBetween_eq`: a text whose capital sigmas need nothing from
  outside has the same lowercase everywhere.
* `count_lowercase_before_letter`, `count_lowercase_behind_letter`: any other text has
  another lowercase next to a letter.
-/

namespace TagFilter

/-- The lowercase of a text that stands between others: behind `before`, nearest
character first, and in front of `after`. -/
def lowercaseBetween (before after : Text) : Text → Text
  | [] => []
  | c :: rest => lowercaseAt before (rest ++ after) c ++ lowercaseBetween (c :: before) after rest

/-- Behind a text alone, what follows is empty. -/
theorem lowercaseAfter_eq (before text : Text) :
    lowercaseAfter before text = lowercaseBetween before [] text := by
  induction text generalizing before with
  | nil => rfl
  | cons c rest ih => rw [lowercaseAfter, lowercaseBetween, ih, List.append_nil]

/-- A text by itself stands between empty texts. -/
theorem lowercase_eq_lowercaseBetween (text : Text) :
    lowercase text = lowercaseBetween [] [] text :=
  lowercaseAfter_eq [] text

/-- Each half of a text stands between the other half and the surroundings. -/
theorem lowercaseBetween_append (before after left right : Text) :
    lowercaseBetween before after (left ++ right) =
      lowercaseBetween before (right ++ after) left ++
        lowercaseBetween (left.reverse ++ before) after right := by
  induction left generalizing before with
  | nil => rfl
  | cons c left ih =>
      have hbefore : (c :: left).reverse ++ before = left.reverse ++ c :: before := by simp
      rw [List.cons_append, lowercaseBetween, ih, lowercaseBetween, hbefore]
      simp only [List.append_assoc]

/-! ## Capital sigmas -/

/-- Whether a capital sigma between the texts is the last letter of a word. -/
def endsWord (before after : Text) : Bool := meetsCased before && !meetsCased after

/-- A capital sigma becomes final at the end of a word. -/
theorem lowercaseAt_sigma (before after : Text) :
    lowercaseAt before after 'Σ' = if endsWord before after then ['ς'] else ['σ'] := by
  rw [lowercaseAt, if_pos rfl, endsWord]

/-- Other characters do not look around. -/
theorem lowercaseAt_of_ne {c : Char} (h : c ≠ 'Σ') (before after before' after' : Text) :
    lowercaseAt before after c = lowercaseAt before' after' c := by
  rw [lowercaseAt, lowercaseAt, if_neg h, if_neg h]

/-- **Two surroundings.**  The lowercases of a text in them are alike, character by
character, if they are at the capital sigmas of the text. -/
theorem forall₂_lowercaseBetween {alike : Char → Char → Prop} (hsame : ∀ c, alike c c)
    {before after before' after' piece : Text}
    (hsigma : ∀ front back, piece = front ++ 'Σ' :: back →
      List.Forall₂ alike (lowercaseAt (front.reverse ++ before) (back ++ after) 'Σ')
        (lowercaseAt (front.reverse ++ before') (back ++ after') 'Σ')) :
    List.Forall₂ alike (lowercaseBetween before after piece)
      (lowercaseBetween before' after' piece) := by
  induction piece generalizing before before' with
  | nil => exact .nil
  | cons c rest ih =>
      rw [lowercaseBetween, lowercaseBetween]
      apply List.rel_append
      · by_cases hc : c = 'Σ'
        · subst hc
          exact hsigma [] rest rfl
        · rw [lowercaseAt_of_ne hc before (rest ++ after) before' (rest ++ after')]
          exact List.forall₂_same.mpr fun d _ => hsame d
      · apply ih
        intro front back hrest
        have hlater := hsigma (c :: front) back (by rw [hrest, List.cons_append])
        simpa using hlater

/-- A text has one lowercase in surroundings in which its capital sigmas end the same
words. -/
theorem lowercaseBetween_congr {before after before' after' piece : Text}
    (h : ∀ front back, piece = front ++ 'Σ' :: back →
      endsWord (front.reverse ++ before) (back ++ after) =
        endsWord (front.reverse ++ before') (back ++ after')) :
    lowercaseBetween before after piece = lowercaseBetween before' after' piece := by
  have halike : List.Forall₂ Eq (lowercaseBetween before after piece)
      (lowercaseBetween before' after' piece) := by
    apply forall₂_lowercaseBetween (fun _ => rfl)
    intro front back hpiece
    rw [lowercaseAt_sigma, lowercaseAt_sigma, h front back hpiece]
    exact List.forall₂_same.mpr fun _ _ => rfl
  rwa [List.forall₂_eq_eq_eq] at halike

/-- The characters are equal, or a small sigma in the one is final in the other. -/
def Sharper (c d : Char) : Prop := c = d ∨ c = 'σ' ∧ d = 'ς'

/-- Where more capital sigmas end a word, more of the small ones are final. -/
theorem sharper_lowercaseBetween {before after before' after' : Text} (piece : Text)
    (h : ∀ front back, endsWord (front ++ before) (back ++ after) →
      endsWord (front ++ before') (back ++ after')) :
    List.Forall₂ Sharper (lowercaseBetween before after piece)
      (lowercaseBetween before' after' piece) := by
  apply forall₂_lowercaseBetween (fun c => .inl rfl)
  intro front back _
  have hmore := h front.reverse back
  rw [lowercaseAt_sigma, lowercaseAt_sigma]
  cases hless : endsWord (front.reverse ++ before) (back ++ after) with
  | true =>
      rw [hmore hless]
      exact .cons (.inl rfl) .nil
  | false =>
      cases endsWord (front.reverse ++ before') (back ++ after') with
      | true => exact .cons (.inr ⟨rfl, rfl⟩) .nil
      | false => exact .cons (.inl rfl) .nil

/-- A sharper text has fewer plain small sigmas and more final ones. -/
theorem count_of_sharper {text other : Text} (h : List.Forall₂ Sharper text other) :
    other.count 'σ' ≤ text.count 'σ' ∧ text.count 'ς' ≤ other.count 'ς' := by
  induction h with
  | nil => exact ⟨Nat.le_refl 0, Nat.le_refl 0⟩
  | cons hc _ ih =>
      rcases hc with rfl | ⟨rfl, rfl⟩
      · simp only [List.count_cons]
        omega
      · simp only [List.count_cons, beq_self_eq_true, if_true]
        rw [if_neg (by decide), if_neg (by decide)]
        omega

/-! ## Meeting a cased letter -/

/-- The rule for a final sigma looks through the whole text. -/
def Ignorable (text : Text) : Prop := ∀ c ∈ text, isCaseIgnorable c

instance (text : Text) : Decidable (Ignorable text) :=
  List.decidableBAll (fun c => isCaseIgnorable c = true) text

/-- The rule looks through a text in either direction. -/
theorem Ignorable.reverse {text : Text} (h : Ignorable text) : Ignorable text.reverse := by
  intro c hc
  exact h c (List.mem_reverse.mp hc)

/-- A text and its reverse are looked through or not. -/
theorem ignorable_reverse {text : Text} : Ignorable text.reverse ↔ Ignorable text := by
  constructor
  · intro h
    have hback := h.reverse
    rwa [List.reverse_reverse] at hback
  · exact Ignorable.reverse

/-- Behind a text that is looked through, the rest decides. -/
theorem meetsCased_append {text : Text} (h : Ignorable text) (more : Text) :
    meetsCased (text ++ more) = meetsCased more := by
  rw [meetsCased, List.dropWhile_append_of_pos h, meetsCased]

/-- A text that is looked through has no cased letter to be met. -/
theorem Ignorable.meetsCased_eq {text : Text} (h : Ignorable text) : meetsCased text = false := by
  have hmore := meetsCased_append h []
  rw [List.append_nil] at hmore
  exact hmore

/-- What stands behind a character that is not looked through is not met. -/
theorem meetsCased_append_of_not {text : Text} (h : ¬Ignorable text) (more : Text) :
    meetsCased (text ++ more) = meetsCased text := by
  have hne : text.dropWhile isCaseIgnorable ≠ [] := by
    intro hnil
    exact h (List.dropWhile_eq_nil_iff.mp hnil)
  obtain ⟨c, rest, hrest⟩ := List.exists_cons_of_ne_nil hne
  rw [meetsCased, List.dropWhile_append, hrest, meetsCased, hrest]
  rfl

/-- The text is empty, or begins with a character that ends every word. -/
def Apart (text : Text) : Prop :=
  ∀ c ∈ text.head?, isCaseIgnorable c = false ∧ isCased c = false

/-- Where nothing follows, a word ends. -/
theorem apart_nil : Apart [] := by simp [Apart]

/-- A blank ends every word. -/
theorem apart_blank (text : Text) : Apart (' ' :: text) := by
  intro c hc
  obtain rfl : ' ' = c := by simpa using hc
  decide +kernel

/-- A text that is apart is the same as none. -/
theorem Apart.meetsCased_append {more : Text} (h : Apart more) (text : Text) :
    meetsCased (text ++ more) = meetsCased text := by
  by_cases htext : Ignorable text
  · rw [TagFilter.meetsCased_append htext, htext.meetsCased_eq]
    cases more with
    | nil => rfl
    | cons c more =>
        obtain ⟨hignorable, hcased⟩ := h c (by simp)
        simp [meetsCased, hignorable, hcased]
  · exact meetsCased_append_of_not htext more

/-- Between texts that are apart, a piece has the lowercase that it has alone. -/
theorem Apart.lowercaseBetween_eq {before after : Text} (hbefore : Apart before)
    (hafter : Apart after) (piece : Text) :
    lowercaseBetween before after piece = lowercase piece := by
  rw [lowercase_eq_lowercaseBetween]
  apply lowercaseBetween_congr
  intro front back _
  rw [endsWord, endsWord, hbefore.meetsCased_append, hafter.meetsCased_append, List.append_nil,
    List.append_nil]

/-- A blank keeps the texts on its sides apart. -/
theorem lowercase_append_blank (left right : Text) :
    lowercase (left ++ ' ' :: right) = lowercase left ++ ' ' :: lowercase right := by
  have hblank : lowercaseAt [] [] ' ' = [' '] := by decide +kernel
  have hhere : ∀ before after, lowercaseAt before after ' ' = [' '] := by
    intro before after
    rw [lowercaseAt_of_ne (by decide) before after [] [], hblank]
  have hleft := apart_nil.lowercaseBetween_eq (apart_blank (right ++ [])) left
  have hright := (apart_blank (left.reverse ++ [])).lowercaseBetween_eq apart_nil right
  rw [lowercase_eq_lowercaseBetween, lowercaseBetween_append, lowercaseBetween, hhere, hright,
    List.cons_append, hleft]
  rfl

/-! ## Settled pieces -/

/-- The capital sigmas of a piece have their form whatever stands around it.  A gap, on
the sides that have one, is filled by any text; on the others there is none. -/
structure SettledPiece (gapBefore gapBehind : Prop) (piece : Text) : Prop where
  /-- A sigma that sees into the gap before it has a cased letter behind it. -/
  before : gapBefore → ∀ front back, piece = front ++ 'Σ' :: back →
    Ignorable front → meetsCased back
  /-- A sigma that sees into the gap behind it has no cased letter before it. -/
  behind : gapBehind → ∀ front back, piece = front ++ 'Σ' :: back →
    Ignorable back → meetsCased front.reverse = false

/-- The ways to cut a list in front of and behind one of its elements, by number. -/
theorem forall_cut_iff {α : Type} {list : List α} (property : List α → α → List α → Prop) :
    (∀ front x back, list = front ++ x :: back → property front x back) ↔
      ∀ (i : Nat) (h : i < list.length),
        property (list.take i) (list.get ⟨i, h⟩) (list.drop (i + 1)) := by
  constructor
  · intro h i hi
    have hcut : list = list.take i ++ list.get ⟨i, hi⟩ :: list.drop (i + 1) := by simp
    exact h _ _ _ hcut
  · rintro h front x back rfl
    have hcut := h front.length (by simp)
    simpa using hcut

instance (gapBefore gapBehind : Prop) [Decidable gapBefore] [Decidable gapBehind] (piece : Text) :
    Decidable (SettledPiece gapBefore gapBehind piece) :=
  decidable_of_iff
    (∀ (i : Nat) (h : i < piece.length), piece.get ⟨i, h⟩ = 'Σ' →
      (gapBefore → Ignorable (piece.take i) → meetsCased (piece.drop (i + 1))) ∧
      (gapBehind → Ignorable (piece.drop (i + 1)) → meetsCased (piece.take i).reverse = false))
    (by
      rw [← forall_cut_iff fun front c back => c = 'Σ' →
        (gapBefore → Ignorable front → meetsCased back) ∧
        (gapBehind → Ignorable back → meetsCased front.reverse = false)]
      constructor
      · intro h
        exact ⟨fun hgap front back hpiece => (h front 'Σ' back hpiece rfl).1 hgap,
          fun hgap front back hpiece => (h front 'Σ' back hpiece rfl).2 hgap⟩
      · rintro h front c back hpiece rfl
        exact ⟨fun hgap => h.before hgap front back hpiece,
          fun hgap => h.behind hgap front back hpiece⟩)

/-- **Settled pieces.**  They have the same lowercase wherever they stand. -/
theorem SettledPiece.lowercaseBetween_eq {gapBefore gapBehind : Prop} {before after piece : Text}
    (h : SettledPiece gapBefore gapBehind piece) (hbefore : before = [] ∨ gapBefore)
    (hafter : after = [] ∨ gapBehind) :
    lowercaseBetween before after piece = lowercase piece := by
  rw [lowercase_eq_lowercaseBetween]
  apply lowercaseBetween_congr
  intro front back hpiece
  rw [List.append_nil, List.append_nil, endsWord, endsWord]
  by_cases hfront : Ignorable front
  · have hnone : meetsCased front.reverse = false := hfront.reverse.meetsCased_eq
    rcases hbefore with rfl | hgap
    -- no letter stands before the sigma at all
    · rw [List.append_nil, hnone, Bool.false_and, Bool.false_and]
    · have hcased : meetsCased back := h.before hgap front back hpiece hfront
      have hback : ¬Ignorable back := by
        intro hignorable
        rw [hignorable.meetsCased_eq] at hcased
        cases hcased
      rw [meetsCased_append_of_not hback, hcased, Bool.not_true, Bool.and_false, Bool.and_false]
  · have hreverse : ¬Ignorable front.reverse := fun hback => hfront (ignorable_reverse.mp hback)
    rw [meetsCased_append_of_not hreverse]
    by_cases hback : Ignorable back
    · rcases hafter with rfl | hgap
      · rw [List.append_nil]
      · rw [h.behind hgap front back hpiece hback, Bool.false_and, Bool.false_and]
    · rw [meetsCased_append_of_not hback]

/-! ## Pieces that are not settled -/

/-- Where one capital sigma ends a word in the second surroundings only, and no other in
the first only, the lowercase in the second has fewer small sigmas that are not final, and
more that are. -/
theorem count_lowercaseBetween {before after before' after' front back : Text}
    (hmore : ∀ front back, endsWord (front ++ before) (back ++ after) →
      endsWord (front ++ before') (back ++ after'))
    (hhere : endsWord (front.reverse ++ before) (back ++ after) = false)
    (hthere : endsWord (front.reverse ++ before') (back ++ after')) :
    (lowercaseBetween before' after' (front ++ 'Σ' :: back)).count 'σ' <
        (lowercaseBetween before after (front ++ 'Σ' :: back)).count 'σ' ∧
      (lowercaseBetween before after (front ++ 'Σ' :: back)).count 'ς' <
        (lowercaseBetween before' after' (front ++ 'Σ' :: back)).count 'ς' := by
  have hfront : List.Forall₂ Sharper (lowercaseBetween before ('Σ' :: back ++ after) front)
      (lowercaseBetween before' ('Σ' :: back ++ after') front) := by
    apply sharper_lowercaseBetween
    intro first second hends
    have hfirst := hmore first (second ++ 'Σ' :: back)
    rw [List.append_assoc, List.append_assoc] at hfirst
    exact hfirst hends
  have hback : List.Forall₂ Sharper
      (lowercaseBetween ('Σ' :: (front.reverse ++ before)) after back)
      (lowercaseBetween ('Σ' :: (front.reverse ++ before')) after' back) := by
    apply sharper_lowercaseBetween
    intro first second hends
    have hsecond := hmore (first ++ 'Σ' :: front.reverse) second
    rw [List.append_assoc, List.append_assoc] at hsecond
    exact hsecond hends
  have hfrontCount := count_of_sharper hfront
  have hbackCount := count_of_sharper hback
  have hsigma : (['σ'] : Text).count 'σ' = 1 ∧ (['ς'] : Text).count 'σ' = 0 ∧
      (['σ'] : Text).count 'ς' = 0 ∧ (['ς'] : Text).count 'ς' = 1 := by decide
  simp only [lowercaseBetween_append, lowercaseBetween, lowercaseAt_sigma, hhere, hthere,
    List.count_append, if_true, Bool.false_eq_true, if_false]
  omega

/-- The letter that is put next to a piece is met: it is cased and not looked through. -/
theorem ignorable_letter : isCaseIgnorable 'A' = false ∧ isCased 'A' = true := by decide +kernel

/-- A letter at the end of a text is met, unless something else is. -/
theorem meetsCased_append_letter {text : Text} (h : Ignorable text ∨ meetsCased text) :
    meetsCased (text ++ ['A']) = true := by
  by_cases htext : Ignorable text
  · rw [meetsCased_append htext]
    simp [meetsCased, ignorable_letter]
  · rw [meetsCased_append_of_not htext]
    exact h.resolve_left htext

/-- A sigma that sees what stands before its piece is final behind a letter. -/
theorem count_lowercase_behind_letter {front back : Text} (hfront : Ignorable front)
    (hback : meetsCased back = false) :
    (lowercaseBetween ['A'] [] (front ++ 'Σ' :: back)).count 'σ' <
      (lowercase (front ++ 'Σ' :: back)).count 'σ' := by
  rw [lowercase_eq_lowercaseBetween]
  refine (count_lowercaseBetween ?_ ?_ ?_).1
  · intro first second hends
    simp only [endsWord, List.append_nil, Bool.and_eq_true] at hends ⊢
    exact ⟨meetsCased_append_letter (.inr hends.1), hends.2⟩
  · rw [endsWord, List.append_nil, hfront.reverse.meetsCased_eq, Bool.false_and]
  · rw [endsWord, List.append_nil, meetsCased_append_letter (.inl hfront.reverse), hback]
    rfl

/-- A sigma that sees what stands behind its piece is not final in front of a letter. -/
theorem count_lowercase_before_letter {front back : Text} (hback : Ignorable back)
    (hfront : meetsCased front.reverse) :
    (lowercaseBetween [] ['A'] (front ++ 'Σ' :: back)).count 'ς' <
      (lowercase (front ++ 'Σ' :: back)).count 'ς' := by
  rw [lowercase_eq_lowercaseBetween]
  refine (count_lowercaseBetween ?_ ?_ ?_).2
  · intro first second hends
    simp only [endsWord, List.append_nil, Bool.and_eq_true, Bool.not_eq_true'] at hends ⊢
    refine ⟨hends.1, ?_⟩
    by_cases hsecond : meetsCased second
    · rw [meetsCased_append_letter (.inr hsecond)] at hends
      exact absurd hends.2 (by decide)
    · exact Bool.eq_false_iff.mpr hsecond
  · rw [endsWord, List.append_nil, meetsCased_append_letter (.inl hback), Bool.not_true,
      Bool.and_false]
  · rw [endsWord, List.append_nil, List.append_nil, hfront, hback.meetsCased_eq]
    rfl

end TagFilter
