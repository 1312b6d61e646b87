import TagFilter.Proofs.Flattening

/-!
# What a match asks

A match goes through the operands of a connective from left to right and leaves out
those behind the one that decides.  That loses nothing and asks nothing twice.

* The answer is the value of the query, in which every operand has its part
  (`Query.holds_ask`).
* A leaf is reached if, in every connective above it, all operands before the one
  with the leaf leave the connective undecided (`Query.Reached`).  What was asked is
  what the reached leaves ask, one after the other from left to right
  (`Query.asked_eq_of_reached`).

Places in a query are lists of numbers: which operand to go down to, from the root on.
So the order of places from left to right is the lexicographic one.
-/

namespace TagFilter

/-- A search finds out whether some tag is wanted, and has listed the tags up to the
first that is, or all of them. -/
theorem search_eq (wanted : Text → Bool) (tags : List Text) :
    search wanted tags =
      ⟨tags.any wanted, (tags.take (tags.findIdx wanted + 1)).map .next⟩ := by
  induction tags with
  | nil => rfl
  | cons tag tags ih =>
      rw [search]
      by_cases htag : wanted tag
      · simp [htag, List.findIdx_cons]
      · simp [htag, List.findIdx_cons, ih, Answer.after]

namespace Query

/-! ## Places -/

/-- The part of a query at a place. -/
def at? : Query → List Nat → Option Query
  | query, [] => some query
  | query, i :: place =>
    match query.children[i]? with
    | some operand => operand.at? place
    | none => none

/-- At the root stands the query itself. -/
theorem at?_nil (query : Query) : query.at? [] = some query := by
  rw [at?]

/-- A place below an operand is a place of the operand. -/
theorem at?_cons {query operand : Query} {i : Nat} (h : query.children[i]? = some operand)
    (place : List Nat) : query.at? (i :: place) = operand.at? place := by
  rw [at?, h]

/-- A place that is not the root is below some operand. -/
theorem exists_child_of_at?_cons {query part : Query} {i : Nat} {place : List Nat}
    (h : query.at? (i :: place) = some part) :
    ∃ operand, query.children[i]? = some operand ∧ operand.at? place = some part := by
  cases hchild : query.children[i]? with
  | none => simp [at?, hchild] at h
  | some operand =>
      rw [at?_cons hchild] at h
      exact ⟨operand, rfl, h⟩

/-- The places of an operand are places of the connective, behind its number. -/
theorem at?_join (connective : Connective) {operands : List Query} {query : Query} {i : Nat}
    (h : operands[i]? = some query) (place : List Nat) :
    (connective.join operands).at? (i :: place) = query.at? place := by
  rw [← connective.children_join operands] at h
  exact at?_cons h place

/-- The one operand of a negation has the number zero. -/
theorem at?_negation (query : Query) (place : List Nat) :
    query.negation.at? (0 :: place) = query.at? place := at?_cons rfl place

/-- The query is at the end of a branch. -/
inductive IsLeaf : Query → Prop
  | empty : IsLeaf .empty
  | tag (name : Text) : IsLeaf (.tag name)
  | glob (g : Glob) : IsLeaf (.glob g)

/-- A leaf has no operands. -/
theorem IsLeaf.children_eq_nil {query : Query} (h : query.IsLeaf) : query.children = [] := by
  cases h <;> rfl

/-- A leaf has no other part than itself. -/
theorem IsLeaf.eq_of_at? {query part : Query} {place : List Nat} (h : query.IsLeaf)
    (hat : query.at? place = some part) : place = [] ∧ part = query := by
  cases place with
  | nil =>
      rw [at?_nil] at hat
      exact ⟨rfl, (Option.some.inj hat).symm⟩
  | cons i below =>
      obtain ⟨operand, hchild, -⟩ := exists_child_of_at?_cons hat
      simp [h.children_eq_nil] at hchild

/-- A connective is no leaf, even without operands. -/
theorem not_isLeaf_join (connective : Connective) (operands : List Query) :
    ¬(connective.join operands).IsLeaf := by
  intro h
  cases connective <;> cases h

/-- A leaf of any other query is at a place below one of its operands. -/
theorem exists_child_of_leaf_at? {query leaf : Query} {place : List Nat} (h : leaf.IsLeaf)
    (hquery : ¬query.IsLeaf) (hat : query.at? place = some leaf) :
    ∃ i operand below, place = i :: below ∧ query.children[i]? = some operand ∧
      operand.at? below = some leaf := by
  cases place with
  | nil =>
      rw [at?_nil] at hat
      obtain rfl := Option.some.inj hat
      exact absurd h hquery
  | cons i below =>
      obtain ⟨operand, hchild, hbelow⟩ := exists_child_of_at?_cons hat
      exact ⟨i, operand, below, rfl, hchild, hbelow⟩

/-- A leaf of a connective is at a place below one of its operands. -/
theorem leaf_at?_join (connective : Connective) {operands : List Query} {leaf : Query}
    (h : leaf.IsLeaf) {place : List Nat} :
    (connective.join operands).at? place = some leaf ↔
      ∃ i query below, place = i :: below ∧ operands[i]? = some query ∧
        query.at? below = some leaf := by
  constructor
  · intro hplace
    have hplaces := exists_child_of_leaf_at? h (not_isLeaf_join connective operands) hplace
    rwa [connective.children_join] at hplaces
  · rintro ⟨i, query, below, rfl, hi, hbelow⟩
    rw [at?_join connective hi, hbelow]

/-- A leaf of a negation is at a place below its operand, which has the number zero. -/
theorem leaf_at?_negation {query leaf : Query} (h : leaf.IsLeaf) {place : List Nat} :
    query.negation.at? place = some leaf ↔
      ∃ below, place = 0 :: below ∧ query.at? below = some leaf := by
  constructor
  · intro hplace
    have hquery : ¬query.negation.IsLeaf := nofun
    obtain ⟨i, operand, below, rfl, hchild, hbelow⟩ := exists_child_of_leaf_at? h hquery hplace
    cases i with
    | zero =>
        obtain rfl := Option.some.inj hchild
        exact ⟨below, rfl, hbelow⟩
    | succ i => simp [children] at hchild
  · rintro ⟨below, rfl, hbelow⟩
    rw [at?_negation, hbelow]

/-- The leaves of a connective are those of its operands. -/
theorem leaf_at?_join_iff (connective : Connective) {operands : List Query} {leaf : Query}
    (h : leaf.IsLeaf) :
    (∃ place, (connective.join operands).at? place = some leaf) ↔
      ∃ query ∈ operands, ∃ place, query.at? place = some leaf := by
  constructor
  · rintro ⟨place, hplace⟩
    obtain ⟨i, query, below, -, hi, hbelow⟩ := (leaf_at?_join connective h).mp hplace
    exact ⟨query, List.mem_of_getElem? hi, below, hbelow⟩
  · rintro ⟨query, hmem, place, hplace⟩
    obtain ⟨i, hi⟩ := List.getElem?_of_mem hmem
    exact ⟨i :: place, (at?_join connective hi place).trans hplace⟩

/-- The leaves of a negation are those of its operand. -/
theorem leaf_at?_negation_iff {query leaf : Query} (h : leaf.IsLeaf) :
    (∃ place, query.negation.at? place = some leaf) ↔ ∃ place, query.at? place = some leaf := by
  constructor
  · rintro ⟨place, hplace⟩
    obtain ⟨below, -, hbelow⟩ := (leaf_at?_negation h).mp hplace
    exact ⟨below, hbelow⟩
  · rintro ⟨place, hplace⟩
    exact ⟨0 :: place, (at?_negation query place).trans hplace⟩

/-- Induction over a query, with one case for both connectives. -/
theorem join_induction {motive : Query → Prop} (leaf : ∀ query, query.IsLeaf → motive query)
    (join : ∀ (connective : Connective) (operands : List Query),
      (∀ query ∈ operands, motive query) → motive (connective.join operands))
    (negation : ∀ query, motive query → motive query.negation) (query : Query) :
    motive query := by
  induction query with
  | empty => exact leaf _ .empty
  | tag name => exact leaf _ (.tag name)
  | glob g => exact leaf _ (.glob g)
  | join connective operands ih => exact join connective operands ih
  | negation query ih => exact negation query ih

section Matching

variable {κ : Type} [Collection κ] (matching : Matching) (tags : κ)

/-! ## Values and questions, without a match -/

/-- What a tag is tried with for a glob. -/
def globTest (g : Glob) : Text → Bool :=
  if matching.caseSensitive then g.accepts
  else fun tag => g.lowercase.accepts (lowercase tag)

mutual

/-- The truth value of a query: every operand of a connective has its part. -/
def value : Query → Bool
  | .empty => matching.emptyMatchesAll
  | .tag name =>
    if matching.caseSensitive then Collection.has tags name
    else (Collection.tags tags).any fun tag => lowercase tag = lowercase name
  | .glob g => (Collection.tags tags).any (globTest matching g)
  | .all operands => (values operands).all id
  | .any operands => (values operands).any id
  | .negation operand => !operand.value

/-- The truth values of some queries. -/
def values : List Query → List Bool
  | [] => []
  | query :: queries => query.value :: values queries

end

/-- Operands have their values one by one. -/
theorem values_eq_map (queries : List Query) :
    values matching tags queries = queries.map (value matching tags) := by
  induction queries with
  | nil => rfl
  | cons query queries ih => rw [values, ih, List.map_cons]

/-- What is asked to find a wanted tag: for the tags, up to the first that is wanted,
or for all of them. -/
def listing (wanted : Text → Bool) : List Question :=
  .tags :: ((Collection.tags tags).take ((Collection.tags tags).findIdx wanted + 1)).map .next

/-- What a leaf asks by itself. -/
def leafLog : Query → List Question
  | .tag name =>
    if matching.caseSensitive then [.has name]
    else listing tags fun tag => lowercase tag = lowercase name
  | .glob g => listing tags (globTest matching g)
  | .empty | .all _ | .any _ | .negation _ => []

/-- A match comes to the place: before the way to it, every operand of a connective
leaves the connective undecided. -/
def Reached (query : Query) (place : List Nat) : Prop :=
  ∀ (above : List Nat) (i : Nat) (below : List Nat) (connective : Connective)
    (operands : List Query), place = above ++ i :: below →
      query.at? above = some (connective.join operands) →
        ∀ operand ∈ operands.take i, operand.value matching tags = connective.undecided

/-! ## The answer -/

/-- A search for a wanted tag finds whether there is one, and asks what it has to. -/
theorem askTags_eq (wanted : Text → Bool) :
    askTags tags wanted = ⟨(Collection.tags tags).any wanted, listing tags wanted⟩ := by
  rw [askTags, search_eq]
  rfl

/-- A leaf asks what it asks by itself, and finds its value. -/
theorem IsLeaf.ask_eq {query : Query} (h : query.IsLeaf) :
    query.ask matching tags = ⟨query.value matching tags, query.leafLog matching tags⟩ := by
  cases h with
  | empty => rw [ask, value, leafLog]
  | tag name =>
      rw [ask, value, leafLog, askTag, askTags_eq]
      split <;> rfl
  | glob g =>
      rw [ask, value, leafLog, askGlob, askTags_eq, askTags_eq, globTest]
      split <;> rfl

/-- The first operand decides a connective, or leaves it to the others. -/
theorem value_join_cons (connective : Connective) (query : Query) (operands : List Query) :
    (connective.join (query :: operands)).value matching tags =
      if query.value matching tags = connective.undecided then
        (connective.join operands).value matching tags
      else query.value matching tags := by
  cases connective with
  | all =>
      rw [Connective.join, value, values, value, Connective.undecided]
      cases query.value matching tags <;> simp
  | any =>
      rw [Connective.join, value, values, value, Connective.undecided]
      cases query.value matching tags <;> simp

/-- A conjunction is true if every operand is. -/
theorem value_all_iff {operands : List Query} :
    (Query.all operands).value matching tags = true ↔
      ∀ query ∈ operands, query.value matching tags = true := by
  rw [value, values_eq_map]
  simp

/-- A disjunction is true if some operand is. -/
theorem value_any_iff {operands : List Query} :
    (Query.any operands).value matching tags = true ↔
      ∃ query ∈ operands, query.value matching tags = true := by
  rw [value, values_eq_map]
  simp

/-- Operands that are asked in turn answer with the value of their connective. -/
theorem holds_askOperands (connective : Connective) {operands : List Query}
    (h : ∀ query ∈ operands, (query.ask matching tags).holds = query.value matching tags) :
    (connective.askOperands matching tags operands).holds =
      (connective.join operands).value matching tags := by
  induction operands with
  | nil => cases connective <;> rfl
  | cons query operands ih =>
      have hquery := h query List.mem_cons_self
      have hoperands := ih fun other hother => h other (List.mem_cons_of_mem query hother)
      rw [connective.askOperands_cons, value_join_cons, hquery]
      split
      · exact hoperands
      · exact hquery

/-- **The answer is the value.**  Leaving out the operands behind the one that decides
does not change what comes out. -/
theorem holds_ask (query : Query) :
    (query.ask matching tags).holds = query.value matching tags := by
  induction query using join_induction with
  | leaf query hleaf => rw [hleaf.ask_eq]
  | join connective operands ih =>
      rw [ask_join]
      exact holds_askOperands matching tags connective ih
  | negation query ih => rw [ask, value, ih]

/-! ## Reached places -/

/-- A match comes to the root in any case. -/
theorem reached_nil (query : Query) : query.Reached matching tags [] := by
  intro above i below connective operands hplace
  simp at hplace

/-- A place below an operand is reached if the operands before that one leave their
connective undecided, and the place is reached in the operand. -/
theorem reached_cons {query operand : Query} {i : Nat} (hchild : query.children[i]? = some operand)
    (below : List Nat) :
    query.Reached matching tags (i :: below) ↔
      (∀ (connective : Connective) (operands : List Query), query = connective.join operands →
        ∀ before ∈ operands.take i, before.value matching tags = connective.undecided) ∧
      operand.Reached matching tags below := by
  constructor
  · intro h
    constructor
    · intro connective operands hquery
      exact h [] i below connective operands rfl (by rw [at?_nil, hquery])
    · intro above j under connective operands hplace hat
      have hlonger : i :: below = (i :: above) ++ j :: under := congrArg (i :: ·) hplace
      exact h (i :: above) j under connective operands hlonger ((at?_cons hchild above).trans hat)
  · rintro ⟨hbefore, hbelow⟩ above j under connective operands hplace hat
    cases above with
    | nil =>
        obtain ⟨rfl, -⟩ := List.cons.inj hplace
        rw [at?_nil] at hat
        exact hbefore connective operands (Option.some.inj hat)
    | cons k above =>
        obtain ⟨rfl, hunder⟩ := List.cons.inj hplace
        have habove := (at?_cons hchild above).symm.trans hat
        exact hbelow above j under connective operands hunder habove

/-- Below an operand of a connective, that is the connective that has to be undecided. -/
theorem reached_join (connective : Connective) {operands : List Query} {query : Query} {i : Nat}
    (h : operands[i]? = some query) (below : List Nat) :
    (connective.join operands).Reached matching tags (i :: below) ↔
      (∀ before ∈ operands.take i, before.value matching tags = connective.undecided) ∧
      query.Reached matching tags below := by
  have hchild : (connective.join operands).children[i]? = some query := by
    rw [connective.children_join, h]
  rw [reached_cons matching tags hchild]
  constructor
  · rintro ⟨hbefore, hbelow⟩
    exact ⟨hbefore connective operands rfl, hbelow⟩
  · rintro ⟨hbefore, hbelow⟩
    refine ⟨?_, hbelow⟩
    intro other queries hjoin
    obtain ⟨rfl, rfl⟩ := Connective.join_inj hjoin
    exact hbefore

/-- A negation has nothing that could decide before its operand. -/
theorem reached_negation (query : Query) (below : List Nat) :
    query.negation.Reached matching tags (0 :: below) ↔ query.Reached matching tags below := by
  rw [reached_cons matching tags (rfl : query.negation.children[0]? = some query)]
  refine and_iff_right ?_
  intro connective operands hjoin
  cases connective <;> cases hjoin

/-- The places of leaves below the operand with this number. -/
def belowOperand (i : Nat) (leaves : List (List Nat × Query)) : List (List Nat × Query) :=
  leaves.map fun found => (i :: found.1, found.2)

mutual

/-- The leaves that a match comes to, with their places. -/
def reachedLeaves : Query → List (List Nat × Query)
  | .all operands => reachedAmong .all 0 operands
  | .any operands => reachedAmong .any 0 operands
  | .negation operand => belowOperand 0 operand.reachedLeaves
  | query => [([], query)]

/-- The leaves that a match comes to in the operands of a connective, of which the first
has the number `i`. -/
def reachedAmong (connective : Connective) (i : Nat) : List Query → List (List Nat × Query)
  | [] => []
  | query :: queries =>
    belowOperand i query.reachedLeaves ++
      if query.value matching tags = connective.undecided then
        reachedAmong connective (i + 1) queries
      else []

end

/-- The leaves of a connective are reached in its operands. -/
theorem reachedLeaves_join (connective : Connective) (operands : List Query) :
    (connective.join operands).reachedLeaves matching tags =
      reachedAmong matching tags connective 0 operands := by
  cases connective <;> rw [Connective.join, reachedLeaves]

/-- A leaf is the only one that is reached in itself. -/
theorem IsLeaf.reachedLeaves_eq {query : Query} (h : query.IsLeaf) :
    query.reachedLeaves matching tags = [([], query)] := by
  cases h <;> rw [reachedLeaves] <;> simp

/-- The places below an operand are its own, behind its number. -/
theorem mem_belowOperand {i : Nat} {leaves : List (List Nat × Query)} {place : List Nat}
    {leaf : Query} :
    (place, leaf) ∈ belowOperand i leaves ↔
      ∃ below, place = i :: below ∧ (below, leaf) ∈ leaves := by
  rw [belowOperand, List.mem_map]
  constructor
  · rintro ⟨⟨below, other⟩, hmem, hpair⟩
    obtain ⟨rfl, rfl⟩ := Prod.mk.inj hpair
    exact ⟨below, rfl, hmem⟩
  · rintro ⟨below, rfl, hmem⟩
    exact ⟨(below, leaf), hmem, rfl⟩

/-- A leaf of an operand is reached if all operands before that leave the connective undecided
and it is reached in the operand. -/
theorem mem_reachedAmong {connective : Connective} {n : Nat} {operands : List Query}
    {place : List Nat} {leaf : Query} :
    (place, leaf) ∈ reachedAmong matching tags connective n operands ↔
      ∃ i query below, place = (n + i) :: below ∧ operands[i]? = some query ∧
        (∀ before ∈ operands.take i, before.value matching tags = connective.undecided) ∧
        (below, leaf) ∈ query.reachedLeaves matching tags := by
  induction operands generalizing n with
  | nil => simp [reachedAmong]
  | cons query operands ih =>
      rw [reachedAmong, List.mem_append, mem_belowOperand]
      constructor
      · rintro (⟨below, rfl, hmem⟩ | hlater)
        · exact ⟨0, query, below, rfl, rfl, by simp, hmem⟩
        -- the later operands count from one on, and are reached only behind an undecided first
        · split at hlater
          · rename_i hundecided
            obtain ⟨i, other, below, rfl, hother, hbefore, hmem⟩ := ih.mp hlater
            refine ⟨i + 1, other, below, ?_, hother, ?_, hmem⟩
            · rw [Nat.add_right_comm, Nat.add_assoc]
            · rw [List.take_succ_cons, List.forall_mem_cons]
              exact ⟨hundecided, hbefore⟩
          · simp at hlater
      · rintro ⟨i, other, below, rfl, hother, hbefore, hmem⟩
        cases i with
        | zero =>
            obtain rfl := Option.some.inj hother
            exact .inl ⟨below, rfl, hmem⟩
        | succ i =>
            rw [List.take_succ_cons, List.forall_mem_cons] at hbefore
            obtain ⟨hundecided, hbefore⟩ := hbefore
            rw [if_pos hundecided]
            refine .inr (ih.mpr ⟨i, other, below, ?_, hother, hbefore, hmem⟩)
            rw [Nat.add_right_comm, Nat.add_assoc]

/-- **Reached leaves.**  The match comes to the leaves at the reached places, and to no
others. -/
theorem mem_reachedLeaves {query : Query} {place : List Nat} {leaf : Query} :
    (place, leaf) ∈ query.reachedLeaves matching tags ↔
      query.at? place = some leaf ∧ leaf.IsLeaf ∧ query.Reached matching tags place := by
  induction query using join_induction generalizing place with
  | leaf query hleaf =>
      rw [hleaf.reachedLeaves_eq, List.mem_singleton, Prod.mk.injEq]
      constructor
      · rintro ⟨rfl, rfl⟩
        exact ⟨at?_nil leaf, hleaf, reached_nil matching tags leaf⟩
      · rintro ⟨hat, -, -⟩
        exact hleaf.eq_of_at? hat
  | join connective operands ih =>
      rw [reachedLeaves_join, mem_reachedAmong]
      constructor
      · rintro ⟨i, query, below, rfl, hquery, hbefore, hmem⟩
        obtain ⟨hat, hleaf, hbelow⟩ := (ih query (List.mem_of_getElem? hquery)).mp hmem
        rw [Nat.zero_add, at?_join connective hquery, reached_join matching tags connective hquery]
        exact ⟨hat, hleaf, hbefore, hbelow⟩
      · rintro ⟨hat, hleaf, hreached⟩
        obtain ⟨i, query, below, rfl, hi, hbelow⟩ := (leaf_at?_join connective hleaf).mp hat
        obtain ⟨hbefore, hquery⟩ := (reached_join matching tags connective hi below).mp hreached
        have hmem := (ih query (List.mem_of_getElem? hi)).mpr ⟨hbelow, hleaf, hquery⟩
        exact ⟨i, query, below, by rw [Nat.zero_add], hi, hbefore, hmem⟩
  | negation query ih =>
      rw [reachedLeaves, mem_belowOperand]
      constructor
      · rintro ⟨below, rfl, hmem⟩
        obtain ⟨hat, hleaf, hbelow⟩ := ih.mp hmem
        rw [at?_negation, reached_negation]
        exact ⟨hat, hleaf, hbelow⟩
      · rintro ⟨hat, hleaf, hreached⟩
        obtain ⟨below, rfl, hbelow⟩ := (leaf_at?_negation hleaf).mp hat
        have hoperand := (reached_negation matching tags query below).mp hreached
        exact ⟨below, rfl, ih.mpr ⟨hbelow, hleaf, hoperand⟩⟩

/-! ## The order of the questions -/

/-- Places keep their order below an operand. -/
theorem pairwise_belowOperand (i : Nat) {leaves : List (List Nat × Query)}
    (h : leaves.Pairwise fun first second => first.1 < second.1) :
    (belowOperand i leaves).Pairwise fun first second => first.1 < second.1 := by
  rw [belowOperand, List.pairwise_map]
  refine h.imp ?_
  intro first second hlt
  exact List.cons_lt_cons_self.mpr hlt

/-- The leaves come from left to right, and each of them once. -/
theorem pairwise_reachedAmong {connective : Connective} {operands : List Query}
    (h : ∀ query ∈ operands,
      (query.reachedLeaves matching tags).Pairwise fun first second => first.1 < second.1)
    (n : Nat) :
    (reachedAmong matching tags connective n operands).Pairwise
      fun first second => first.1 < second.1 := by
  induction operands generalizing n with
  | nil => exact .nil
  | cons query operands ih =>
      have hquery := pairwise_belowOperand n (h query List.mem_cons_self)
      have hlater := ih (fun other hother => h other (List.mem_cons_of_mem query hother)) (n + 1)
      rw [reachedAmong]
      split
      · rw [List.pairwise_append]
        refine ⟨hquery, hlater, ?_⟩
        rintro ⟨first, leaf⟩ hfirst ⟨second, other⟩ hsecond
        obtain ⟨below, rfl, -⟩ := mem_belowOperand.mp hfirst
        obtain ⟨i, -, under, rfl, -⟩ := (mem_reachedAmong matching tags).mp hsecond
        have hlt : n < n + 1 + i := by omega
        exact List.cons_lt_cons_iff.mpr (.inl hlt)
      · rw [List.append_nil]
        exact hquery

/-- Leaves are reached in ascending order of their places. -/
theorem pairwise_reachedLeaves (query : Query) :
    (query.reachedLeaves matching tags).Pairwise fun first second => first.1 < second.1 := by
  induction query using join_induction with
  | leaf query hleaf =>
      rw [hleaf.reachedLeaves_eq]
      exact List.pairwise_singleton _ _
  | join connective operands ih =>
      rw [reachedLeaves_join]
      exact pairwise_reachedAmong matching tags ih 0
  | negation query ih =>
      rw [reachedLeaves]
      exact pairwise_belowOperand 0 ih

/-- What some leaves ask, one after the other. -/
def leafLogs (leaves : List (List Nat × Query)) : List Question :=
  leaves.flatMap fun found => found.2.leafLog matching tags

/-- Leaves ask one after the other. -/
theorem leafLogs_append (before after : List (List Nat × Query)) :
    leafLogs matching tags (before ++ after) =
      leafLogs matching tags before ++ leafLogs matching tags after := List.flatMap_append

/-- What leaves ask does not depend on their places. -/
theorem leafLogs_belowOperand (i : Nat) (leaves : List (List Nat × Query)) :
    leafLogs matching tags (belowOperand i leaves) = leafLogs matching tags leaves := by
  rw [leafLogs, belowOperand, List.flatMap_map]
  rfl

/-- Operands that are asked in turn ask what the leaves ask that are reached in them. -/
theorem asked_askOperands {connective : Connective} {operands : List Query}
    (h : ∀ query ∈ operands, (query.ask matching tags).asked =
      leafLogs matching tags (query.reachedLeaves matching tags)) (n : Nat) :
    (connective.askOperands matching tags operands).asked =
      leafLogs matching tags (reachedAmong matching tags connective n operands) := by
  induction operands generalizing n with
  | nil => cases connective <;> rfl
  | cons query operands ih =>
      have hquery := h query List.mem_cons_self
      have hlater := ih (fun other hother => h other (List.mem_cons_of_mem query hother)) (n + 1)
      rw [connective.askOperands_cons, reachedAmong, holds_ask, leafLogs_append,
        leafLogs_belowOperand, ← hquery]
      split
      · rw [← hlater]
        rfl
      · exact (List.append_nil _).symm

/-- **The questions are those of the reached leaves.** -/
theorem asked_ask (query : Query) :
    (query.ask matching tags).asked =
      leafLogs matching tags (query.reachedLeaves matching tags) := by
  induction query using join_induction with
  | leaf query hleaf =>
      rw [hleaf.ask_eq, hleaf.reachedLeaves_eq]
      exact (List.append_nil _).symm
  | join connective operands ih =>
      rw [ask_join, reachedLeaves_join]
      exact asked_askOperands matching tags ih 0
  | negation query ih =>
      rw [ask, reachedLeaves, leafLogs_belowOperand]
      exact ih

/-- **Short-circuit evaluation is exact.**  A match finds the value of the query, and
what it asks is what its reached leaves ask, one after the other: from left to right,
and each of them once. -/
theorem asked_eq_of_reached (query : Query) :
    (query.ask matching tags).holds = query.value matching tags ∧
      ∃ leaves : List (List Nat × Query),
        (∀ place leaf, (place, leaf) ∈ leaves ↔
          query.at? place = some leaf ∧ leaf.IsLeaf ∧ query.Reached matching tags place) ∧
        (leaves.Pairwise fun first second => first.1 < second.1) ∧
        (query.ask matching tags).asked =
          leaves.flatMap fun found => found.2.leafLog matching tags := by
  refine ⟨holds_ask matching tags query, query.reachedLeaves matching tags, ?_, ?_, ?_⟩
  · exact fun place leaf => mem_reachedLeaves matching tags
  · exact pairwise_reachedLeaves matching tags query
  · exact asked_ask matching tags query

end Matching

/-- The first tag decides the disjunction, and the search for the glob stops at the
second tag. -/
example : (Query.all [.any [.tag ['a'], .tag ['b']], .glob ⟨['c'], [[]]⟩]).ask {}
    [['a'], ['c', 'd'], ['e']] =
      ⟨true, [.has ['a'], .tags, .next ['a'], .next ['c', 'd']]⟩ := by decide

end Query

end TagFilter
