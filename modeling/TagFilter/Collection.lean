import Std.Data.HashSet
import Std.Data.TreeSet
import TagFilter.Blank

/-!
# Collections of tags

What a filter is asked about: the tags of one item.  A collection can say
whether it has a tag, and can list its tags one after the other.  In a lawful
collection the two agree.
-/

namespace TagFilter

/-- A type whose values hold tags. -/
class Collection (κ : Type) where
  /-- Whether the collection has exactly this tag. -/
  has : κ → Text → Bool
  /-- Every tag of the collection, in the order in which it gives them. -/
  tags : κ → List Text

/-- The tags that a collection has are the tags it lists. -/
class LawfulCollection (κ : Type) [Collection κ] : Prop where
  /-- A collection has a tag exactly if it lists it. -/
  has_iff (collection : κ) (tag : Text) :
    Collection.has collection tag = true ↔ tag ∈ Collection.tags collection

/-- A text is hashed as the list of its characters. -/
instance : Hashable Text := @instHashableList Char instHashableChar

instance : Collection (List Text) where
  has tags tag := decide (tag ∈ tags)
  tags tags := tags

instance : LawfulCollection (List Text) where
  has_iff _ _ := decide_eq_true_iff

instance : Collection (Array Text) where
  has tags tag := decide (tag ∈ tags)
  tags tags := tags.toList

instance : LawfulCollection (Array Text) where
  has_iff tags tag := by simp [Collection.has, Collection.tags]

instance : Collection (Subarray Text) where
  has tags tag := decide (tag ∈ Std.Slice.toList tags)
  tags tags := Std.Slice.toList tags

instance : LawfulCollection (Subarray Text) where
  has_iff _ _ := decide_eq_true_iff

instance {n : Nat} : Collection (Vector Text n) where
  has tags tag := decide (tag ∈ tags)
  tags tags := tags.toList

instance {n : Nat} : LawfulCollection (Vector Text n) where
  has_iff tags tag := by simp [Collection.has, Collection.tags]

instance : Collection (Std.HashSet Text) where
  has tags tag := tags.contains tag
  tags tags := tags.toList

instance : LawfulCollection (Std.HashSet Text) where
  has_iff tags tag := by simp [Collection.has, Collection.tags]

instance : Collection (Std.TreeSet Text) where
  has tags tag := tags.contains tag
  tags tags := tags.toList

instance : LawfulCollection (Std.TreeSet Text) where
  has_iff tags tag := by simp [Collection.has, Collection.tags]

end TagFilter
