import TagFilter.Proofs.Connective
import TagFilter.Token

/-!
# The grammar of filters

A filter as the grammar sees it is a list of symbols: what each token is, and
the text of a name.  Where a token stands, and how it was written, plays no
part.

Four relations tie the symbols of a phrase to its tree, one for each rule of
the grammar.  A chain of operands is kept as the list of their trees, so that
a chain of any length is one flat connective.  The chains grow at the right
end, as a reader meets them; `Grammar.Chain` is the chain of either connective.
-/

namespace TagFilter

/-- A token without its place. -/
inductive Symbol where
  /-- A name, bare or quoted. -/
  | name (text : Text)
  | and
  | or
  | not
  | opening
  | closing
  /-- A bare word that is the marker and nothing else. -/
  | wildcard
  deriving DecidableEq, Repr

/-- The kind of the tokens that have this symbol. -/
def Symbol.kind : Symbol → Kind
  | .name _ => .text
  | .and => .and
  | .or => .or
  | .not => .not
  | .opening => .opening
  | .closing => .closing
  | .wildcard => .wildcard

/-- The symbol of the tokens that have this kind and this text. -/
def Kind.symbol (value : Text) : Kind → Symbol
  | .text => .name value
  | .and => .and
  | .or => .or
  | .not => .not
  | .opening => .opening
  | .closing => .closing
  | .wildcard => .wildcard

/-- What a token is to the grammar. -/
def Token.symbol (token : Token) : Symbol := token.kind.symbol token.value

/-- A symbol tells the kind of its token. -/
theorem Token.kind_of_symbol {token : Token} {symbol : Symbol} (h : token.symbol = symbol) :
    token.kind = symbol.kind := by
  subst h
  cases hkind : token.kind <;> simp [Token.symbol, hkind, Kind.symbol, Symbol.kind]

/-- The symbol of a name tells the text of its token. -/
theorem Token.value_of_symbol {token : Token} {text : Text} (h : token.symbol = .name text) :
    token.value = text := by
  have hkind : token.kind = .text := Token.kind_of_symbol h
  rw [Token.symbol, hkind] at h
  exact Symbol.name.inj h

/-- The symbol between the operands of the connective. -/
def Connective.symbol : Connective → Symbol
  | .all => .and
  | .any => .or

namespace Grammar

variable (marker : Char)

mutual

/-- The symbols are one operand without negations. -/
inductive Primary : List Symbol → Query → Prop
  /-- A name without a marker is a tag. -/
  | tag {text : Text} (nonempty : text ≠ []) (plain : marker ∉ text) :
      Primary [.name text] (.tag text)
  /-- A name with a marker is a glob. -/
  | glob {text : Text} (gap : marker ∈ text) : Primary [.name text] (.glob (.ofText marker text))
  /-- A lone marker is the glob with one gap and nothing else. -/
  | wildcard : Primary [.wildcard] (.glob (.ofSegments [.wildcard]))
  | group {symbols : List Symbol} {disjuncts : List Query} (inside : Disjuncts symbols disjuncts) :
      Primary (.opening :: symbols ++ [.closing]) (.disjunction disjuncts)

/-- The symbols are one operand of a conjunction. -/
inductive Unary : List Symbol → Query → Prop
  | primary {symbols : List Symbol} {query : Query} (operand : Primary symbols query) :
      Unary symbols query
  /-- A negation applies to the one operand behind it. -/
  | not {symbols : List Symbol} {query : Query} (operand : Unary symbols query) :
      Unary (.not :: symbols) (.negation query)

/-- The symbols are operands with `and` between them. -/
inductive Conjuncts : List Symbol → List Query → Prop
  | one {symbols : List Symbol} {query : Query} (operand : Unary symbols query) :
      Conjuncts symbols [query]
  | and {before symbols : List Symbol} {queries : List Query} {query : Query}
      (operands : Conjuncts before queries) (operand : Unary symbols query) :
      Conjuncts (before ++ .and :: symbols) (queries ++ [query])

/-- The symbols are conjunctions with `or` between them. -/
inductive Disjuncts : List Symbol → List Query → Prop
  | one {symbols : List Symbol} {conjuncts : List Query} (operand : Conjuncts symbols conjuncts) :
      Disjuncts symbols [.conjunction conjuncts]
  | or {before symbols : List Symbol} {queries conjuncts : List Query}
      (operands : Disjuncts before queries) (operand : Conjuncts symbols conjuncts) :
      Disjuncts (before ++ .or :: symbols) (queries ++ [.conjunction conjuncts])

end

/-- The symbols are a whole filter that is not empty, and this is its tree. -/
inductive Derives : List Symbol → Query → Prop
  /-- A disjunction, which may have one operand alone. -/
  | disjunction {symbols : List Symbol} {disjuncts : List Query}
      (operands : Disjuncts marker symbols disjuncts) : Derives symbols (.disjunction disjuncts)

variable {marker}

/-- A chain of conjunction has an operand. -/
theorem Conjuncts.ne_nil {symbols : List Symbol} {queries : List Query}
    (h : Conjuncts marker symbols queries) : queries ≠ [] := by
  cases h <;> simp

/-- A chain of disjunction has an operand. -/
theorem Disjuncts.ne_nil {symbols : List Symbol} {queries : List Query}
    (h : Disjuncts marker symbols queries) : queries ≠ [] := by
  cases h <;> simp

/-- Two chains of conjunction with `and` between them are one. -/
theorem Conjuncts.append {left right : List Symbol} {before : List Query} :
    {after : List Query} → Conjuncts marker left before → Conjuncts marker right after →
      Conjuncts marker (left ++ .and :: right) (before ++ after)
  | _, hleft, .one operand => hleft.and operand
  | _, hleft, .and operands operand => by
      have hchain := (hleft.append operands).and operand
      simpa using hchain

/-- Two chains of disjunction with `or` between them are one. -/
theorem Disjuncts.append {left right : List Symbol} {before : List Query} :
    {after : List Query} → Disjuncts marker left before → Disjuncts marker right after →
      Disjuncts marker (left ++ .or :: right) (before ++ after)
  | _, hleft, .one operand => hleft.or operand
  | _, hleft, .or operands operand => by
      have hchain := (hleft.append operands).or operand
      simpa using hchain

/-- Negations in front of an operand are an operand. -/
theorem Unary.negated {symbols : List Symbol} {query : Query}
    (h : Unary marker symbols query) (n : Nat) :
    Unary marker (List.replicate n .not ++ symbols) (query.negated n) := by
  induction n with
  | zero => exact h
  | succ n ih =>
      rw [List.replicate_succ, List.cons_append]
      exact .not ih

/-- A whole filter in parentheses is one operand. -/
theorem Derives.group {symbols : List Symbol} {query : Query} (h : Derives marker symbols query) :
    Unary marker (.opening :: symbols ++ [.closing]) query := by
  cases h with
  | disjunction operands => exact .primary (.group operands)

/-- One operand is a whole filter. -/
theorem Unary.derives {symbols : List Symbol} {query : Query} (h : Unary marker symbols query) :
    Derives marker symbols query :=
  .disjunction (.one (.one h))

/-! ## Chains of either connective -/

variable {connective : Connective} {symbols : List Symbol} {queries : List Query}

/-- The symbols are operands with the connective between them. -/
def Chain (marker : Char) : Connective → List Symbol → List Query → Prop
  | .all => Conjuncts marker
  | .any => Disjuncts marker

/-- One operand is a chain of either kind. -/
theorem Unary.chain {query : Query} (connective : Connective) (h : Unary marker symbols query) :
    Chain marker connective symbols [query] := by
  cases connective with
  | all => exact .one h
  | any => exact .one (.one h)

/-- Two chains with their connective between them are one. -/
theorem Chain.append {left right : List Symbol} {before after : List Query}
    (hleft : Chain marker connective left before) (hright : Chain marker connective right after) :
    Chain marker connective (left ++ connective.symbol :: right) (before ++ after) := by
  cases connective with
  | all => exact Conjuncts.append hleft hright
  | any => exact Disjuncts.append hleft hright

/-- A chain of either kind is a whole filter. -/
theorem Chain.derives (h : Chain marker connective symbols queries) :
    Derives marker symbols (connective.combine queries) := by
  cases connective with
  | all => exact .disjunction (.one h)
  | any => exact .disjunction h

end Grammar

end TagFilter
