import TagFilter.Proofs.Grammar
import TagFilter.Proofs.Scanning
import TagFilter.Reading

/-!
# A reading accepts what the grammar derives

`Move` lists what one token can do to a reading, and `take_eq_ok_iff` says that
nothing else leads further.  Both halves of `parse_eq_ok_iff_derives` follow
the moves.

* *Complete.*  The symbols of a phrase move a reading from where the phrase may
  begin to where its tree is one more operand; the induction is on the
  derivation.
* *Sound.*  `Consumed` ties a reading to the symbols that led to it: behind
  each open group a level of finished chains, and the chain that is going on.
  Every move keeps it.

A derivation moves the reading to a place that its tree can be read off, so no
symbols have two trees (`Grammar.Derives.unique`).
-/

namespace TagFilter

open Grammar

/-! ## Moves -/

/-- What a token does to a reading that it leads further. -/
inductive Move (marker : Char) : Progress → Token → Progress → Prop
  /-- A leaf is an operand. -/
  | leaf {progress : Progress} {token : Token} {query : Query}
      (due : progress.passed ≠ .operand) (leaf : Primary marker [token.symbol] query) :
      Move marker progress token (progress.withOperand query)
  | not {progress : Progress} {token : Token}
      (due : progress.passed ≠ .operand) (symbol : token.symbol = .not) :
      Move marker progress token
        { progress with level := progress.level.withNot, passed := .operator }
  | opening {progress : Progress} {token : Token}
      (due : progress.passed ≠ .operand) (symbol : token.symbol = .opening) :
      Move marker progress token (progress.opened token)
  | and {progress : Progress} {token : Token}
      (complete : progress.passed = .operand) (symbol : token.symbol = .and) :
      Move marker progress token { progress with passed := .operator }
  | or {progress : Progress} {token : Token}
      (complete : progress.passed = .operand) (symbol : token.symbol = .or) :
      Move marker progress token
        { progress with level := progress.level.withOr, passed := .operator }
  /-- The innermost group is an operand. -/
  | closing {groups : List Group} {group : Group} {level : Level} {token : Token}
      (symbol : token.symbol = .closing) :
      Move marker ⟨group :: groups, level, .operand⟩ token
        ⟨groups, group.outer.withOperand level.query, .operand⟩

/-- The symbol of a proper token is the leaf that the reader makes of it. -/
theorem primary_of_text {marker : Char} {token : Token} (hkind : token.kind = .text)
    (hvalue : token.value ≠ []) : Primary marker [token.symbol] (.leaf marker token.value) := by
  have hsymbol : token.symbol = .name token.value := by simp [Token.symbol, hkind, Kind.symbol]
  rw [hsymbol, Query.leaf]
  split
  · exact .glob ‹_›
  · exact .tag hvalue ‹_›

/-- A lone marker is the glob that any tag fits. -/
theorem primary_of_wildcard {marker : Char} {token : Token} (hkind : token.kind = .wildcard)
    (hproper : token.Proper marker) :
    Primary marker [token.symbol] (.glob (.ofText marker token.value)) := by
  have hsymbol : token.symbol = .wildcard := by simp [Token.symbol, hkind, Kind.symbol]
  have hglob : Glob.ofText marker token.value = .ofSegments [.wildcard] := by
    rw [hproper hkind]
    simp [Glob.ofText, Glob.ofSegments]
  rw [hsymbol, hglob]
  exact .wildcard

/-- A leaf of one symbol is what the reader makes of its token. -/
theorem takeOperand_of_primary {marker : Char} {progress : Progress} {token : Token} {query : Query}
    (hproper : token.Proper marker) (h : Primary marker [token.symbol] query) :
    progress.takeOperand marker token = .ok (progress.withOperand query) := by
  generalize hsymbols : [token.symbol] = symbols at h
  cases h with
  | tag hne hplain =>
      have hsymbol := List.singleton_inj.mp hsymbols
      obtain rfl := Token.value_of_symbol hsymbol
      simp [Progress.takeOperand, Token.kind_of_symbol hsymbol, Symbol.kind, hne, Query.leaf,
        hplain]
  | glob hgap =>
      have hsymbol := List.singleton_inj.mp hsymbols
      obtain rfl := Token.value_of_symbol hsymbol
      simp [Progress.takeOperand, Token.kind_of_symbol hsymbol, Symbol.kind,
        List.ne_nil_of_mem hgap, Query.leaf, hgap]
  | wildcard =>
      have hkind : token.kind = .wildcard :=
        Token.kind_of_symbol (List.singleton_inj.mp hsymbols)
      simp [Progress.takeOperand, hkind, hproper hkind, Glob.ofText, Glob.ofSegments]
  | group inside => simp at hsymbols

/-- A token that is read where an operand has to begin makes a move. -/
theorem move_of_takeOperand {marker : Char} {progress further : Progress} {token : Token}
    (hproper : token.Proper marker) (due : progress.passed ≠ .operand)
    (h : progress.takeOperand marker token = .ok further) : Move marker progress token further := by
  unfold Progress.takeOperand at h
  split at h
  · rename_i hkind
    split at h
    · simp at h
    · obtain rfl := Except.ok.inj h
      exact .leaf due (primary_of_text hkind ‹_›)
  · rename_i hkind
    obtain rfl := Except.ok.inj h
    exact .leaf due (primary_of_wildcard hkind hproper)
  · rename_i hkind
    obtain rfl := Except.ok.inj h
    exact .not due (by simp [Token.symbol, hkind, Kind.symbol])
  · rename_i hkind
    obtain rfl := Except.ok.inj h
    exact .opening due (by simp [Token.symbol, hkind, Kind.symbol])
  -- a closing parenthesis or a connective fails here in every way
  · split at h
    · simp at h
    · split at h <;> simp at h
  all_goals simp at h

/-- A token that is read behind an operand makes a move. -/
theorem move_of_takeOperator {marker : Char} {progress further : Progress} {token : Token}
    (complete : progress.passed = .operand) (h : progress.takeOperator token = .ok further) :
    Move marker progress token further := by
  obtain ⟨groups, level, passed⟩ := progress
  obtain rfl : passed = .operand := complete
  unfold Progress.takeOperator at h
  split at h
  · rename_i hkind
    obtain rfl := Except.ok.inj h
    exact .and rfl (by simp [Token.symbol, hkind, Kind.symbol])
  · rename_i hkind
    obtain rfl := Except.ok.inj h
    exact .or rfl (by simp [Token.symbol, hkind, Kind.symbol])
  · rename_i hkind
    cases groups with
    | nil => simp at h
    | cons group groups =>
        obtain rfl := Except.ok.inj h
        exact .closing (by simp [Token.symbol, hkind, Kind.symbol])
  -- an operand cannot follow another
  all_goals simp at h

/-- **One step of a reading.**  A token leads a reading further exactly by a
move. -/
theorem take_eq_ok_iff {marker : Char} {progress further : Progress} {token : Token}
    (hproper : token.Proper marker) :
    progress.take marker token = .ok further ↔ Move marker progress token further := by
  constructor
  · intro h
    unfold Progress.take at h
    split at h
    · exact move_of_takeOperator ‹_› h
    · exact move_of_takeOperand hproper ‹_› h
  · intro h
    cases h with
    | leaf due leaf =>
        rw [Progress.take, if_neg due]
        exact takeOperand_of_primary hproper leaf
    | not due symbol =>
        simp [Progress.take, Progress.takeOperand, due, Token.kind_of_symbol symbol, Symbol.kind]
    | opening due symbol =>
        simp [Progress.take, Progress.takeOperand, due, Token.kind_of_symbol symbol, Symbol.kind]
    | and complete symbol =>
        simp [Progress.take, Progress.takeOperator, complete, Token.kind_of_symbol symbol,
          Symbol.kind]
    | or complete symbol =>
        simp [Progress.take, Progress.takeOperator, complete, Token.kind_of_symbol symbol,
          Symbol.kind]
    | closing symbol =>
        simp [Progress.take, Progress.takeOperator, Token.kind_of_symbol symbol, Symbol.kind]

/-! ## Runs of moves -/

/-- Some tokens, one after the other, lead a reading further. -/
inductive Advances (marker : Char) : Progress → List Token → Progress → Prop
  | refl (progress : Progress) : Advances marker progress [] progress
  | step {progress middle further : Progress} {token : Token} {tokens : List Token}
      (move : Move marker progress token middle) (later : Advances marker middle tokens further) :
      Advances marker progress (token :: tokens) further

/-- A move is an advance by one token. -/
theorem Move.advances {marker : Char} {progress further : Progress} {token : Token}
    (h : Move marker progress token further) : Advances marker progress [token] further :=
  .step h (.refl further)

/-- Advances can be made one behind the other. -/
theorem Advances.append {marker : Char} {progress middle further : Progress}
    {left right : List Token} (h : Advances marker progress left middle)
    (h' : Advances marker middle right further) :
    Advances marker progress (left ++ right) further := by
  induction h with
  | refl => exact h'
  | step move _ ih => exact .step move (ih h')

/-- A run over two lists of tokens stops between them. -/
theorem Advances.split {marker : Char} {progress further : Progress} {left right : List Token}
    (h : Advances marker progress (left ++ right) further) :
    ∃ middle, Advances marker progress left middle ∧ Advances marker middle right further := by
  induction left generalizing progress with
  | nil => exact ⟨progress, .refl progress, h⟩
  | cons token left ih =>
      cases h with
      | step move later =>
          obtain ⟨middle, hleft, hright⟩ := ih later
          exact ⟨middle, .step move hleft, hright⟩

/-- Every token of the list is proper. -/
def AllProper (marker : Char) (tokens : List Token) : Prop :=
  ∀ token ∈ tokens, token.Proper marker

/-- What follows the first of some proper tokens is proper. -/
theorem AllProper.of_cons {marker : Char} {token : Token} {tokens : List Token}
    (h : AllProper marker (token :: tokens)) : AllProper marker tokens :=
  fun other hmem => h other (List.mem_cons_of_mem _ hmem)

/-- What stands at the front of some proper tokens is proper. -/
theorem AllProper.of_append {marker : Char} {before after : List Token}
    (h : AllProper marker (before ++ after)) : AllProper marker before :=
  fun token hmem => h token (List.mem_append_left _ hmem)

/-- A reading goes on where a run has led it, and has looked at the tokens of the run. -/
theorem Advances.read_append {marker : Char} {progress further : Progress} {before : List Token}
    (h : Advances marker progress before further) (hproper : AllProper marker before)
    (after : List Token) (ending : Ending) :
    progress.read marker (before ++ after) ending =
      ⟨(further.read marker after ending).result,
        (further.read marker after ending).pulls + before.length⟩ := by
  induction h with
  | refl => rfl
  | step move later ih =>
      have htake := (take_eq_ok_iff (hproper _ List.mem_cons_self)).mpr move
      rw [List.cons_append, Progress.read, htake]
      dsimp only
      rw [ih hproper.of_cons, List.length_cons, Nat.add_assoc]

/-- A reading ends where a run over all its tokens has led it. -/
theorem Advances.read_eq {marker : Char} {progress further : Progress} {tokens : List Token}
    (h : Advances marker progress tokens further) (hproper : AllProper marker tokens)
    (ending : Ending) :
    progress.read marker tokens ending = ⟨further.finish ending, tokens.length + 1⟩ := by
  have hread := h.read_append hproper [] ending
  rw [List.append_nil] at hread
  rw [hread, Progress.read, Nat.add_comm]

/-- A reading that gives a query has made a move for every token, and may end
where they have led it. -/
theorem exists_advances_of_read {marker : Char} {tokens : List Token} {progress : Progress}
    {ending : Ending} {query : Query} (hproper : AllProper marker tokens)
    (h : (progress.read marker tokens ending).result = .ok query) :
    ∃ further, Advances marker progress tokens further ∧ further.finish ending = .ok query := by
  induction tokens generalizing progress with
  | nil => exact ⟨progress, .refl progress, h⟩
  | cons token tokens ih =>
      rw [Progress.read] at h
      cases htake : progress.take marker token with
      | error failure => simp [htake] at h
      | ok middle =>
          rw [htake] at h
          obtain ⟨further, hadvances, hfinish⟩ :=
            ih hproper.of_cons h
          have hmove := (take_eq_ok_iff (hproper token List.mem_cons_self)).mp htake
          exact ⟨further, .step hmove hadvances, hfinish⟩

/-! ## What is derived is accepted -/

/-- All tokens with these symbols lead a reading from one place to the other. -/
def Leads (marker : Char) (symbols : List Symbol) (progress further : Progress) : Prop :=
  ∀ tokens : List Token, tokens.map Token.symbol = symbols →
    Advances marker progress tokens further

/-- Symbols lead on from where those before them lead. -/
theorem Leads.append {marker : Char} {left right : List Symbol} {progress middle further : Progress}
    (h : Leads marker left progress middle) (h' : Leads marker right middle further) :
    Leads marker (left ++ right) progress further := by
  intro tokens htokens
  obtain ⟨before, after, rfl, hbefore, hafter⟩ := List.map_eq_append_iff.mp htokens
  exact (h before hbefore).append (h' after hafter)

/-- A symbol leads where each of its tokens makes a move to. -/
theorem Leads.of_move {marker : Char} {symbol : Symbol} {progress further : Progress}
    (h : ∀ token : Token, token.symbol = symbol → Move marker progress token further) :
    Leads marker [symbol] progress further := by
  intro tokens htokens
  obtain ⟨token, rfl, hsymbol⟩ := List.map_eq_singleton_iff.mp htokens
  exact (h token hsymbol).advances

/-- A negation below some others may as well be the outermost. -/
theorem Query.negated_negation (n : Nat) (query : Query) :
    (Query.negation query).negated n = .negation (query.negated n) := by
  induction n with
  | zero => rfl
  | succ n ih => exact congrArg Query.negation ih

/-- Negations read before an operand are part of it. -/
theorem Level.withOperand_withNot (level : Level) (query : Query) :
    level.withNot.withOperand query = level.withOperand (.negation query) := by
  simp [Level.withNot, Level.withOperand, Query.negated, Query.negated_negation]

mutual

/-- An operand without negations leads to its tree as one more operand. -/
theorem leads_of_primary {marker : Char} {symbols : List Symbol} {query : Query} :
    Primary marker symbols query → ∀ progress : Progress, progress.passed ≠ .operand →
      Leads marker symbols progress (progress.withOperand query)
  | .tag nonempty plain, _, due =>
      .of_move fun _ symbol => .leaf due (symbol ▸ .tag nonempty plain)
  | .glob gap, _, due => .of_move fun _ symbol => .leaf due (symbol ▸ .glob gap)
  | .wildcard, _, due => .of_move fun _ symbol => .leaf due (symbol ▸ .wildcard)
  | .group inside, progress, due => by
      intro tokens htokens
      obtain ⟨start, closing, rfl, hstart, hclosing⟩ := List.map_eq_append_iff.mp htokens
      obtain ⟨opening, within, rfl, hopening, hwithin⟩ := List.map_eq_cons_iff.mp hstart
      obtain ⟨last, rfl, hlast⟩ := List.map_eq_singleton_iff.mp hclosing
      obtain ⟨level, hleads, hdisjuncts, -⟩ :=
        leads_of_disjuncts inside (progress.opened opening) (by simp [Progress.opened]) rfl rfl
      have hclose : Move marker ⟨⟨opening, progress.level⟩ :: progress.groups, level, .operand⟩ last
          (progress.withOperand level.query) := .closing hlast
      have hquery : level.query = .disjunction _ := congrArg Query.disjunction hdisjuncts
      rw [hquery] at hclose
      exact .step (.opening due hopening) ((hleads within hwithin).append hclose.advances)

/-- An operand of a conjunction leads to its tree as one more operand. -/
theorem leads_of_unary {marker : Char} {symbols : List Symbol} {query : Query} :
    Unary marker symbols query → ∀ progress : Progress, progress.passed ≠ .operand →
      Leads marker symbols progress (progress.withOperand query)
  | .primary operand, progress, due => leads_of_primary operand progress due
  | .not operand, progress, due => by
      have hnot : Leads marker [.not] progress
          { progress with level := progress.level.withNot, passed := .operator } :=
        .of_move fun _ symbol => .not due symbol
      have hoperand := hnot.append (leads_of_unary operand _ (by simp))
      simpa [Progress.withOperand, Level.withOperand_withNot] using hoperand

/-- A conjunction leads to its operands behind those before it. -/
theorem leads_of_conjuncts {marker : Char} {symbols : List Symbol} {queries : List Query} :
    Conjuncts marker symbols queries → ∀ progress : Progress, progress.passed ≠ .operand →
      progress.level.nots = 0 →
      Leads marker symbols progress
        ⟨progress.groups, ⟨progress.level.disjuncts, progress.level.conjuncts ++ queries, 0⟩,
          .operand⟩
  | .one operand, progress, due, hnots => by
      have hoperand := leads_of_unary operand progress due
      simpa [Progress.withOperand, Level.withOperand, hnots, Query.negated] using hoperand
  | .and operands operand, progress, due, hnots => by
      have hand := (leads_of_conjuncts operands progress due hnots).append
        (.of_move fun _ symbol => .and rfl symbol)
      have hoperand := hand.append (leads_of_unary operand _ (by simp))
      simpa [Progress.withOperand, Level.withOperand, Query.negated] using hoperand

/-- A disjunction leads to a level with its operands behind those before it. -/
theorem leads_of_disjuncts {marker : Char} {symbols : List Symbol} {queries : List Query} :
    Disjuncts marker symbols queries → ∀ progress : Progress, progress.passed ≠ .operand →
      progress.level.nots = 0 → progress.level.conjuncts = [] →
      ∃ level : Level, Leads marker symbols progress ⟨progress.groups, level, .operand⟩ ∧
        level.withOr.disjuncts = progress.level.disjuncts ++ queries ∧ level.nots = 0
  | .one operand, progress, due, hnots, hconjuncts => by
      refine ⟨_, leads_of_conjuncts operand progress due hnots, ?_, rfl⟩
      simp [Level.withOr, hconjuncts]
  | .or operands operand, progress, due, hnots, hconjuncts => by
      obtain ⟨level, hleads, hdisjuncts, hlevel⟩ :=
        leads_of_disjuncts operands progress due hnots hconjuncts
      have hor := hleads.append (.of_move fun _ symbol => .or rfl symbol)
      have hoperand := hor.append (leads_of_conjuncts operand _ (by simp) hlevel)
      refine ⟨_, by simpa using hoperand, ?_, rfl⟩
      rw [← List.append_assoc, ← hdisjuncts]
      rfl

end

/-- A derivation leads from the start to a level with its tree. -/
theorem leads_of_derives {marker : Char} {symbols : List Symbol} {query : Query}
    (h : Derives marker symbols query) :
    ∃ level : Level, Leads marker symbols .start ⟨[], level, .operand⟩ ∧ level.query = query := by
  obtain ⟨operands⟩ := h
  obtain ⟨level, hleads, hdisjuncts, -⟩ :=
    leads_of_disjuncts operands .start (by simp [Progress.start]) rfl rfl
  exact ⟨level, hleads, congrArg Query.disjunction hdisjuncts⟩

/-- Tokens of a derivation are read as its tree. -/
theorem read_of_derives {marker : Char} {tokens : List Token} {query : Query}
    (hproper : AllProper marker tokens) (h : Derives marker (tokens.map Token.symbol) query)
    (stop : Nat) : (Progress.start.read marker tokens (.done stop)).result = .ok query := by
  obtain ⟨level, hleads, rfl⟩ := leads_of_derives h
  rw [(hleads tokens rfl).read_eq hproper]
  rfl

/-- A proper token with the symbol. -/
def Symbol.token (marker : Char) (symbol : Symbol) : Token :=
  { kind := symbol.kind
    value := match symbol with
      | .name text => text
      | _ => [marker]
    start := 0
    stop := 0 }

/-- Every symbol is that of some token. -/
theorem Symbol.symbol_token (marker : Char) (symbol : Symbol) :
    (symbol.token marker).symbol = symbol := by
  cases symbol <;> rfl

/-- That token is proper, a lone marker being the marker itself. -/
theorem Symbol.proper_token (marker : Char) (symbol : Symbol) :
    (symbol.token marker).Proper marker := by
  cases symbol <;> simp [Token.Proper, Symbol.token, Symbol.kind]

/-- **No two trees.**  Symbols are derived with one tree at most, since a reader
of their tokens finds it. -/
theorem Grammar.Derives.unique {marker : Char} {symbols : List Symbol} {query other : Query}
    (h : Derives marker symbols query) (h' : Derives marker symbols other) : query = other := by
  have hsymbols : (symbols.map (Symbol.token marker)).map Token.symbol = symbols := by
    simp [Function.comp_def, Symbol.symbol_token]
  have hproper : AllProper marker (symbols.map (Symbol.token marker)) := by
    intro token hmem
    obtain ⟨symbol, -, rfl⟩ := List.mem_map.mp hmem
    exact symbol.proper_token marker
  have hread := read_of_derives hproper (hsymbols.symm ▸ h) 0
  have hread' := read_of_derives hproper (hsymbols.symm ▸ h') 0
  exact Except.ok.inj (hread.symm.trans hread')

/-! ## What is accepted is derived -/

/-- Symbols that end before an operand: a chain with its connective behind it,
or nothing. -/
inductive Unfinished (marker : Char) (connective : Connective) :
    List Symbol → List Query → Prop
  | nil : Unfinished marker connective [] []
  | behind {symbols : List Symbol} {queries : List Query}
      (operands : Chain marker connective symbols queries) :
      Unfinished marker connective (symbols ++ [connective.symbol]) queries

/-- The operand that is due makes it a chain. -/
theorem Unfinished.finish {marker : Char} {connective : Connective}
    {before symbols : List Symbol} {queries : List Query} {query : Query}
    (h : Unfinished marker connective before queries)
    (operand : Chain marker connective symbols [query]) :
    Chain marker connective (before ++ symbols) (queries ++ [query]) := by
  cases h with
  | nil => exact operand
  | behind operands =>
      rw [List.append_assoc]
      exact operands.append operand

/-- The symbols of a level in which an operand is due: finished disjuncts,
finished conjuncts, and the negations that wait. -/
def Level.Due (marker : Char) (symbols : List Symbol) (level : Level) : Prop :=
  ∃ before behind : List Symbol,
    symbols = before ++ behind ++ List.replicate level.nots .not ∧
    Unfinished marker .any before level.disjuncts ∧
    Unfinished marker .all behind level.conjuncts

/-- The symbols of a level behind an operand: finished disjuncts, and the
conjunction that may end here. -/
def Level.Complete (marker : Char) (symbols : List Symbol) (level : Level) : Prop :=
  ∃ before behind : List Symbol,
    symbols = before ++ behind ∧ level.nots = 0 ∧
    Unfinished marker .any before level.disjuncts ∧
    Chain marker .all behind level.conjuncts

/-- At the start of a level an operand is due. -/
theorem Level.due_fresh (marker : Char) : Level.Due marker [] .fresh :=
  ⟨[], [], rfl, .nil, .nil⟩

/-- Behind a negation an operand is still due. -/
theorem Level.Due.withNot {marker : Char} {symbols : List Symbol} {level : Level}
    (h : level.Due marker symbols) : level.withNot.Due marker (symbols ++ [.not]) := by
  obtain ⟨before, behind, rfl, hdisjuncts, hconjuncts⟩ := h
  refine ⟨before, behind, ?_, hdisjuncts, hconjuncts⟩
  rw [Level.withNot, List.replicate_succ', ← List.append_assoc]

/-- The operand that was due makes the level complete. -/
theorem Level.Due.withOperand {marker : Char} {symbols operand : List Symbol} {level : Level}
    {query : Query} (h : level.Due marker symbols) (hoperand : Primary marker operand query) :
    (level.withOperand query).Complete marker (symbols ++ operand) := by
  obtain ⟨before, behind, rfl, hdisjuncts, hconjuncts⟩ := h
  have hunary := (Unary.primary hoperand).negated level.nots
  refine ⟨before, behind ++ (List.replicate level.nots .not ++ operand), ?_, rfl, hdisjuncts,
    hconjuncts.finish (hunary.chain .all)⟩
  simp only [List.append_assoc]

/-- With its last conjunction a complete level is a chain of disjunction. -/
theorem Level.Complete.chain {marker : Char} {symbols : List Symbol} {level : Level}
    (h : level.Complete marker symbols) : Chain marker .any symbols level.withOr.disjuncts := by
  obtain ⟨before, behind, rfl, -, hdisjuncts, hconjuncts⟩ := h
  have hlast : Chain marker .any behind [.conjunction level.conjuncts] :=
    Disjuncts.one hconjuncts
  exact hdisjuncts.finish hlast

/-- Behind a conjunction sign the next operand is due, in the same chain. -/
theorem Level.Complete.and {marker : Char} {symbols : List Symbol} {level : Level}
    (h : level.Complete marker symbols) : level.Due marker (symbols ++ [.and]) := by
  obtain ⟨before, behind, rfl, hnots, hdisjuncts, hconjuncts⟩ := h
  refine ⟨before, behind ++ [.and], ?_, hdisjuncts, .behind hconjuncts⟩
  rw [hnots, List.replicate_zero, List.append_nil, List.append_assoc]

/-- Behind a disjunction sign the next operand is due, in a new chain. -/
theorem Level.Complete.or {marker : Char} {symbols : List Symbol} {level : Level}
    (h : level.Complete marker symbols) : level.withOr.Due marker (symbols ++ [.or]) := by
  refine ⟨symbols ++ [.or], [], ?_, .behind h.chain, .nil⟩
  obtain ⟨before, behind, rfl, hnots, -, -⟩ := h
  simp [Level.withOr, hnots]

/-- The symbols before the innermost level: for each open group the level
around it, and its parenthesis. -/
inductive Enclosed (marker : Char) : List Symbol → List Group → Prop
  | nil : Enclosed marker [] []
  | group {before symbols : List Symbol} {group : Group} {groups : List Group}
      (around : Enclosed marker before groups) (level : group.outer.Due marker symbols) :
      Enclosed marker (before ++ symbols ++ [.opening]) (group :: groups)

/-- What a reading has consumed when it is at some place. -/
structure Consumed (marker : Char) (symbols : List Symbol) (progress : Progress) : Prop where
  /-- The symbols are those around the open groups and those of the level. -/
  split : ∃ before inside : List Symbol, symbols = before ++ inside ∧
    Enclosed marker before progress.groups ∧
    if progress.passed = .operand then progress.level.Complete marker inside
    else progress.level.Due marker inside
  /-- A reading that has passed nothing has consumed nothing. -/
  nothing : progress.passed = .nothing → symbols = []

/-- At the start no symbols have been used. -/
theorem consumed_start (marker : Char) : Consumed marker [] .start :=
  ⟨⟨[], [], rfl, .nil, Level.due_fresh marker⟩, fun _ => rfl⟩

/-- Every move consumes the symbol of its token. -/
theorem Consumed.move {marker : Char} {symbols : List Symbol} {progress further : Progress}
    {token : Token} (h : Consumed marker symbols progress)
    (hmove : Move marker progress token further) :
    Consumed marker (symbols ++ [token.symbol]) further := by
  obtain ⟨⟨before, inside, rfl, haround, hlevel⟩, -⟩ := h
  cases hmove with
  | leaf due leaf =>
      rw [if_neg due] at hlevel
      refine ⟨⟨before, inside ++ [token.symbol], by simp, haround, ?_⟩,
        by simp [Progress.withOperand]⟩
      exact hlevel.withOperand leaf
  | not due symbol =>
      rw [if_neg due] at hlevel
      refine ⟨⟨before, inside ++ [.not], by simp [symbol], haround, ?_⟩, by simp⟩
      exact hlevel.withNot
  | opening due symbol =>
      rw [if_neg due] at hlevel
      refine ⟨⟨before ++ inside ++ [.opening], [], by simp [symbol], .group haround hlevel, ?_⟩,
        by simp [Progress.opened]⟩
      exact Level.due_fresh marker
  | and complete symbol =>
      rw [if_pos complete] at hlevel
      refine ⟨⟨before, inside ++ [.and], by simp [symbol], haround, ?_⟩, by simp⟩
      exact hlevel.and
  | or complete symbol =>
      rw [if_pos complete] at hlevel
      refine ⟨⟨before, inside ++ [.or], by simp [symbol], haround, ?_⟩, by simp⟩
      exact hlevel.or
  | @closing groups group level token symbol =>
      -- the record ends with the group that is closed: its symbols are one operand outside
      rw [if_pos rfl] at hlevel
      cases haround with
      | @group around outer _ _ haround houter =>
          have hgroup : Primary marker (.opening :: inside ++ [.closing]) level.query :=
            .group hlevel.chain
          refine ⟨⟨around, outer ++ (.opening :: inside ++ [.closing]), by simp [symbol], haround,
            ?_⟩, by simp⟩
          exact houter.withOperand hgroup

/-- A run consumes the symbols of its tokens. -/
theorem Consumed.advances {marker : Char} {symbols : List Symbol} {progress further : Progress}
    {tokens : List Token} (h : Consumed marker symbols progress)
    (hrun : Advances marker progress tokens further) :
    Consumed marker (symbols ++ tokens.map Token.symbol) further := by
  induction hrun generalizing symbols with
  | refl => simpa using h
  | step move later ih => simpa using ih (h.move move)

/-- Where a reading may end, what it has consumed is derived. -/
theorem Consumed.finish {marker : Char} {symbols : List Symbol} {progress : Progress} {stop : Nat}
    {query : Query} (h : Consumed marker symbols progress)
    (hfinish : progress.finish (.done stop) = .ok query) :
    (symbols = [] ∧ query = .empty) ∨ Derives marker symbols query := by
  obtain ⟨groups, level, passed⟩ := progress
  unfold Progress.finish at hfinish
  split at hfinish
  · simp at hfinish
  · split at hfinish
    · rename_i hpassed
      obtain rfl := Except.ok.inj hfinish
      exact .inl ⟨h.nothing hpassed, rfl⟩
    · rename_i hpassed hgroups
      obtain rfl := Except.ok.inj hfinish
      obtain ⟨⟨before, inside, rfl, haround, hlevel⟩, -⟩ := h
      obtain rfl : groups = [] := hgroups
      obtain rfl : passed = .operand := hpassed
      rw [if_pos rfl] at hlevel
      cases haround
      exact .inr (.disjunction hlevel.chain)
    all_goals simp at hfinish

/-- The tokens of an input that is read as a query, and how they end. -/
theorem exists_derives_of_parse {marker : Char} {input : Text} {query : Query}
    (h : parse marker input = .ok query) :
    ∃ found stop, tokens marker input = ⟨found, .done stop⟩ ∧
      (found = [] ∧ query = .empty ∨ Derives marker (found.map Token.symbol) query) := by
  obtain ⟨further, hrun, hfinish⟩ := exists_advances_of_read proper_of_mem_tokens h
  match hstream : tokens marker input with
  | ⟨found, .openQuote offset⟩ =>
      rw [hstream] at hfinish
      simp [Progress.finish] at hfinish
  | ⟨found, .done stop⟩ =>
      rw [hstream] at hrun hfinish
      have hconsumed := (consumed_start marker).advances hrun
      refine ⟨found, stop, rfl, ?_⟩
      simpa using hconsumed.finish hfinish

/-- A text whose tokens the grammar derives as a query is read as that query. -/
theorem parse_of_derives {marker : Char} {input : Text} {found : List Token} {stop : Nat}
    {query : Query} (hstream : tokens marker input = ⟨found, .done stop⟩)
    (h : Derives marker (found.map Token.symbol) query) : parse marker input = .ok query := by
  have hproper : AllProper marker found := by
    have hmem := @proper_of_mem_tokens marker input
    rwa [hstream] at hmem
  rw [parse, reading, hstream]
  exact read_of_derives hproper h stop

/-- An input without tokens is read as the empty query. -/
theorem parse_of_blank {marker : Char} {input : Text} {stop : Nat}
    (hstream : tokens marker input = ⟨[], .done stop⟩) : parse marker input = .ok .empty := by
  rw [parse, reading, hstream]
  rfl

/-- **The reader accepts its grammar.**  An input is read as a query exactly if
its tokens come to their end and either there are none and the query is empty,
or their symbols are derived with the query as their tree; and no symbols are
derived with two trees. -/
theorem parse_eq_ok_iff_derives (marker : Char) :
    (∀ (input : Text) (query : Query),
      parse marker input = .ok query ↔
        ∃ found stop, tokens marker input = ⟨found, .done stop⟩ ∧
          (found = [] ∧ query = .empty ∨ Derives marker (found.map Token.symbol) query)) ∧
    ∀ (found : List Token) (query other : Query),
      Derives marker (found.map Token.symbol) query →
        Derives marker (found.map Token.symbol) other → query = other := by
  refine ⟨fun input query => ⟨exists_derives_of_parse, ?_⟩, fun found query other => Derives.unique⟩
  rintro ⟨found, stop, hstream, ⟨rfl, rfl⟩ | hderives⟩
  · exact parse_of_blank hstream
  · exact parse_of_derives hstream hderives

end TagFilter
