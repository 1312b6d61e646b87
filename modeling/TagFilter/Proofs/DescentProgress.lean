import TagFilter.Proofs.Descent

/-!
# A descent goes forward

Whatever a procedure of the descent is called for, it goes forward along the stream.  Every
pull is made to pass over a token, so a procedure that comes back has used up tokens, and
has pulled the elements behind them up to its next lookahead (`Reader.Passes`).

* `settles`: every procedure comes to an end, since what it calls for has fewer tokens left
  or is further down in the grammar.
* `Runs.unique`: it does so in one way only, since the lookahead tells which rule applies
  (`Runs.chain_decided`, `Runs.unary_decided`, `Runs.primary_decided`, `Runs.group_decided`).
* `Runs.inOrder`: it pulls what the scan gives, one element after the other, and it has
  used up at least one token if it comes back with a query.
* `Runs.backed`: a call for a group is made on an opening parenthesis, and a call behind a
  negation on that, so no more of them are active together than such tokens were pulled.
-/

namespace TagFilter

variable {marker : Char}

/-! ## One pull -/

namespace Reader

/-- A reader that was loaded has what was pulled as its lookahead, and all of the stream before
it. -/
theorem load_eq_ok {scan : Scan} {depth : Nat} {reader : Reader}
    (h : load scan depth = .ok reader) :
    scan.pull.1 = reader.current.pulled ∧ reader.stream = scan.stream ∧ reader.depth = depth := by
  unfold load at h
  cases hlookahead : scan.pull.1.lookahead with
  | error failure =>
      rw [hlookahead] at h
      cases h
  | ok current =>
      rw [hlookahead] at h
      obtain rfl := Except.ok.inj h
      have hpull := Pulled.lookahead_eq_ok_iff.mp hlookahead
      refine ⟨hpull, ?_, rfl⟩
      cases current with
      | found token => exact (Scan.stream_of_pull_token (Prod.ext hpull rfl)).symm
      | done offset => exact (Scan.stream_of_pull_ending (Prod.ext hpull rfl)).symm

/-- Where no reader is loaded, an open quote was pulled, and nothing stands behind it. -/
theorem load_eq_error {scan : Scan} {depth : Nat} {failure : Failure}
    (h : load scan depth = .error failure) :
    ∃ offset, failure = .openQuote offset ∧ scan.pull.1 = .ending (.openQuote offset) ∧
      scan.stream = ⟨[], .openQuote offset⟩ := by
  unfold load at h
  cases hlookahead : scan.pull.1.lookahead with
  | error other =>
      rw [hlookahead] at h
      obtain rfl := Except.error.inj h
      obtain ⟨offset, hpull, rfl⟩ := Pulled.lookahead_eq_error_iff.mp hlookahead
      exact ⟨offset, rfl, hpull, Scan.stream_of_pull_ending (Prod.ext hpull rfl)⟩
  | ok current =>
      rw [hlookahead] at h
      cases h

variable {reader middle after : Reader} {pulled later : List Pulled} {outcome : Return}

/-- A lookahead with a kind is a token, and the stream begins with it. -/
theorem current_of_kind? {kind : Kind} (h : reader.kind? = some kind) :
    ∃ token, reader.current = .found token ∧ token.kind = kind := by
  unfold kind? at h
  cases hcurrent : reader.current with
  | found token =>
      rw [hcurrent] at h
      exact ⟨token, rfl, Option.some.inj h⟩
  | done offset =>
      rw [hcurrent] at h
      cases h

/-- A lookahead that is a token has its kind. -/
theorem kind?_of_current {token : Token} (h : reader.current = .found token) :
    reader.kind? = some token.kind := by
  rw [kind?, h]
  rfl

/-- A lookahead that is a token stands in front of what was not pulled. -/
theorem stream_of_current {token : Token} (h : reader.current = .found token) :
    reader.stream = reader.scan.stream.prepend [token] := by
  rw [stream, h]

/-- The lookahead is what the stream begins with. -/
theorem exists_toList_stream (reader : Reader) :
    ∃ rest, reader.stream.toList = reader.current.pulled :: rest := by
  cases hcurrent : reader.current with
  | found token =>
      rw [stream_of_current hcurrent]
      exact ⟨reader.scan.stream.toList, rfl⟩
  | done offset =>
      rw [stream, hcurrent]
      exact ⟨[], rfl⟩

/-- If the stream begins with a token, that is the lookahead. -/
theorem pulled_of_stream {token : Token} {taken : List Token} {stream : Stream}
    (h : reader.stream = stream.prepend (token :: taken)) :
    reader.current.pulled = .token token := by
  obtain ⟨rest, hrest⟩ := reader.exists_toList_stream
  rw [h, Stream.toList_prepend] at hrest
  exact (List.cons.inj hrest).1.symm

/-- The way from one lookahead to a later one: at least one token is used up, all that
comes behind the first lookahead is pulled, up to the later one, and the depth is as it
was. -/
structure Passes (reader : Reader) (pulled : List Pulled) (after : Reader) : Prop where
  depth : after.depth = reader.depth
  used : ∃ token taken, reader.stream = after.stream.prepend (token :: taken) ∧
    pulled = taken.map .token ++ [after.current.pulled]

/-- What was pulled led to the lookahead behind the query, or is what comes next up to the
failure. -/
def InOrder (reader : Reader) (pulled : List Pulled) : Return → Prop
  | .ok (_, after) => reader.Passes pulled after
  | .error _ => reader.current.pulled :: pulled <+: reader.stream.toList

/-- On the way to a later lookahead the tokens become fewer. -/
theorem Passes.length_lt (h : reader.Passes pulled after) :
    after.stream.tokens.length < reader.stream.tokens.length := by
  obtain ⟨token, taken, hstream, -⟩ := h.used
  rw [hstream, Stream.prepend, List.length_append, List.length_cons]
  omega

/-- One way behind the other. -/
theorem Passes.trans (h : reader.Passes pulled middle) (hlater : middle.Passes later after) :
    reader.Passes (pulled ++ later) after := by
  obtain ⟨first, taken, hfirst, rfl⟩ := h.used
  obtain ⟨second, more, hsecond, rfl⟩ := hlater.used
  refine ⟨hlater.depth.trans h.depth, first, taken ++ second :: more, ?_, ?_⟩
  · rw [hfirst, hsecond, Stream.prepend_prepend, List.cons_append]
  · rw [pulled_of_stream hsecond]
    simp

/-- What is done in order behind a way is done in order. -/
theorem Passes.inOrder (h : reader.Passes pulled middle) (hlater : middle.InOrder later outcome) :
    reader.InOrder (pulled ++ later) outcome := by
  cases outcome with
  | ok found => exact h.trans hlater
  | error failure =>
      obtain ⟨token, taken, hstream, rfl⟩ := h.used
      obtain ⟨more, hmore⟩ : middle.current.pulled :: later <+: middle.stream.toList := hlater
      refine ⟨more, ?_⟩
      rw [pulled_of_stream hstream, hstream, Stream.toList_prepend, ← hmore]
      simp

/-- Where nothing is pulled, nothing is out of order. -/
theorem inOrder_nil (reader : Reader) (failure : Failure) : reader.InOrder [] (.error failure) := by
  obtain ⟨rest, hrest⟩ := reader.exists_toList_stream
  exact ⟨rest, hrest.symm⟩

/-- A failure at the lookahead that a way has led to. -/
theorem Passes.inOrder_error (h : reader.Passes pulled after) (failure : Failure) :
    reader.InOrder pulled (.error failure) := by
  have hpassed := h.inOrder (after.inOrder_nil failure)
  rwa [List.append_nil] at hpassed

/-- In any case, what was pulled is what comes behind the lookahead. -/
theorem InOrder.toList_stream (h : reader.InOrder pulled outcome) :
    reader.current.pulled :: pulled <+: reader.stream.toList := by
  cases outcome with
  | error failure => exact h
  | ok found =>
      have hpasses : reader.Passes pulled found.2 := h
      exact hpasses.inOrder_error (.openQuote 0)

/-- A token that is passed over. -/
theorem passes_of_advance {kind : Kind} (hkind : reader.kind? = some kind)
    (h : reader.advance = .ok after) : reader.Passes [reader.next] after := by
  obtain ⟨token, hcurrent, -⟩ := current_of_kind? hkind
  obtain ⟨hpull, hstream, hdepth⟩ := load_eq_ok h
  refine ⟨hdepth, token, [], ?_, ?_⟩
  · rw [stream_of_current hcurrent, hstream]
  · rw [next, hpull]
    rfl

/-- An open quote behind a token. -/
theorem inOrder_of_stopped {kind : Kind} {failure : Failure} (hkind : reader.kind? = some kind)
    (h : reader.advance = .error failure) : reader.InOrder [reader.next] (.error failure) := by
  obtain ⟨token, hcurrent, -⟩ := current_of_kind? hkind
  obtain ⟨offset, -, hpull, hstream⟩ := load_eq_error h
  refine ⟨[], ?_⟩
  rw [stream_of_current hcurrent, hstream, hcurrent, next, hpull]
  rfl

/-- A token that is an operand, or ends one. -/
theorem inOrder_advance {kind : Kind} (hkind : reader.kind? = some kind) (query : Query) :
    reader.InOrder [reader.next] (reader.advance.map fun after => (query, after)) := by
  cases h : reader.advance with
  | ok after => exact passes_of_advance hkind h
  | error failure => exact inOrder_of_stopped hkind h

/-- A way inside a group leads out of it again. -/
theorem Passes.shallower (h : reader.deeper.Passes pulled after) :
    reader.Passes pulled after.shallower := by
  obtain ⟨hdepth, hused⟩ := h
  refine ⟨?_, hused⟩
  rw [Reader.shallower, hdepth]
  rfl

end Reader

/-! ## The order of the pulls -/

@[simp] theorem pulls_nil : pulls [] = [] := rfl

@[simp] theorem pulls_called (active : List Procedure) (log : List Event) :
    pulls (.called active :: log) = pulls log := rfl

@[simp] theorem pulls_pulled (element : Pulled) (log : List Event) :
    pulls (.pulled element :: log) = element :: pulls log := rfl

@[simp] theorem pulls_append (log later : List Event) :
    pulls (log ++ later) = pulls log ++ pulls later := List.filterMap_append

/-- **Progress.**  A procedure pulls what comes next, one element after the other, and none
behind the one that it fails at.  If it comes back with a query, it has used up a token. -/
theorem Runs.inOrder {active : List Procedure} {task : Task} {reader : Reader} {log : List Event}
    {outcome : Return} (h : Runs marker active task reader log outcome) :
    reader.InOrder (pulls log) outcome := by
  induction h with
  | chainFailed _ ih => exact ih
  | chainLast _ _ ih => exact ih
  | chainStopped _ more stopped ih =>
      simp only [pulls_called, pulls_append, pulls_pulled, pulls_nil]
      exact ih.inOrder (Reader.inOrder_of_stopped more stopped)
  | chainMore _ more advanced _ ih ihRest =>
      simp only [pulls_called, pulls_append, pulls_pulled]
      exact ih.inOrder ((Reader.passes_of_advance more advanced).inOrder ihRest)
  | unaryPrimary _ _ ih => exact ih
  | unaryStopped not stopped => exact Reader.inOrder_of_stopped not stopped
  | @unaryNot _ _ _ _ outcome not advanced _ ih =>
      have hrest := (Reader.passes_of_advance not advanced).inOrder ih
      cases outcome with
      | ok found => exact hrest
      | error failure => exact hrest
  | primaryLeaf current _ => exact Reader.inOrder_advance (Reader.kind?_of_current current) _
  | primaryGroup _ _ ih => exact ih
  | primaryRefused => exact Reader.inOrder_nil _ _
  | groupStopped current _ stopped =>
      exact Reader.inOrder_of_stopped (Reader.kind?_of_current current) stopped
  | groupEmpty current _ advanced _ =>
      exact (Reader.passes_of_advance (Reader.kind?_of_current current) advanced).inOrder_error _
  | groupFailed current _ advanced _ _ ih =>
      exact (Reader.passes_of_advance (Reader.kind?_of_current current) advanced).inOrder ih
  | @groupClosed _ _ _ last _ _ query current _ advanced _ _ closed ih =>
      have hopening := Reader.passes_of_advance (Reader.kind?_of_current current) advanced
      have hclosing : last.shallower.kind? = some .closing := closed
      simp only [pulls_called, pulls_append, pulls_pulled, pulls_nil]
      exact hopening.inOrder ((Reader.Passes.shallower ih).inOrder
        (Reader.inOrder_advance hclosing query))
  | groupUnclosed current _ advanced _ _ _ ih =>
      have hopening := Reader.passes_of_advance (Reader.kind?_of_current current) advanced
      exact (hopening.trans (Reader.Passes.shallower ih)).inOrder_error _

/-! ## Every procedure comes to an end -/

/-- Whatever calls are active, the task comes to an end. -/
def Settles (marker : Char) (task : Task) (reader : Reader) : Prop :=
  ∀ active, ∃ log outcome, Runs marker active task reader log outcome

/-- Every task that needs no opening parenthesis comes to an end with fewer tokens left. -/
def SettlesBelow (marker : Char) (reader : Reader) : Prop :=
  ∀ later : Reader, later.stream.tokens.length < reader.stream.tokens.length →
    ∀ task ≠ .group, Settles marker task later

/-- A group comes to an end if what is in it does. -/
theorem settles_group {reader : Reader} (hopening : reader.kind? = some .opening)
    (hbelow : SettlesBelow marker reader) : Settles marker .group reader := by
  intro active
  obtain ⟨opening, hcurrent, hkind⟩ := Reader.current_of_kind? hopening
  cases hadvance : reader.advance with
  | error failure => exact ⟨_, _, .groupStopped hcurrent hkind hadvance⟩
  | ok further =>
      by_cases hclosing : further.kind? = some .closing
      · exact ⟨_, _, .groupEmpty hcurrent hkind hadvance hclosing⟩
      · have hlt := (Reader.passes_of_advance hopening hadvance).length_lt
        obtain ⟨log, outcome, hruns⟩ :=
          hbelow further.deeper hlt (.chain .any []) (by simp) (.chain .any :: active)
        cases outcome with
        | error failure => exact ⟨_, _, .groupFailed hcurrent hkind hadvance hclosing hruns⟩
        | ok found =>
            by_cases hclosed : found.2.kind? = some .closing
            · exact ⟨_, _, .groupClosed hcurrent hkind hadvance hclosing hruns hclosed⟩
            · exact ⟨_, _, .groupUnclosed hcurrent hkind hadvance hclosing hruns hclosed⟩

/-- A primary is a group, a leaf, or refused. -/
theorem settles_primary {reader : Reader} (hbelow : SettlesBelow marker reader) :
    Settles marker .primary reader := by
  intro active
  by_cases hopening : reader.kind? = some .opening
  · obtain ⟨log, outcome, hruns⟩ := settles_group hopening hbelow (.group :: active)
    exact ⟨_, _, .primaryGroup hopening hruns⟩
  · by_cases hleaf : ∀ token, reader.current = .found token → token.leaf? marker = none
    · exact ⟨_, _, .primaryRefused hopening hleaf⟩
    · obtain ⟨token, hleaf⟩ := not_forall.mp hleaf
      obtain ⟨hcurrent, hleaf⟩ := Classical.not_imp.mp hleaf
      obtain ⟨query, hquery⟩ := Option.ne_none_iff_exists'.mp hleaf
      exact ⟨_, _, .primaryLeaf hcurrent hquery⟩

/-- A unary is a primary, or a unary with fewer tokens behind its keyword. -/
theorem settles_unary {reader : Reader} (hbelow : SettlesBelow marker reader) :
    Settles marker .unary reader := by
  intro active
  by_cases hnot : reader.kind? = some .not
  · cases hadvance : reader.advance with
    | error failure => exact ⟨_, _, .unaryStopped hnot hadvance⟩
    | ok further =>
        have hlt := (Reader.passes_of_advance hnot hadvance).length_lt
        obtain ⟨log, outcome, hruns⟩ :=
          hbelow further hlt .unary (by simp) (.unary true :: active)
        exact ⟨_, _, .unaryNot hnot hadvance hruns⟩
  · obtain ⟨log, outcome, hruns⟩ := settles_primary hbelow (.primary :: active)
    exact ⟨_, _, .unaryPrimary hnot hruns⟩

/-- A chain comes to an end if its first operand does, and it goes on with fewer tokens. -/
theorem settles_chain {reader : Reader} {connective : Connective} (operands : List Query)
    (hoperand : Settles marker connective.operand.task reader)
    (hbelow : SettlesBelow marker reader) :
    Settles marker (.chain connective operands) reader := by
  intro active
  obtain ⟨log, outcome, hruns⟩ := hoperand (connective.operand :: active)
  cases outcome with
  | error failure => exact ⟨_, _, .chainFailed hruns⟩
  | ok found =>
      obtain ⟨query, after⟩ := found
      by_cases hmore : after.kind? = some connective.kind
      · cases hadvance : after.advance with
        | error failure => exact ⟨_, _, .chainStopped hruns hmore hadvance⟩
        | ok further =>
            have hpasses : reader.Passes (pulls log) after := hruns.inOrder
            have hlt := (hpasses.trans (Reader.passes_of_advance hmore hadvance)).length_lt
            obtain ⟨later, outcome, hrest⟩ :=
              hbelow further hlt (.chain connective (operands ++ [query])) (by simp) active
            exact ⟨_, _, .chainMore hruns hmore hadvance hrest⟩
      · exact ⟨_, _, .chainLast hruns hmore⟩

/-- **Termination.**  Every procedure comes to an end, wherever it is called; that of a
group is called at an opening parenthesis. -/
theorem settles (reader : Reader) {task : Task} (htask : task ≠ .group) :
    Settles marker task reader := by
  generalize hn : reader.stream.tokens.length = n
  induction n using Nat.strongRecOn generalizing reader task with
  | ind n ih =>
      have hbelow : SettlesBelow marker reader := by
        intro later hlt task htask
        exact ih _ (hn ▸ hlt) later htask rfl
      have hall (operands : List Query) : Settles marker (.chain .all operands) reader :=
        settles_chain operands (settles_unary hbelow) hbelow
      match task with
      | .chain .all operands => exact hall operands
      | .chain .any operands => exact settles_chain operands (hall []) hbelow
      | .unary => exact settles_unary hbelow
      | .primary => exact settles_primary hbelow
      | .group => exact absurd rfl htask

/-! ## The lookahead decides -/

/-- The query of the lookahead, if it is an operand by itself. -/
def Reader.leaf? (marker : Char) (reader : Reader) : Option Query :=
  match reader.current with
  | .found token => token.leaf? marker
  | .done _ => none

/-- A lookahead whose token is no operand by itself is none. -/
theorem Reader.leaf?_eq_none {reader : Reader}
    (h : ∀ token, reader.current = .found token → token.leaf? marker = none) :
    reader.leaf? marker = none := by
  rw [leaf?]
  cases hcurrent : reader.current with
  | found token => exact h token hcurrent
  | done offset => rfl

/-- A parenthesis is no operand by itself. -/
theorem Token.leaf?_of_opening {token : Token} (h : token.kind = .opening) :
    token.leaf? marker = none := by
  rw [leaf?, h]

section

variable {active : List Procedure} {reader : Reader} {log log' : List Event}
  {outcome outcome' : Return}

/-- **Chains.**  The next operand is read in any case.  If it is, the kind behind it tells
whether the chain goes on. -/
theorem Runs.chain_decided {connective : Connective} {operands : List Query}
    (h : Runs marker active (.chain connective operands) reader log outcome) :
    ∃ inner result,
      Runs marker (connective.operand :: active) connective.operand.task reader inner result ∧
      match result with
      | .error failure =>
          log = .called (connective.operand :: active) :: inner ∧ outcome = .error failure
      | .ok (query, after) =>
          if after.kind? = some connective.kind then
            match after.advance with
            | .error failure =>
                log = .called (connective.operand :: active) :: (inner ++ [.pulled after.next]) ∧
                  outcome = .error failure
            | .ok further => ∃ later,
                Runs marker active (.chain connective (operands ++ [query])) further later
                  outcome ∧
                log = .called (connective.operand :: active) ::
                  (inner ++ .pulled after.next :: later)
          else log = .called (connective.operand :: active) :: inner ∧
            outcome = .ok (connective.combine (operands ++ [query]), after) := by
  cases h with
  | chainFailed operand => exact ⟨_, _, operand, rfl, rfl⟩
  | chainLast operand last =>
      refine ⟨_, _, operand, ?_⟩
      simp only [if_neg last, and_self]
  | chainStopped operand more stopped =>
      refine ⟨_, _, operand, ?_⟩
      simp only [if_pos more, stopped, and_self]
  | chainMore operand more advanced rest =>
      refine ⟨_, _, operand, ?_⟩
      simp only [if_pos more, advanced]
      exact ⟨_, rest, rfl⟩

/-- **Negations.**  A negation is passed over, and anything else is left to the operand
behind the negations. -/
theorem Runs.unary_decided (h : Runs marker active .unary reader log outcome) :
    if reader.kind? = some .not then
      match reader.advance with
      | .error failure => log = [.pulled reader.next] ∧ outcome = .error failure
      | .ok further => ∃ inner result,
          Runs marker (.unary true :: active) .unary further inner result ∧
          log = .pulled reader.next :: .called (.unary true :: active) :: inner ∧
          outcome = result.map fun (query, after) => (query.negation, after)
    else ∃ inner, Runs marker (.primary :: active) .primary reader inner outcome ∧
      log = .called (.primary :: active) :: inner := by
  cases h with
  | unaryPrimary plain operand =>
      rw [if_neg plain]
      exact ⟨_, operand, rfl⟩
  | unaryStopped not stopped =>
      rw [if_pos not, stopped]
      exact ⟨rfl, rfl⟩
  | unaryNot not advanced operand =>
      rw [if_pos not, advanced]
      exact ⟨_, _, operand, rfl, rfl⟩

/-- **Operands.**  A lookahead that is an operand by itself is taken, an opening
parenthesis begins a group, and anything else is refused. -/
theorem Runs.primary_decided (h : Runs marker active .primary reader log outcome) :
    match reader.leaf? marker with
    | some query =>
        log = [.pulled reader.next] ∧ outcome = reader.advance.map fun after => (query, after)
    | none =>
        if reader.kind? = some .opening then
          ∃ inner, Runs marker (.group :: active) .group reader inner outcome ∧
            log = .called (.group :: active) :: inner
        else log = [] ∧ outcome = .error reader.refusal := by
  cases h with
  | primaryLeaf current leaf =>
      rw [Reader.leaf?, current]
      simp only [leaf, and_self]
  | primaryGroup opening group =>
      obtain ⟨token, hcurrent, hkind⟩ := Reader.current_of_kind? opening
      rw [Reader.leaf?, hcurrent]
      simp only [Token.leaf?_of_opening hkind]
      rw [if_pos opening]
      exact ⟨_, group, rfl⟩
  | primaryRefused opening leaf =>
      rw [Reader.leaf?_eq_none leaf, if_neg opening]
      exact ⟨rfl, rfl⟩

/-- **Groups.**  A group that is closed at once is refused.  Else its filter is read, and
the kind behind that tells whether the group is closed. -/
theorem Runs.group_decided {opening : Token} (current : reader.current = .found opening)
    (h : Runs marker active .group reader log outcome) :
    match reader.advance with
    | .error failure => log = [.pulled reader.next] ∧ outcome = .error failure
    | .ok further =>
        if further.kind? = some .closing then
          log = [.pulled reader.next] ∧ outcome = .error (Complaint.emptyGroup.about opening)
        else ∃ inner result,
          Runs marker (.chain .any :: active) (.chain .any []) further.deeper inner result ∧
          match result with
          | .error failure =>
              log = .pulled reader.next :: .called (.chain .any :: active) :: inner ∧
                outcome = .error failure
          | .ok (query, last) =>
              if last.kind? = some .closing then
                log = .pulled reader.next :: .called (.chain .any :: active) ::
                    (inner ++ [.pulled last.next]) ∧
                  outcome = last.shallower.advance.map fun after => (query, after)
              else log = .pulled reader.next :: .called (.chain .any :: active) :: inner ∧
                outcome = .error (last.unclosed opening) := by
  have hopening : ∀ {token : Token}, reader.current = .found token → token = opening := by
    intro token htoken
    exact Lookahead.found.inj (htoken.symm.trans current)
  cases h with
  | groupStopped _ _ stopped =>
      rw [stopped]
      exact ⟨rfl, rfl⟩
  | groupEmpty current' _ advanced closing =>
      rw [advanced, ← hopening current']
      simp only [if_pos closing, and_self]
  | groupFailed _ _ advanced closing inside =>
      rw [advanced]
      simp only [if_neg closing]
      exact ⟨_, _, inside, rfl, rfl⟩
  | groupClosed _ _ advanced closing inside closed =>
      rw [advanced]
      simp only [if_neg closing]
      refine ⟨_, _, inside, ?_⟩
      simp only [if_pos closed, and_self]
  | groupUnclosed current' _ advanced closing inside closed =>
      rw [advanced, ← hopening current']
      simp only [if_neg closing]
      refine ⟨_, _, inside, ?_⟩
      simp only [if_neg closed, and_self]

/-- **One way only.**  What a procedure does is determined by where it is called. -/
theorem Runs.unique {task : Task} (h : Runs marker active task reader log outcome)
    (h' : Runs marker active task reader log' outcome') : log' = log ∧ outcome' = outcome := by
  -- the lookahead leaves one rule for the other run, and the calls in it are the same by induction
  induction h generalizing log' outcome' with
  | chainFailed _ ih =>
      obtain ⟨inner, result, hinner, hrest⟩ := h'.chain_decided
      obtain ⟨rfl, rfl⟩ := ih hinner
      exact hrest
  | chainLast _ last ih =>
      obtain ⟨inner, result, hinner, hrest⟩ := h'.chain_decided
      obtain ⟨rfl, rfl⟩ := ih hinner
      simpa only [if_neg last] using hrest
  | chainStopped _ more stopped ih =>
      obtain ⟨inner, result, hinner, hrest⟩ := h'.chain_decided
      obtain ⟨rfl, rfl⟩ := ih hinner
      simpa only [if_pos more, stopped] using hrest
  | chainMore _ more advanced _ ih ihRest =>
      obtain ⟨inner, result, hinner, hrest⟩ := h'.chain_decided
      obtain ⟨rfl, rfl⟩ := ih hinner
      simp only [if_pos more, advanced] at hrest
      obtain ⟨later, hlater, rfl⟩ := hrest
      obtain ⟨rfl, rfl⟩ := ihRest hlater
      exact ⟨rfl, rfl⟩
  | unaryPrimary plain _ ih =>
      have hdecided := h'.unary_decided
      rw [if_neg plain] at hdecided
      obtain ⟨inner, hinner, rfl⟩ := hdecided
      obtain ⟨rfl, rfl⟩ := ih hinner
      exact ⟨rfl, rfl⟩
  | unaryStopped not stopped =>
      have hdecided := h'.unary_decided
      rwa [if_pos not, stopped] at hdecided
  | unaryNot not advanced _ ih =>
      have hdecided := h'.unary_decided
      rw [if_pos not, advanced] at hdecided
      obtain ⟨inner, result, hinner, rfl, rfl⟩ := hdecided
      obtain ⟨rfl, rfl⟩ := ih hinner
      exact ⟨rfl, rfl⟩
  | primaryLeaf current leaf =>
      have hdecided := h'.primary_decided
      rw [Reader.leaf?, current] at hdecided
      simpa only [leaf] using hdecided
  | primaryGroup opening _ ih =>
      have hdecided := h'.primary_decided
      obtain ⟨token, hcurrent, hkind⟩ := Reader.current_of_kind? opening
      rw [Reader.leaf?, hcurrent] at hdecided
      simp only [Token.leaf?_of_opening hkind, if_pos opening] at hdecided
      obtain ⟨inner, hinner, rfl⟩ := hdecided
      obtain ⟨rfl, rfl⟩ := ih hinner
      exact ⟨rfl, rfl⟩
  | primaryRefused opening leaf =>
      have hdecided := h'.primary_decided
      rwa [Reader.leaf?_eq_none leaf, if_neg opening] at hdecided
  | groupStopped current _ stopped =>
      have hdecided := h'.group_decided current
      rwa [stopped] at hdecided
  | groupEmpty current _ advanced closing =>
      have hdecided := h'.group_decided current
      simpa only [advanced, if_pos closing] using hdecided
  | groupFailed current _ advanced closing _ ih =>
      have hdecided := h'.group_decided current
      simp only [advanced, if_neg closing] at hdecided
      obtain ⟨inner, result, hinner, hrest⟩ := hdecided
      obtain ⟨rfl, rfl⟩ := ih hinner
      exact hrest
  | groupClosed current _ advanced closing _ closed ih =>
      have hdecided := h'.group_decided current
      simp only [advanced, if_neg closing] at hdecided
      obtain ⟨inner, result, hinner, hrest⟩ := hdecided
      obtain ⟨rfl, rfl⟩ := ih hinner
      simpa only [if_pos closed] using hrest
  | groupUnclosed current _ advanced closing _ closed ih =>
      have hdecided := h'.group_decided current
      simp only [advanced, if_neg closing] at hdecided
      obtain ⟨inner, result, hinner, hrest⟩ := hdecided
      obtain ⟨rfl, rfl⟩ := ih hinner
      simpa only [if_neg closed] using hrest

end

/-! ## Calls that are active together -/

/-- The kind of token that a call is made on, if it is always the same. -/
def Procedure.occasion : Procedure → Option Kind
  | .group => some .opening
  | .unary true => some .not
  | .unary false | .chain _ | .primary => none

/-- How many tokens of the kind were pulled. -/
def pulledOf (kind : Kind) (log : List Event) : Nat :=
  (pulls log).countP fun element => element.kind? = some kind

/-- At every call, the active calls of the procedure are at most as many as the tokens of
the kind that were pulled up to then, `earlier` of them before the log begins. -/
def Backed (procedure : Procedure) (kind : Kind) (earlier : Nat) (log : List Event) : Prop :=
  ∀ before active after, log = before ++ .called active :: after →
    active.count procedure ≤ earlier + pulledOf kind before

/-- Tokens that were pulled in two logs are counted in each. -/
theorem pulledOf_append (kind : Kind) (log later : List Event) :
    pulledOf kind (log ++ later) = pulledOf kind log + pulledOf kind later := by
  rw [pulledOf, pulls_append, List.countP_append]
  rfl

/-- One pull gives one token, if it is of the kind. -/
theorem pulledOf_singleton (kind : Kind) (element : Pulled) :
    pulledOf kind [.pulled element] = if element.kind? = some kind then 1 else 0 := by
  simp [pulledOf, List.countP_singleton]

namespace Backed

variable {procedure : Procedure} {kind : Kind} {earlier : Nat} {log later : List Event}

/-- Where nothing is called there is nothing to back. -/
theorem nil : Backed procedure kind earlier [] := by
  intro before active after h
  simp at h

/-- What the first log pulled backs the calls of the second. -/
theorem append (h : Backed procedure kind earlier log)
    (hlater : Backed procedure kind (earlier + pulledOf kind log) later) :
    Backed procedure kind earlier (log ++ later) := by
  intro before active after hsplit
  rcases List.append_eq_append_iff.mp hsplit with ⟨more, rfl, hrest⟩ | ⟨more, rfl, hrest⟩
  · rw [pulledOf_append, ← Nat.add_assoc]
    exact hlater more active after hrest
  · cases more with
    | nil =>
        have hfirst := hlater [] active after hrest.symm
        rwa [List.append_nil] at hfirst
    | cons event more =>
        obtain ⟨rfl, -⟩ := List.cons.inj hrest
        exact h before active more rfl

/-- One event is backed if it makes no call that there is no token for. -/
theorem singleton {event : Event}
    (h : ∀ active, event = .called active → active.count procedure ≤ earlier) :
    Backed procedure kind earlier [event] := by
  intro before active after hsplit
  cases before with
  | nil => exact h active (List.cons.inj hsplit).1
  | cons first before => simp at hsplit

/-- A call in front of a log is backed by what came earlier. -/
theorem called {active : List Procedure} (hcount : active.count procedure ≤ earlier)
    (h : Backed procedure kind earlier log) :
    Backed procedure kind earlier (.called active :: log) := by
  have hfirst : Backed procedure kind earlier [.called active] :=
    singleton fun _ hcalled => Event.called.inj hcalled ▸ hcount
  exact hfirst.append h

/-- A pull calls nothing. -/
theorem singleton_pulled (element : Pulled) : Backed procedure kind earlier [.pulled element] :=
  singleton fun _ hcalled => by cases hcalled

/-- What is pulled counts for all that follows it. -/
theorem pulled {element : Pulled}
    (h : Backed procedure kind (earlier + pulledOf kind [.pulled element]) log) :
    Backed procedure kind earlier (.pulled element :: log) :=
  (singleton_pulled element).append h

end Backed

/-- There is room for the calls that a task makes: each call of the procedure that is
active has a token of the kind that was pulled, other than the lookahead. -/
structure Room (procedure : Procedure) (kind : Kind) (active : List Procedure) (task : Task)
    (reader : Reader) (earlier : Nat) : Prop where
  count_le : active.count procedure ≤ earlier
  /-- A group stands at the token that it was itself called on. -/
  count_lt : reader.kind? = some kind → (task = .group → procedure ≠ .group) →
    active.count procedure < earlier

section

variable {procedure callee : Procedure} {kind found : Kind} {active : List Procedure} {task : Task}
  {reader further : Reader} {earlier : Nat}

/-- A call that is made on no kind of token in particular leaves the room as it is. -/
theorem Room.call (h : Room procedure kind active task reader earlier)
    (hoccasion : procedure.occasion = some kind) (hcallee : callee.occasion = none)
    (htask : task ≠ .group) :
    Room procedure kind (callee :: active) callee.task reader earlier := by
  have hne : callee ≠ procedure := by
    rintro rfl
    simp [hcallee] at hoccasion
  have hcount : (callee :: active).count procedure = active.count procedure :=
    List.count_cons_of_ne hne
  refine ⟨hcount ▸ h.count_le, fun hkind _ => hcount ▸ h.count_lt hkind ?_⟩
  exact fun hgroup => absurd hgroup htask

/-- Behind a pull there is room for the calls on what it gave. -/
theorem room_of_load {scan : Scan} {depth : Nat} (hcount : active.count procedure ≤ earlier)
    (h : Reader.load scan depth = .ok further) (task : Task) :
    Room procedure kind active task further (earlier + pulledOf kind [.pulled scan.pull.1]) := by
  obtain ⟨hpull, -⟩ := Reader.load_eq_ok h
  refine ⟨by omega, fun hkind _ => ?_⟩
  have hone : pulledOf kind [.pulled scan.pull.1] = 1 := by
    rw [pulledOf_singleton, hpull]
    exact if_pos hkind
  omega

/-- Behind its parenthesis there is room for what a group holds. -/
theorem room_inside (hcount : active.count procedure ≤ earlier)
    (hoccasion : procedure.occasion = some kind) (h : reader.advance = .ok further) :
    Room procedure kind (.chain .any :: active) (.chain .any []) further.deeper
      (earlier + pulledOf kind [.pulled reader.next]) := by
  obtain ⟨hle, hlt⟩ := (room_of_load hcount h .primary).call hoccasion
    (rfl : (Procedure.chain .any).occasion = none) (by simp)
  exact ⟨hle, hlt⟩

/-- A call on the lookahead, which was pulled. -/
theorem Room.count_call (h : Room procedure kind active task reader earlier)
    (hoccasion : procedure.occasion = some kind) (hcallee : callee.occasion = some found)
    (hfound : reader.kind? = some found) (htask : task ≠ .group) :
    (callee :: active).count procedure ≤ earlier := by
  by_cases heq : callee = procedure
  · obtain rfl := heq
    obtain rfl := Option.some.inj (hcallee.symm.trans hoccasion)
    rw [List.count_cons_self]
    exact h.count_lt hfound fun hgroup => absurd hgroup htask
  · rw [List.count_cons_of_ne heq]
    exact h.count_le

/-- A call for a group on its parenthesis leaves room for what the group calls. -/
theorem Room.group (h : Room procedure kind active task reader earlier)
    (hoccasion : procedure.occasion = some kind) (hfound : reader.kind? = some .opening)
    (htask : task ≠ .group) : Room procedure kind (.group :: active) .group reader earlier := by
  refine ⟨h.count_call hoccasion rfl hfound htask, fun hkind hother => ?_⟩
  have hne : Procedure.group ≠ procedure := (hother rfl).symm
  rw [List.count_cons_of_ne hne]
  exact h.count_lt hkind fun hgroup => absurd hgroup htask

end

/-- Operands are called for on no kind of token in particular. -/
theorem Connective.occasion_operand (connective : Connective) :
    connective.operand.occasion = none := by
  cases connective <;> rfl

/-- **Calls have a reason.**  Where there is room for a task, every call of a procedure
that is active while it runs was made on a token of its own. -/
theorem Runs.backed {active : List Procedure} {task : Task} {reader : Reader} {log : List Event}
    {outcome : Return} (h : Runs marker active task reader log outcome) {procedure : Procedure}
    {kind : Kind} (hoccasion : procedure.occasion = some kind) {earlier : Nat}
    (hroom : Room procedure kind active task reader earlier) :
    Backed procedure kind earlier log := by
  induction h generalizing earlier with
  | @chainFailed _ connective _ _ _ _ _ ih | @chainLast _ connective _ _ _ _ _ _ _ ih =>
      have hcall := hroom.call hoccasion connective.occasion_operand (by simp)
      exact .called hcall.count_le (ih hcall)
  | @chainStopped _ connective _ _ _ _ _ _ _ _ _ ih =>
      have hcall := hroom.call hoccasion connective.occasion_operand (by simp)
      exact .called hcall.count_le ((ih hcall).append (.singleton_pulled _))
  | @chainMore active connective _ _ _ _ log _ _ _ _ _ advanced _ ih ihRest =>
      have hcall := hroom.call hoccasion connective.occasion_operand (by simp)
      have hcount : active.count procedure ≤ earlier + pulledOf kind log :=
        Nat.le_add_right_of_le hroom.count_le
      have hrest := ihRest (room_of_load hcount advanced _)
      exact .called hcall.count_le ((ih hcall).append hrest.pulled)
  | unaryPrimary _ _ ih =>
      have hcall := hroom.call hoccasion (rfl : Procedure.primary.occasion = none) (by simp)
      exact .called hcall.count_le (ih hcall)
  | unaryStopped | primaryLeaf | groupStopped | groupEmpty => exact .singleton_pulled _
  | unaryNot not advanced _ ih =>
      -- the call takes the room of the negation, and what comes next brings its own
      have hcount := hroom.count_call hoccasion (rfl : (Procedure.unary true).occasion = _) not
        (by simp)
      have hrest := ih (room_of_load hcount advanced _)
      exact .pulled (.called (Nat.le_add_right_of_le hcount) hrest)
  | primaryGroup opening _ ih =>
      have hgroup := hroom.group hoccasion opening (by simp)
      exact .called hgroup.count_le (ih hgroup)
  | primaryRefused => exact .nil
  | groupFailed _ _ advanced _ _ ih | groupUnclosed _ _ advanced _ _ _ ih =>
      have hinside := room_inside hroom.count_le hoccasion advanced
      exact .pulled (.called hinside.count_le (ih hinside))
  | groupClosed _ _ advanced _ _ _ ih =>
      have hinside := room_inside hroom.count_le hoccasion advanced
      exact .pulled (.called hinside.count_le ((ih hinside).append (.singleton_pulled _)))

end TagFilter
