import TagFilter.Proofs.DescentProgress
import TagFilter.Proofs.FinalFailure

/-!
# A descent reads what a reading reads

A reading takes one token after the other and keeps what is open in its progress; a
descent keeps it in the calls that are active.  Where a procedure is called, the progress
is ready for an operand, and where it comes back, the operand is complete there
(`Runs.agrees`, by induction on the run).  So the two have the same result and look at the
same elements.

* `Descends.reading_eq`: a descent on an input is the reading of it.
* `foundAt_of_parse`: which element a failure is found at.
* `exists_descent`: all that is known of a descent on an input.
-/

namespace TagFilter

variable {marker : Char}

/-! ## A reading from a lookahead on -/

/-- The reading, with `n` more pulls in front of it. -/
def Reading.behind (n : Nat) (reading : Reading) : Reading :=
  { reading with pulls := reading.pulls + n }

/-- What is read from the lookahead of a descent on. -/
def Progress.follow (marker : Char) (progress : Progress) (reader : Reader) : Reading :=
  progress.read marker reader.stream.tokens reader.stream.ending

section Follow

variable {progress further : Progress} {reader after : Reader} {token : Token} {failure : Failure}

/-- A token that is refused ends the reading at the lookahead. -/
theorem follow_of_refused (hcurrent : reader.current = .found token)
    (htake : progress.take marker token = .error failure) :
    progress.follow marker reader = ⟨.error failure, 1⟩ := by
  rw [Progress.follow, Reader.stream_of_current hcurrent, Stream.prepend, List.singleton_append,
    Progress.read, htake]

/-- Where the lookahead is the end, the reading is finished. -/
theorem follow_of_done {offset : Nat} (hcurrent : reader.current = .done offset) :
    progress.follow marker reader = ⟨progress.finish (.done offset), 1⟩ := by
  rw [Progress.follow, Reader.stream, hcurrent, Progress.read]

/-- An open quote behind a token that is read ends the reading one pull later. -/
theorem follow_of_stopped (hcurrent : reader.current = .found token)
    (htake : progress.take marker token = .ok further)
    (hadvance : reader.advance = .error failure) :
    progress.follow marker reader = ⟨.error failure, 2⟩ := by
  obtain ⟨offset, rfl, -, hstream⟩ := Reader.load_eq_error hadvance
  rw [Progress.follow, Reader.stream_of_current hcurrent, hstream, Stream.prepend,
    List.singleton_append, Progress.read, htake]
  rfl

/-- Behind a token that is read the reading goes on, one pull later. -/
theorem follow_of_advance (hcurrent : reader.current = .found token)
    (htake : progress.take marker token = .ok further) (hadvance : reader.advance = .ok after) :
    progress.follow marker reader = (further.follow marker after).behind 1 := by
  obtain ⟨-, hstream, -⟩ := Reader.load_eq_ok hadvance
  rw [Progress.follow, Reader.stream_of_current hcurrent, ← hstream, Stream.prepend,
    List.singleton_append, Progress.read, htake]
  rfl

end Follow

/-! ## Agreement

A procedure is called where an operand is due, and the progress of the reading there tells
what the procedures that are active have read: those of the innermost group by its level,
the others by the groups around it. -/

/-- The reading is where a descent may call for an operand. -/
structure Ready (progress : Progress) (reader : Reader) : Prop where
  due : progress.passed ≠ .operand
  /-- A descent is not called on a blank input. -/
  begun : progress.passed = .nothing → reader.kind? ≠ none
  /-- Nor is it called on an empty group. -/
  filled : progress.passed = .opening → reader.kind? ≠ some .closing
  depth : progress.groups.length = reader.depth

/-- The level of a reading where a task begins. -/
def Task.Begins (reader : Reader) (level : Level) : Task → Prop
  | .chain .all operands => level.conjuncts = operands ∧ level.nots = 0
  | .chain .any operands =>
    level.disjuncts = operands ∧ level.conjuncts = [] ∧ level.nots = 0
  | .primary => reader.kind? ≠ some .not
  | .unary | .group => True

/-- The level of a reading where a task that began at `outer` has come back with a query. -/
def Task.Ends (outer : Level) (query : Query) (after : Reader) (level : Level) : Task → Prop
  | .chain .all _ => query = .conjunction level.conjuncts ∧ level.disjuncts = outer.disjuncts ∧
      level.nots = 0 ∧ after.kind? ≠ some .and
  | .chain .any _ => query = level.query ∧ after.kind? ≠ some .and ∧ after.kind? ≠ some .or
  | .unary | .primary | .group => level = outer.withOperand query

/-- The reading behind a task: an operand is complete in the groups that were open. -/
def Task.Place (task : Task) (progress : Progress) (query : Query) (after : Reader)
    (further : Progress) : Prop :=
  ∃ level, further = ⟨progress.groups, level, .operand⟩ ∧ task.Ends progress.level query after level

/-- A reading does what a descent does: it fails as that does, at the last element that
was pulled, or comes to a place that belongs to the query. -/
def Agrees (marker : Char) (progress : Progress) (reader : Reader) (pulled : List Pulled)
    (place : Query → Reader → Progress → Prop) : Return → Prop
  | .error failure => progress.follow marker reader = ⟨.error failure, pulled.length + 1⟩
  | .ok (query, after) => ∃ further, place query after further ∧
      progress.follow marker reader = (further.follow marker after).behind pulled.length

section Agrees

variable {progress further : Progress} {reader after : Reader} {token : Token}
  {pulled later : List Pulled} {place other : Query → Reader → Progress → Prop}
  {failure : Failure} {outcome : Return}

/-- A reading that agrees from a later place on. -/
theorem Agrees.behind (h : Agrees marker further after later place outcome)
    (hfollow : progress.follow marker reader = (further.follow marker after).behind pulled.length) :
    Agrees marker progress reader (pulled ++ later) place outcome := by
  cases outcome with
  | error failure =>
      have hlater : further.follow marker after = ⟨.error failure, later.length + 1⟩ := h
      show progress.follow marker reader = ⟨.error failure, (pulled ++ later).length + 1⟩
      rw [hfollow, hlater, Reading.behind, List.length_append]
      simp only [Reading.mk.injEq, true_and]
      omega
  | ok found =>
      obtain ⟨last, hplace, hlater⟩ := h
      refine ⟨last, hplace, ?_⟩
      rw [hfollow, hlater, Reading.behind, Reading.behind, List.length_append, Nat.add_assoc,
        Nat.add_comm later.length]
      rfl

/-- A place that belongs to the query in another sense too. -/
theorem Agrees.mono (h : Agrees marker progress reader pulled place outcome)
    (hplace : ∀ query after further, place query after further → other query after further) :
    Agrees marker progress reader pulled other outcome := by
  cases outcome with
  | error failure => exact h
  | ok found =>
      obtain ⟨further, hfurther, hfollow⟩ := h
      exact ⟨further, hplace _ _ _ hfurther, hfollow⟩

/-- A query that is changed on its way back. -/
theorem Agrees.map {change : Query → Query}
    (h : Agrees marker progress reader pulled place outcome)
    (hplace : ∀ query after further, place query after further →
      other (change query) after further) :
    Agrees marker progress reader pulled other
      (outcome.map fun (query, after) => (change query, after)) := by
  cases outcome with
  | error failure => exact h
  | ok found =>
      obtain ⟨further, hfurther, hfollow⟩ := h
      exact ⟨further, hplace _ _ _ hfurther, hfollow⟩

/-- A reading that agrees behind a token that it reads. -/
theorem Agrees.advance (h : Agrees marker further after later place outcome)
    (hcurrent : reader.current = .found token) (htake : progress.take marker token = .ok further)
    (hadvance : reader.advance = .ok after) :
    Agrees marker progress reader (reader.next :: later) place outcome := by
  have hfollow := follow_of_advance hcurrent htake hadvance
  exact @Agrees.behind _ _ _ _ _ [reader.next] _ _ _ h hfollow

/-- A descent that reads a token and stops at an open quote fails as the reading does. -/
theorem agrees_of_stopped (hcurrent : reader.current = .found token)
    (htake : progress.take marker token = .ok further)
    (hadvance : reader.advance = .error failure) :
    Agrees marker progress reader [reader.next] place (.error failure) :=
  follow_of_stopped hcurrent htake hadvance

/-- A descent that comes back behind one token has read what the reading has. -/
theorem agrees_of_advance {query : Query} (hcurrent : reader.current = .found token)
    (htake : progress.take marker token = .ok further)
    (hplace : ∀ after, place query after further) :
    Agrees marker progress reader [reader.next] place
      (reader.advance.map fun after => (query, after)) := by
  cases hadvance : reader.advance with
  | error failure => exact agrees_of_stopped hcurrent htake hadvance
  | ok after => exact ⟨further, hplace after, follow_of_advance hcurrent htake hadvance⟩

end Agrees

/-! ## One rule after the other -/

section Steps

variable {progress : Progress} {outer level : Level} {reader after further : Reader}
  {token opening : Token} {query : Query} {connective : Connective} {operands : List Query}

/-- The level behind the keyword of a chain. -/
def Connective.onward : Connective → Level → Level
  | .all, level => level
  | .any, level => level.withOr

/-- Behind a complete operand the keyword of either chain is read. -/
theorem take_keyword {groups : List Group} (hkind : token.kind = connective.kind) :
    Progress.take marker ⟨groups, level, .operand⟩ token =
      .ok ⟨groups, connective.onward level, .operator⟩ := by
  cases connective <;>
    simp [Progress.take, Progress.takeOperator, hkind, Connective.kind, Connective.onward]

/-- Where a chain goes on, its next operand begins. -/
theorem begins_operand (h : Task.Begins reader level (.chain connective operands)) :
    connective.operand.task.Begins reader level := by
  cases connective with
  | all => trivial
  | any => exact h.2

/-- The last operand of a chain ends it. -/
theorem ends_last (h : Task.Begins reader outer (.chain connective operands))
    (hoperand : connective.operand.task.Ends outer query after level)
    (hlast : after.kind? ≠ some connective.kind) :
    Task.Ends outer (connective.combine (operands ++ [query])) after level
      (.chain connective operands) := by
  cases connective with
  | all =>
      obtain ⟨rfl, hnots⟩ := h
      obtain rfl : level = outer.withOperand query := hoperand
      refine ⟨?_, rfl, rfl, hlast⟩
      rw [Level.withOperand, hnots]
      rfl
  | any =>
      obtain ⟨rfl, -, -⟩ := h
      obtain ⟨rfl, hdisjuncts, -, hand⟩ := hoperand
      refine ⟨?_, hand, hlast⟩
      rw [Level.query, Level.withOr, hdisjuncts]
      rfl

/-- Behind the keyword a chain goes on with one more operand. -/
theorem begins_more (h : Task.Begins reader outer (.chain connective operands))
    (hoperand : connective.operand.task.Ends outer query after level) :
    Task.Begins further (connective.onward level) (.chain connective (operands ++ [query])) := by
  cases connective with
  | all =>
      obtain ⟨rfl, hnots⟩ := h
      obtain rfl : level = outer.withOperand query := hoperand
      refine ⟨?_, rfl⟩
      rw [Connective.onward, Level.withOperand, hnots]
      rfl
  | any =>
      obtain ⟨rfl, -, -⟩ := h
      obtain ⟨rfl, hdisjuncts, hnots, -⟩ := hoperand
      refine ⟨?_, rfl, hnots⟩
      rw [Connective.onward, Level.withOr, hdisjuncts]

/-- What ends the rest of a chain ends the chain. -/
theorem ends_more (hoperand : connective.operand.task.Ends outer query after level)
    {found : Query} {last : Reader} {ending : Level}
    (h : Task.Ends (connective.onward level) found last ending
      (.chain connective (operands ++ [query]))) :
    Task.Ends outer found last ending (.chain connective operands) := by
  cases connective with
  | all =>
      obtain rfl : level = outer.withOperand query := hoperand
      exact h
  | any => exact h

/-- A leaf is an operand. -/
theorem take_leaf (hdue : progress.passed ≠ .operand) (hleaf : token.leaf? marker = some query) :
    progress.take marker token = .ok (progress.withOperand query) := by
  rw [Progress.take, if_neg hdue, Progress.takeOperand]
  unfold Token.leaf? at hleaf
  split at hleaf <;> simp_all

/-- An opening parenthesis opens a group where an operand is due. -/
theorem take_opening (hdue : progress.passed ≠ .operand) (hkind : token.kind = .opening) :
    progress.take marker token = .ok (progress.opened token) := by
  simp [Progress.take, Progress.takeOperand, hdue, hkind]

/-- A negation waits for the operand that is due. -/
theorem take_not (hdue : progress.passed ≠ .operand) (hkind : token.kind = .not) :
    progress.take marker token =
      .ok { progress with level := progress.level.withNot, passed := .operator } := by
  simp [Progress.take, Progress.takeOperand, hdue, hkind]

/-- A closing parenthesis makes its group an operand of the level outside. -/
theorem take_closing {group : Group} {groups : List Group} (hkind : token.kind = .closing) :
    Progress.take marker ⟨group :: groups, level, .operand⟩ token =
      .ok ⟨groups, group.outer.withOperand level.query, .operand⟩ := by
  simp [Progress.take, Progress.takeOperator, hkind]

/-- A group with nothing in it. -/
theorem take_empty (hkind : token.kind = .closing) :
    (progress.opened opening).take marker token =
      .error (Complaint.emptyGroup.about opening) := by
  simp [Progress.take, Progress.takeOperand, Progress.opened, hkind]

/-- Behind a keyword an operand is due, in the groups that were open. -/
theorem ready_operator {pulled : List Pulled} (hready : Ready progress reader)
    (hpasses : reader.Passes pulled further) (level : Level) :
    Ready ⟨progress.groups, level, .operator⟩ further where
  due := nofun
  begun := nofun
  filled := nofun
  depth := hready.depth.trans hpasses.depth.symm

/-- What is read behind its parenthesis is the inside of a group. -/
theorem ready_inside (hready : Ready progress reader) (hcurrent : reader.current = .found opening)
    (hadvance : reader.advance = .ok further) (hclosing : further.kind? ≠ some .closing) :
    Ready (progress.opened opening) further.deeper where
  due := nofun
  begun := nofun
  filled _ := hclosing
  depth := by
    have hpasses := Reader.passes_of_advance (Reader.kind?_of_current hcurrent) hadvance
    rw [Reader.deeper, hpasses.depth, ← hready.depth]
    rfl

/-- A token that cannot begin an operand is refused with the failure of the descent. -/
theorem take_refusal (hready : Ready progress reader) (hcurrent : reader.current = .found token)
    (hnot : token.kind ≠ .not) (hopening : token.kind ≠ .opening)
    (hleaf : token.leaf? marker = none) :
    progress.take marker token = .error reader.refusal := by
  rw [Progress.take, if_neg hready.due, Progress.takeOperand, Reader.refusal, hcurrent,
    ← hready.depth]
  cases hkind : token.kind with
  | text => simp_all [Token.leaf?]
  | wildcard => simp [Token.leaf?, hkind] at hleaf
  | and | or => simp [hkind]
  | not => exact absurd hkind hnot
  | opening => exact absurd hkind hopening
  | closing =>
      have hfilled : progress.passed ≠ .opening := by
        intro hpassed
        exact hready.filled hpassed (hkind ▸ Reader.kind?_of_current hcurrent)
      cases hgroups : progress.groups <;> simp [hfilled, hkind]

/-- What cannot begin an operand, a token or the end, fails as in the descent. -/
theorem follow_of_refusal (hready : Ready progress reader)
    (hnot : reader.kind? ≠ some .not) (hopening : reader.kind? ≠ some .opening)
    (hleaf : ∀ token, reader.current = .found token → token.leaf? marker = none) :
    progress.follow marker reader = ⟨.error reader.refusal, 1⟩ := by
  cases hcurrent : reader.current with
  | found token =>
      rw [Reader.kind?_of_current hcurrent] at hnot hopening
      have htake := take_refusal hready hcurrent (by simpa using hnot) (by simpa using hopening)
        (hleaf token hcurrent)
      exact follow_of_refused hcurrent htake
  | done offset =>
      have hdue := hready.due
      have hbegun := hready.begun
      rw [Reader.kind?, hcurrent] at hbegun
      rw [follow_of_done hcurrent, Reader.refusal, hcurrent, Progress.finish]
      cases hpassed : progress.passed <;> simp_all [Lookahead.pulled, Pulled.kind?]

/-- What does not close a group that is complete fails as in the descent. -/
theorem follow_of_unclosed {group : Group} {groups : List Group}
    (hand : reader.kind? ≠ some .and) (hor : reader.kind? ≠ some .or)
    (hclosing : reader.kind? ≠ some .closing) :
    Progress.follow marker ⟨group :: groups, level, .operand⟩ reader =
      ⟨.error (reader.unclosed group.opening), 1⟩ := by
  cases hcurrent : reader.current with
  | found token =>
      rw [Reader.kind?_of_current hcurrent] at hand hor hclosing
      refine follow_of_refused hcurrent ?_
      rw [Progress.take, if_pos rfl, Progress.takeOperator, Reader.unclosed, hcurrent]
      cases hkind : token.kind <;> simp_all
  | done offset =>
      rw [follow_of_done hcurrent, Reader.unclosed, hcurrent]
      rfl

/-- Outside all groups, what follows a complete query ends the input or fails. -/
theorem follow_of_finish (hand : reader.kind? ≠ some .and) (hor : reader.kind? ≠ some .or) :
    Progress.follow marker ⟨[], level, .operand⟩ reader = ⟨reader.finish level.query, 1⟩ := by
  cases hcurrent : reader.current with
  | found token =>
      rw [Reader.kind?_of_current hcurrent] at hand hor
      rw [Reader.finish, hcurrent]
      refine follow_of_refused hcurrent ?_
      rw [Progress.take, if_pos rfl, Progress.takeOperator]
      cases hkind : token.kind <;> simp_all
  | done offset =>
      rw [follow_of_done hcurrent, Reader.finish, hcurrent]
      rfl

/-- Behind its parenthesis a reading agrees with what is done in a group. -/
theorem Agrees.inside {later : List Pulled} {place : Query → Reader → Progress → Prop}
    {outcome : Return}
    (h : Agrees marker (progress.opened opening) further.deeper later place outcome)
    (hdue : progress.passed ≠ .operand) (hcurrent : reader.current = .found opening)
    (hkind : opening.kind = .opening) (hadvance : reader.advance = .ok further) :
    Agrees marker progress reader (reader.next :: later) place outcome := by
  have hinside : Agrees marker (progress.opened opening) further later place outcome := by
    cases outcome <;> exact h
  exact hinside.advance hcurrent (take_opening hdue hkind) hadvance

end Steps

/-- **A run is a piece of a reading.**  From where it is called, a procedure and the reading
come to the same failure, or to the same query in front of the same lookahead. -/
theorem Runs.agrees {active : List Procedure} {task : Task} {reader : Reader} {log : List Event}
    {outcome : Return} (h : Runs marker active task reader log outcome) {progress : Progress}
    (hready : Ready progress reader) (hbegins : task.Begins reader progress.level) :
    Agrees marker progress reader (pulls log) (task.Place progress) outcome := by
  induction h generalizing progress with
  | chainFailed _ ih => exact ih hready (begins_operand hbegins)
  | chainLast _ last ih =>
      obtain ⟨_, ⟨level, rfl, hends⟩, hfollow⟩ := ih hready (begins_operand hbegins)
      exact ⟨_, ⟨level, rfl, ends_last hbegins hends last⟩, hfollow⟩
  | chainStopped _ more stopped ih =>
      obtain ⟨_, ⟨level, rfl, hends⟩, hfollow⟩ := ih hready (begins_operand hbegins)
      obtain ⟨token, hcurrent, hkind⟩ := Reader.current_of_kind? more
      simp only [pulls_called, pulls_append, pulls_pulled, pulls_nil]
      exact (agrees_of_stopped hcurrent (take_keyword hkind) stopped).behind hfollow
  | chainMore operand more advanced _ ih ihRest =>
      obtain ⟨_, ⟨level, rfl, hends⟩, hfollow⟩ := ih hready (begins_operand hbegins)
      obtain ⟨token, hcurrent, hkind⟩ := Reader.current_of_kind? more
      -- the keyword leads the reading to where the next operand is due
      have hoperand : Reader.Passes _ _ _ := operand.inOrder
      have hpasses := hoperand.trans (Reader.passes_of_advance more advanced)
      have hrest := ihRest (ready_operator hready hpasses _) (begins_more hbegins hends)
      simp only [pulls_called, pulls_append, pulls_pulled]
      refine ((hrest.advance hcurrent (take_keyword hkind) advanced).behind hfollow).mono ?_
      rintro query last _ ⟨level', rfl, hlast⟩
      exact ⟨level', rfl, ends_more hends hlast⟩
  | unaryPrimary plain _ ih => exact ih hready plain
  | unaryStopped not stopped =>
      obtain ⟨token, hcurrent, hkind⟩ := Reader.current_of_kind? not
      exact agrees_of_stopped hcurrent (take_not hready.due hkind) stopped
  | unaryNot not advanced _ ih =>
      obtain ⟨token, hcurrent, hkind⟩ := Reader.current_of_kind? not
      have hpasses := Reader.passes_of_advance not advanced
      have hoperand := ih (ready_operator hready hpasses progress.level.withNot) trivial
      refine (hoperand.advance hcurrent (take_not hready.due hkind) advanced).map ?_
      rintro query last _ ⟨level, rfl, rfl⟩
      exact ⟨_, rfl, progress.level.withOperand_withNot query⟩
  | primaryLeaf current leaf =>
      exact agrees_of_advance current (take_leaf hready.due leaf) fun _ => ⟨_, rfl, rfl⟩
  | primaryGroup _ _ ih => exact ih hready trivial
  | primaryRefused opening leaf => exact follow_of_refusal hready hbegins opening leaf
  | groupStopped current kind stopped =>
      exact agrees_of_stopped current (take_opening hready.due kind) stopped
  | @groupEmpty _ _ further opening current kind advanced closing =>
      obtain ⟨token, hcurrent, hclosing⟩ := Reader.current_of_kind? closing
      have hempty : Agrees marker (progress.opened opening) further [] (Task.group.Place progress)
          (.error (Complaint.emptyGroup.about opening)) :=
        follow_of_refused hcurrent (take_empty hclosing)
      exact hempty.advance current (take_opening hready.due kind) advanced
  | groupFailed current kind advanced closing _ ih =>
      have hinside := ih (ready_inside hready current advanced closing) ⟨rfl, rfl, rfl⟩
      have hfailed : Agrees marker _ _ _ (Task.group.Place progress) (.error _) := hinside
      exact hfailed.inside hready.due current kind advanced
  | @groupClosed _ _ _ last opening _ _ current kind advanced closing _ closed ih =>
      obtain ⟨_, ⟨level, rfl, rfl, -, -⟩, hfollow⟩ :=
        ih (ready_inside hready current advanced closing) ⟨rfl, rfl, rfl⟩
      obtain ⟨token, hcurrent, hkind⟩ := Reader.current_of_kind? closed
      -- the parenthesis makes the query an operand of the level around the group
      have hclosed : Agrees marker ⟨(progress.opened opening).groups, level, .operand⟩ last
          [last.next] (Task.group.Place progress)
          (last.shallower.advance.map fun after => (level.query, after)) :=
        @agrees_of_advance _ _ _ last.shallower _ _ _ hcurrent (take_closing hkind) fun _ =>
          ⟨_, rfl, rfl⟩
      simp only [pulls_called, pulls_append, pulls_pulled, pulls_nil]
      exact (hclosed.behind hfollow).inside hready.due current kind advanced
  | @groupUnclosed _ _ _ last opening _ _ current kind advanced closing _ closed ih =>
      obtain ⟨_, ⟨level, rfl, rfl, hand, hor⟩, hfollow⟩ :=
        ih (ready_inside hready current advanced closing) ⟨rfl, rfl, rfl⟩
      have hunclosed : Agrees marker ⟨(progress.opened opening).groups, level, .operand⟩ last []
          (Task.group.Place progress) (.error (last.unclosed opening)) :=
        follow_of_unclosed hand hor closed
      have hinside := hunclosed.behind hfollow
      rw [List.append_nil] at hinside
      exact hinside.inside hready.due current kind advanced

/-! ## Whole inputs -/

section Input

variable {input : Text} {log : List Event} {result : Except Failure Query} {query : Query}
  {failure : Failure}

/-- Every input has a descent. -/
theorem exists_descends (marker : Char) (input : Text) :
    ∃ log result, Descends marker input log result := by
  cases hload : Reader.load (.start marker input) 0 with
  | error failure => exact ⟨_, _, .stopped hload⟩
  | ok reader =>
      by_cases hblank : reader.kind? = none
      · exact ⟨_, _, .empty hload hblank⟩
      · have hsettles : Settles marker (.chain .any []) reader := settles reader (by simp)
        obtain ⟨log, outcome, hruns⟩ := hsettles [.chain .any]
        exact ⟨_, _, .read hload hblank hruns⟩

/-- **The first lookahead decides.**  A broken scan stops the descent, an input without a
token is the empty query, and anything else is left to the procedures. -/
theorem Descends.decided (h : Descends marker input log result) :
    match Reader.load (.start marker input) 0 with
    | .error failure =>
        log = [.pulled (Scan.start marker input).pull.1] ∧ result = .error failure
    | .ok reader =>
        if reader.kind? = none then
          log = [.pulled (Scan.start marker input).pull.1] ∧ result = .ok .empty
        else ∃ inner outcome,
          Runs marker [.chain .any] (.chain .any []) reader inner outcome ∧
          log = .pulled (Scan.start marker input).pull.1 :: .called [.chain .any] :: inner ∧
          result = outcome.bind fun (query, after) => after.finish query := by
  cases h with
  | stopped stopped =>
      rw [stopped]
      exact ⟨rfl, rfl⟩
  | empty loaded blank =>
      rw [loaded]
      simp only [if_pos blank, and_self]
  | read loaded blank run =>
      rw [loaded]
      simp only [if_neg blank]
      exact ⟨_, _, run, rfl, rfl⟩

/-- **One way only.**  What a descent does is determined by the input. -/
theorem Descends.unique {log' : List Event} {result' : Except Failure Query}
    (h : Descends marker input log result) (h' : Descends marker input log' result') :
    log' = log ∧ result' = result := by
  have hdecided := h'.decided
  cases h with
  | stopped stopped => rwa [stopped] at hdecided
  | empty loaded blank =>
      rw [loaded] at hdecided
      simpa only [if_pos blank] using hdecided
  | read loaded blank run =>
      rw [loaded] at hdecided
      simp only [if_neg blank] at hdecided
      obtain ⟨inner, outcome, hrun, rfl, rfl⟩ := hdecided
      obtain ⟨rfl, rfl⟩ := run.unique hrun
      exact ⟨rfl, rfl⟩

/-- A descent pulls what the scan gives, one element after the other. -/
theorem Descends.inOrder (h : Descends marker input log result) :
    pulls log <+: (tokens marker input).toList := by
  cases h with
  | stopped stopped =>
      obtain ⟨offset, -, hpull, hstream⟩ := Reader.load_eq_error stopped
      rw [tokens, hstream, pulls_pulled, hpull]
      exact List.prefix_rfl
  | @empty reader loaded blank =>
      obtain ⟨hpull, hstream, -⟩ := Reader.load_eq_ok loaded
      rw [tokens, ← hstream, pulls_pulled, hpull]
      exact (reader.inOrder_nil (.openQuote 0)).toList_stream
  | read loaded blank run =>
      obtain ⟨hpull, hstream, -⟩ := Reader.load_eq_ok loaded
      rw [tokens, ← hstream, pulls_pulled, pulls_called, hpull]
      exact run.inOrder.toList_stream

/-- At every call in a descent, each active call of a procedure has a token of its own. -/
theorem Descends.backed (h : Descends marker input log result) {procedure : Procedure}
    {kind : Kind} (hoccasion : procedure.occasion = some kind) : Backed procedure kind 0 log := by
  cases h with
  | stopped | empty => exact .singleton_pulled _
  | read loaded blank run =>
      have hstart : [Procedure.chain .any].count procedure ≤ 0 := by
        rw [List.count_eq_zero_of_not_mem]
        rintro hmem
        obtain rfl := List.mem_singleton.mp hmem
        cases hoccasion
      have hrun := run.backed hoccasion (room_of_load hstart loaded _)
      exact .pulled (.called (Nat.le_add_right_of_le hstart) hrun)

/-- A descent may begin on an input that is not blank. -/
theorem ready_start {reader : Reader} (loaded : Reader.load (.start marker input) 0 = .ok reader)
    (blank : reader.kind? ≠ none) : Ready .start reader where
  due := nofun
  begun _ := blank
  filled := nofun
  depth := (Reader.load_eq_ok loaded).2.2.symm

/-- **The descent is a reading.**  It has the same result, after as many pulls. -/
theorem Descends.reading_eq (h : Descends marker input log result) :
    reading marker input = ⟨result, (pulls log).length⟩ := by
  have hstart {reader : Reader} (loaded : Reader.load (.start marker input) 0 = .ok reader) :
      reading marker input = Progress.start.follow marker reader := by
    rw [reading, Progress.follow, (Reader.load_eq_ok loaded).2.1]
    rfl
  cases h with
  | stopped stopped =>
      obtain ⟨offset, rfl, -, hstream⟩ := Reader.load_eq_error stopped
      rw [reading, tokens, hstream]
      rfl
  | @empty reader loaded blank =>
      rw [hstart loaded]
      cases hcurrent : reader.current with
      | found token => simp [Reader.kind?_of_current hcurrent] at blank
      | done offset => exact follow_of_done hcurrent
  | @read reader log outcome loaded blank run =>
      have hagrees := run.agrees (ready_start loaded blank) ⟨rfl, rfl, rfl⟩
      rw [hstart loaded, pulls_pulled, pulls_called]
      cases outcome with
      | error failure => exact hagrees
      | ok found =>
          obtain ⟨query, after⟩ := found
          obtain ⟨_, ⟨level, rfl, rfl, hand, hor⟩, hfollow⟩ := hagrees
          have hfinish : Progress.follow marker ⟨Progress.start.groups, level, .operand⟩ after =
              ⟨after.finish level.query, 1⟩ := follow_of_finish hand hor
          rw [hfollow, hfinish, Reading.behind, List.length_cons, Nat.add_comm]
          rfl

/-! ## The last element of a reading -/

/-- The elements of a stream up to the one that a failure is found at. -/
inductive FoundAt (stream : Stream) : Failure → List Pulled → Prop
  | openQuote {offset : Nat} (ending : stream.ending = .openQuote offset) :
      FoundAt stream (.openQuote offset) stream.toList
  /-- A token that the grammar does not have here. -/
  | unexpected {before after : List Token} {token : Token}
      (split : stream.tokens = before ++ token :: after) :
      FoundAt stream (Complaint.unexpectedToken.about token) ((before ++ [token]).map .token)
  /-- A closing parenthesis outside all groups. -/
  | unopened {before after : List Token} {token : Token} (kind : token.kind = .closing)
      (split : stream.tokens = before ++ token :: after) :
      FoundAt stream (Complaint.unbalancedParenthesis.about token)
        ((before ++ [token]).map .token)
  /-- The group is found empty at the parenthesis behind the one that is told of. -/
  | emptyGroup {before after : List Token} {opening closing : Token}
      (outer : opening.kind = .opening) (inner : closing.kind = .closing)
      (split : stream.tokens = before ++ opening :: closing :: after) :
      FoundAt stream (Complaint.emptyGroup.about opening)
        ((before ++ [opening, closing]).map .token)
  /-- The group is found open at the end. -/
  | unclosed {before after : List Token} {opening : Token} {offset : Nat}
      (kind : opening.kind = .opening) (split : stream.tokens = before ++ opening :: after)
      (ending : stream.ending = .done offset) :
      FoundAt stream (Complaint.unbalancedParenthesis.about opening) stream.toList
  /-- An operand is due at the end. -/
  | due {offset : Nat} (ending : stream.ending = .done offset) :
      FoundAt stream (.grammar .unexpectedToken offset []) stream.toList

/-- The elements of a stream up to a token. -/
theorem Stream.take_toList {stream : Stream} {before after : List Token} {token : Token}
    (h : stream.tokens = before ++ token :: after) :
    stream.toList.take (before.length + 1) = (before ++ [token]).map .token := by
  have hlist : stream.toList =
      (before ++ [token]).map .token ++ (after.map .token ++ [.ending stream.ending]) := by
    simp [Stream.toList, h]
  rw [hlist]
  exact List.take_left' (by simp)

/-- A token that is refused is where its failure is found. -/
theorem foundAt_of_refuses {stream : Stream} {before after : List Token} {token : Token}
    {progress : Progress} (hsplit : stream.tokens = before ++ token :: after)
    (htracks : Tracks before progress) (hrefuses : Refuses progress token failure) :
    FoundAt stream failure ((before ++ [token]).map .token) := by
  cases hrefuses with
  | unopened kind outside => exact .unopened kind hsplit
  | emptyGroup kind inside passed =>
      obtain ⟨front, rfl, hopening⟩ := htracks.opening_of_passed inside passed
      rw [List.append_assoc, List.singleton_append] at hsplit ⊢
      exact .emptyGroup hopening kind hsplit
  | due | misplaced => exact .unexpected hsplit

/-- A failure at the end is found behind all tokens. -/
theorem foundAt_of_refusesEnd {stream : Stream} {progress : Progress}
    (htracks : Tracks stream.tokens progress)
    (hrefuses : RefusesEnd progress stream.ending failure) :
    FoundAt stream failure stream.toList := by
  generalize hending : stream.ending = ending at hrefuses
  cases hrefuses with
  | openQuote offset => exact .openQuote hending
  | unclosed inside passed offset =>
      obtain ⟨before, within, hsplit, hopening, -⟩ := (inside ▸ htracks.encloses).innermost
      exact .unclosed hopening hsplit hending
  | due passed offset => exact .due hending

/-- A reading that fails has looked at the elements up to the one that it fails at. -/
theorem foundAt_of_parse (h : parse marker input = .error failure) :
    FoundAt (tokens marker input) failure
      ((tokens marker input).toList.take (reading marker input).pulls) := by
  have hproper := @proper_of_mem_tokens marker input
  have hfails := fails_of_read hproper h
  rw [reading]
  generalize tokens marker input = stream at hproper hfails ⊢
  generalize hfound : stream.tokens = found at hproper hfails
  cases hfails with
  | token run refused =>
      rw [run.read_refused (AllProper.of_append hproper) refused, Stream.take_toList hfound]
      exact foundAt_of_refuses hfound (tracks_of_advances run) (refuses_of_take refused)
  | ending run refused =>
      have hall : found.length + 1 = stream.toList.length := by simp [Stream.toList, hfound]
      rw [run.read_eq hproper, hall, List.take_length]
      exact foundAt_of_refusesEnd (hfound ▸ tracks_of_advances run) (refusesEnd_of_finish refused)

/-- A reading that gives a query has looked at everything. -/
theorem pulls_of_parse (h : parse marker input = .ok query) :
    (reading marker input).pulls = (tokens marker input).toList.length := by
  obtain ⟨further, hrun, -⟩ := exists_advances_of_read proper_of_mem_tokens h
  rw [reading, hrun.read_eq proper_of_mem_tokens]
  simp [Stream.toList]

end Input

/-- **Reading by descent.**  A descent on an input comes to an end, in one way only, with
the result of the reading and after as many pulls.  It pulls the elements of the stream in
order: all of them for a query, and those up to the one where the failure is found.  At no
call are more calls for a group active than opening parentheses were pulled, nor more calls
behind a negation than negations.  And wherever a procedure comes back with a query, it has
used up a token. -/
theorem exists_descent (marker : Char) (input : Text) :
    (∃ log, Descends marker input log (parse marker input) ∧
      (∀ other result, Descends marker input other result →
        other = log ∧ result = parse marker input) ∧
      (reading marker input).pulls = (pulls log).length ∧
      pulls log <+: (tokens marker input).toList ∧
      (∀ query, parse marker input = .ok query → pulls log = (tokens marker input).toList) ∧
      (∀ failure, parse marker input = .error failure →
        FoundAt (tokens marker input) failure (pulls log)) ∧
      Backed .group .opening 0 log ∧ Backed (.unary true) .not 0 log) ∧
    ∀ (active : List Procedure) (procedure : Procedure) (reader after : Reader)
      (log : List Event) (query : Query),
      Runs marker active procedure.task reader log (.ok (query, after)) →
        ∃ token taken, reader.stream.tokens = token :: taken ++ after.stream.tokens ∧
          (pulls log).length = (token :: taken).length := by
  refine ⟨?_, fun active procedure reader after log query hruns => ?_⟩
  · obtain ⟨log, result, hdescends⟩ := exists_descends marker input
    have hreading := hdescends.reading_eq
    have hresult : parse marker input = result := by rw [parse, hreading]
    have hpulls : pulls log = (tokens marker input).toList.take (reading marker input).pulls := by
      rw [hreading]
      exact List.prefix_iff_eq_take.mp hdescends.inOrder
    refine ⟨log, hresult ▸ hdescends, ?_, congrArg Reading.pulls hreading, hdescends.inOrder,
      ?_, ?_, hdescends.backed rfl, hdescends.backed rfl⟩
    · intro other result' hother
      rw [hresult]
      exact hdescends.unique hother
    · intro query hquery
      rw [hpulls, pulls_of_parse hquery, List.take_length]
    · intro failure hfailure
      rw [hpulls]
      exact foundAt_of_parse hfailure
  · have hpasses : reader.Passes (pulls log) after := hruns.inOrder
    obtain ⟨token, taken, hstream, hpulls⟩ := hpasses.used
    refine ⟨token, taken, congrArg Stream.tokens hstream, ?_⟩
    rw [hpulls, List.length_append, List.length_map, List.length_singleton, List.length_cons]

/-- The group is found open at the end, behind everything. -/
theorem exists_descent_open_group :
    ∃ log, Descends '*' ['N', 'O', 'T', ' ', '(', 'a'] log
        (.error (.grammar .unbalancedParenthesis 4 ['('])) ∧
      FoundAt (tokens '*' ['N', 'O', 'T', ' ', '(', 'a'])
        (.grammar .unbalancedParenthesis 4 ['(']) (pulls log) := by
  have hfailure : parse '*' ['N', 'O', 'T', ' ', '(', 'a'] =
      .error (.grammar .unbalancedParenthesis 4 ['(']) := by cbv
  obtain ⟨⟨log, hdescends, -, -, -, -, hfound, -⟩, -⟩ :=
    exists_descent '*' ['N', 'O', 'T', ' ', '(', 'a']
  exact ⟨log, hfailure ▸ hdescends, hfound _ hfailure⟩

end TagFilter
