import TagFilter.Proofs.Collecting
import TagFilter.Proofs.PlainLists
import TagFilter.Session

/-!
# Runs of sessions

What a session keeps, step by step and then over a run of any length.

* `Session.step_fixed`: no step changes the marker, the matching or the tags of a session.
* `Session.step_of_failure`: a step that cannot read its text leaves the session as it was, so
  the replies to the later steps are those of a run without it (`Session.run_append_failed`).
* `Session.Plain.step`, `Session.Plain.after`: the names of a session are strictly ascending,
  and each is the name of a tag that can be read with its marker; the same is true of the
  tags of its query.  Every list that a run hands out has such names
  (`Session.names_of_mem_run`).
-/

namespace TagFilter

/-- What comes of the text of a step, if the step has one. -/
def Step.read? (marker : Char) : Step → Option (Except Failure Query)
  | .parse text | .and text | .or text => some (TagFilter.parse marker text)
  | .list text => some (parseTags marker text)
  | .not | .child | .holds | .write | .collect | .collected => none

/-- A step that asks something and changes nothing. -/
inductive Step.Asks : Step → Prop
  | holds : Asks .holds
  | write : Asks .write

namespace Session

variable {session : Session} {step : Step} {failure : Failure}

/-! ## One step -/

/-- What was read becomes the query, and nothing else changes. -/
theorem becomeRead_fixed (session : Session) (read : Except Failure Query)
    (build : Query → Query) :
    ∃ query, (session.becomeRead read build).2 = { session with query := query } := by
  cases read with
  | ok query => exact ⟨build query, rfl⟩
  | error failure => exact ⟨session.query, rfl⟩

/-- **What is fixed.**  A step changes the query and the names of a session, and nothing else. -/
theorem step_fixed (session : Session) (step : Step) :
    ∃ query names, (session.step step).2 = { session with query := query, names := names } := by
  cases step with
  | parse | list | and | or =>
      obtain ⟨query, hquery⟩ := becomeRead_fixed session _ _
      exact ⟨query, session.names, hquery⟩
  | not => exact ⟨_, session.names, rfl⟩
  | child =>
      rw [Session.step]
      split
      · exact ⟨session.query, session.names, rfl⟩
      · exact ⟨_, session.names, rfl⟩
  | holds | write => exact ⟨session.query, session.names, rfl⟩
  | collect | collected => exact ⟨session.query, _, rfl⟩

/-- No step changes the marker. -/
@[simp] theorem step_marker : (session.step step).2.marker = session.marker := by
  obtain ⟨query, names, h⟩ := step_fixed session step
  rw [h]

/-- A text that cannot be read is replied with why. -/
theorem becomeRead_eq_failure_iff {read : Except Failure Query} {build : Query → Query} :
    (session.becomeRead read build).1 = .failure failure ↔ read = .error failure := by
  cases read <;> simp [becomeRead, become]

/-- A step fails exactly if its text cannot be read, for the reason that it cannot. -/
theorem step_eq_failure_iff :
    (session.step step).1 = .failure failure ↔
      step.read? session.marker = some (.error failure) := by
  cases step with
  | parse | list | and | or =>
      rw [Session.step, becomeRead_eq_failure_iff, Step.read?, Option.some_inj]
  | child =>
      rw [Session.step]
      cases session.query.children <;> simp [Step.read?, become]
  | not | holds | write | collect | collected => simp [Session.step, Step.read?, become]

/-- **Failed steps.**  A step that fails leaves the session as it was. -/
theorem step_of_failure (h : (session.step step).1 = .failure failure) :
    (session.step step).2 = session := by
  have hread := step_eq_failure_iff.mp h
  cases step with
  | parse | list | and | or => rw [Session.step, Option.some.inj hread, becomeRead]
  | not | child | holds | write | collect | collected => cases hread

/-- A step that only asks leaves the session as it was. -/
theorem step_of_asks (h : step.Asks) : (session.step step).2 = session := by
  cases h <;> rfl

/-! ## Runs -/

/-- The session behind some steps. -/
def after (session : Session) : List Step → Session
  | [] => session
  | step :: steps => (session.step step).2.after steps

variable {steps later : List Step}

/-- The first reply is that to the first step. -/
theorem run_cons :
    session.run (step :: steps) = (session.step step).1 :: (session.step step).2.run steps :=
  rfl

/-- Steps behind others go on where those end. -/
theorem after_append : session.after (steps ++ later) = (session.after steps).after later := by
  induction steps generalizing session with
  | nil => rfl
  | cons step steps ih => exact ih

/-- The replies to steps behind others are those of the session behind those. -/
theorem run_append :
    session.run (steps ++ later) = session.run steps ++ (session.after steps).run later := by
  induction steps generalizing session with
  | nil => rfl
  | cons step steps ih => exact congrArg _ ih

/-- Every step has its reply. -/
theorem length_run : (session.run steps).length = steps.length := by
  induction steps generalizing session with
  | nil => rfl
  | cons step steps ih => exact congrArg Nat.succ ih

/-- **What is fixed in a run.**  The marker, the matching and the tags are those of the start
behind any steps. -/
theorem after_fixed (session : Session) (steps : List Step) :
    ∃ query names, session.after steps = { session with query := query, names := names } := by
  induction steps generalizing session with
  | nil => exact ⟨session.query, session.names, rfl⟩
  | cons step steps ih =>
      obtain ⟨query, names, hstep⟩ := step_fixed session step
      obtain ⟨query', names', hlater⟩ := ih (session.step step).2
      refine ⟨query', names', ?_⟩
      rw [after, hlater, hstep]

/-- **Failed steps in a run.**  All other replies are those of a run without the failed step. -/
theorem run_append_failed (h : ((session.after steps).step step).1 = .failure failure) :
    session.run (steps ++ step :: later) =
      session.run steps ++ .failure failure :: (session.after steps).run later := by
  rw [run_append, run_cons, h, step_of_failure h]

end Session

/-! ## Names -/

/-- A name that a tag can be read as. -/
def IsTagName (marker : Char) (name : Text) : Prop := name ≠ [] ∧ marker ∉ name

/-- The tags of a query that was read have such names. -/
theorem isTagName_of_parse {marker : Char} {input name : Text} {query : Query}
    (h : parse marker input = .ok query) (hname : name ∈ query.tagNames) :
    IsTagName marker name := by
  obtain ⟨place, hat⟩ := Query.mem_tagNames_iff.mp hname
  exact Query.formed_tag.mp (Query.formed_part_of_parse h hat (by simp))

/-- So do those of the query of a step, which is the query of some text in any case. -/
theorem Step.isTagName_of_read? {marker : Char} {step : Step} {name : Text} {query : Query}
    (h : step.read? marker = some (.ok query)) (hname : name ∈ query.tagNames) :
    IsTagName marker name := by
  cases step with
  | parse | and | or => exact isTagName_of_parse (Option.some.inj h) hname
  | list => exact isTagName_of_parse (parse_write_of_parseTags (Option.some.inj h)) hname
  | not | child | holds | write | collect | collected => cases h

/-- The names of an operand are names of the query. -/
theorem Query.mem_tagNames_of_mem_children {query operand : Query} {name : Text}
    (h : operand ∈ query.children) (hname : name ∈ operand.tagNames) : name ∈ query.tagNames := by
  obtain ⟨place, hat⟩ := mem_tagNames_iff.mp hname
  obtain ⟨i, hi⟩ := List.mem_iff_getElem?.mp h
  exact mem_tagNames_iff.mpr ⟨i :: place, (at?_cons hi place).trans hat⟩

namespace Session

variable {session : Session} {steps : List Step} {names : List Text}

/-- A session whose names are strictly ascending, and names of tags that can be read with its
marker, as are the names in its query. -/
structure Plain (session : Session) : Prop where
  ascending : session.names.Pairwise (· < ·)
  names : ∀ name ∈ session.names, IsTagName session.marker name
  query : ∀ name ∈ session.query.tagNames, IsTagName session.marker name

/-- A session has no names at its start. -/
theorem plain_start (marker : Char) (matching : Matching) (tags : List Text) :
    (start marker matching tags).Plain :=
  ⟨.nil, by simp [start], by simp [start, Query.tagNames]⟩

/-- What is built of a query that was read has plain names if it has them from there and from
the query before. -/
theorem Plain.becomeRead {read : Except Failure Query} {build : Query → Query} (h : session.Plain)
    (hread : ∀ query, read = .ok query → ∀ name ∈ query.tagNames, IsTagName session.marker name)
    (hbuild : ∀ query, ∀ name ∈ (build query).tagNames,
      name ∈ query.tagNames ∨ name ∈ session.query.tagNames) :
    (session.becomeRead read build).2.Plain := by
  cases read with
  | ok query =>
      refine ⟨h.ascending, h.names, ?_⟩
      intro name hname
      rcases hbuild query name hname with hnew | hold
      · exact hread query rfl name hnew
      · exact h.query name hold
  | error failure => exact h

/-- **One step.**  Every step keeps a session plain. -/
theorem Plain.step (h : session.Plain) (step : Step) : (session.step step).2.Plain := by
  have hread : ∀ query, step.read? session.marker = some (.ok query) →
      ∀ name ∈ query.tagNames, IsTagName session.marker name :=
    fun query hquery name => Step.isTagName_of_read? hquery
  cases step with
  | parse | list =>
      refine h.becomeRead (fun query hquery => hread query (congrArg some hquery)) ?_
      exact fun query name hname => .inl hname
  | and | or =>
      -- a name of the connective comes from the text or was in the query before
      refine h.becomeRead (fun query hquery => hread query (congrArg some hquery)) ?_
      intro query name hname
      simp only [Query.tagNames, Query.tagNamesOfList, List.append_nil, List.mem_append] at hname
      exact hname.symm
  | not => exact ⟨h.ascending, h.names, fun name hname => h.query name hname⟩
  | child =>
      rw [Session.step]
      split
      · exact h
      · rename_i child others hchildren
        have hchild : child ∈ session.query.children := by
          rw [hchildren]
          exact List.mem_cons_self
        refine ⟨h.ascending, h.names, ?_⟩
        exact fun name hname => h.query name (Query.mem_tagNames_of_mem_children hchild hname)
  | holds | write => exact h
  | collect =>
      refine ⟨session.query.pairwise_collect h.ascending, ?_, h.query⟩
      intro name hname
      rcases Query.mem_collect_iff.mp hname with hnew | hold
      · exact h.query name hnew
      · exact h.names name hold
  | collected => exact ⟨.nil, by simp [Session.step], h.query⟩

/-- **A run.**  Behind any steps a plain session is plain, by induction over the steps. -/
theorem Plain.after (h : session.Plain) (steps : List Step) : (session.after steps).Plain := by
  induction steps generalizing session with
  | nil => exact h
  | cons step steps ih => exact ih (h.step step)

/-- A step that hands out names hands out those that were collected. -/
theorem eq_names_of_step {step : Step} (h : (session.step step).1 = .names names) :
    names = session.names := by
  cases step with
  | parse | list | and | or =>
      rw [Session.step] at h
      unfold becomeRead at h
      split at h <;> cases h
  | child =>
      rw [Session.step] at h
      split at h <;> cases h
  | not | holds | write | collect => cases h
  | collected => exact (Reply.names.inj h).symm

/-- The names in the replies of a plain session are plain. -/
theorem Plain.of_mem_run (h : session.Plain) (hmem : .names names ∈ session.run steps) :
    names.Pairwise (· < ·) ∧ ∀ name ∈ names, IsTagName session.marker name := by
  induction steps generalizing session with
  | nil => cases hmem
  | cons step steps ih =>
      rw [run_cons] at hmem
      rcases List.mem_cons.mp hmem with hfirst | hlater
      · obtain rfl := eq_names_of_step hfirst.symm
        exact ⟨h.ascending, h.names⟩
      · simpa using ih (h.step step) hlater

/-- **What a run hands out.**  Every list of names among the replies of a session is strictly
ascending, and has only names of tags that can be read with its marker. -/
theorem names_of_mem_run {marker : Char} {matching : Matching} {tags : List Text}
    (h : .names names ∈ (start marker matching tags).run steps) :
    names.Pairwise (· < ·) ∧ ∀ name ∈ names, IsTagName marker name :=
  (plain_start marker matching tags).of_mem_run h

end Session

end TagFilter
