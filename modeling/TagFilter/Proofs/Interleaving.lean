import TagFilter.Proofs.Partition

/-!
# Two ways to drive a scan

A scan can be asked for its next element in two ways.  `Scan.pull` always gives
one; `Scan.next` gives none once it has met the ending itself.  However the two
are mixed, nothing is lost, repeated or given out of order: every call that is
answered moves the scan in the same way, and only `next` looks at the flag that
only `next` sets.

* `Scan.answers_call`: all that one call can do.
* `Scan.nth_eq`: what pulling gives, also beyond the ending.
* `replies_interleaved`: the replies to any calls on a new scan.
-/

namespace TagFilter

/-- A way to ask a scan for its next element. -/
inductive Call where
  | next
  | pull
  deriving DecidableEq, Repr

namespace Scan

/-- The reply to a call, and the scan after it. -/
def call (scan : Scan) : Call → Option Pulled × Scan
  | .next => scan.next
  | .pull => (some scan.pull.1, scan.pull.2)

/-- The replies to some calls, one after the other. -/
def replies (scan : Scan) : List Call → List (Option Pulled)
  | [] => []
  | call :: calls => (scan.call call).1 :: (scan.call call).2.replies calls

/-- What a pull gives when there have been `k` pulls before. -/
def nth (scan : Scan) : Nat → Pulled
  | 0 => scan.pull.1
  | k + 1 => scan.pull.2.nth k

/-! ## One call -/

/-- What a call can do: a scan that `next` has seen end refuses it, and otherwise
it is a pull, after which the scan may be one that `next` has seen end. -/
inductive Answers (scan : Scan) : Call → Option Pulled → Scan → Prop
  | refused (ended : scan.ended) : Answers scan .next none scan
  | pulled : Answers scan .pull (some scan.pull.1) scan.pull.2
  | token {token : Token} (running : scan.ended = false) (h : scan.pull.1 = .token token) :
      Answers scan .next (some (.token token)) scan.pull.2
  | ending {ending : Ending} (running : scan.ended = false) (h : scan.pull.1 = .ending ending) :
      Answers scan .next (some (.ending ending)) { scan.pull.2 with ended := true }

/-- A call does what a call can do, and nothing else. -/
theorem answers_call (scan : Scan) (call : Call) :
    Answers scan call (scan.call call).1 (scan.call call).2 := by
  cases call with
  | pull => exact .pulled
  | next =>
      cases hended : scan.ended with
      | true =>
          have hnext : scan.next = (none, scan) := by simp [next, hended]
          rw [Scan.call, hnext]
          exact .refused hended
      | false =>
          match hpull : scan.pull with
          | (.token token, after) =>
              have hnext : scan.next = (some (.token token), scan.pull.2) := by
                simp [next, hended, hpull]
              rw [Scan.call, hnext]
              exact .token hended (by rw [hpull])
          | (.ending ending, after) =>
              have hnext : scan.next =
                  (some (.ending ending), { scan.pull.2 with ended := true }) := by
                simp [next, hended, hpull]
              rw [Scan.call, hnext]
              exact .ending hended (by rw [hpull])

/-- A pull does not look at whether `next` has met the ending. -/
theorem pull_withEnded (scan : Scan) (ended : Bool) :
    pull { scan with ended := ended } = (scan.pull.1, { scan.pull.2 with ended := ended }) := by
  unfold pull cut skipBlanks
  dsimp only
  split
  · rfl
  · split <;> rfl

/-- A pull does not tell `next` that the scan has ended. -/
theorem ended_pull (scan : Scan) : scan.pull.2.ended = scan.ended := by
  unfold pull cut skipBlanks
  dsimp only
  split
  · rfl
  · split <;> rfl

/-- Nor does what `next` has seen change what pulling gives. -/
theorem nth_withEnded (scan : Scan) (ended : Bool) (k : Nat) :
    nth { scan with ended := ended } k = scan.nth k := by
  induction k generalizing scan with
  | zero => rw [nth, pull_withEnded, nth]
  | succ k ih => rw [nth, pull_withEnded, ih, nth]

/-! ## All calls -/

/-- A call that is answered moves the scan as a pull does. -/
theorem Answers.eq_pull {scan after : Scan} {call : Call} {reply : Pulled}
    (h : Answers scan call (some reply) after) :
    reply = scan.pull.1 ∧ ∃ ended, after = { scan.pull.2 with ended := ended } := by
  cases h with
  | pulled => exact ⟨rfl, scan.pull.2.ended, rfl⟩
  | token _ hpull => exact ⟨hpull.symm, scan.pull.2.ended, rfl⟩
  | ending _ hpull => exact ⟨hpull.symm, true, rfl⟩

/-- A call that is refused leaves the scan as it was. -/
theorem Answers.eq_of_none {scan after : Scan} {call : Call} (h : Answers scan call none after) :
    after = scan := by
  cases h
  rfl

/-- The replies that are not refusals are what pulling alone gives. -/
theorem eq_nth_of_reply {scan : Scan} {calls : List Call} {k : Nat} {reply : Pulled}
    (h : ((scan.replies calls).filterMap id)[k]? = some reply) : reply = scan.nth k := by
  induction calls generalizing scan k with
  | nil => simp [replies] at h
  | cons call calls ih =>
      have hanswers := scan.answers_call call
      rw [replies] at h
      cases hfirst : (scan.call call).1 with
      | none =>
          rw [hfirst] at h hanswers
          rw [hanswers.eq_of_none] at h
          exact ih h
      | some first =>
          rw [hfirst] at h hanswers
          obtain ⟨hpull, ended, hafter⟩ := hanswers.eq_pull
          cases k with
          | zero =>
              have hreply : first = reply := Option.some.inj h
              exact hreply.symm.trans hpull
          | succ k =>
              -- the calls differ from pulls in a flag that pulls do not look at
              have hlater : reply = (scan.call call).2.nth k := ih h
              rwa [hafter, nth_withEnded] at hlater

/-- Only a `next` that meets the ending makes a scan one that `next` has seen end. -/
theorem Answers.ended_iff {scan after : Scan} {call : Call} {reply : Option Pulled}
    (h : Answers scan call reply after) :
    after.ended ↔ scan.ended ∨ call = .next ∧ ∃ ending, reply = some (.ending ending) := by
  cases h with
  | refused ended => simp [ended]
  | pulled => simp [ended_pull]
  | token running => simp [ended_pull]
  | ending running => simp

/-- A call is refused exactly if it is a `next` after one that met the ending. -/
theorem reply_eq_none_iff {scan : Scan} {calls : List Call} {k : Nat} :
    (scan.replies calls)[k]? = some none ↔
      calls[k]? = some .next ∧ (scan.ended ∨ ∃ j < k, calls[j]? = some .next ∧
        ∃ ending, (scan.replies calls)[j]? = some (some (.ending ending))) := by
  induction calls generalizing scan k with
  | nil => simp [replies]
  | cons call calls ih =>
      have hanswers := scan.answers_call call
      rw [replies]
      cases k with
      | zero =>
          generalize (scan.call call).1 = reply, (scan.call call).2 = after at hanswers
          cases hanswers with
          | refused ended => simp [ended]
          | pulled => simp
          | token running => simp [running]
          | ending running => simp [running]
      | succ k =>
          rw [List.getElem?_cons_succ, List.getElem?_cons_succ, ih, hanswers.ended_iff,
            Nat.exists_lt_succ_left]
          simp [or_assoc]

/-! ## What pulling gives -/

/-- Where no text is left, pulling gives the end again and again. -/
theorem nth_of_nil {scan : Scan} (h : scan.rest = []) (k : Nat) :
    scan.nth k = .ending (.done scan.offset) := by
  have hskip : scan.skipBlanks = scan := by
    cases scan
    subst h
    rfl
  have hpull : scan.pull = (.ending (.done scan.offset), scan) := by
    simp [pull, hskip, cut, h]
  induction k with
  | zero => rw [nth, hpull]
  | succ k ih => rw [nth, hpull, ih]

/-- Behind the ending there is nothing left, and the scan stands where it ended. -/
theorem after_of_pull_ending {scan after : Scan} {ending : Ending}
    (h : scan.pull = (.ending ending, after)) : after.rest = [] ∧ after.offset = ending.offset := by
  unfold pull cut at h
  split at h
  · rename_i hrest
    obtain ⟨hending, rfl⟩ := Prod.mk.inj h
    obtain rfl := Pulled.ending.inj hending
    exact ⟨hrest, rfl⟩
  · split at h
    · obtain ⟨hending, rfl⟩ := Prod.mk.inj h
      obtain rfl := Pulled.ending.inj hending
      exact ⟨rfl, rfl⟩
    · simp at h

/-- **Pulling on and on.**  It gives the stream, and then the end of the input over
and over, at the place where the stream ended. -/
theorem nth_eq (scan : Scan) (k : Nat) :
    scan.nth k = (scan.stream.toList[k]?).getD (.ending (.done scan.stream.ending.offset)) := by
  induction scan using stream_induction generalizing k with
  | ending scan after ending hpull =>
      rw [stream_of_pull_ending hpull]
      cases k with
      | zero =>
          rw [nth, hpull]
          rfl
      | succ k =>
          obtain ⟨hrest, hoffset⟩ := after_of_pull_ending hpull
          rw [nth, hpull, nth_of_nil hrest, hoffset]
          rfl
  | token scan after token hpull ih =>
      rw [stream_of_pull_token hpull]
      cases k with
      | zero =>
          rw [nth, hpull]
          rfl
      | succ k =>
          rw [nth, hpull]
          exact ih k

/-- A scan that is drained by `next` alone gives its stream. -/
theorem drain_eq {scan : Scan} (h : scan.ended = false) : scan.drain.1 = scan.stream.toList := by
  induction scan using stream_induction with
  | ending scan after ending hpull =>
      have hnext : scan.next = (some (.ending ending), { after with ended := true }) := by
        simp [next, h, hpull]
      rw [stream_of_pull_ending hpull]
      unfold drain
      split <;> rename_i hcase <;> rw [hnext] at hcase <;> cases hcase
      rfl
  | token scan after token hpull ih =>
      have hnext : scan.next = (some (.token token), after) := by
        simp [next, h, hpull]
      have hafter : after.ended = false := by
        have hkeep := scan.ended_pull
        rw [hpull, h] at hkeep
        exact hkeep
      rw [stream_of_pull_token hpull]
      unfold drain
      split <;> rename_i hcase <;> rw [hnext] at hcase <;> cases hcase
      exact congrArg (Pulled.token token :: ·) (ih hafter)

end Scan

/-- **Mixed calls.**  Let a new scan be asked in any mixture of both ways.  The replies
that are not refusals are, in order, what `next` alone gives on a new scan, up to the
ending; behind it they are the end of the input, at the place where that ended.  A
call is refused exactly if it is a `next` after one that met the ending. -/
theorem replies_interleaved (marker : Char) (input : Text) (calls : List Call) :
    let alone := (Scan.start marker input).drain.1
    let replies := (Scan.start marker input).replies calls
    (∃ (found : List Token) (last : Ending),
      alone = found.map Pulled.token ++ [Pulled.ending last] ∧
      (last = .done input.length ∨ ∃ quote, last = .openQuote quote) ∧
      ∀ (k : Nat) (reply : Pulled), (replies.filterMap id)[k]? = some reply →
        reply = (alone[k]?).getD (.ending (.done last.offset))) ∧
    ∀ k : Nat, replies[k]? = some none ↔
      calls[k]? = some Call.next ∧ ∃ j < k, calls[j]? = some Call.next ∧
        ∃ ending : Ending, replies[j]? = some (some (Pulled.ending ending)) := by
  intro alone replies
  obtain ⟨found, last, htokens⟩ : ∃ found last, tokens marker input = ⟨found, last⟩ :=
    ⟨_, _, rfl⟩
  have halone : alone = Stream.toList ⟨found, last⟩ := by
    rw [← htokens]
    exact Scan.drain_eq rfl
  refine ⟨⟨found, last, halone, ?_, ?_⟩, ?_⟩
  · cases last with
    | done offset =>
        obtain ⟨-, -, -, -, rfl⟩ := tokens_eq_done_iff.mp htokens
        exact .inl rfl
    | openQuote quote => exact .inr ⟨quote, rfl⟩
  · intro k reply hreply
    have hnth := (Scan.start marker input).nth_eq k
    rw [show (Scan.start marker input).stream = ⟨found, last⟩ from htokens, ← halone] at hnth
    exact (Scan.eq_nth_of_reply hreply).trans hnth
  · intro k
    have hnone : replies[k]? = some none ↔ _ := Scan.reply_eq_none_iff
    have hrunning : (Scan.start marker input).ended = false := rfl
    simpa only [hrunning, Bool.false_eq_true, false_or] using hnone

/-- The open quote is met by a pull, which does not stop `next`. -/
theorem replies_behind_open_quote :
    let replies := (Scan.start '*' ['a', ' ', '"']).replies [.next, .pull, .next, .pull, .next]
    (∃ last : Ending, Pulled.ending (.done 2) =
      ((Scan.start '*' ['a', ' ', '"']).drain.1[2]?).getD (.ending (.done last.offset))) ∧
    replies[4]? = some none := by
  intro replies
  have hbehind : (replies.filterMap id)[2]? = some (.ending (.done 2)) := by cbv
  have hended : replies[2]? = some (some (.ending (.done 2))) := by cbv
  obtain ⟨⟨-, last, -, -, hreplies⟩, hnone⟩ :=
    replies_interleaved '*' ['a', ' ', '"'] [.next, .pull, .next, .pull, .next]
  exact ⟨⟨last, hreplies 2 _ hbehind⟩, (hnone 4).mpr ⟨rfl, 2, by decide, rfl, _, hended⟩⟩

end TagFilter
