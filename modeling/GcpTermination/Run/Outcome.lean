import GcpTermination.Run.Marking

/-!
# How `run` ends

`run` goes through its phases in order (polling, the check once more, the test of its
context, the marking loop, returned) and never back (`runStep_phase`).  The main results are

* `recheck_last_endpoint_call`: after the check once more, `run` never calls the endpoint
  again, so that check is made at most once and polling never resumes;
* `endpoint_calls_after_done`: once `run`'s context is done, `run` calls the endpoint at most
  twice more (the call in flight and the check once more), and once only if no call is in
  flight;
* `run_error_cases`: the errors `run` can return, each with the text the source gives it;
* `run_returns_nil`: `run` returns `nil` only when the check once more answered "not
  terminated", or after a call of `markNodeForDeletion` that succeeded, its last;
* `marking_stops`: `run` calls `markNodeForDeletion` at most 31 times (at once, and after
  each of the 30 ticks before the timer of `markCtx` fires), at most once after that timer
  fired, and from the test of line 122 on makes at most 64 moves of its own; since it can
  always move until it returns (`runStep_progress`), it returns.

The bounds are budgets on control points (`Pc.endpointBudget`, `Pc.markCalls`,
`Pc.movesLeft`) that every step keeps within and that each counted event lowers by one;
`exec_countP_le` turns each into a bound on whole runs.
-/

namespace GcpTermination

variable {h : Handler}

/-- The endpoint is called only in the first two phases. -/
lemma runStep_endpoint_phase {s s' : RunState} {o : HttpOutcome}
    (hs : runStep h s (.endpoint o) = some s') : s.pc.phase ≤ 1 := by
  obtain ⟨pc, ctx, node⟩ := s
  cases pc <;> simp [runStep, Pc.phase] at hs ⊢

/-- Along a whole run too: a run that calls the endpoint starts in the first two phases. -/
lemma exec_endpoint_phase {evs : List Event} {s s' : RunState} {o : HttpOutcome}
    (hs : exec h s evs = some s') (ho : Event.endpoint o ∈ evs) : s.pc.phase ≤ 1 := by
  obtain ⟨pre, post, rfl⟩ := List.append_of_mem ho
  obtain ⟨s₁, s₂, h₁, h₂, -⟩ := exec_split hs
  exact Nat.le_trans (exec_phase h₁) (runStep_endpoint_phase h₂)

/-- The check once more is the last call of the endpoint. -/
theorem recheck_last_endpoint_call (h : Handler) (s₁ : RunState) (o : HttpOutcome)
    (post : List Event) (s : RunState) (hpc : s₁.pc = .recheck)
    (hs : exec h s₁ (.endpoint o :: post) = some s) :
    ∀ o', Event.endpoint o' ∉ post := by
  intro o' hmem
  rw [exec_cons, Option.bind_eq_some] at hs
  obtain ⟨s₂, h₂, hs⟩ := hs
  obtain ⟨pc, ctx, node⟩ := s₁
  cases hpc
  cases Option.some.inj h₂
  -- after the check once more `run` is past phase 1, and phases never go back
  exact absurd (Nat.le_trans (afterRecheck_phase _) (exec_endpoint_phase hs hmem)) (by decide)

/-- The check once more answers `TRUE`, and `run` goes on into the marking loop, where a
failed call is retried a tick later: no call of the endpoint follows. -/
theorem recheck_last_endpoint_call_run :
    exec (newHandler "node-a") ⟨.recheck, none, ⟨[]⟩⟩
        [.endpoint (.body "TRUE"), .proceed, .mark 1 (.failed "request timed out") .ok, .tick,
          .mark 2 .ok .ok] = some ⟨.returned none, none, ⟨[terminatingCondition 2]⟩⟩ ∧
    ∀ o', Event.endpoint o' ∉ ([.proceed, .mark 1 (.failed "request timed out") .ok, .tick,
      .mark 2 .ok .ok] : List Event) :=
  ⟨by decide, recheck_last_endpoint_call (newHandler "node-a") ⟨.recheck, none, ⟨[]⟩⟩
    (.body "TRUE") [.proceed, .mark 1 (.failed "request timed out") .ok, .tick, .mark 2 .ok .ok]
    ⟨.returned none, none, ⟨[terminatingCondition 2]⟩⟩ rfl (by decide)⟩

/-! ### Calls of the endpoint once the context is done -/

/-- Whether an event is the return of a call of `checkTerminationEndpoint`. -/
def Event.isEndpoint : Event → Bool
  | .endpoint _ => true
  | .tick | .done | .proceed | .mark _ _ _ | .cancel | .expire | .deadline => false

/-- How many more calls of the endpoint `run` can make from a control point once its context
is done: the call in flight, and the check once more. -/
def Pc.endpointBudget : Pc → Nat
  | .pollCall => 2
  | .pollWait | .recheck => 1
  | .ctxCheck | .markCall _ | .markWait _ | .returned _ => 0

lemma Pc.endpointBudget_le_two (pc : Pc) : pc.endpointBudget ≤ 2 := by
  cases pc <;> simp [Pc.endpointBudget]

@[simp] lemma Pc.endpointBudget_parentDone (pc : Pc) (k : Cause) :
    (pc.parentDone k).endpointBudget = pc.endpointBudget := by
  cases pc <;> rfl

lemma afterPoll_endpointBudget (e : Option Error) : (afterPoll e).endpointBudget ≤ 1 := by
  rcases e with _ | e
  · exact Nat.le_refl 1
  · simp only [afterPoll]; split <;> simp [Pc.endpointBudget]

lemma afterPollCall_endpointBudget (c : Bool × Option Error) :
    (afterPollCall c).endpointBudget ≤ 1 := by
  rcases c with ⟨_ | _, _ | e⟩
  · exact Nat.le_refl 1
  all_goals simpa only [afterPollCall] using afterPoll_endpointBudget _

lemma afterRecheck_endpointBudget (c : Bool × Option Error) :
    (afterRecheck c).endpointBudget = 0 := by
  rcases c with ⟨_ | _, _ | e⟩ <;> rfl

lemma afterCtxCheck_endpointBudget (c : Option Cause) : (afterCtxCheck c).endpointBudget = 0 := by
  rcases c with _ | _ | _ <;> rfl

lemma afterMarkCall_endpointBudget (m : MarkCtx) (e : Option Error) :
    (afterMarkCall m e).endpointBudget = 0 := by
  rcases e with _ | e <;> rfl

/-- On a done context each call of the endpoint uses up the budget: the poll loop takes no
more ticks, so its only way on is `Done` and the check once more. -/
lemma runStep_endpointBudget {s s' : RunState} {e : Event} (hctx : s.ctx ≠ none)
    (hs : runStep h s e = some s') :
    s'.ctx ≠ none ∧ s'.pc.endpointBudget + (if e.isEndpoint then 1 else 0) ≤ s.pc.endpointBudget := by
  cases runStep_eq_some_iff.mp hs with
  | cancel | expire => exact ⟨finish_ne_none _ _, by simp [RunState.ctxDone, Event.isEndpoint]⟩
  | pollCall _ hpc =>
    -- the call in flight
    exact ⟨hctx, by rw [hpc]; exact Nat.add_le_add_right (afterPollCall_endpointBudget _) 1⟩
  | recheck _ hpc =>
    -- the check once more
    exact ⟨hctx, by
      rw [hpc]; exact Nat.le_of_eq (congrArg (· + 1) (afterRecheck_endpointBudget _))⟩
  | pollTick _ hnone => exact absurd hnone hctx
  | pollDone k hpc _ =>
    -- `Done` ends the poll loop
    exact ⟨hctx, by rw [hpc]; exact afterPoll_endpointBudget (some k.err)⟩
  | proceed hpc => exact ⟨hctx, by rw [hpc]; exact Nat.le_of_eq (afterCtxCheck_endpointBudget _)⟩
  | mark _ _ _ _ hpc =>
    exact ⟨hctx, by rw [hpc]; exact Nat.le_of_eq (afterMarkCall_endpointBudget _ _)⟩
  | callDeadline _ hpc _ | markTick _ hpc _ _ | markDone _ _ hpc _ | waitDeadline _ hpc _ =>
    exact ⟨hctx, by rw [hpc]; exact Nat.le_refl 0⟩

lemma exec_endpointBudget {evs : List Event} {s s' : RunState} (hctx : s.ctx ≠ none)
    (hs : exec h s evs = some s') : evs.countP Event.isEndpoint ≤ s.pc.endpointBudget :=
  exec_countP_le (fun s => s.ctx ≠ none) (fun s => s.pc.endpointBudget) Event.isEndpoint
    (fun _ _ _ hctx hs => runStep_endpointBudget hctx hs) evs s s' hctx hs

/-- Once `run`'s context is done, at most the call in flight and the check once more remain. -/
theorem endpoint_calls_after_done (h : Handler) (s : RunState) (evs : List Event)
    (s' : RunState) (hctx : s.ctx ≠ none) (hs : exec h s evs = some s') :
    evs.countP Event.isEndpoint ≤ if s.pc = .pollCall then 2 else 1 := by
  refine Nat.le_trans (exec_endpointBudget hctx hs) ?_
  cases s.pc <;> simp [Pc.endpointBudget]

/-- Cancelled during a call that answers `FALSE`: the poll loop takes `Done`, and the check
once more is the last call. -/
theorem endpoint_calls_after_done_run :
    exec (newHandler "node-a") ⟨.pollCall, some .canceled, ⟨[]⟩⟩
        [.endpoint (.body "FALSE"), .done, .endpoint (.body "FALSE")] =
      some ⟨.returned none, some .canceled, ⟨[]⟩⟩ ∧
    some Cause.canceled ≠ none ∧
    [Event.endpoint (.body "FALSE"), .done, .endpoint (.body "FALSE")].countP Event.isEndpoint ≤
      if Pc.pollCall = .pollCall then 2 else 1 :=
  ⟨by decide, by decide, endpoint_calls_after_done (newHandler "node-a")
    ⟨.pollCall, some .canceled, ⟨[]⟩⟩ _ ⟨.returned none, some .canceled, ⟨[]⟩⟩ (by decide)
    (by decide)⟩

/-! ### The errors -/

/-- The errors `run` returns: a failure of the poll loop (an error of the endpoint, or the
deadline of `run`'s context), an error of the check once more, the deadline of `run`'s
context at line 122, or the end of the marking loop. -/
def ReturnedError (h : Handler) (x : Error) : Prop :=
  (∃ o e, (checkTerminationEndpoint h o).2 = some e ∧
      x = .msg ("error polling termination endpoint: " ++ e.text)) ∨
    x = .msg ("error polling termination endpoint: " ++ Error.deadlineExceeded.text) ∨
    (∃ o, (checkTerminationEndpoint h o).2 = some x) ∨
    x = .deadlineExceeded ∨
    ∃ k, x = markError k

lemma runStep_returnedError {s s' : RunState} {e : Event} (hs : runStep h s e = some s')
    (hi : ∀ x, s.pc = .returned (some x) → ReturnedError h x) :
    ∀ x, s'.pc = .returned (some x) → ReturnedError h x := by
  intro x hx
  cases runStep_eq_some_iff.mp hs with
  | cancel | expire => exact hi x (by simpa [RunState.ctxDone] using hx)
  | pollCall o _ =>
    obtain ⟨e', he', -, hx'⟩ := afterPollCall_eq_returned hx
    exact .inl ⟨o, e', he', Option.some.inj hx'⟩
  | recheck o _ => exact .inr (.inr (.inl ⟨o, (afterRecheck_eq_returned hx).1.symm⟩))
  | pollDone k _ _ =>
    -- the poll loop ends on `Done` with an error only on a deadline
    obtain ⟨e', he', hc, hx'⟩ := afterPoll_eq_returned (show afterPoll (some k.err) = _ from hx)
    cases k
    · exact absurd (Option.some.inj he').symm hc
    · cases Option.some.inj he'
      exact .inr (.inl (Option.some.inj hx'))
  | proceed _ => exact .inr (.inr (.inr (.inl (Option.some.inj (afterCtxCheck_eq_returned hx).2))))
  | mark _ _ _ _ _ => cases (afterMarkCall_eq_returned hx).2
  | markDone _ k _ _ => cases hx; exact .inr (.inr (.inr (.inr ⟨k, rfl⟩)))
  | pollTick _ _ | callDeadline _ _ _ | markTick _ _ _ _ | waitDeadline _ _ _ => cases hx

/-- Every error `run` returns is a `ReturnedError`. -/
theorem run_error_cases (h : Handler) (ctx : Option Cause) (n : Node) (evs : List Event)
    (s : RunState) (x : Error) (hs : exec h (.init ctx n) evs = some s)
    (hx : s.pc = .returned (some x)) : ReturnedError h x :=
  exec_preserves (fun s => ∀ x, s.pc = .returned (some x) → ReturnedError h x)
    (fun _ _ _ hi hs => runStep_returnedError hs hi) evs _ s
    (fun x hx => by cases hx) hs x hx

/-- The check once more fails in transport: its own error is what `run` returns. -/
theorem run_error_cases_run :
    exec (newHandler "node-a") (.init none ⟨[]⟩)
        [.endpoint (.body "TRUE"), .endpoint (.doFailed "connection reset by peer")] =
      some ⟨.returned (some (.msg ("could not get URL " ++ goQuote gcpTerminationEndpointURL ++
        ": connection reset by peer"))), none, ⟨[]⟩⟩ ∧
    ReturnedError (newHandler "node-a") (.msg ("could not get URL " ++
      goQuote gcpTerminationEndpointURL ++ ": connection reset by peer")) :=
  ⟨by decide, run_error_cases (newHandler "node-a") none ⟨[]⟩
    [.endpoint (.body "TRUE"), .endpoint (.doFailed "connection reset by peer")]
    ⟨.returned (some (.msg ("could not get URL " ++ goQuote gcpTerminationEndpointURL ++
      ": connection reset by peer"))), none, ⟨[]⟩⟩ _ (by decide) rfl⟩

/-! ### Returning `nil` -/

/-- A write that took effect makes `firstApplied` defined. -/
lemma firstApplied_isSome (pre post : List Event) (now : Nat) {u : UpdateOutcome}
    (hu : u.applied) : (firstApplied (pre ++ .mark now .ok u :: post)).isSome := by
  induction pre with
  | nil => simp [firstApplied, hu]
  | cons e pre ih =>
    cases e with
    | mark now' g u' =>
      cases g with
      | ok => by_cases hu' : u'.applied <;> simp [firstApplied, hu', ih]
      | failed _ => simpa [firstApplied] using ih
    | _ => simpa [firstApplied] using ih

lemma exec_returns_nil {ctx : Option Cause} {n : Node} {evs : List Event} {s : RunState}
    (hs : exec h (.init ctx n) evs = some s) (hnil : s.pc = .returned none) :
    (∃ pre o post s₁, evs = pre ++ .endpoint o :: post ∧ exec h (.init ctx n) pre = some s₁ ∧
      s₁.pc = .recheck ∧ checkTerminationEndpoint h o = (false, none)) ∨
    ∃ pre now post, evs = pre ++ .mark now .ok .ok :: post ∧
      (∀ now' g u, Event.mark now' g u ∉ post) ∧
      ∃ t, firstApplied evs = some t ∧ s.node = addNodeTerminationCondition t n := by
  obtain ⟨pre, e, post, s₁, s₂, rfl, h₁, hn, h₂, hP, h₃⟩ :=
    exec_enter (fun s => s.pc = .returned none) (by simp [RunState.init]) hs hnil
  rcases runStep_returns_nil h₂ hn hP with ⟨hpc, o, rfl, ho⟩ | ⟨m, now, -, rfl⟩
  · -- the check once more answered "not terminated"
    exact .inl ⟨pre, o, post, s₁, rfl, h₁, hpc, ho⟩
  · -- a call of `markNodeForDeletion` succeeded, so some write took effect
    obtain ⟨t, ht⟩ := Option.isSome_iff_exists.mp
      (firstApplied_isSome pre post now (show UpdateOutcome.ok.applied = true from rfl))
    have hnode := exec_node hs
    rw [foldl_write, ht] at hnode
    exact .inr ⟨pre, now, post, rfl, (exec_returned hP h₃).2, t, ht, hnode⟩

/-- `run` returns `nil` only after the check once more answered "not terminated", or after a
call of `markNodeForDeletion` that succeeded, the last call; the node is then merged once, at
the time of the first write that took effect. -/
theorem run_returns_nil (h : Handler) (ctx : Option Cause) (n : Node) (evs : List Event)
    (s : RunState) (hs : exec h (.init ctx n) evs = some s) (hnil : s.pc = .returned none) :
    (∃ pre o post s₁, evs = pre ++ .endpoint o :: post ∧ exec h (.init ctx n) pre = some s₁ ∧
      s₁.pc = .recheck ∧ checkTerminationEndpoint h o = (false, none)) ∨
    ∃ pre now post, evs = pre ++ .mark now .ok .ok :: post ∧
      (∀ now' g u, Event.mark now' g u ∉ post) ∧
      ∃ t, firstApplied evs = some t ∧ s.node = addNodeTerminationCondition t n :=
  exec_returns_nil hs hnil

/-- The first write takes effect but is reported as failed; the retry succeeds, and `run`
returns `nil` with the condition at the time of the first write. -/
theorem run_returns_nil_run :
    let evs : List Event := [.endpoint (.body "TRUE"), .endpoint (.body "TRUE"), .proceed,
      .mark 3 .ok (.appliedButFailed "timeout"), .tick, .mark 4 .ok .ok]
    let s : RunState := ⟨.returned none, none, ⟨[terminatingCondition 3]⟩⟩
    exec (newHandler "node-a") (.init none ⟨[]⟩) evs = some s ∧ s.pc = .returned none ∧
    ((∃ pre o post s₁, evs = pre ++ .endpoint o :: post ∧
      exec (newHandler "node-a") (.init none ⟨[]⟩) pre = some s₁ ∧
      s₁.pc = .recheck ∧ checkTerminationEndpoint (newHandler "node-a") o = (false, none)) ∨
    ∃ pre now post, evs = pre ++ .mark now .ok .ok :: post ∧
      (∀ now' g u, Event.mark now' g u ∉ post) ∧
      ∃ t, firstApplied evs = some t ∧ s.node = addNodeTerminationCondition t ⟨[]⟩) :=
  ⟨by decide, rfl, run_returns_nil (newHandler "node-a") none ⟨[]⟩
    [.endpoint (.body "TRUE"), .endpoint (.body "TRUE"), .proceed,
      .mark 3 .ok (.appliedButFailed "timeout"), .tick, .mark 4 .ok .ok]
    ⟨.returned none, none, ⟨[terminatingCondition 3]⟩⟩ (by decide) rfl⟩

/-! ### `run` ends -/

/-- Whether an event is the return of a call of `markNodeForDeletion`. -/
def Event.isMark : Event → Bool
  | .mark _ _ _ => true
  | .endpoint _ | .tick | .done | .proceed | .cancel | .expire | .deadline => false

/-- `f` of the seconds the timer of `markCtx` has run, while `markCtx` is live, and `0` once
it is done. -/
def MarkCtx.whileLive (m : MarkCtx) (f : Nat → Nat) : Nat := if m.err = none then f m.elapsed else 0

lemma MarkCtx.whileLive_parentDone (m : MarkCtx) (k : Cause) (f : Nat → Nat) :
    (m.parentDone k).whileLive f ≤ m.whileLive f := by
  unfold MarkCtx.parentDone
  split
  · simp [MarkCtx.whileLive, finish_ne_none]
  · exact Nat.le_refl _

@[simp] lemma MarkCtx.whileLive_expire (m : MarkCtx) (f : Nat → Nat) : m.expire.whileLive f = 0 := by
  simp [MarkCtx.whileLive, MarkCtx.expire, finish_ne_none]

lemma MarkCtx.whileLive_of_live {m : MarkCtx} (herr : m.err = none) (f : Nat → Nat) :
    m.whileLive f = f m.elapsed := by
  simp [MarkCtx.whileLive, herr]

lemma MarkCtx.whileLive_le {m : MarkCtx} {f : Nat → Nat} {b : Nat} (hf : ∀ t, f t ≤ b) :
    m.whileLive f ≤ b := by
  unfold MarkCtx.whileLive
  split
  · exact hf _
  · exact Nat.zero_le _

/-- How many more calls of `markNodeForDeletion` `run` can make from a control point: in the
marking loop the call that is due, and one after each tick left before the timer of
`markCtx`; before the loop, as many as from its start. -/
def Pc.markCalls : Pc → Nat
  | .markCall m => m.whileLive (markTimeout - ·) + 1
  | .markWait m => m.whileLive (markTimeout - ·)
  | .pollCall | .pollWait | .recheck | .ctxCheck => markTimeout + 1
  | .returned _ => 0

/-- How many more moves `run` can make by itself from a control point, once its poll loop can
take no more ticks: in the marking loop a call and a tick for each tick left, the timer, and
`Done`. -/
def Pc.movesLeft : Pc → Nat
  | .pollCall => 2 * markTimeout + 7
  | .pollWait => 2 * markTimeout + 6
  | .recheck => 2 * markTimeout + 5
  | .ctxCheck => 2 * markTimeout + 4
  | .markCall m => m.whileLive (fun t => 2 * (markTimeout - t) + 1) + 2
  | .markWait m => m.whileLive (fun t => 2 * (markTimeout - t) + 1) + 1
  | .returned _ => 0

lemma Pc.markCalls_le (pc : Pc) : pc.markCalls ≤ markTimeout + 1 := by
  cases pc with
  | markCall m => exact Nat.succ_le_succ (MarkCtx.whileLive_le fun t => Nat.sub_le _ t)
  | markWait m => exact Nat.le_succ_of_le (MarkCtx.whileLive_le fun t => Nat.sub_le _ t)
  | _ => simp [Pc.markCalls]

lemma Pc.movesLeft_le {pc : Pc} (hpc : 2 ≤ pc.phase) : pc.movesLeft ≤ 2 * markTimeout + 4 := by
  have hf : ∀ m : MarkCtx, m.whileLive (fun t => 2 * (markTimeout - t) + 1) ≤ 2 * markTimeout + 1 :=
    fun m => MarkCtx.whileLive_le fun t => by omega
  cases pc with
  | markCall m => have := hf m; simp only [Pc.movesLeft]; omega
  | markWait m => have := hf m; simp only [Pc.movesLeft]; omega
  | _ => simp_all [Pc.movesLeft, Pc.phase]

/-- No control point has more moves left than the start of `run`. -/
lemma Pc.movesLeft_le_start (pc : Pc) : pc.movesLeft ≤ 2 * markTimeout + 7 := by
  have hf : ∀ m : MarkCtx, m.whileLive (fun t => 2 * (markTimeout - t) + 1) ≤ 2 * markTimeout + 1 :=
    fun m => MarkCtx.whileLive_le fun t => by omega
  cases pc with
  | markCall m => have := hf m; simp only [Pc.movesLeft]; omega
  | markWait m => have := hf m; simp only [Pc.movesLeft]; omega
  | _ => simp only [Pc.movesLeft]; omega

lemma Pc.markCalls_parentDone (pc : Pc) (k : Cause) : (pc.parentDone k).markCalls ≤ pc.markCalls := by
  cases pc <;> simp only [Pc.parentDone, Pc.markCalls, Nat.le_refl] <;>
    simp only [Nat.add_le_add_iff_right, MarkCtx.whileLive_parentDone]

lemma Pc.movesLeft_parentDone (pc : Pc) (k : Cause) : (pc.parentDone k).movesLeft ≤ pc.movesLeft := by
  cases pc <;> simp only [Pc.parentDone, Pc.movesLeft, Nat.le_refl] <;>
    simp only [Nat.add_le_add_iff_right, MarkCtx.whileLive_parentDone]

/-- Each step keeps within the calls left, and each call uses one up. -/
lemma runStep_markCalls {s s' : RunState} {e : Event} (hs : runStep h s e = some s') :
    s'.pc.markCalls + (if e.isMark then 1 else 0) ≤ s.pc.markCalls := by
  cases runStep_eq_some_iff.mp hs with
  | cancel | expire => simpa [RunState.ctxDone, Event.isMark] using Pc.markCalls_parentDone _ _
  | pollCall _ hpc | recheck _ hpc | pollTick hpc _ | pollDone _ hpc _ | proceed hpc =>
    -- before the marking loop the whole budget is left
    rw [hpc]; exact Nat.le_trans (Nat.le_of_eq (Nat.add_zero _)) (Pc.markCalls_le _)
  | mark m now g u hpc =>
    rw [hpc]
    rcases (markNodeForDeletion now g u s.node).1 with _ | err <;>
      simp [afterMarkCall, Pc.markCalls, Event.isMark]
  | callDeadline m hpc _ => rw [hpc]; simp [Pc.markCalls, Event.isMark]
  | markTick m hpc herr hel =>
    -- a tick takes a second off the timer, and makes the next call due
    rw [hpc]
    simp [Pc.markCalls, MarkCtx.whileLive, MarkCtx.tick, herr, Event.isMark]
    omega
  | markDone _ _ hpc _ | waitDeadline _ hpc _ => rw [hpc]; simp [Pc.markCalls, Event.isMark]

/-- Once the poll loop can take no more ticks (its context is done, or it is behind `run`),
each move of `run` lowers the moves left. -/
lemma runStep_movesLeft {s s' : RunState} {e : Event} (hP : s.ctx ≠ none ∨ 1 ≤ s.pc.phase)
    (hs : runStep h s e = some s') :
    (s'.ctx ≠ none ∨ 1 ≤ s'.pc.phase) ∧
      s'.pc.movesLeft + (if e.byTask then 1 else 0) ≤ s.pc.movesLeft := by
  refine ⟨?_, ?_⟩
  · rcases hP with hctx | hph
    · cases runStep_eq_some_iff.mp hs <;> first | exact .inl (finish_ne_none _ _) | exact .inl hctx
    · exact .inr (Nat.le_trans hph (runStep_phase hs))
  cases runStep_eq_some_iff.mp hs with
  | cancel | expire =>
    simpa [RunState.ctxDone, Event.byTask] using Pc.movesLeft_parentDone _ _
  | pollCall o hpc =>
    rw [hpc]
    rcases checkTerminationEndpoint h o with ⟨_ | _, _ | e'⟩ <;>
      simp only [afterPollCall, afterPoll] <;> (try split) <;> simp [Pc.movesLeft, Event.byTask]
  | recheck o hpc =>
    rw [hpc]
    rcases checkTerminationEndpoint h o with ⟨_ | _, _ | e'⟩ <;>
      simp [afterRecheck, Pc.movesLeft, Event.byTask]
  | pollTick hpc hctx =>
    -- no tick of the poll loop on a done context
    rw [hpc, hctx] at hP
    simp [Pc.phase] at hP
  | pollDone k hpc _ =>
    rw [hpc]
    simp only [afterPoll]
    split <;> simp [Pc.movesLeft, Event.byTask]
  | proceed hpc =>
    rw [hpc]
    rcases s.ctx with _ | _ | _ <;> simp [afterCtxCheck, Pc.movesLeft, MarkCtx.whileLive, Event.byTask]
  | mark m now g u hpc =>
    rw [hpc]
    rcases (markNodeForDeletion now g u s.node).1 with _ | err <;>
      simp [afterMarkCall, Pc.movesLeft, Event.byTask]
  | callDeadline m hpc herr =>
    rw [hpc]
    simp [Pc.movesLeft, MarkCtx.whileLive_of_live herr, Event.byTask]
  | markTick m hpc herr hel =>
    rw [hpc]
    simp [Pc.movesLeft, MarkCtx.whileLive, MarkCtx.tick, herr, Event.byTask]
    omega
  | markDone _ _ hpc _ => rw [hpc]; simp [Pc.movesLeft, Event.byTask]
  | waitDeadline m hpc herr =>
    rw [hpc]
    simp [Pc.movesLeft, MarkCtx.whileLive_of_live herr, Event.byTask]

/-- The timer of `markCtx` leaves at most the call that is due. -/
lemma runStep_deadline_markCalls {s s' : RunState} (hs : runStep h s .deadline = some s') :
    s'.pc.markCalls ≤ 1 := by
  cases runStep_eq_some_iff.mp hs with
  | callDeadline _ _ _ | waitDeadline _ _ _ => simp [Pc.markCalls]

/-- The marking loop stops.  In every run, from any state, `markNodeForDeletion` is called at
most `markTimeout + 1` times: at once, and after each tick before the timer of `markCtx`;
after that timer fires, at most the call that is due is made; from the test of line 122 on,
`run` makes at most `2 * markTimeout + 4` moves of its own; and until it returns it can always
make one. -/
theorem marking_stops (h : Handler) (s : RunState) (evs : List Event) (s' : RunState)
    (hs : exec h s evs = some s') :
    evs.countP Event.isMark ≤ markTimeout + 1 ∧
    (∀ pre post, evs = pre ++ .deadline :: post → post.countP Event.isMark ≤ 1) ∧
    (2 ≤ s.pc.phase → evs.countP Event.byTask ≤ 2 * markTimeout + 4) ∧
    ((∃ r, s'.pc = .returned r) ∨ ∃ e s'', e.byTask ∧ runStep h s' e = some s'') := by
  have hcalls : ∀ {evs s s'}, exec h s evs = some s' → evs.countP Event.isMark ≤ s.pc.markCalls :=
    fun hs => exec_countP_le (fun _ => True) (fun s => s.pc.markCalls) Event.isMark
      (fun _ _ _ _ hs => ⟨trivial, runStep_markCalls hs⟩) _ _ _ trivial hs
  refine ⟨Nat.le_trans (hcalls hs) (Pc.markCalls_le _), ?_, fun hph => ?_, ?_⟩
  · rintro pre post rfl
    obtain ⟨s₁, s₂, -, h₂, h₃⟩ := exec_split hs
    exact Nat.le_trans (hcalls h₃) (runStep_deadline_markCalls h₂)
  · exact Nat.le_trans (exec_countP_le (fun s => s.ctx ≠ none ∨ 1 ≤ s.pc.phase)
      (fun s => s.pc.movesLeft) Event.byTask (fun _ _ _ hP hs => runStep_movesLeft hP hs) evs s s'
      (.inr (Nat.le_trans (by decide) hph)) hs) (Pc.movesLeft_le hph)
  · by_cases hr : ∃ r, s'.pc = .returned r
    · exact .inl hr
    · exact .inr (runStep_progress s' fun r h' => hr ⟨r, h'⟩)

/-- On a live context, a failed call is retried a tick later; the timer of `markCtx` fires
while the next call is due, which is made and fails, and the loop ends on `Done`. -/
theorem marking_stops_deadline :
    let evs : List Event := [.proceed, .mark 1 (.failed "request timed out") .ok, .tick,
      .deadline, .mark 2 (.failed "context deadline exceeded") .ok, .done]
    let s' : RunState := ⟨.returned (some (markError .deadlineExceeded)), none, ⟨[]⟩⟩
    exec (newHandler "node-a") ⟨.ctxCheck, none, ⟨[]⟩⟩ evs = some s' ∧
    evs.countP Event.isMark ≤ markTimeout + 1 ∧
    (∀ pre post, evs = pre ++ .deadline :: post → post.countP Event.isMark ≤ 1) ∧
    (2 ≤ Pc.ctxCheck.phase → evs.countP Event.byTask ≤ 2 * markTimeout + 4) ∧
    ((∃ r, s'.pc = .returned r) ∨
      ∃ e s'', e.byTask ∧ runStep (newHandler "node-a") s' e = some s'') :=
  ⟨by decide, marking_stops (newHandler "node-a") ⟨.ctxCheck, none, ⟨[]⟩⟩
    [.proceed, .mark 1 (.failed "request timed out") .ok, .tick, .deadline,
      .mark 2 (.failed "context deadline exceeded") .ok, .done]
    ⟨.returned (some (markError .deadlineExceeded)), none, ⟨[]⟩⟩ (by decide)⟩

end GcpTermination
