import GcpTermination.Calls

/-!
# `run`, one event at a time

`handler.run` is a sequential program whose course is decided from outside: by what the
endpoint and the API server answer, by when the tickers of its two poll loops fire, by when
its context is cancelled (or reaches a deadline), and by when the 30-second timer of
`markCtx` fires.  Each of these is an `Event`, and `runStep` is what `run` does on one of
them, or `none` when the event cannot happen where `run` is.  A run of `run` is a list of
events accepted by `exec`; every claim about `run` quantifies over all of them, so over
every answer of the outside world and every moment of cancellation.

`wait.PollUntilContextCancel` with `immediate = true` calls its condition at once, and
then waits in a `select` on its ticker and `ctx.Done()`; it returns the condition's error,
`nil` when the condition reports done, or `ctx.Err()` once the context is done.  A `select`
with both channels ready may take either, but after the ticker the loop tests `Done` once
more before it calls the condition; so the condition is called again (`tick`) only on a
live context, and a done context always ends the loop (`done`).

Contexts are kept as their `Err()`: `none` while live, then the first `Cause` they were
done with.  `markCtx` is a child of `run`'s context or of `context.Background()`, as chosen
at line 122; a child inherits its parent's cause.

Time is counted where the code bounds it: the marking loop's ticker fires every second and
the timer of `markCtx` after 30 seconds (`markTimeout`), so the loop takes at most 30 ticks
before that timer has fired (`MarkCtx.elapsed`).  A Go ticker delivers its ticks at least a
second apart, and drops them for a slow receiver, so the timer may fire after fewer ticks,
anywhere in the loop; it fires once, and never on a context that is already done, since
cancelling a context stops its timer.

`RunStep` names each branch of `runStep` with its guard, and `runStep_eq_some_iff` ties the
two together; every proof about one step is a case analysis on `RunStep`.
-/

namespace GcpTermination

/-- Why a context is done: `context.Canceled` or `context.DeadlineExceeded`. -/
inductive Cause
  | canceled
  | deadlineExceeded
deriving DecidableEq, Repr

/-- The sentinel error `ctx.Err()` returns for a cause. -/
def Cause.err : Cause → Error
  | .canceled => .canceled
  | .deadlineExceeded => .deadlineExceeded

/-- A context is done with cause `k` from now on, unless it was done already: the first
cause is the one `Err()` keeps returning. -/
def finish (err : Option Cause) (k : Cause) : Option Cause :=
  match err with
  | none => some k
  | some k' => some k'

/-- The timeout of `markCtx`, `30*time.Second` at line 133, in seconds: the period of the
marking loop's ticker, `time.Second` at line 135. -/
def markTimeout : Nat := 30

/-- `markCtx`, made by `context.WithTimeout(tmpctx, 30*time.Second)`: whether `tmpctx` is
`run`'s own context (rather than `context.Background()`), the context's own `Err()`, and the
seconds its timer has run, as the ticks of the marking loop count them. -/
structure MarkCtx where
  onRunCtx : Bool
  err : Option Cause
  elapsed : Nat
deriving DecidableEq, Repr

/-- `markCtx` once its parent is done with cause `k`. -/
def MarkCtx.parentDone (m : MarkCtx) (k : Cause) : MarkCtx :=
  if m.onRunCtx then { m with err := finish m.err k } else m

/-- `markCtx` once its 30-second timer fired. -/
def MarkCtx.expire (m : MarkCtx) : MarkCtx := { m with err := finish m.err .deadlineExceeded }

/-- `markCtx` one tick of the marking loop's ticker later. -/
def MarkCtx.tick (m : MarkCtx) : MarkCtx := { m with elapsed := m.elapsed + 1 }

/-- Where `run` is. -/
inductive Pc
  /-- The poll loop of line 98 calls its condition, `checkTerminationEndpoint`. -/
  | pollCall
  /-- The poll loop waits for its ticker or for `ctx.Done()`. -/
  | pollWait
  /-- The check once more, line 110. -/
  | recheck
  /-- The test of `ctx.Err()`, line 122. -/
  | ctxCheck
  /-- The marking loop of line 135 calls `markNodeForDeletion`. -/
  | markCall (m : MarkCtx)
  /-- The marking loop waits for its ticker or for `markCtx.Done()`. -/
  | markWait (m : MarkCtx)
  /-- `run` has returned this error (`none` for `nil`). -/
  | returned (err : Option Error)
deriving DecidableEq, Repr

/-- The control point once `run`'s context is done with cause `k`. -/
def Pc.parentDone : Pc → Cause → Pc
  | .markCall m, k => .markCall (m.parentDone k)
  | .markWait m, k => .markWait (m.parentDone k)
  | pc, _ => pc

/-- The phases of `run`, in their order: polling, the check once more, the test of its
context, the marking loop, returned. -/
def Pc.phase : Pc → Nat
  | .pollCall | .pollWait => 0
  | .recheck => 1
  | .ctxCheck => 2
  | .markCall _ | .markWait _ => 3
  | .returned _ => 4

@[simp] lemma Pc.phase_parentDone (pc : Pc) (k : Cause) : (pc.parentDone k).phase = pc.phase := by
  cases pc <;> rfl

/-- `run`'s state: its control point, its context and the node as the store holds it. -/
structure RunState where
  pc : Pc
  ctx : Option Cause
  node : Node
deriving DecidableEq, Repr

/-- `run` as it starts, on a context whose `Err()` is `ctx`, against the stored node. -/
def RunState.init (ctx : Option Cause) (node : Node) : RunState := ⟨.pollCall, ctx, node⟩

/-- `run`'s state once its context is done with cause `k`. -/
def RunState.ctxDone (s : RunState) (k : Cause) : RunState :=
  ⟨s.pc.parentDone k, finish s.ctx k, s.node⟩

/-- What happens to `run`, or around it. -/
inductive Event
  /-- A call of `checkTerminationEndpoint` returns, on this exchange. -/
  | endpoint (o : HttpOutcome)
  /-- The select of a poll loop takes its ticker, and its context is still live; in the
  marking loop, within the 30 seconds of `markCtx`. -/
  | tick
  /-- The select of a poll loop takes `Done` of its context. -/
  | done
  /-- `run` passes the test of `ctx.Err()`. -/
  | proceed
  /-- A call of `markNodeForDeletion` returns: the time it read, and the store's answers. -/
  | mark (now : Nat) (g : GetOutcome) (u : UpdateOutcome)
  /-- `run`'s context is cancelled. -/
  | cancel
  /-- `run`'s context reaches its deadline. -/
  | expire
  /-- The 30-second timer of `markCtx` fires, while `markCtx` is live. -/
  | deadline
deriving DecidableEq, Repr

/-- Whether `run` makes the event itself, or waits for it: all but the changes of its
context, which come from outside. -/
def Event.byTask : Event → Bool
  | .cancel | .expire => false
  | .endpoint _ | .tick | .done | .proceed | .mark _ _ _ | .deadline => true

/-! ### The control flow between the calls -/

/-- Line 104: unless `PollUntilContextCancel` returned an error other than
`context.Canceled`, `run` goes on to check once more. -/
def afterPoll : Option Error → Pc
  | some e =>
    if e ≠ .canceled then .returned (some (.msg ("error polling termination endpoint: " ++ e.text)))
    else .recheck
  | none => .recheck

/-- The poll loop after a call of its condition: it returns the condition's error, or `nil`
once the condition reports termination, and waits otherwise. -/
def afterPollCall : Bool × Option Error → Pc
  | (_, some e) => afterPoll (some e)
  | (true, none) => afterPoll none
  | (false, none) => .pollWait

/-- Lines 110-114.  `run` goes on to line 117 only on `(true, nil)`, that is on the body
`TRUE`; the comment at line 116 says `FALSE`. -/
def afterRecheck : Bool × Option Error → Pc
  | (_, some e) => .returned (some e)
  | (false, none) => .returned none
  | (true, none) => .ctxCheck

/-- Lines 121-133: `tmpctx` chosen from `ctx.Err()`, and `markCtx` made from it. -/
def afterCtxCheck : Option Cause → Pc
  | some .canceled => .markCall ⟨false, none, 0⟩
  | some k => .returned (some k.err)
  | none => .markCall ⟨true, none, 0⟩

/-- The marking loop after a call of `markNodeForDeletion`: its condition logs a failure
and reports "not done", so the loop ends with `nil` only on success. -/
def afterMarkCall (m : MarkCtx) : Option Error → Pc
  | none => .returned none
  | some _ => .markWait m

/-- Line 142, when the marking loop's context is done with cause `k`. -/
def markError (k : Cause) : Error := .msg ("error marking node: " ++ k.err.text)

/-- One step of `run`. -/
def runStep (h : Handler) (s : RunState) : Event → Option RunState
  | .cancel => some (s.ctxDone .canceled)
  | .expire => some (s.ctxDone .deadlineExceeded)
  | .endpoint o => match s.pc with
    | .pollCall => some { s with pc := afterPollCall (checkTerminationEndpoint h o) }
    | .recheck => some { s with pc := afterRecheck (checkTerminationEndpoint h o) }
    | _ => none
  | .tick => match s.pc with
    | .pollWait => if s.ctx = none then some { s with pc := .pollCall } else none
    | .markWait m =>
      if m.err = none ∧ m.elapsed < markTimeout then some { s with pc := .markCall m.tick }
      else none
    | _ => none
  | .done => match s.pc with
    | .pollWait => s.ctx.map fun k => { s with pc := afterPoll (some k.err) }
    | .markWait m => m.err.map fun k => { s with pc := .returned (some (markError k)) }
    | _ => none
  | .proceed => match s.pc with
    | .ctxCheck => some { s with pc := afterCtxCheck s.ctx }
    | _ => none
  | .mark now g u => match s.pc with
    | .markCall m =>
      let r := markNodeForDeletion now g u s.node
      some ⟨afterMarkCall m r.1, s.ctx, r.2⟩
    | _ => none
  | .deadline => match s.pc with
    | .markCall m => if m.err = none then some { s with pc := .markCall m.expire } else none
    | .markWait m => if m.err = none then some { s with pc := .markWait m.expire } else none
    | _ => none

/-- A run of `run`: the events in order, each accepted where it comes. -/
def exec (h : Handler) (s : RunState) : List Event → Option RunState
  | [] => some s
  | e :: es => (runStep h s e).bind fun s' => exec h s' es

/-! ### When the control flow returns -/

@[simp] lemma Pc.parentDone_eq_returned (pc : Pc) (k : Cause) (r : Option Error) :
    pc.parentDone k = .returned r ↔ pc = .returned r := by
  cases pc <;> simp [Pc.parentDone]

lemma afterPoll_eq_returned {e : Option Error} {r : Option Error}
    (h : afterPoll e = .returned r) :
    ∃ e', e = some e' ∧ e' ≠ .canceled ∧
      r = some (.msg ("error polling termination endpoint: " ++ e'.text)) := by
  rcases e with _ | e'
  · cases h
  · by_cases hc : e' = .canceled <;> simp_all [afterPoll]

lemma afterPollCall_eq_returned {c : Bool × Option Error} {r : Option Error}
    (h : afterPollCall c = .returned r) :
    ∃ e', c.2 = some e' ∧ e' ≠ .canceled ∧
      r = some (.msg ("error polling termination endpoint: " ++ e'.text)) := by
  rcases c with ⟨_ | _, _ | e'⟩ <;> first
    | cases h
    | exact afterPoll_eq_returned h

lemma afterRecheck_eq_returned {c : Bool × Option Error} {r : Option Error}
    (h : afterRecheck c = .returned r) : r = c.2 ∧ (c.2 = none → c.1 = false) := by
  rcases c with ⟨_ | _, _ | e'⟩ <;>
    simp only [afterRecheck, Pc.returned.injEq, reduceCtorEq] at h <;> simp [← h]

lemma afterCtxCheck_eq_returned {c : Option Cause} {r : Option Error}
    (h : afterCtxCheck c = .returned r) : c = some .deadlineExceeded ∧ r = some .deadlineExceeded := by
  rcases c with _ | _ | _ <;> simp_all [afterCtxCheck, Cause.err]

lemma afterMarkCall_eq_returned {m : MarkCtx} {e : Option Error} {r : Option Error}
    (h : afterMarkCall m e = .returned r) : e = none ∧ r = none := by
  rcases e with _ | e' <;> simp_all [afterMarkCall]

/-! ### What one step can do -/

/-- The steps of `run`, one for each branch of `runStep`, with its guard. -/
inductive RunStep (h : Handler) (s : RunState) : Event → RunState → Prop
  | cancel : RunStep h s .cancel (s.ctxDone .canceled)
  | expire : RunStep h s .expire (s.ctxDone .deadlineExceeded)
  /-- The poll loop's call of `checkTerminationEndpoint` returns. -/
  | pollCall (o : HttpOutcome) (hpc : s.pc = .pollCall) :
      RunStep h s (.endpoint o) { s with pc := afterPollCall (checkTerminationEndpoint h o) }
  /-- The check once more returns. -/
  | recheck (o : HttpOutcome) (hpc : s.pc = .recheck) :
      RunStep h s (.endpoint o) { s with pc := afterRecheck (checkTerminationEndpoint h o) }
  | pollTick (hpc : s.pc = .pollWait) (hctx : s.ctx = none) :
      RunStep h s .tick { s with pc := .pollCall }
  | pollDone (k : Cause) (hpc : s.pc = .pollWait) (hctx : s.ctx = some k) :
      RunStep h s .done { s with pc := afterPoll (some k.err) }
  | proceed (hpc : s.pc = .ctxCheck) : RunStep h s .proceed { s with pc := afterCtxCheck s.ctx }
  /-- A call of `markNodeForDeletion` returns. -/
  | mark (m : MarkCtx) (now : Nat) (g : GetOutcome) (u : UpdateOutcome) (hpc : s.pc = .markCall m) :
      RunStep h s (.mark now g u) ⟨afterMarkCall m (markNodeForDeletion now g u s.node).1, s.ctx,
        (markNodeForDeletion now g u s.node).2⟩
  /-- The timer of `markCtx` fires while a call is due. -/
  | callDeadline (m : MarkCtx) (hpc : s.pc = .markCall m) (herr : m.err = none) :
      RunStep h s .deadline { s with pc := .markCall m.expire }
  | markTick (m : MarkCtx) (hpc : s.pc = .markWait m) (herr : m.err = none)
      (hel : m.elapsed < markTimeout) : RunStep h s .tick { s with pc := .markCall m.tick }
  | markDone (m : MarkCtx) (k : Cause) (hpc : s.pc = .markWait m) (herr : m.err = some k) :
      RunStep h s .done { s with pc := .returned (some (markError k)) }
  /-- The timer of `markCtx` fires while the loop waits. -/
  | waitDeadline (m : MarkCtx) (hpc : s.pc = .markWait m) (herr : m.err = none) :
      RunStep h s .deadline { s with pc := .markWait m.expire }

variable {h : Handler}

lemma runStep_eq_some_iff {s s' : RunState} {e : Event} :
    runStep h s e = some s' ↔ RunStep h s e s' := by
  constructor
  · intro hs
    obtain ⟨pc, ctx, node⟩ := s
    cases e <;> cases pc <;>
      simp only [runStep, Option.some.injEq, reduceCtorEq, Option.map_eq_some',
        Option.ite_none_right_eq_some] at hs
    all_goals first
      | (subst hs; exact .cancel)
      | (subst hs; exact .expire)
      | (subst hs; exact .pollCall _ (by rfl))
      | (subst hs; exact .recheck _ (by rfl))
      | (subst hs; exact .proceed (by rfl))
      | (subst hs; exact .mark _ _ _ _ (by rfl))
      | (obtain ⟨hk, rfl⟩ := hs; exact .pollTick (by rfl) hk)
      | (obtain ⟨hk, rfl⟩ := hs; exact .callDeadline _ (by rfl) hk)
      | (obtain ⟨hk, rfl⟩ := hs; exact .waitDeadline _ (by rfl) hk)
      | (obtain ⟨⟨hk, hl⟩, rfl⟩ := hs; exact .markTick _ (by rfl) hk hl)
      | (obtain ⟨k, hk, rfl⟩ := hs; exact .pollDone k (by rfl) hk)
      | (obtain ⟨k, hk, rfl⟩ := hs; exact .markDone _ k (by rfl) hk)
  · intro hs
    cases hs <;> simp [runStep, *]

/-- Until it returns, `run` can always move by itself: a call returns, a ticker or the timer
of `markCtx` fires, or a loop takes `Done`. -/
lemma runStep_progress (s : RunState) (hs : ∀ r, s.pc ≠ .returned r) :
    ∃ e s', e.byTask ∧ runStep h s e = some s' := by
  obtain ⟨pc, ctx, node⟩ := s
  rcases pc with _ | _ | _ | _ | m | ⟨c, _ | k, el⟩ | r
  · exact ⟨.endpoint (.body "FALSE"), _, rfl, rfl⟩
  · rcases ctx with _ | k
    · exact ⟨.tick, _, rfl, rfl⟩
    · exact ⟨.done, _, rfl, rfl⟩
  · exact ⟨.endpoint (.body "FALSE"), _, rfl, rfl⟩
  · exact ⟨.proceed, _, rfl, rfl⟩
  · exact ⟨.mark 0 .ok .ok, _, rfl, rfl⟩
  · exact ⟨.deadline, _, rfl, rfl⟩
  · exact ⟨.done, _, rfl, rfl⟩
  · exact absurd rfl (hs r)

lemma afterRecheck_phase (c : Bool × Option Error) : 2 ≤ (afterRecheck c).phase := by
  rcases c with ⟨_ | _, _ | e⟩ <;> simp [afterRecheck, Pc.phase]

lemma afterCtxCheck_phase (c : Option Cause) : 3 ≤ (afterCtxCheck c).phase := by
  rcases c with _ | _ | _ <;> simp [afterCtxCheck, Pc.phase]

lemma afterMarkCall_phase (m : MarkCtx) (e : Option Error) : 3 ≤ (afterMarkCall m e).phase := by
  rcases e with _ | e <;> simp [afterMarkCall, Pc.phase]

/-- No step goes back to an earlier phase. -/
lemma runStep_phase {s s' : RunState} {e : Event} (hs : runStep h s e = some s') :
    s.pc.phase ≤ s'.pc.phase := by
  cases runStep_eq_some_iff.mp hs with
  | cancel | expire => simp [RunState.ctxDone]
  | pollCall _ hpc | pollTick hpc _ | pollDone _ hpc _ => rw [hpc]; exact Nat.zero_le _
  | recheck _ hpc => rw [hpc]; exact Nat.le_trans (by decide) (afterRecheck_phase _)
  | proceed hpc => rw [hpc]; exact Nat.le_trans (by decide) (afterCtxCheck_phase _)
  | mark _ _ _ _ hpc => rw [hpc]; exact afterMarkCall_phase _ _
  | callDeadline _ hpc _ | markTick _ hpc _ _ | markDone _ _ hpc _ | waitDeadline _ hpc _ =>
    rw [hpc]; simp [Pc.phase]

/-! ### Runs -/

@[simp] lemma exec_nil (s : RunState) : exec h s [] = some s := rfl

lemma exec_cons (s : RunState) (e : Event) (es : List Event) :
    exec h s (e :: es) = (runStep h s e).bind fun s' => exec h s' es := rfl

lemma exec_append (s : RunState) (xs ys : List Event) :
    exec h s (xs ++ ys) = (exec h s xs).bind fun s' => exec h s' ys := by
  induction xs generalizing s with
  | nil => rfl
  | cons e xs ih => cases hs : runStep h s e <;> simp [exec_cons, hs, ih]

/-- A run through an event: the run before it, the event's step, and the run after it. -/
lemma exec_split {s s' : RunState} {pre post : List Event} {e : Event}
    (hs : exec h s (pre ++ e :: post) = some s') :
    ∃ s₁ s₂, exec h s pre = some s₁ ∧ runStep h s₁ e = some s₂ ∧ exec h s₂ post = some s' := by
  rw [exec_append, Option.bind_eq_some] at hs
  obtain ⟨s₁, h₁, hs⟩ := hs
  rw [exec_cons, Option.bind_eq_some] at hs
  obtain ⟨s₂, h₂, hs⟩ := hs
  exact ⟨s₁, s₂, h₁, h₂, hs⟩

/-- A run from outside a set of states that ends inside it enters it by one step. -/
lemma exec_enter (P : RunState → Prop) {evs : List Event} {s₀ s : RunState} (h0 : ¬ P s₀)
    (hs : exec h s₀ evs = some s) (hP : P s) :
    ∃ pre e post s₁ s₂, evs = pre ++ e :: post ∧ exec h s₀ pre = some s₁ ∧ ¬ P s₁ ∧
      runStep h s₁ e = some s₂ ∧ P s₂ ∧ exec h s₂ post = some s := by
  induction evs generalizing s₀ with
  | nil => cases Option.some.inj hs; exact absurd hP h0
  | cons e es ih =>
    rw [exec_cons, Option.bind_eq_some] at hs
    obtain ⟨s₁, h₁, hs⟩ := hs
    by_cases hP₁ : P s₁
    · exact ⟨[], e, es, s₀, s₁, rfl, rfl, h0, h₁, hP₁, hs⟩
    · obtain ⟨pre, e', post, s₂, s₃, rfl, h₂, h₃⟩ := ih hP₁ hs
      exact ⟨e :: pre, e', post, s₂, s₃, rfl, by rw [exec_cons, h₁]; exact h₂, h₃⟩

/-- A property kept by every step holds all along a run. -/
lemma exec_preserves (P : RunState → Prop)
    (hstep : ∀ s e s', P s → runStep h s e = some s' → P s') :
    ∀ (es : List Event) (s s' : RunState), P s → exec h s es = some s' → P s'
  | [], _, _, hs, he => Option.some.inj he ▸ hs
  | e :: es, s, s', hs, he => by
    rw [exec_cons, Option.bind_eq_some] at he
    obtain ⟨s₁, h₁, h₂⟩ := he
    exact exec_preserves P hstep es s₁ s' (hstep s e s₁ hs h₁) h₂

/-- A budget that every step keeps within, and that each event of kind `w` lowers by one,
bounds how many such events a run has. -/
lemma exec_countP_le (P : RunState → Prop) (f : RunState → Nat) (w : Event → Bool)
    (hstep : ∀ s e s', P s → runStep h s e = some s' → P s' ∧ f s' + (if w e then 1 else 0) ≤ f s) :
    ∀ (es : List Event) (s s' : RunState), P s → exec h s es = some s' → es.countP w ≤ f s
  | [], _, _, _, _ => Nat.zero_le _
  | e :: es, s, s', hs, he => by
    rw [exec_cons, Option.bind_eq_some] at he
    obtain ⟨s₁, h₁, h₂⟩ := he
    obtain ⟨hP, hle⟩ := hstep s e s₁ hs h₁
    have := exec_countP_le P f w hstep es s₁ s' hP h₂
    rw [List.countP_cons]
    omega

/-- Along a whole run too. -/
lemma exec_phase {evs : List Event} {s s' : RunState} (hs : exec h s evs = some s') :
    s.pc.phase ≤ s'.pc.phase :=
  exec_preserves (fun s' => s.pc.phase ≤ s'.pc.phase)
    (fun _ _ _ hle hs => Nat.le_trans hle (runStep_phase hs)) evs s s' (Nat.le_refl _) hs

end GcpTermination
