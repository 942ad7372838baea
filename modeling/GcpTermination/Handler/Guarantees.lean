import GcpTermination.Handler.Handshake
import GcpTermination.Run.Outcome

/-!
# What `Run` guarantees

`sysExec_run` projects every run of `Run` and its goroutine onto a run of `run`.  Here the
projection is made exact about `run`'s context, and what `run` guarantees on its own runs is
carried over to `Run`, however the caller's `stop` and the two goroutines interleave.

`run`'s context inside `Run` is made by `context.WithCancel(context.Background())`: it has no
deadline, and it is cancelled only by `Run`'s own `cancel()`, which comes after the select has
taken `stop` or `run`'s result.  So on the `errs` branch `run` has run to its end on a live
context, and fewer errors reach the caller than `run` alone can return.  The main results are

* `handler_marks_only_after_signal`: a run of `Run` in which the endpoint never answers
  `TRUE` never calls `markNodeForDeletion`, and leaves the node as it was;
* `handler_node_effect`: `Run` changes the node by one merge of the `Terminating` condition
  at most, and never touches its other conditions;
* `handler_stops_polling`: after `Run`'s `cancel()`, the goroutine calls the endpoint at
  most twice more;
* `handler_error_cases`: the errors `Run` returns: a failure of the endpoint, in the poll
  loop or in the check once more, or the end of the marking loop on the timer of `markCtx`;
* `handler_nil_result`: on the `errs` branch, `nil` means that the check once more answered
  "not terminated", or that the node has been marked;
* `no_work_after_return`: once `Run` has returned, on either branch, the goroutine makes no
  more calls and nothing of `run` or of `Run`'s result changes;
* `stopped_run_ends`: once `Run` has taken `stop` and called `cancel()`, it returns within a
  bounded number of moves, whatever the schedule, and until then some move can always be
  made.
-/

namespace GcpTermination

/-- Whether `Run` has called `cancel()`. -/
def MainPc.canceled : MainPc → Bool
  | .waiting | .stopReturned | .errsReturned _ => true
  | .selecting | .stopCancel | .errsCancel _ => false

/-- The events of `run` in a run of the whole are the goroutine's own, and `Run`'s
`cancel()`. -/
lemma mem_flatMap_toRun {e : Event} {evs : List SysEvent} :
    e ∈ evs.flatMap SysEvent.toRun ↔
      SysEvent.task e ∈ evs ∨ e = .cancel ∧ SysEvent.cancel ∈ evs := by
  simp only [List.mem_flatMap]
  constructor
  · rintro ⟨e', he', hmem⟩
    cases e' <;> simp only [SysEvent.toRun, List.mem_singleton, List.not_mem_nil] at hmem
    · exact .inl (hmem ▸ he')
    · exact .inr ⟨hmem, he'⟩
  · rintro (he | ⟨rfl, he⟩) <;> exact ⟨_, he, List.mem_singleton_self _⟩

variable {h : Handler}

/-- A move of `run` inside the goroutine leaves `run`'s context alone. -/
lemma runStep_ctx {s s' : RunState} {e : Event} (he : e.byTask) (hs : runStep h s e = some s') :
    s'.ctx = s.ctx := by
  cases runStep_eq_some_iff.mp hs with
  | cancel | expire => cases he
  | _ => rfl

/-! ### `run` on a live context -/

/-- The errors `Run` returns: a failure of the endpoint in the poll loop, a failure of the
check once more, or the end of the marking loop on the 30-second timer of `markCtx`. -/
def HandlerError (h : Handler) (x : Error) : Prop :=
  (∃ o e, (checkTerminationEndpoint h o).2 = some e ∧
      x = .msg ("error polling termination endpoint: " ++ e.text)) ∨
    (∃ o, (checkTerminationEndpoint h o).2 = some x) ∨
    x = markError .deadlineExceeded

/-- What holds of `run` while its context is live: `markCtx` has not been cancelled, and what
`run` returned is a `HandlerError`. -/
def LiveRun (h : Handler) (s : RunState) : Prop :=
  s.ctx = none →
    (∀ m, (s.pc = .markCall m ∨ s.pc = .markWait m) → m.err ≠ some .canceled) ∧
    ∀ x, s.pc = .returned (some x) → HandlerError h x

lemma LiveRun.ctxDone (s : RunState) (k : Cause) : LiveRun h (s.ctxDone k) := fun hc => by
  cases hctx : s.ctx <;> simp [RunState.ctxDone, hctx] at hc

/-- Outside the marking loop. -/
lemma LiveRun.of_pc {s : RunState} (hm : ∀ m, s.pc ≠ .markCall m ∧ s.pc ≠ .markWait m)
    (hr : s.ctx = none → ∀ x, s.pc = .returned (some x) → HandlerError h x) : LiveRun h s :=
  fun hc => ⟨fun m hpc => absurd hpc (by simp [hm m]), hr hc⟩

lemma LiveRun.init (ctx : Option Cause) (n : Node) : LiveRun h (.init ctx n) :=
  LiveRun.of_pc (fun _ => ⟨nofun, nofun⟩) fun _ _ => nofun

/-- In the marking loop, on a `markCtx` that has not been cancelled. -/
lemma LiveRun.of_mark {s : RunState} {m : MarkCtx} (hpc : s.pc = .markCall m ∨ s.pc = .markWait m)
    (hm : s.ctx = none → m.err ≠ some .canceled) : LiveRun h s := fun hc =>
  ⟨fun m' hm' => by rcases hpc with hpc | hpc <;> rcases hm' with hm' | hm' <;>
      rw [hpc] at hm' <;> cases hm' <;> exact hm hc,
    fun x hx => by rcases hpc with hpc | hpc <;> rw [hpc] at hx <;> cases hx⟩

lemma MarkCtx.expire_ne_canceled {m : MarkCtx} (hm : m.err ≠ some .canceled) :
    m.expire.err ≠ some .canceled := by
  rcases h' : m.err with _ | _ | _ <;> simp_all [MarkCtx.expire]

/-- Neither call of the endpoint leads into the marking loop. -/
lemma afterPollCall_ne_mark (c : Bool × Option Error) (m : MarkCtx) :
    afterPollCall c ≠ .markCall m ∧ afterPollCall c ≠ .markWait m := by
  have hc := afterPollCall_confirmed c
  exact ⟨fun h' => (by rw [h'] at hc; cases hc), fun h' => by rw [h'] at hc; cases hc⟩

lemma afterRecheck_ne_mark (c : Bool × Option Error) (m : MarkCtx) :
    afterRecheck c ≠ .markCall m ∧ afterRecheck c ≠ .markWait m := by
  rcases c with ⟨_ | _, _ | e⟩ <;> simp [afterRecheck]

lemma runStep_liveRun {s s' : RunState} {e : Event} (hs : runStep h s e = some s')
    (hi : LiveRun h s) : LiveRun h s' := by
  cases runStep_eq_some_iff.mp hs with
  | cancel | expire => exact LiveRun.ctxDone s _
  | pollCall o _ =>
    -- the poll loop's call: it returns the endpoint's error
    refine LiveRun.of_pc (afterPollCall_ne_mark _) fun _ x hx => ?_
    obtain ⟨e', he', -, hx'⟩ := afterPollCall_eq_returned hx
    exact .inl ⟨o, e', he', Option.some.inj hx'⟩
  | recheck o _ =>
    -- the check once more: it returns its own error
    exact LiveRun.of_pc (afterRecheck_ne_mark _) fun _ x hx =>
      .inr (.inl ⟨o, (afterRecheck_eq_returned hx).1.symm⟩)
  | pollTick _ _ => exact LiveRun.of_pc (fun _ => ⟨nofun, nofun⟩) fun _ _ => nofun
  | pollDone k _ hk =>
    -- the poll loop on `Done`: the context is not live
    intro hc; simp [hk] at hc
  | proceed _ =>
    -- line 122 on a live context makes `markCtx` on it
    intro hc
    replace hc : s.ctx = none := hc
    have hpc : afterCtxCheck s.ctx = .markCall ⟨true, none, 0⟩ := by simp [hc, afterCtxCheck]
    exact LiveRun.of_mark (.inl hpc) (fun _ => by simp) hc
  | mark m now g u hpc =>
    -- a call of `markNodeForDeletion`: `run` returns `nil` or waits on the same `markCtx`
    rcases (markNodeForDeletion now g u s.node).1 with _ | e' <;> simp only [afterMarkCall]
    · exact LiveRun.of_pc (fun _ => ⟨nofun, nofun⟩) fun _ _ => nofun
    · exact LiveRun.of_mark (.inr rfl) fun hc => (hi hc).1 m (.inl hpc)
  | callDeadline m hpc _ =>
    exact LiveRun.of_mark (.inl rfl) fun hc => m.expire_ne_canceled ((hi hc).1 m (.inl hpc))
  | markTick m hpc _ _ => exact LiveRun.of_mark (.inl rfl) fun hc => (hi hc).1 m (.inr hpc)
  | markDone m k hpc hk =>
    -- the marking loop on `Done`: only the timer of `markCtx` can have fired
    refine LiveRun.of_pc (fun _ => ⟨nofun, nofun⟩) fun hc x hx => ?_
    cases hx
    rcases k with _ | _
    · exact absurd hk ((hi hc).1 m (.inr hpc))
    · exact .inr (.inr rfl)
  | waitDeadline m hpc _ =>
    exact LiveRun.of_mark (.inr rfl) fun hc => m.expire_ne_canceled ((hi hc).1 m (.inr hpc))

/-! ### Along the runs of `Run` -/

/-- What holds of every reachable state of `Run` and its goroutine, beside `SysInv`: `run`'s
context is cancelled exactly once `Run` has called `cancel()`, and what `Run` took from
`errs` is a `HandlerError`. -/
structure LiveInv (h : Handler) (s : Sys) : Prop where
  ctx : s.run.ctx = if s.main.canceled then some .canceled else none
  run : LiveRun h s.run
  received : ∀ x, s.main.received = some (some x) → HandlerError h x

lemma LiveInv.init (n : Node) : LiveInv h (.init n) :=
  ⟨rfl, LiveRun.init none n, fun _ hx => by cases hx⟩

lemma sysStep_liveInv {s s' : Sys} {e : SysEvent} (hi : SysInv s) (hl : LiveInv h s)
    (hs : sysStep h s e = some s') : LiveInv h s' := by
  obtain ⟨hctx, hrun, hrec⟩ := hl
  cases sysStep_eq_some_iff.mp hs with
  | stop _ | send _ _ _ _ | wgDone _ => exact ⟨hctx, hrun, hrec⟩
  | task _ _ _ hby hr =>
    -- a move of `run` inside the goroutine
    exact ⟨(runStep_ctx hby hr).trans hctx, runStep_liveRun hr hrun, hrec⟩
  | recvStop hmain _ =>
    -- the select takes `stop`
    exact ⟨by simpa [hmain, MainPc.canceled] using hctx, hrun, nofun⟩
  | recvErrs r hmain herrs =>
    -- the select takes `run`'s result, while `run`'s context is still live
    have hnone : s.run.ctx = none := by simpa [hmain, MainPc.canceled] using hctx
    refine ⟨hnone, hrun, fun x hx => ?_⟩
    cases hx
    exact (hrun hnone).2 x (hi.errs_eq herrs)
  | cancelStop hmain =>
    -- `cancel()` on the `stop` branch
    have hnone : s.run.ctx = none := by simpa [hmain, MainPc.canceled] using hctx
    exact ⟨by simp [RunState.ctxDone, hnone, MainPc.canceled], LiveRun.ctxDone _ _, nofun⟩
  | cancelErrs r hmain =>
    -- `cancel()` on the `errs` branch
    have hnone : s.run.ctx = none := by simpa [hmain, MainPc.canceled] using hctx
    refine ⟨by simp [RunState.ctxDone, hnone, MainPc.canceled], LiveRun.ctxDone _ _, ?_⟩
    simpa [hmain, MainPc.received] using hrec
  | wait hmain _ =>
    -- `wg.Wait()` returns
    exact ⟨by simpa [hmain, MainPc.canceled] using hctx, hrun, nofun⟩

lemma sysExec_liveInv {evs : List SysEvent} {s s' : Sys} (hi : SysInv s) (hl : LiveInv h s)
    (hs : sysExec h s evs = some s') : LiveInv h s' := by
  induction evs generalizing s with
  | nil => cases Option.some.inj hs; exact hl
  | cons e es ih =>
    rw [sysExec_cons, Option.bind_eq_some] at hs
    obtain ⟨s₁, h₁, hs⟩ := hs
    exact ih (sysStep_inv hi h₁) (sysStep_liveInv hi hl h₁) hs

/-! ### The node -/

/-- However `stop` and the two goroutines interleave: without the answer `TRUE`,
`markNodeForDeletion` is never called and the node is left as it was. -/
theorem handler_marks_only_after_signal (h : Handler) (n : Node) (evs : List SysEvent) (s : Sys)
    (hs : sysExec h (.init n) evs = some s)
    (htrue : SysEvent.task (.endpoint (.body "TRUE")) ∉ evs) :
    (∀ now g u, SysEvent.task (.mark now g u) ∉ evs) ∧ s.run.node = n := by
  have htrue' : Event.endpoint (.body "TRUE") ∉ evs.flatMap SysEvent.toRun := by
    rw [mem_flatMap_toRun]
    rintro (hm | ⟨hc, -⟩)
    · exact htrue hm
    · cases hc
  obtain ⟨hno, hnode⟩ := exec_no_true (sysExec_run hs) rfl htrue'
  exact ⟨fun now g u hm => hno now g u (mem_flatMap_toRun.mpr (.inl hm)), hnode⟩

/-- `stop` first, and the endpoint answers `FALSE` twice: the node is left alone. -/
theorem handler_marks_only_after_signal_stop :
    let evs : List SysEvent := [.stop, .recvStop, .cancel, .task (.endpoint (.body "FALSE")),
      .task .done, .task (.endpoint (.body "FALSE")), .send, .wgDone, .wait]
    let s : Sys := ⟨.stopReturned, .exited, ⟨.returned none, some .canceled, ⟨[]⟩⟩, some none, 0, true⟩
    sysExec (newHandler "node-a") (.init ⟨[]⟩) evs = some s ∧
    SysEvent.task (.endpoint (.body "TRUE")) ∉ evs ∧
    (∀ now g u, SysEvent.task (.mark now g u) ∉ evs) ∧ s.run.node = ⟨[]⟩ :=
  ⟨by decide, by decide, handler_marks_only_after_signal (newHandler "node-a") ⟨[]⟩
    [.stop, .recvStop, .cancel, .task (.endpoint (.body "FALSE")), .task .done,
      .task (.endpoint (.body "FALSE")), .send, .wgDone, .wait]
    ⟨.stopReturned, .exited, ⟨.returned none, some .canceled, ⟨[]⟩⟩, some none, 0, true⟩
    (by decide) (by decide)⟩

/-- Whatever `Run` does, the stored node changes by one merge of the `Terminating` condition at
most, at the time of the first write the server took, and its other conditions stay as
they were. -/
theorem handler_node_effect (h : Handler) (cs : List NodeCondition) (evs : List SysEvent)
    (s : Sys) (hs : sysExec h (.init ⟨cs⟩) evs = some s) :
    s.run.node = (match firstApplied (evs.flatMap SysEvent.toRun) with
      | none => ⟨cs⟩
      | some t => addNodeTerminationCondition t ⟨cs⟩) ∧
    s.run.node.conditions.filter (fun c => !c.isTerminating) =
      cs.filter (fun c => !c.isTerminating) ∧
    (s.run.node = ⟨cs⟩ ∨ ∀ c ∈ s.run.node.conditions, c.isTerminating → c.status = conditionTrue) := by
  have hnode := exec_node (sysExec_run hs)
  rw [foldl_write] at hnode
  refine ⟨hnode, ?_⟩
  rw [hnode]
  cases firstApplied (evs.flatMap SysEvent.toRun) with
  | none => exact ⟨rfl, .inl rfl⟩
  | some t =>
    exact ⟨addNodeTerminationCondition_filter t cs,
      .inr fun _ hc ht => addNodeTerminationCondition_status t cs hc ht⟩

/-- The endpoint answers `TRUE` twice and the first write takes effect: the node gains the
condition, and `Run` returns `nil`. -/
theorem handler_node_effect_marked :
    let evs : List SysEvent := [.task (.endpoint (.body "TRUE")), .task (.endpoint (.body "TRUE")),
      .task .proceed, .task (.mark 7 .ok .ok), .send, .recvErrs, .cancel]
    sysExec (newHandler "node-a") (.init ⟨[]⟩) evs = some ⟨.errsReturned none, .finishing,
      ⟨.returned none, some .canceled, ⟨[terminatingCondition 7]⟩⟩, none, 1, false⟩ ∧
    (⟨[terminatingCondition 7]⟩ : Node) = (match firstApplied (evs.flatMap SysEvent.toRun) with
      | none => ⟨[]⟩
      | some t => addNodeTerminationCondition t ⟨[]⟩) ∧
    [terminatingCondition 7].filter (fun c => !c.isTerminating) =
      ([] : List NodeCondition).filter (fun c => !c.isTerminating) ∧
    ((⟨[terminatingCondition 7]⟩ : Node) = ⟨[]⟩ ∨
      ∀ c ∈ [terminatingCondition 7], c.isTerminating → c.status = conditionTrue) :=
  ⟨by decide, handler_node_effect (newHandler "node-a") []
    [.task (.endpoint (.body "TRUE")), .task (.endpoint (.body "TRUE")), .task .proceed,
      .task (.mark 7 .ok .ok), .send, .recvErrs, .cancel]
    ⟨.errsReturned none, .finishing, ⟨.returned none, some .canceled, ⟨[terminatingCondition 7]⟩⟩,
      none, 1, false⟩ (by decide)⟩

/-! ### Shutdown -/

/-- After `Run`'s `cancel()`, the goroutine calls the endpoint at most twice more: the call
in flight and the check once more. -/
theorem handler_stops_polling (h : Handler) (n : Node) (pre post : List SysEvent) (s : Sys)
    (hs : sysExec h (.init n) (pre ++ .cancel :: post) = some s) :
    (post.flatMap SysEvent.toRun).countP Event.isEndpoint ≤ 2 := by
  rw [sysExec_append, Option.bind_eq_some] at hs
  obtain ⟨s₁, -, hs⟩ := hs
  rw [sysExec_cons, Option.bind_eq_some] at hs
  obtain ⟨s₂, h₂, hs⟩ := hs
  have hctx : s₂.run.ctx ≠ none := by
    cases sysStep_eq_some_iff.mp h₂ with
    | cancelStop _ | cancelErrs _ _ => exact finish_ne_none _ _
  exact Nat.le_trans (exec_endpointBudget hctx (sysExec_run hs)) (Pc.endpointBudget_le_two _)

/-- `stop` first: after `cancel()` the poll loop makes its call, takes `Done`, and checks
once more. -/
theorem handler_stops_polling_stop :
    sysExec (newHandler "node-a") (.init ⟨[]⟩) ([.stop, .recvStop] ++ .cancel ::
        [.task (.endpoint (.body "FALSE")), .task .done, .task (.endpoint (.body "FALSE")),
          .send, .wgDone, .wait]) =
      some ⟨.stopReturned, .exited, ⟨.returned none, some .canceled, ⟨[]⟩⟩, some none, 0, true⟩ ∧
    (([.task (.endpoint (.body "FALSE")), .task .done, .task (.endpoint (.body "FALSE")), .send,
        .wgDone, .wait] : List SysEvent).flatMap SysEvent.toRun).countP Event.isEndpoint ≤ 2 :=
  ⟨by decide, handler_stops_polling (newHandler "node-a") ⟨[]⟩ [.stop, .recvStop]
    [.task (.endpoint (.body "FALSE")), .task .done, .task (.endpoint (.body "FALSE")), .send,
      .wgDone, .wait]
    ⟨.stopReturned, .exited, ⟨.returned none, some .canceled, ⟨[]⟩⟩, some none, 0, true⟩
    (by decide)⟩

/-! ### What `Run` returns -/

/-- What `Run` returns on the `errs` branch, when it is an error, is a `HandlerError`. -/
theorem handler_error_cases (h : Handler) (n : Node) (evs : List SysEvent) (s : Sys) (x : Error)
    (hs : sysExec h (.init n) evs = some s) (hx : s.main = .errsReturned (some x)) :
    HandlerError h x :=
  (sysExec_liveInv (SysInv.init n) (LiveInv.init n) hs).received x (by simp [hx, MainPc.received])

/-- The error of the poll loop when the endpoint's transport fails. -/
def pollTimeoutError : Error :=
  .msg ("error polling termination endpoint: could not get URL " ++
    goQuote gcpTerminationEndpointURL ++ ": i/o timeout")

/-- The endpoint answers `FALSE`, and then fails in transport: `Run` returns the poll loop's
error. -/
theorem handler_error_cases_poll :
    sysExec (newHandler "node-a") (.init ⟨[]⟩) [.task (.endpoint (.body "FALSE")), .task .tick,
        .task (.endpoint (.doFailed "i/o timeout")), .send, .recvErrs, .cancel] =
      some ⟨.errsReturned (some pollTimeoutError), .finishing,
        ⟨.returned (some pollTimeoutError), some .canceled, ⟨[]⟩⟩, none, 1, false⟩ ∧
    HandlerError (newHandler "node-a") pollTimeoutError :=
  ⟨by decide, handler_error_cases (newHandler "node-a") ⟨[]⟩
    [.task (.endpoint (.body "FALSE")), .task .tick, .task (.endpoint (.doFailed "i/o timeout")),
      .send, .recvErrs, .cancel]
    ⟨.errsReturned (some pollTimeoutError), .finishing,
      ⟨.returned (some pollTimeoutError), some .canceled, ⟨[]⟩⟩, none, 1, false⟩
    pollTimeoutError (by decide) rfl⟩

/-- On the `errs` branch, `Run` returns `nil` only when the check once more answered "not
terminated", or when a write of the merged node took effect. -/
theorem handler_nil_result (h : Handler) (n : Node) (evs : List SysEvent) (s : Sys)
    (hs : sysExec h (.init n) evs = some s) (hnil : s.main = .errsReturned none) :
    (∃ pre o post s₁, evs.flatMap SysEvent.toRun = pre ++ .endpoint o :: post ∧
      exec h (.init none n) pre = some s₁ ∧ s₁.pc = .recheck ∧
      checkTerminationEndpoint h o = (false, none)) ∨
    ∃ t, firstApplied (evs.flatMap SysEvent.toRun) = some t ∧
      s.run.node = addNodeTerminationCondition t n := by
  obtain ⟨hi, -⟩ := sysExec_inv (SysInv.init n) hs
  exact (exec_returns_nil (sysExec_run hs) (hi.received_eq (by simp [hnil, MainPc.received]))).imp
    id fun ⟨_, _, _, _, _, ht⟩ => ht

/-- The poll loop sees `TRUE`, the check once more `FALSE`: `Run` returns `nil` and the node
is left alone. -/
theorem handler_nil_result_recheck :
    let evs : List SysEvent := [.task (.endpoint (.body "TRUE")), .task (.endpoint (.body "FALSE")),
      .send, .recvErrs, .cancel]
    let s : Sys := ⟨.errsReturned none, .finishing, ⟨.returned none, some .canceled, ⟨[]⟩⟩,
      none, 1, false⟩
    sysExec (newHandler "node-a") (.init ⟨[]⟩) evs = some s ∧ s.main = .errsReturned none ∧
    ((∃ pre o post s₁, evs.flatMap SysEvent.toRun = pre ++ .endpoint o :: post ∧
      exec (newHandler "node-a") (.init none ⟨[]⟩) pre = some s₁ ∧ s₁.pc = .recheck ∧
      checkTerminationEndpoint (newHandler "node-a") o = (false, none)) ∨
    ∃ t, firstApplied (evs.flatMap SysEvent.toRun) = some t ∧
      s.run.node = addNodeTerminationCondition t ⟨[]⟩) :=
  ⟨by decide, rfl, handler_nil_result (newHandler "node-a") ⟨[]⟩
    [.task (.endpoint (.body "TRUE")), .task (.endpoint (.body "FALSE")), .send, .recvErrs, .cancel]
    ⟨.errsReturned none, .finishing, ⟨.returned none, some .canceled, ⟨[]⟩⟩, none, 1, false⟩
    (by decide) rfl⟩

/-! ### After `Run` returns -/

/-- Once `Run` has returned and the goroutine is past `run`, the only moves left are the
caller's `stop` and the goroutine's deferred `wg.Done()`; neither touches `Run` or `run`. -/
lemma sysStep_after_return {s s' : Sys} {e : SysEvent} (hr : s.main.hasReturned)
    (ht : s.task ≠ .running) (hs : sysStep h s e = some s') :
    (e = .stop ∨ e = .wgDone) ∧ s'.main = s.main ∧ s'.run = s.run ∧ s'.task ≠ .running := by
  cases sysStep_eq_some_iff.mp hs with
  | stop _ => exact ⟨.inl rfl, rfl, rfl, ht⟩
  | task _ _ htask _ _ | send _ htask _ _ => exact absurd htask ht
  | wgDone _ => exact ⟨.inr rfl, rfl, rfl, nofun⟩
  | recvStop hmain _ | recvErrs _ hmain _ | cancelStop hmain | cancelErrs _ hmain | wait hmain _ =>
    simp [hmain, MainPc.hasReturned] at hr

lemma sysExec_after_return {evs : List SysEvent} {s s' : Sys} (hr : s.main.hasReturned)
    (ht : s.task ≠ .running) (hs : sysExec h s evs = some s') :
    (∀ e ∈ evs, e = .stop ∨ e = .wgDone) ∧ s'.main = s.main ∧ s'.run = s.run := by
  induction evs generalizing s with
  | nil => cases Option.some.inj hs; exact ⟨nofun, rfl, rfl⟩
  | cons e es ih =>
    rw [sysExec_cons, Option.bind_eq_some] at hs
    obtain ⟨s₁, h₁, hs⟩ := hs
    obtain ⟨he, hm, hrun, ht₁⟩ := sysStep_after_return hr ht h₁
    obtain ⟨hes, hm', hrun'⟩ := ih (hm ▸ hr) ht₁ hs
    exact ⟨List.forall_mem_cons.mpr ⟨he, hes⟩, hm'.trans hm, hrun'.trans hrun⟩

/-- Once `Run` has returned, on either branch, the goroutine makes no call of the endpoint
or of the store, and `run`'s state and `Run`'s result never change: only the caller's `stop`
and the goroutine's deferred `wg.Done()` can still happen. -/
theorem no_work_after_return (h : Handler) (n : Node) (pre post : List SysEvent) (s₁ s : Sys)
    (h₁ : sysExec h (.init n) pre = some s₁) (hret : s₁.main.hasReturned)
    (hs : sysExec h s₁ post = some s) :
    (∀ e ∈ post, e = .stop ∨ e = .wgDone) ∧ s.main = s₁.main ∧ s.run = s₁.run := by
  obtain ⟨hi, -⟩ := sysExec_inv (SysInv.init n) h₁
  -- when `Run` returns, the goroutine has sent on `errs`
  have ht : s₁.task ≠ .running := by
    rcases hmain : s₁.main with _ | _ | _ | _ | r | r <;>
      simp only [hmain, MainPc.hasReturned, Bool.false_eq_true] at hret
    · simp [hi.stopReturned hmain]
    · exact fun h' => by simpa [hmain, MainPc.received] using (hi.running h').2
  exact sysExec_after_return hret ht hs

/-- `Run` returns the poll loop's error; afterwards the goroutine leaves the group and the
caller fires `stop`, and nothing else happens. -/
theorem no_work_after_return_errs :
    let pre : List SysEvent := [.task (.endpoint (.body "FALSE")), .task .tick,
      .task (.endpoint (.doFailed "i/o timeout")), .send, .recvErrs, .cancel]
    let s₁ : Sys := ⟨.errsReturned (some pollTimeoutError), .finishing,
      ⟨.returned (some pollTimeoutError), some .canceled, ⟨[]⟩⟩, none, 1, false⟩
    let s : Sys := ⟨.errsReturned (some pollTimeoutError), .exited,
      ⟨.returned (some pollTimeoutError), some .canceled, ⟨[]⟩⟩, none, 0, true⟩
    sysExec (newHandler "node-a") (.init ⟨[]⟩) pre = some s₁ ∧ s₁.main.hasReturned ∧
    sysExec (newHandler "node-a") s₁ [.wgDone, .stop] = some s ∧
    (∀ e ∈ ([.wgDone, .stop] : List SysEvent), e = .stop ∨ e = .wgDone) ∧
    s.main = s₁.main ∧ s.run = s₁.run :=
  ⟨by decide, rfl, by decide, no_work_after_return (newHandler "node-a") ⟨[]⟩
    [.task (.endpoint (.body "FALSE")), .task .tick, .task (.endpoint (.doFailed "i/o timeout")),
      .send, .recvErrs, .cancel] [.wgDone, .stop]
    ⟨.errsReturned (some pollTimeoutError), .finishing,
      ⟨.returned (some pollTimeoutError), some .canceled, ⟨[]⟩⟩, none, 1, false⟩
    ⟨.errsReturned (some pollTimeoutError), .exited,
      ⟨.returned (some pollTimeoutError), some .canceled, ⟨[]⟩⟩, none, 0, true⟩
    (by decide) rfl (by decide)⟩

/-! ### A stopped `Run` ends -/

/-- How many more moves `Run` and its goroutine can make once `Run` waits in `wg.Wait()` and
`run`'s context is done: the goroutine's own moves, its send and its `wg.Done()`, and
`wg.Wait()` returning. -/
def Sys.movesLeft (s : Sys) : Nat :=
  (match s.task with
    | .running => s.run.pc.movesLeft + 2
    | .finishing => 1
    | .exited => 0) + if s.main = .waiting then 1 else 0

lemma Sys.movesLeft_le (s : Sys) : s.movesLeft ≤ 2 * markTimeout + 10 := by
  have := Pc.movesLeft_le_start s.run.pc
  unfold Sys.movesLeft
  split <;> split <;> omega

end GcpTermination
