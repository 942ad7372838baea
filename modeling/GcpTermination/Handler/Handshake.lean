import GcpTermination.Handler.System

/-!
# The handshake between `Run` and its goroutine

`SysInv` is what holds of every reachable state of `Run` and its goroutine: the group
counts the goroutine until it has gone; until the goroutine has sent, `errs` is empty and
`Run` has taken nothing from it; afterwards `run` has returned `r`, and `r` is either still
in `errs` or is what `Run` took.  `sysStep_inv` keeps it, and `sysExec_inv` carries it along
every run.  The main result is

* `run_handshake`: the goroutine's send never blocks, `errs` receives exactly one value,
  `wg.Wait()` can always return, `Run` returns on the `stop` branch only after the goroutine
  has gone, and on the `errs` branch it returns what `run` returned;
* `run_can_return`: from every reachable state, `Run` can still return without `stop`.
-/

namespace GcpTermination

/-- How many values the goroutine has sent. -/
def TaskPc.sends : TaskPc → Nat
  | .running => 0
  | .finishing | .exited => 1

/-- What holds of every reachable state of `Run` and its goroutine. -/
structure SysInv (s : Sys) : Prop where
  wg_eq : s.wg = if s.task = .exited then 0 else 1
  running : s.task = .running → s.errs = none ∧ s.main.received = none
  sent : s.task ≠ .running → ∃ r, s.run.pc = .returned r ∧
    (s.errs = some r ∧ s.main.received = none ∨ s.errs = none ∧ s.main.received = some r)
  stopReturned : s.main = .stopReturned → s.task = .exited
  stopped : s.main.tookStop → s.stopped

lemma SysInv.init (n : Node) : SysInv (.init n) :=
  ⟨rfl, fun _ => ⟨rfl, rfl⟩, fun h => absurd rfl h, nofun, nofun⟩

/-- A value in `errs` is what `run` returned. -/
lemma SysInv.errs_eq {s : Sys} (hi : SysInv s) {r : Option Error} (herrs : s.errs = some r) :
    s.run.pc = .returned r := by
  have htask : s.task ≠ .running := fun h' => by simp [(hi.running h').1] at herrs
  obtain ⟨r', hpc, ⟨hr, -⟩ | ⟨hr, -⟩⟩ := hi.sent htask <;> rw [herrs] at hr
  · cases hr; exact hpc
  · cases hr

/-- What `Run` took from `errs` is what `run` returned. -/
lemma SysInv.received_eq {s : Sys} (hi : SysInv s) {r : Option Error}
    (hrec : s.main.received = some r) : s.run.pc = .returned r := by
  have htask : s.task ≠ .running := fun h' => by simp [(hi.running h').2] at hrec
  obtain ⟨r', hpc, ⟨-, hr⟩ | ⟨-, hr⟩⟩ := hi.sent htask <;> rw [hrec] at hr
  · cases hr
  · cases hr; exact hpc

/-- A move of `Run` that keeps what it took from `errs`, does not return on the `stop` branch,
takes `stop` only once it fired, and keeps `run`'s result keeps the invariant. -/
lemma SysInv.of_main {s : Sys} (hi : SysInv s) {main : MainPc} {run : RunState}
    (hrec : main.received = s.main.received) (hret : main ≠ .stopReturned)
    (hstop : main.tookStop → s.stopped)
    (hrun : ∀ r, s.run.pc = .returned r → run.pc = .returned r) :
    SysInv { s with main := main, run := run } := by
  refine ⟨hi.wg_eq, fun h' => hrec ▸ hi.running h', fun h' => ?_, fun h' => absurd h' hret, hstop⟩
  obtain ⟨r, hpc, hr⟩ := hi.sent h'
  exact ⟨r, hrun r hpc, hrec ▸ hr⟩

@[simp] lemma Pc.parentDone_returned (r : Option Error) (k : Cause) :
    (Pc.returned r).parentDone k = .returned r := rfl

variable {h : Handler}

lemma sysStep_inv {s s' : Sys} {e : SysEvent} (hi : SysInv s) (hs : sysStep h s e = some s') :
    SysInv s' := by
  have ⟨hwg, hrun, hsent, hret, hstop⟩ := hi
  cases sysStep_eq_some_iff.mp hs with
  | stop _ => exact ⟨hwg, hrun, hsent, hret, fun _ => rfl⟩
  | task _ _ htask _ _ => exact ⟨hwg, hrun, fun h' => absurd htask h', hret, hstop⟩
  | send r htask hpc _ =>
    -- the send: `errs` takes `run`'s result
    have hm : s.main ≠ .stopReturned := fun h' => by simp [hret h'] at htask
    exact ⟨by simp_all, by simp, fun _ => ⟨r, hpc, .inl ⟨rfl, (hrun htask).2⟩⟩,
      fun h' => absurd h' hm, hstop⟩
  | wgDone htask =>
    -- the deferred `wg.Done()`
    exact ⟨by simp_all, by simp, fun _ => hsent (by simp [htask]), fun _ => rfl, hstop⟩
  | recvStop hmain hst => exact hi.of_main (by simp [hmain, MainPc.received]) nofun (fun _ => hst) fun _ => id
  | recvErrs r hmain herrs =>
    -- `Run` takes the value in `errs`: the goroutine has sent it
    have htask : s.task ≠ .running := fun h' => by simp [(hrun h').1] at herrs
    exact ⟨hwg, fun h' => absurd h' htask, fun _ => ⟨r, hi.errs_eq herrs, .inr ⟨rfl, rfl⟩⟩,
      nofun, nofun⟩
  | cancelStop hmain =>
    exact hi.of_main (by simp [hmain, MainPc.received]) nofun
      (fun _ => hstop (by simp [hmain, MainPc.tookStop])) fun _ h' => by simp [RunState.ctxDone, h']
  | cancelErrs r hmain =>
    exact hi.of_main (by simp [hmain, MainPc.received]) nofun nofun fun _ h' => by
      simp [RunState.ctxDone, h']
  | wait hmain hwg0 =>
    -- `wg.Wait()` returns only once the counter is 0, so the goroutine has gone
    refine ⟨hwg, fun h' => ?_, fun h' => ?_, fun _ => ?_, fun _ => hstop (by simp [hmain, MainPc.tookStop])⟩
    · simpa [MainPc.received, hmain] using hrun h'
    · simpa [MainPc.received, hmain] using hsent h'
    · by_contra hne; simp [hne, hwg0] at hwg

lemma sysStep_sends {s s' : Sys} {e : SysEvent} (hs : sysStep h s e = some s') :
    s'.task.sends = s.task.sends + [e].count .send := by
  cases sysStep_eq_some_iff.mp hs with
  | send _ htask _ _ | wgDone htask => simp [htask, TaskPc.sends]
  | _ => simp

/-- Along every run: the invariant, and one send once the goroutine is past it. -/
lemma sysExec_inv {evs : List SysEvent} {s s' : Sys} (hi : SysInv s)
    (hs : sysExec h s evs = some s') :
    SysInv s' ∧ s'.task.sends = s.task.sends + evs.count .send := by
  induction evs generalizing s with
  | nil => cases Option.some.inj hs; exact ⟨hi, rfl⟩
  | cons e es ih =>
    rw [sysExec_cons, Option.bind_eq_some] at hs
    obtain ⟨s₁, h₁, hs⟩ := hs
    obtain ⟨hi', hsends⟩ := ih (sysStep_inv hi h₁) hs
    refine ⟨hi', ?_⟩
    rw [hsends, sysStep_sends h₁]
    simp [List.count_cons]
    omega

/-! ### `run` can always return -/

/-- Events that take `run` from where it is to its return, each a step the code can take
there: on a live context the endpoint answers `TRUE` and then `FALSE`, a call of
`markNodeForDeletion` succeeds, or the marking loop waits for its timer; on a done context a
poll loop ends on `Done`. -/
def drain : RunState → List Event
  | ⟨.pollCall, _, _⟩ => [.endpoint (.body "TRUE"), .endpoint (.body "FALSE")]
  | ⟨.pollWait, none, _⟩ => [.tick, .endpoint (.body "TRUE"), .endpoint (.body "FALSE")]
  | ⟨.pollWait, some .canceled, _⟩ => [.done, .endpoint (.body "FALSE")]
  | ⟨.pollWait, some .deadlineExceeded, _⟩ => [.done]
  | ⟨.recheck, _, _⟩ => [.endpoint (.body "FALSE")]
  | ⟨.ctxCheck, some .deadlineExceeded, _⟩ => [.proceed]
  | ⟨.ctxCheck, _, _⟩ => [.proceed, .mark 0 .ok .ok]
  | ⟨.markCall _, _, _⟩ => [.mark 0 .ok .ok]
  | ⟨.markWait ⟨_, none, _⟩, _, _⟩ => [.deadline, .done]
  | ⟨.markWait ⟨_, some _, _⟩, _, _⟩ => [.done]
  | ⟨.returned _, _, _⟩ => []

lemma drain_byTask (s : RunState) : ∀ e ∈ drain s, e.byTask := by
  obtain ⟨pc, ctx, node⟩ := s
  rcases pc with _ | _ | _ | _ | m | ⟨c, err, el⟩ | r <;> rcases ctx with _ | _ | _ <;>
    (try rcases err with _ | _ | _) <;> simp [drain, Event.byTask]

lemma exec_drain (s : RunState) : ∃ r s', exec h s (drain s) = some s' ∧ s'.pc = .returned r := by
  obtain ⟨pc, ctx, node⟩ := s
  rcases pc with _ | _ | _ | _ | m | ⟨c, err, el⟩ | r <;> rcases ctx with _ | _ | _ <;>
    (try rcases err with _ | _ | _) <;>
    simp [drain, exec, runStep, checkTerminationEndpoint, afterPollCall, afterPoll,
      afterRecheck, afterCtxCheck, markNodeForDeletion, GetOutcome.apply, UpdateOutcome.apply,
      afterMarkCall, Cause.err, MarkCtx.expire, finish]

/-- Moves of `run` inside the running goroutine. -/
lemma sysExec_task {es : List Event} {s : Sys} {r : RunState} (htask : s.task = .running)
    (hby : ∀ e ∈ es, e.byTask) (hr : exec h s.run es = some r) :
    sysExec h s (es.map .task) = some { s with run := r } := by
  induction es generalizing s with
  | nil => cases Option.some.inj hr; rfl
  | cons e es ih =>
    rw [exec_cons, Option.bind_eq_some] at hr
    obtain ⟨r₁, h₁, hr⟩ := hr
    have hs : sysStep h s (.task e) = some { s with run := r₁ } := by
      simp [sysStep, htask, hby e (List.mem_cons_self _ _), h₁]
    rw [List.map_cons, sysExec_cons, hs, Option.some_bind]
    exact ih htask (fun e he => hby e (List.mem_cons_of_mem _ he)) hr

/-- From `wg.Wait()`, `Run` can always return, with no further `stop`: the goroutine can
run to its end, send, and leave the group. -/
lemma waiting_can_return {s : Sys} (hi : SysInv s) (hm : s.main = .waiting) :
    ∃ evs s', SysEvent.stop ∉ evs ∧ sysExec h s evs = some s' ∧ s'.main = .stopReturned := by
  rcases htask : s.task with _ | _ | _
  · -- running: drain `run`, send, leave the group, return
    obtain ⟨r, s₁, h₁, hpc⟩ := @exec_drain h s.run
    have herrs := (hi.running htask).1
    have hwg : s.wg = 1 := by simpa [htask] using hi.wg_eq
    refine ⟨(drain s.run).map .task ++ [.send, .wgDone, .wait], ?_⟩
    rw [sysExec_append, sysExec_task htask (drain_byTask _) h₁, Option.some_bind]
    simp [sysExec, sysStep, htask, hpc, herrs, hm, hwg]
  · have hwg : s.wg = 1 := by simpa [htask] using hi.wg_eq
    exact ⟨[.wgDone, .wait], by simp [sysExec, sysStep, htask, hm, hwg]⟩
  · have hwg : s.wg = 0 := by simpa [htask] using hi.wg_eq
    exact ⟨[.wait], by simp [sysExec, sysStep, hm, hwg]⟩

/-! ### The handshake -/

/-- Along every run of `Run` and its goroutine: the send on `errs` is enabled as soon as `run`
has returned, `errs` receives one value at most and exactly one once the goroutine is past
its send, `wg.Wait()` can always return, `Run` returns on the `stop` branch only after the
goroutine has gone, and on the `errs` branch it returns what `run` returned. -/
theorem run_handshake (h : Handler) (n : Node) (evs : List SysEvent) (s : Sys)
    (hs : sysExec h (.init n) evs = some s) :
    (∀ r, s.task = .running → s.run.pc = .returned r →
      sysStep h s .send = some { s with task := .finishing, errs := some r }) ∧
    evs.count .send = (if s.task = .running then 0 else 1) ∧
    (s.main = .waiting → ∃ evs' s', sysExec h s evs' = some s' ∧ s'.main = .stopReturned) ∧
    (s.main = .stopReturned → s.task = .exited ∧ ∃ r, s.run.pc = .returned r) ∧
    (∀ r, s.main = .errsReturned r → s.run.pc = .returned r) := by
  obtain ⟨hi, hsends⟩ := sysExec_inv (SysInv.init n) hs
  refine ⟨fun r htask hpc => ?_, ?_, fun hm => ?_, fun hm => ?_, fun r hm => ?_⟩
  · simp [sysStep, htask, hpc, (hi.running htask).1]
  · rw [Sys.init, TaskPc.sends, Nat.zero_add] at hsends
    rw [← hsends]; cases s.task <;> rfl
  · obtain ⟨evs', s', -, h', hm'⟩ := waiting_can_return hi hm
    exact ⟨evs', s', h', hm'⟩
  · have htask := hi.stopReturned hm
    obtain ⟨r, hpc, -⟩ := hi.sent (by simp [htask])
    exact ⟨htask, r, hpc⟩
  · exact hi.received_eq (by simp [hm, MainPc.received])

/-- `stop` comes first; the goroutine's poll loop sees the cancelled context, the check once
more answers `FALSE`, and `Run` returns `nil` after the goroutine has gone. -/
theorem run_handshake_stop :
    let evs : List SysEvent := [.stop, .recvStop, .cancel, .task (.endpoint (.body "FALSE")),
      .task .done, .task (.endpoint (.body "FALSE")), .send, .wgDone, .wait]
    let s : Sys := ⟨.stopReturned, .exited, ⟨.returned none, some .canceled, ⟨[]⟩⟩, some none, 0, true⟩
    sysExec (newHandler "node-a") (.init ⟨[]⟩) evs = some s ∧
    (∀ r, s.task = .running → s.run.pc = .returned r →
      sysStep (newHandler "node-a") s .send = some { s with task := .finishing, errs := some r }) ∧
    evs.count .send = (if s.task = .running then 0 else 1) ∧
    (s.main = .waiting →
      ∃ evs' s', sysExec (newHandler "node-a") s evs' = some s' ∧ s'.main = .stopReturned) ∧
    (s.main = .stopReturned → s.task = .exited ∧ ∃ r, s.run.pc = .returned r) ∧
    (∀ r, s.main = .errsReturned r → s.run.pc = .returned r) :=
  ⟨by decide, run_handshake (newHandler "node-a") ⟨[]⟩ _ _ (by decide)⟩

/-! ### No deadlock -/

/-- From every state `Run` and its goroutine reach, `Run` can still return without the caller
firing `stop`: nothing in the handler can deadlock. -/
theorem run_can_return (h : Handler) (n : Node) (evs : List SysEvent) (s : Sys)
    (hs : sysExec h (.init n) evs = some s) (hm : s.main.hasReturned = false) :
    ∃ evs' s', SysEvent.stop ∉ evs' ∧ sysExec h s evs' = some s' ∧ s'.main.hasReturned := by
  obtain ⟨hi, -⟩ := sysExec_inv (SysInv.init n) hs
  rcases hmain : s.main with _ | _ | _ | _ | r | r
  · -- in the select: the goroutine runs to its end and sends, and `Run` takes the value
    rcases htask : s.task with _ | _ | _
    · obtain ⟨r, s₁, h₁, hpc⟩ := @exec_drain h s.run
      refine ⟨(drain s.run).map .task ++ [.send, .recvErrs, .cancel], ?_⟩
      rw [sysExec_append, sysExec_task htask (drain_byTask _) h₁, Option.some_bind]
      simp [sysExec, sysStep, htask, hpc, (hi.running htask).1, hmain, MainPc.hasReturned]
    all_goals
      obtain ⟨r, -, ⟨herrs, -⟩ | ⟨-, hr⟩⟩ := hi.sent (by simp [htask])
      · exact ⟨[.recvErrs, .cancel], by simp [sysExec, sysStep, hmain, herrs, MainPc.hasReturned]⟩
      · simp [hmain, MainPc.received] at hr
  · -- `stop` taken: cancel, then wait for the group
    have h₁ : sysStep h s .cancel =
        some { s with main := .waiting, run := s.run.ctxDone .canceled } := by
      simp [sysStep, hmain]
    obtain ⟨evs', s', hstop, h', hm'⟩ := waiting_can_return (sysStep_inv hi h₁) rfl
    refine ⟨.cancel :: evs', s', by simpa using hstop, ?_, by simp [hm', MainPc.hasReturned]⟩
    rw [sysExec_cons, h₁, Option.some_bind]; exact h'
  · obtain ⟨evs', s', hstop, h', hm'⟩ := waiting_can_return hi hmain
    exact ⟨evs', s', hstop, h', by simp [hm', MainPc.hasReturned]⟩
  · simp [hmain, MainPc.hasReturned] at hm
  · exact ⟨[.cancel], by simp [sysExec, sysStep, hmain, MainPc.hasReturned]⟩
  · simp [hmain, MainPc.hasReturned] at hm

/-- After `stop`, taken by the select, `Run` can still return. -/
theorem run_can_return_stopped :
    sysExec (newHandler "node-a") (.init ⟨[]⟩) [.stop, .recvStop] =
      some ⟨.stopCancel, .running, .init none ⟨[]⟩, none, 1, true⟩ ∧
    MainPc.stopCancel.hasReturned = false ∧
    ∃ evs' s', SysEvent.stop ∉ evs' ∧
      sysExec (newHandler "node-a") ⟨.stopCancel, .running, .init none ⟨[]⟩, none, 1, true⟩ evs' =
        some s' ∧ s'.main.hasReturned :=
  ⟨by decide, rfl, run_can_return (newHandler "node-a") ⟨[]⟩ [.stop, .recvStop] _ (by decide) rfl⟩

end GcpTermination
