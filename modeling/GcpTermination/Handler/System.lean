import GcpTermination.Run.Step

/-!
# `Run` and its goroutine

`handler.Run(stop)` makes a cancellable context, a channel `errs` of capacity 1 and a
`sync.WaitGroup` counting one goroutine, starts that goroutine (which sends the result of
`h.run(ctx)` on `errs` and then, deferred, calls `wg.Done()`), and waits in a `select` for
`stop` or for a value on `errs`.  On `stop` it cancels the context and waits for the group;
on `errs` it cancels the context and returns the value it received.

A state of the whole (`Sys`) holds both control points, `run`'s own state, the buffer of
`errs`, the counter of the group and whether `stop` has fired.  `sysStep` is one move of
either goroutine, or the caller's `stop`; a move of `run` is a `runStep`, except that
`run`'s context changes only through `Run`'s `cancel()` (a context made by
`context.WithCancel(context.Background())` has no deadline).

`sysExec_run` is the simulation: every run of the whole projects to a run of `run` alone, so
everything proved of `run` on all its runs holds inside `Run`.
-/

namespace GcpTermination

/-- Where `Run` itself is. -/
inductive MainPc
  /-- In the select of line 82, on `stop` and `errs`. -/
  | selecting
  /-- Took `stop`; `cancel()` of line 84 is next. -/
  | stopCancel
  /-- In `wg.Wait()`, line 86. -/
  | waiting
  /-- Returned `nil` on the `stop` branch, line 87. -/
  | stopReturned
  /-- Took `err` from `errs`; `cancel()` of line 89 is next. -/
  | errsCancel (err : Option Error)
  /-- Returned `err` on the `errs` branch, line 90. -/
  | errsReturned (err : Option Error)
deriving DecidableEq, Repr

/-- The value `Run` took from `errs`, if it did. -/
def MainPc.received : MainPc → Option (Option Error)
  | .errsCancel r | .errsReturned r => some r
  | .selecting | .stopCancel | .waiting | .stopReturned => none

/-- Whether `Run` has returned. -/
def MainPc.hasReturned : MainPc → Bool
  | .stopReturned | .errsReturned _ => true
  | .selecting | .stopCancel | .waiting | .errsCancel _ => false

/-- Whether `Run` has taken `stop`. -/
def MainPc.tookStop : MainPc → Bool
  | .stopCancel | .waiting | .stopReturned => true
  | .selecting | .errsCancel _ | .errsReturned _ => false

/-- Where the goroutine of line 77 is. -/
inductive TaskPc
  /-- Running `h.run(ctx)`, then sending its result on `errs`. -/
  | running
  /-- Sent; the deferred `wg.Done()` is left. -/
  | finishing
  /-- Gone. -/
  | exited
deriving DecidableEq, Repr

/-- The state of `Run` and of its goroutine. -/
structure Sys where
  main : MainPc
  task : TaskPc
  run : RunState
  /-- The buffer of `errs`, of capacity 1. -/
  errs : Option (Option Error)
  /-- The counter of `wg`. -/
  wg : Nat
  /-- Whether `stop` can be received from. -/
  stopped : Bool
deriving DecidableEq, Repr

/-- Right after `go func() {...}()`, line 80, against the stored node. -/
def Sys.init (n : Node) : Sys := ⟨.selecting, .running, .init none n, none, 1, false⟩

/-- One move of the whole. -/
inductive SysEvent
  /-- The caller fires `stop`. -/
  | stop
  /-- An event of `run`, inside the goroutine. -/
  | task (e : Event)
  /-- The goroutine's `errs <- h.run(ctx)`. -/
  | send
  /-- The goroutine's deferred `wg.Done()`. -/
  | wgDone
  /-- The select takes `stop`. -/
  | recvStop
  /-- The select takes a value from `errs`. -/
  | recvErrs
  /-- `Run` calls `cancel()`. -/
  | cancel
  /-- `wg.Wait()` returns. -/
  | wait
deriving DecidableEq, Repr

/-- One move of `Run` or of its goroutine. -/
def sysStep (h : Handler) (s : Sys) : SysEvent → Option Sys
  | .stop => if s.stopped then none else some { s with stopped := true }
  | .task e => match s.task with
    | .running => if e.byTask then (runStep h s.run e).map fun r => { s with run := r } else none
    | _ => none
  | .send => match s.task, s.run.pc, s.errs with
    | .running, .returned r, none => some { s with task := .finishing, errs := some r }
    | _, _, _ => none
  | .wgDone => match s.task with
    | .finishing => some { s with task := .exited, wg := s.wg - 1 }
    | _ => none
  | .recvStop => match s.main with
    | .selecting => if s.stopped then some { s with main := .stopCancel } else none
    | _ => none
  | .recvErrs => match s.main, s.errs with
    | .selecting, some r => some { s with main := .errsCancel r, errs := none }
    | _, _ => none
  | .cancel => match s.main with
    | .stopCancel => some { s with main := .waiting, run := s.run.ctxDone .canceled }
    | .errsCancel r => some { s with main := .errsReturned r, run := s.run.ctxDone .canceled }
    | _ => none
  | .wait => match s.main with
    | .waiting => if s.wg = 0 then some { s with main := .stopReturned } else none
    | _ => none

/-- A run of the whole. -/
def sysExec (h : Handler) (s : Sys) : List SysEvent → Option Sys
  | [] => some s
  | e :: es => (sysStep h s e).bind fun s' => sysExec h s' es

variable {h : Handler}

lemma sysExec_cons (s : Sys) (e : SysEvent) (es : List SysEvent) :
    sysExec h s (e :: es) = (sysStep h s e).bind fun s' => sysExec h s' es := rfl

lemma sysExec_append (s : Sys) (xs ys : List SysEvent) :
    sysExec h s (xs ++ ys) = (sysExec h s xs).bind fun s' => sysExec h s' ys := by
  induction xs generalizing s with
  | nil => rfl
  | cons e xs ih => cases hs : sysStep h s e <;> simp [sysExec_cons, hs, ih]

/-- The moves of `Run` and its goroutine, one for each branch of `sysStep`, with its guard. -/
inductive SysStep (h : Handler) (s : Sys) : SysEvent → Sys → Prop
  | stop (hst : s.stopped = false) : SysStep h s .stop { s with stopped := true }
  | task (e : Event) (r : RunState) (htask : s.task = .running) (he : e.byTask)
      (hr : runStep h s.run e = some r) : SysStep h s (.task e) { s with run := r }
  | send (r : Option Error) (htask : s.task = .running) (hpc : s.run.pc = .returned r)
      (herrs : s.errs = none) : SysStep h s .send { s with task := .finishing, errs := some r }
  | wgDone (htask : s.task = .finishing) :
      SysStep h s .wgDone { s with task := .exited, wg := s.wg - 1 }
  | recvStop (hmain : s.main = .selecting) (hst : s.stopped) :
      SysStep h s .recvStop { s with main := .stopCancel }
  | recvErrs (r : Option Error) (hmain : s.main = .selecting) (herrs : s.errs = some r) :
      SysStep h s .recvErrs { s with main := .errsCancel r, errs := none }
  /-- `cancel()` on the `stop` branch, line 84. -/
  | cancelStop (hmain : s.main = .stopCancel) :
      SysStep h s .cancel { s with main := .waiting, run := s.run.ctxDone .canceled }
  /-- `cancel()` on the `errs` branch, line 89. -/
  | cancelErrs (r : Option Error) (hmain : s.main = .errsCancel r) :
      SysStep h s .cancel { s with main := .errsReturned r, run := s.run.ctxDone .canceled }
  | wait (hmain : s.main = .waiting) (hwg : s.wg = 0) :
      SysStep h s .wait { s with main := .stopReturned }

lemma sysStep_eq_some_iff {s s' : Sys} {e : SysEvent} : sysStep h s e = some s' ↔ SysStep h s e s' := by
  constructor
  · intro hs
    cases e <;> simp only [sysStep] at hs <;> (repeat' split at hs) <;> first
      | (cases hs; done)
      | (cases hs; exact .stop (by simpa using ‹¬ s.stopped = true›))
      | (obtain ⟨r, hr, rfl⟩ := Option.map_eq_some'.mp hs; exact .task _ r ‹_› ‹_› hr)
      | (cases hs; exact .send _ ‹_› ‹_› ‹_›)
      | (cases hs; exact .wgDone ‹_›)
      | (cases hs; exact .recvStop ‹_› ‹_›)
      | (cases hs; exact .recvErrs _ ‹_› ‹_›)
      | (cases hs; exact .cancelStop ‹_›)
      | (cases hs; exact .cancelErrs _ ‹_›)
      | (cases hs; exact .wait ‹_› ‹_›)
  · intro hs
    cases hs <;> simp [sysStep, *]

/-! ### The simulation -/

/-- The events of `run` in one move of the whole. -/
def SysEvent.toRun : SysEvent → List Event
  | .task e => [e]
  | .cancel => [.cancel]
  | .stop | .send | .wgDone | .recvStop | .recvErrs | .wait => []

lemma sysStep_run {s s' : Sys} {e : SysEvent} (hs : sysStep h s e = some s') :
    exec h s.run e.toRun = some s'.run := by
  cases sysStep_eq_some_iff.mp hs with
  | task ev r _ _ hr => simp [SysEvent.toRun, exec_cons, hr]
  | _ => rfl

/-- Every run of `Run` and its goroutine projects to a run of `run` alone. -/
lemma sysExec_run {evs : List SysEvent} {s s' : Sys} (hs : sysExec h s evs = some s') :
    exec h s.run (evs.flatMap SysEvent.toRun) = some s'.run := by
  induction evs generalizing s with
  | nil => cases Option.some.inj hs; rfl
  | cons e es ih =>
    rw [sysExec_cons, Option.bind_eq_some] at hs
    obtain ⟨s₁, h₁, hs⟩ := hs
    rw [List.flatMap_cons, exec_append, sysStep_run h₁, Option.some_bind, ih hs]

end GcpTermination
