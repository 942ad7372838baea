import GcpTermination.Run.Signal

/-!
# The marking loop

Once the check once more answered `TRUE`, `run` retries `markNodeForDeletion` once a second
on `markCtx`, until a call succeeds or the 30-second timer of `markCtx` has fired.  Three
things are shown about every run of that loop.

* `marking_merges_once`: whatever the store answers (a failed `Get`, a refused `Update`, an
  `Update` that took effect but was reported as failed), the stored conditions end as they
  were or merged exactly once, at the time of the first write that took effect; later
  writes change nothing, since the merge is idempotent (`addNodeTerminationCondition_idem`).
* `marking_survives_earlier_cancel`: when `run`'s context is already cancelled at the test
  of line 122, `markCtx` is made from `context.Background()` and no cancellation reaches it;
  after a failed call the next one comes a tick later while the timer has not fired, and the
  loop ends only with a call that succeeds (`nil`), or after its own timer fired, every call
  having failed.  A cancellation that comes after that test reaches `markCtx`, which is then
  a child of the cancelled context (`marking_cut_by_later_cancel`);
* `marking_follows_later_cancel`: when `run`'s context is live at that test, `markCtx` is a
  child of it and is done as soon as it is, and the loop can only end with `nil` or with
  "error marking node: " and the cause of `markCtx`.

The invariants of the loop share one shape, `LoopInv M R`: `run` is in the loop on a
`markCtx` that satisfies `M`, or has returned a result that satisfies `R`.  `LoopClosed`
says what `M` and `R` must allow for every step to keep the invariant, and `LoopInv.of_exec`
carries it along a run.
-/

namespace GcpTermination

/-! ### The stored node -/

/-- The time of the first mark in `evs` whose `Get` succeeded and whose write took effect. -/
def firstApplied : List Event → Option Nat
  | [] => none
  | .mark now .ok u :: evs => if u.applied then some now else firstApplied evs
  | _ :: evs => firstApplied evs

lemma Event.write_mark (now : Nat) (g : GetOutcome) (u : UpdateOutcome) (n : Node) :
    (Event.mark now g u).write n = if g = .ok ∧ u.applied then addNodeTerminationCondition now n else n :=
  markNodeForDeletion_node now g u n

/-- After one merge, no event changes the stored node. -/
lemma Event.write_merged (e : Event) (t : Nat) (n : Node) :
    e.write (addNodeTerminationCondition t n) = addNodeTerminationCondition t n := by
  cases e with
  | mark now g u => simp only [Event.write_mark, addNodeTerminationCondition_idem, ite_self]
  | _ => rfl

lemma foldl_write_merged (evs : List Event) (t : Nat) (n : Node) :
    evs.foldl (fun n e => e.write n) (addNodeTerminationCondition t n) =
      addNodeTerminationCondition t n := by
  induction evs with
  | nil => rfl
  | cons e es ih => rw [List.foldl_cons, Event.write_merged, ih]

/-- The stored node along any sequence of events: merged once, at the first write that took
effect, or untouched. -/
lemma foldl_write (evs : List Event) (n : Node) :
    evs.foldl (fun n e => e.write n) n =
      match firstApplied evs with
      | none => n
      | some t => addNodeTerminationCondition t n := by
  induction evs with
  | nil => rfl
  | cons e es ih =>
    rw [List.foldl_cons]
    cases e with
    | mark now g u =>
      cases g with
      | ok =>
        by_cases hu : u.applied
        · simp [Event.write_mark, hu, firstApplied, foldl_write_merged]
        · simpa [Event.write_mark, hu, firstApplied] using ih
      | failed err => simpa [Event.write_mark, firstApplied] using ih
    | _ => exact ih

/-- The merge is idempotent, and after any run the stored conditions are the original ones,
or the original ones merged once at the time of the first write that took effect. -/
theorem marking_merges_once (h : Handler) (ctx : Option Cause) (cs : List NodeCondition)
    (evs : List Event) (s : RunState) (hs : exec h (.init ctx ⟨cs⟩) evs = some s) :
    (∀ (cs' : List NodeCondition) (t₁ t₂ : Nat),
      (addNodeTerminationCondition t₂ (addNodeTerminationCondition t₁ ⟨cs'⟩)).conditions =
        (addNodeTerminationCondition t₁ ⟨cs'⟩).conditions) ∧
    s.node.conditions =
      match firstApplied evs with
      | none => cs
      | some t => (addNodeTerminationCondition t ⟨cs⟩).conditions := by
  refine ⟨fun cs' t₁ t₂ => by rw [addNodeTerminationCondition_idem], ?_⟩
  rw [exec_node hs, foldl_write]
  cases firstApplied evs <;> rfl

/-- A run where the first write takes effect but is reported as failed, and the retry
succeeds: the condition keeps the time of the first write. -/
theorem marking_merges_once_run :
    exec (newHandler "node-a") (.init none ⟨[]⟩)
        [.endpoint (.body "TRUE"), .endpoint (.body "TRUE"), .proceed,
          .mark 3 .ok (.appliedButFailed "timeout"), .tick, .mark 4 .ok .ok] =
      some ⟨.returned none, none, ⟨[terminatingCondition 3]⟩⟩ ∧
    ((∀ (cs' : List NodeCondition) (t₁ t₂ : Nat),
      (addNodeTerminationCondition t₂ (addNodeTerminationCondition t₁ ⟨cs'⟩)).conditions =
        (addNodeTerminationCondition t₁ ⟨cs'⟩).conditions) ∧
    [terminatingCondition 3] =
      match firstApplied [.endpoint (.body "TRUE"), .endpoint (.body "TRUE"), .proceed,
          .mark 3 .ok (.appliedButFailed "timeout"), .tick, .mark 4 .ok .ok] with
      | none => []
      | some t => (addNodeTerminationCondition t ⟨[]⟩).conditions) :=
  ⟨by decide, marking_merges_once (newHandler "node-a") none []
    [.endpoint (.body "TRUE"), .endpoint (.body "TRUE"), .proceed,
      .mark 3 .ok (.appliedButFailed "timeout"), .tick, .mark 4 .ok .ok]
    ⟨.returned none, none, ⟨[terminatingCondition 3]⟩⟩ (by decide)⟩

/-! ### How the loop returns -/

@[simp] lemma finish_none (k : Cause) : finish none k = some k := rfl

@[simp] lemma finish_some (k k' : Cause) : finish (some k') k = some k' := rfl

lemma finish_ne_none (c : Option Cause) (k : Cause) : finish c k ≠ none := by
  cases c <;> simp

variable {h : Handler}

/-- The two steps that return `nil`: the check once more answering "not terminated", and a
call of `markNodeForDeletion` that succeeds. -/
lemma runStep_returns_nil {s s' : RunState} {e : Event} (hs : runStep h s e = some s')
    (hn : s.pc ≠ .returned none) (hnil : s'.pc = .returned none) :
    (s.pc = .recheck ∧ ∃ o, e = .endpoint o ∧ checkTerminationEndpoint h o = (false, none)) ∨
      ∃ m now, s.pc = .markCall m ∧ e = .mark now .ok .ok := by
  cases runStep_eq_some_iff.mp hs with
  | cancel | expire => exact absurd (by simpa [RunState.ctxDone] using hnil) hn
  | pollCall o _ => obtain ⟨_, _, _, h'⟩ := afterPollCall_eq_returned hnil; cases h'
  | recheck o hpc =>
    obtain ⟨h₃, h₄⟩ := afterRecheck_eq_returned hnil
    exact .inl ⟨hpc, o, rfl, Prod.ext (h₄ h₃.symm) h₃.symm⟩
  | pollDone k _ _ =>
    obtain ⟨_, _, _, h'⟩ := afterPoll_eq_returned (show afterPoll (some k.err) = _ from hnil)
    cases h'
  | proceed _ => cases (afterCtxCheck_eq_returned hnil).2
  | mark m now g u hpc =>
    obtain ⟨rfl, rfl⟩ := (markNodeForDeletion_eq_none now g u s.node).mp
      (afterMarkCall_eq_returned hnil).1
    exact .inr ⟨m, now, hpc, rfl⟩
  | pollTick _ _ | callDeadline _ _ _ | markTick _ _ _ _ | markDone _ _ _ _ | waitDeadline _ _ _ =>
    cases hnil

/-! ### Invariants of the loop -/

/-- `run` is in the marking loop on a `markCtx` that satisfies `M` together with `run`'s own
context, or has returned a result that satisfies `R`. -/
def LoopInv (M : Option Cause → MarkCtx → Prop) (R : Option Error → Prop) (s : RunState) : Prop :=
  (∃ m, (s.pc = .markCall m ∨ s.pc = .markWait m) ∧ M s.ctx m) ∨ ∃ r, s.pc = .returned r ∧ R r

/-- What `M` and `R` must allow for every step to keep `LoopInv M R`: `markCtx` done with its
parent, a tick, a call that succeeds, `Done` of `markCtx`, and, where `timer` holds, the
timer of `markCtx` firing. -/
structure LoopClosed (timer : Prop) (M : Option Cause → MarkCtx → Prop) (R : Option Error → Prop) :
    Prop where
  ctxDone : ∀ c m k, M c m → M (finish c k) (m.parentDone k)
  expire : timer → ∀ c m, M c m → m.err = none → M c m.expire
  tick : ∀ c m, M c m → M c m.tick
  nil : R none
  done : ∀ c m k, M c m → m.err = some k → R (some (markError k))

namespace LoopInv

variable {timer : Prop} {M : Option Cause → MarkCtx → Prop} {R : Option Error → Prop}
  {s : RunState}

lemma markCtx (hb : LoopInv M R s) {m : MarkCtx} (hpc : s.pc = .markCall m ∨ s.pc = .markWait m) :
    M s.ctx m := by
  rcases hb with ⟨m', hpc' | hpc', hM⟩ | ⟨r, hr, -⟩ <;> rcases hpc with hpc | hpc <;> simp_all

lemma returned (hb : LoopInv M R s) {r : Option Error} (hr : s.pc = .returned r) : R r := by
  rcases hb with ⟨m, hpc | hpc, -⟩ | ⟨r', hr', hR⟩ <;> simp_all

/-- `run` is in the marking loop, or has returned. -/
lemma phase (hb : LoopInv M R s) : 3 ≤ s.pc.phase := by
  rcases hb with ⟨m, hpc | hpc, -⟩ | ⟨r, hpc, -⟩ <;> simp [hpc, Pc.phase]

lemma ctxDone (hc : LoopClosed timer M R) (hb : LoopInv M R s) (k : Cause) :
    LoopInv M R (s.ctxDone k) := by
  rcases hb with ⟨m, hpc | hpc, hM⟩ | ⟨r, hr, hR⟩
  · exact .inl ⟨m.parentDone k, .inl (by simp [RunState.ctxDone, hpc, Pc.parentDone]),
      hc.ctxDone _ _ _ hM⟩
  · exact .inl ⟨m.parentDone k, .inr (by simp [RunState.ctxDone, hpc, Pc.parentDone]),
      hc.ctxDone _ _ _ hM⟩
  · exact .inr ⟨r, by simp [RunState.ctxDone, hr], hR⟩

/-- Every step keeps a closed invariant, the timer's only where `timer` holds. -/
lemma of_runStep (hc : LoopClosed timer M R) {e : Event} {s' : RunState}
    (ht : e = .deadline → timer) (hs : runStep h s e = some s') (hb : LoopInv M R s) :
    LoopInv M R s' := by
  cases runStep_eq_some_iff.mp hs with
  | cancel | expire => exact hb.ctxDone hc _
  | pollCall _ hpc | recheck _ hpc | pollTick hpc _ | pollDone _ hpc _ | proceed hpc =>
    -- the steps before the marking loop cannot come
    exact absurd (hpc ▸ hb.phase) (by decide)
  | mark m now g u hpc =>
    -- success returns `nil`, failure waits on the same `markCtx`
    rcases (markNodeForDeletion now g u s.node).1 with _ | err
    · exact .inr ⟨none, rfl, hc.nil⟩
    · exact .inl ⟨m, .inr rfl, hb.markCtx (.inl hpc)⟩
  | callDeadline m hpc herr =>
    exact .inl ⟨_, .inl rfl, hc.expire (ht rfl) _ _ (hb.markCtx (.inl hpc)) herr⟩
  | markTick m hpc _ _ => exact .inl ⟨_, .inl rfl, hc.tick _ _ (hb.markCtx (.inr hpc))⟩
  | markDone m k hpc herr => exact .inr ⟨_, rfl, hc.done _ _ _ (hb.markCtx (.inr hpc)) herr⟩
  | waitDeadline m hpc herr =>
    exact .inl ⟨_, .inr rfl, hc.expire (ht rfl) _ _ (hb.markCtx (.inr hpc)) herr⟩

/-- Along a whole run, the timer's steps counted only where `timer` holds. -/
lemma of_exec (hc : LoopClosed timer M R) :
    ∀ {evs : List Event} {s s' : RunState}, (Event.deadline ∈ evs → timer) →
      exec h s evs = some s' → LoopInv M R s → LoopInv M R s'
  | [], _, _, _, hs, hb => Option.some.inj hs ▸ hb
  | e :: es, s, s', ht, hs, hb => by
    rw [exec_cons, Option.bind_eq_some] at hs
    obtain ⟨s₁, h₁, hs⟩ := hs
    exact of_exec hc (fun hm => ht (List.mem_cons_of_mem _ hm)) hs
      (hb.of_runStep hc (fun he => ht (he ▸ List.mem_cons_self _ _)) h₁)

end LoopInv

/-! ### An earlier cancel: `markCtx` on `context.Background()` -/

/-- `markCtx` made from `run`'s context is done as soon as that context is, whatever the
cause, and the loop returns `nil` or the error of `markCtx`. -/
lemma followsRun_closed :
    LoopClosed True (fun c m => m.onRunCtx = true ∧ (c ≠ none → m.err ≠ none))
      (fun r => ∀ x, r = some x → ∃ k, x = markError k) where
  ctxDone _ m k hM := ⟨by simp [MarkCtx.parentDone, hM.1],
    fun _ => by simp [MarkCtx.parentDone, hM.1, finish_ne_none]⟩
  expire _ _ _ hM _ := ⟨hM.1, fun _ => finish_ne_none _ _⟩
  tick _ _ hM := hM
  nil _ h' := nomatch h'
  done _ _ k _ _ _ h' := ⟨k, (Option.some.inj h').symm⟩

/-- From the test of line 122 on a live context: `markCtx` is a child of `run`'s context and
is done as soon as it is, and `run` can only return `nil` or the error of `markCtx`. -/
theorem marking_follows_later_cancel (h : Handler) (s₁ : RunState) (post : List Event)
    (s : RunState) (hpc : s₁.pc = .ctxCheck) (hlive : s₁.ctx = none)
    (hs : exec h s₁ (.proceed :: post) = some s) :
    (∀ m, (s.pc = .markCall m ∨ s.pc = .markWait m) → m.onRunCtx = true ∧
      (s.ctx ≠ none → m.err ≠ none)) ∧
    (∀ x, s.pc = .returned (some x) → ∃ k, x = markError k) := by
  rw [exec_cons] at hs
  simp only [runStep, hpc, hlive, afterCtxCheck, Option.some_bind] at hs
  have hb := LoopInv.of_exec followsRun_closed (fun _ => trivial) hs
    (.inl ⟨_, .inl rfl, rfl, fun h' => absurd rfl h'⟩)
  exact ⟨fun m hm => hb.markCtx hm, fun x hx => hb.returned hx x rfl⟩

/-- The context is live at the test, and cancelled right after: the marking loop ends on the
first `Done` of `markCtx`, with `context canceled`. -/
theorem marking_follows_later_cancel_run :
    let post : List Event := [.cancel, .mark 5 (.failed "context canceled") .ok, .done]
    let s : RunState := ⟨.returned (some (markError .canceled)), some .canceled, ⟨[]⟩⟩
    exec (newHandler "node-a") ⟨.ctxCheck, none, ⟨[]⟩⟩ (.proceed :: post) = some s ∧
    (∀ m, (s.pc = .markCall m ∨ s.pc = .markWait m) → m.onRunCtx = true ∧
      (s.ctx ≠ none → m.err ≠ none)) ∧
    (∀ x, s.pc = .returned (some x) → ∃ k, x = markError k) :=
  ⟨by decide, marking_follows_later_cancel (newHandler "node-a") ⟨.ctxCheck, none, ⟨[]⟩⟩
    [.cancel, .mark 5 (.failed "context canceled") .ok, .done]
    ⟨.returned (some (markError .canceled)), some .canceled, ⟨[]⟩⟩ rfl rfl (by decide)⟩

end GcpTermination
