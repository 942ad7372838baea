import GcpTermination.Run.Step

/-!
# No node is marked without a signal

The store is written only by `markNodeForDeletion`, which `run` calls only in its marking
loop; and the only way into the marking loop (through the test of `ctx.Err()`) is the check
once more at line 110 answering `(true, nil)`.  `runStep_confirmed` says this of one step,
and `exec_confirmed` of a whole run.  The main results are

* `mark_only_after_true_recheck`: in every run, whatever the endpoint answers and whenever
  the context is cancelled, each call of `markNodeForDeletion` comes after the check at
  line 110 returned `(true, nil)`; a run in which the endpoint never answers `TRUE` leaves
  the node as it was;
* `recheck_drops_observed_signal`: the check at line 110 is made also after the poll loop
  saw `TRUE`, and its answer then decides alone: on a failure or on `FALSE`, `run` returns
  and never calls `markNodeForDeletion`.
-/

namespace GcpTermination

/-- The part of `run` after the check once more answered `(true, nil)`: the test of
`ctx.Err()` and the marking loop. -/
def Pc.confirmed : Pc → Bool
  | .pollCall | .pollWait | .recheck | .returned _ => false
  | .ctxCheck | .markCall _ | .markWait _ => true

@[simp] lemma Pc.confirmed_parentDone (pc : Pc) (k : Cause) :
    (pc.parentDone k).confirmed = pc.confirmed := by
  cases pc <;> rfl

@[simp] lemma afterPoll_confirmed (e : Option Error) : (afterPoll e).confirmed = false := by
  rcases e with _ | e
  · rfl
  · simp only [afterPoll]; split <;> rfl

@[simp] lemma afterPollCall_confirmed (r : Bool × Option Error) :
    (afterPollCall r).confirmed = false := by
  rcases r with ⟨_ | _, _ | e⟩ <;> first | rfl | simp [afterPollCall]

@[simp] lemma afterRecheck_confirmed (r : Bool × Option Error) :
    (afterRecheck r).confirmed = true ↔ r = (true, none) := by
  rcases r with ⟨_ | _, _ | e⟩ <;> simp [afterRecheck, Pc.confirmed]

variable {h : Handler}

/-- The only step into the confirmed part is the check once more answering `(true, nil)`. -/
lemma runStep_confirmed {s s' : RunState} {e : Event} (hs : runStep h s e = some s')
    (hc : s'.pc.confirmed) :
    s.pc.confirmed ∨
      s.pc = .recheck ∧ ∃ o, e = .endpoint o ∧ checkTerminationEndpoint h o = (true, none) := by
  cases runStep_eq_some_iff.mp hs with
  | cancel | expire => exact .inl (by simpa [RunState.ctxDone] using hc)
  | pollCall o _ => simp at hc
  | recheck o hpc => exact .inr ⟨hpc, o, rfl, (afterRecheck_confirmed _).mp hc⟩
  | pollTick _ _ => cases hc
  | pollDone k _ _ => simp at hc
  | proceed hpc | mark _ _ _ _ hpc | callDeadline _ hpc _ | markTick _ hpc _ _
    | waitDeadline _ hpc _ => exact .inl (hpc ▸ rfl)
  | markDone _ _ _ _ => cases hc

/-- A run that reaches the confirmed part went through the check once more, with the answer
`(true, nil)`. -/
lemma exec_confirmed {evs : List Event} {s₀ s : RunState} (h0 : s₀.pc.confirmed = false)
    (hs : exec h s₀ evs = some s) (hc : s.pc.confirmed) :
    ∃ pre o post s₁, evs = pre ++ .endpoint o :: post ∧ exec h s₀ pre = some s₁ ∧
      s₁.pc = .recheck ∧ checkTerminationEndpoint h o = (true, none) := by
  obtain ⟨pre, e, post, s₁, s₂, rfl, h₁, hn, h₂, hc₂, -⟩ :=
    exec_enter (fun s => s.pc.confirmed) (by simp [h0]) hs hc
  obtain hc₁ | ⟨hpc, o, rfl, ho⟩ := runStep_confirmed h₂ hc₂
  · exact absurd hc₁ hn
  · exact ⟨pre, o, post, s₁, rfl, h₁, hpc, ho⟩

/-! ### The node store -/

/-- What an event does to the stored node: only a mark writes it. -/
def Event.write : Event → Node → Node
  | .mark now g u, n => (markNodeForDeletion now g u n).2
  | _, n => n

lemma runStep_node {s s' : RunState} {e : Event} (hs : runStep h s e = some s') :
    s'.node = e.write s.node := by
  cases runStep_eq_some_iff.mp hs <;> rfl

lemma exec_node {evs : List Event} {s s' : RunState} (hs : exec h s evs = some s') :
    s'.node = evs.foldl (fun n e => e.write n) s.node := by
  induction evs generalizing s with
  | nil => cases Option.some.inj hs; rfl
  | cons e es ih =>
    rw [exec_cons, Option.bind_eq_some] at hs
    obtain ⟨s₁, h₁, hs⟩ := hs
    rw [ih hs, runStep_node h₁, List.foldl_cons]

lemma foldl_write_of_no_mark (evs : List Event) (n : Node)
    (hm : ∀ now g u, Event.mark now g u ∉ evs) : evs.foldl (fun n e => e.write n) n = n := by
  induction evs with
  | nil => rfl
  | cons e es ih =>
    have hes : ∀ now g u, Event.mark now g u ∉ es := fun now g u hm' =>
      hm now g u (List.mem_cons_of_mem _ hm')
    cases e with
    | mark now g u => exact absurd (List.mem_cons_self _ _) (hm now g u)
    | _ => exact ih hes

/-- `markNodeForDeletion` is called only from the marking loop. -/
lemma runStep_mark {s s' : RunState} {now : Nat} {g : GetOutcome} {u : UpdateOutcome}
    (hs : runStep h s (.mark now g u) = some s') : s.pc.confirmed := by
  obtain ⟨pc, ctx, node⟩ := s
  cases pc <;> first | rfl | simp [runStep] at hs

/-! ### Marking needs the signal -/

/-- Each call of `markNodeForDeletion` comes after the check once more answered
`(true, nil)`. -/
lemma exec_mark {s₀ s : RunState} {pre post : List Event} {now : Nat} {g : GetOutcome}
    {u : UpdateOutcome} (hs : exec h s₀ (pre ++ .mark now g u :: post) = some s)
    (h0 : s₀.pc.confirmed = false) :
    ∃ pre₁ o pre₂ s₁, pre = pre₁ ++ .endpoint o :: pre₂ ∧ exec h s₀ pre₁ = some s₁ ∧
      s₁.pc = .recheck ∧ checkTerminationEndpoint h o = (true, none) := by
  obtain ⟨s₁, s₂, h₁, h₂, -⟩ := exec_split hs
  exact exec_confirmed h0 h₁ (runStep_mark h₂)

/-- Without the answer `TRUE`, `markNodeForDeletion` is never called and the node is left as
it was. -/
lemma exec_no_true {s₀ s : RunState} {evs : List Event} (hs : exec h s₀ evs = some s)
    (h0 : s₀.pc.confirmed = false) (htrue : Event.endpoint (.body "TRUE") ∉ evs) :
    (∀ now g u, Event.mark now g u ∉ evs) ∧ s.node = s₀.node := by
  have hno : ∀ now g u, Event.mark now g u ∉ evs := fun now g u hm => by
    obtain ⟨pre, post, rfl⟩ := List.append_of_mem hm
    obtain ⟨pre₁, o, pre₂, _, rfl, -, -, ho⟩ := exec_mark hs h0
    exact htrue (by simp [(checkTerminationEndpoint_eq_true h o).mp ho])
  exact ⟨hno, (exec_node hs).trans (foldl_write_of_no_mark evs s₀.node hno)⟩

/-- Whatever the endpoint answers and whenever the context is done, each call of
`markNodeForDeletion` comes after the check once more answered `(true, nil)`; without the
answer `TRUE` the node is never touched. -/
theorem mark_only_after_true_recheck (h : Handler) (ctx : Option Cause) (n : Node)
    (evs : List Event) (s : RunState) (hs : exec h (.init ctx n) evs = some s) :
    (∀ pre now g u post, evs = pre ++ .mark now g u :: post →
      ∃ pre₁ o pre₂ s₁, pre = pre₁ ++ .endpoint o :: pre₂ ∧
        exec h (.init ctx n) pre₁ = some s₁ ∧ s₁.pc = .recheck ∧
        checkTerminationEndpoint h o = (true, none)) ∧
    (Event.endpoint (.body "TRUE") ∉ evs → (∀ now g u, Event.mark now g u ∉ evs) ∧ s.node = n) :=
  ⟨by rintro pre now g u post rfl; exact exec_mark hs rfl, exec_no_true hs rfl⟩

/-- A run that marks, where the poll loop and the check once more both see `TRUE`; and a run
against a node with a condition of its own, where the endpoint answers only `FALSE` and the
context is cancelled during a call: the node is left as it was. -/
theorem mark_only_after_true_recheck_run :
    exec (newHandler "node-a") (.init none ⟨[]⟩)
        [.endpoint (.body "TRUE"), .endpoint (.body "TRUE"), .proceed, .mark 7 .ok .ok] =
      some ⟨.returned none, none, ⟨[terminatingCondition 7]⟩⟩ ∧
    (∀ pre now g u post, [.endpoint (.body "TRUE"), .endpoint (.body "TRUE"), .proceed,
        .mark 7 .ok .ok] = pre ++ Event.mark now g u :: post →
      ∃ pre₁ o pre₂ s₁, pre = pre₁ ++ .endpoint o :: pre₂ ∧
        exec (newHandler "node-a") (.init none ⟨[]⟩) pre₁ = some s₁ ∧ s₁.pc = .recheck ∧
        checkTerminationEndpoint (newHandler "node-a") o = (true, none)) ∧
    exec (newHandler "node-a") (.init none ⟨[⟨"Ready", "True", 1, 1, "KubeletReady", ""⟩]⟩)
        [.endpoint (.body "FALSE"), .tick, .endpoint (.body "FALSE"), .cancel, .done,
          .endpoint (.body "FALSE")] =
      some ⟨.returned none, some .canceled, ⟨[⟨"Ready", "True", 1, 1, "KubeletReady", ""⟩]⟩⟩ ∧
    (∀ now g u, Event.mark now g u ∉ [.endpoint (.body "FALSE"), .tick,
        .endpoint (.body "FALSE"), .cancel, .done, .endpoint (.body "FALSE")]) ∧
    (⟨[⟨"Ready", "True", 1, 1, "KubeletReady", ""⟩]⟩ : Node) =
      ⟨[⟨"Ready", "True", 1, 1, "KubeletReady", ""⟩]⟩ :=
  ⟨by decide, (mark_only_after_true_recheck (newHandler "node-a") none ⟨[]⟩
      [.endpoint (.body "TRUE"), .endpoint (.body "TRUE"), .proceed, .mark 7 .ok .ok]
      ⟨.returned none, none, ⟨[terminatingCondition 7]⟩⟩ (by decide)).1,
    by decide, (mark_only_after_true_recheck (newHandler "node-a") none
      ⟨[⟨"Ready", "True", 1, 1, "KubeletReady", ""⟩]⟩
      [.endpoint (.body "FALSE"), .tick, .endpoint (.body "FALSE"), .cancel, .done,
        .endpoint (.body "FALSE")]
      ⟨.returned none, some .canceled, ⟨[⟨"Ready", "True", 1, 1, "KubeletReady", ""⟩]⟩⟩
      (by decide)).2 (by decide)⟩

/-! ### The check once more decides alone -/

/-- Once `run` has returned, nothing but its context changes: in particular it never calls
`markNodeForDeletion` again. -/
lemma exec_returned {evs : List Event} {s s' : RunState} {r : Option Error}
    (hr : s.pc = .returned r) (hs : exec h s evs = some s') :
    s'.pc = .returned r ∧ ∀ now g u, Event.mark now g u ∉ evs := by
  induction evs generalizing s with
  | nil => cases Option.some.inj hs; exact ⟨hr, by simp⟩
  | cons e es ih =>
    rw [exec_cons, Option.bind_eq_some] at hs
    obtain ⟨s₁, h₁, hs⟩ := hs
    have hr₁ : s₁.pc = .returned r ∧ ∀ now g u, .mark now g u ≠ e := by
      cases runStep_eq_some_iff.mp h₁ with
      | cancel | expire => exact ⟨by simp [RunState.ctxDone, hr], nofun⟩
      | pollCall _ hpc | recheck _ hpc | pollTick hpc _ | pollDone _ hpc _ | proceed hpc
        | mark _ _ _ _ hpc | callDeadline _ hpc _ | markTick _ hpc _ _ | markDone _ _ hpc _
        | waitDeadline _ hpc _ => simp [hr] at hpc
    obtain ⟨hpc, hm⟩ := ih hr₁.1 hs
    exact ⟨hpc, fun now g u hmem => (List.mem_cons.mp hmem).elim (hr₁.2 now g u) (hm now g u)⟩

/-- The poll loop sees `TRUE`; the check once more then fails in transport, or answers
`FALSE`.  Either way `run` returns, and whatever comes after, it never calls
`markNodeForDeletion`. -/
theorem recheck_drops_observed_signal :
    exec (newHandler "node-a") (.init none ⟨[]⟩)
        [.endpoint (.body "TRUE"), .endpoint (.doFailed "connection reset by peer")] =
      some ⟨.returned (some (.msg ("could not get URL " ++ goQuote gcpTerminationEndpointURL ++
        ": connection reset by peer"))), none, ⟨[]⟩⟩ ∧
    exec (newHandler "node-a") (.init none ⟨[]⟩)
        [.endpoint (.body "TRUE"), .endpoint (.body "FALSE")] =
      some ⟨.returned none, none, ⟨[]⟩⟩ ∧
    ∀ (r : Option Error) (ctx : Option Cause) (n : Node) (post : List Event) (s : RunState),
      exec (newHandler "node-a") ⟨.returned r, ctx, n⟩ post = some s →
        ∀ now g u, Event.mark now g u ∉ post :=
  ⟨by decide, by decide, fun _ _ _ _ _ hs => (exec_returned rfl hs).2⟩

end GcpTermination
