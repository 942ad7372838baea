import Mathlib.Data.Nat.Defs
import Mathlib.Tactic.Lemma

/-!
# The `Terminating` node condition and its merge

`addNodeTerminationCondition` (`pkg/termination/termination.go`) is the only place where the
termination handler changes a node: it either appends a fresh `Terminating` condition (when
`nodeHasTerminationCondition` finds none) or rebuilds the condition list, keeping every
condition except a `Terminating` one whose status is not `True`, which it replaces by the
fresh condition.

The rebuild is a loop with an accumulator; `mergeConditions_eq` is its loop invariant, and
`addNodeTerminationCondition_conditions` is the resulting positional description of the
merge.  The main results are

* `addNodeTerminationCondition_exact`: the merge, exactly, together with its consequences
  (all `Terminating` conditions are `True`, there are `max k 1` of them, the other
  conditions keep their order, a `True` one is never rewritten);
* `addNodeTerminationCondition_idem`: merging again, at any later time, changes nothing.
-/

namespace GcpTermination

/-- A node condition, with the fields of `corev1.NodeCondition`.  Condition types and
statuses are strings, as in the API; the two timestamps are the times `metav1.Now` read. -/
structure NodeCondition where
  type : String
  status : String
  lastHeartbeatTime : Nat
  lastTransitionTime : Nat
  reason : String
  message : String
deriving DecidableEq, Repr

/-- A node, through the one field the handler reads and writes: `Status.Conditions`. -/
@[ext] structure Node where
  conditions : List NodeCondition
deriving DecidableEq, Repr

/-- `terminatingConditionType`. -/
def terminatingConditionType : String := "Terminating"

/-- `terminationRequestedReason`. -/
def terminationRequestedReason : String := "TerminationRequested"

/-- `corev1.ConditionTrue`. -/
def conditionTrue : String := "True"

/-- The test that both loops over the conditions make. -/
def NodeCondition.isTerminating (c : NodeCondition) : Bool :=
  decide (c.type = terminatingConditionType)

/-- `nodeHasTerminationCondition`: the scan for a condition of the `Terminating` type. -/
def nodeHasTerminationCondition : List NodeCondition → Bool
  | [] => false
  | c :: cs => if c.type = terminatingConditionType then true else nodeHasTerminationCondition cs

/-- The condition `addNodeTerminationCondition` builds from the time `now` it reads. -/
def terminatingCondition (now : Nat) : NodeCondition where
  type := terminatingConditionType
  status := conditionTrue
  lastHeartbeatTime := now
  lastTransitionTime := now
  reason := terminationRequestedReason
  message := "The cloud provider has marked this instance for termination"

/-- The rebuild loop of `addNodeTerminationCondition`: `acc` holds the conditions appended
so far, and each remaining condition is appended as it is or replaced by `tc`. -/
def mergeConditions (tc : NodeCondition) : List NodeCondition → List NodeCondition → List NodeCondition
  | acc, [] => acc
  | acc, c :: cs =>
    if c.type ≠ terminatingConditionType then mergeConditions tc (acc ++ [c]) cs
    else if c.status = conditionTrue then mergeConditions tc (acc ++ [c]) cs
    else mergeConditions tc (acc ++ [tc]) cs

/-- `addNodeTerminationCondition`, at the time `now` that `metav1.Now()` returns. -/
def addNodeTerminationCondition (now : Nat) (node : Node) : Node :=
  let tc := terminatingCondition now
  if !nodeHasTerminationCondition node.conditions then
    { node with conditions := node.conditions ++ [tc] }
  else
    { node with conditions := mergeConditions tc [] node.conditions }

/-! ### The scan and the rebuild loop -/

@[simp] lemma terminatingCondition_isTerminating (now : Nat) :
    (terminatingCondition now).isTerminating = true := by
  simp [terminatingCondition, NodeCondition.isTerminating]

@[simp] lemma terminatingCondition_status (now : Nat) :
    (terminatingCondition now).status = conditionTrue := rfl

lemma nodeHasTerminationCondition_eq_any (cs : List NodeCondition) :
    nodeHasTerminationCondition cs = cs.any NodeCondition.isTerminating := by
  induction cs with
  | nil => rfl
  | cons c cs ih =>
    by_cases h : c.type = terminatingConditionType <;>
      simp [nodeHasTerminationCondition, NodeCondition.isTerminating, h, ih]

/-- What the rebuild loop puts in the place of one condition. -/
def mergeCondition (tc c : NodeCondition) : NodeCondition :=
  if c.isTerminating ∧ c.status ≠ conditionTrue then tc else c

/-- The loop invariant of the rebuild: it maps `mergeCondition` over the conditions. -/
lemma mergeConditions_eq (tc : NodeCondition) (acc cs : List NodeCondition) :
    mergeConditions tc acc cs = acc ++ cs.map (mergeCondition tc) := by
  induction cs generalizing acc with
  | nil => simp [mergeConditions]
  | cons c cs ih =>
    by_cases ht : c.type = terminatingConditionType <;>
      by_cases hs : c.status = conditionTrue <;>
      simp [mergeConditions, mergeCondition, NodeCondition.isTerminating, ht, hs, ih]

lemma mergeCondition_isTerminating {tc : NodeCondition} (htc : tc.isTerminating = true)
    (c : NodeCondition) : (mergeCondition tc c).isTerminating = c.isTerminating := by
  by_cases h : c.isTerminating ∧ c.status ≠ conditionTrue
  · simp [mergeCondition, h, htc]
  · simp [mergeCondition, h]

/-- The merge, by cases on whether a `Terminating` condition is present. -/
lemma addNodeTerminationCondition_conditions (now : Nat) (cs : List NodeCondition) :
    (addNodeTerminationCondition now ⟨cs⟩).conditions =
      if cs.countP NodeCondition.isTerminating = 0 then cs ++ [terminatingCondition now]
      else cs.map (mergeCondition (terminatingCondition now)) := by
  by_cases h : cs.countP NodeCondition.isTerminating = 0
  · have hno : cs.any NodeCondition.isTerminating = false := by
      simpa [List.countP_eq_zero] using h
    simp [addNodeTerminationCondition, nodeHasTerminationCondition_eq_any, hno, h]
  · have hyes : cs.any NodeCondition.isTerminating = true := by
      simpa [List.countP_eq_zero] using h
    simp [addNodeTerminationCondition, nodeHasTerminationCondition_eq_any, hyes, h,
      mergeConditions_eq]

lemma mergeCondition_of_not_isTerminating (tc : NodeCondition) {c : NodeCondition}
    (h : c.isTerminating = false) : mergeCondition tc c = c := by
  simp [mergeCondition, h]

/-- A `Terminating` condition that the merge leaves (or puts) in place is `True`. -/
lemma mergeCondition_status (now : Nat) (c : NodeCondition)
    (h : (mergeCondition (terminatingCondition now) c).isTerminating = true) :
    (mergeCondition (terminatingCondition now) c).status = conditionTrue := by
  by_cases hc : c.isTerminating ∧ c.status ≠ conditionTrue
  · simp [mergeCondition, hc]
  · simp only [mergeCondition, hc, if_false] at h ⊢
    exact Decidable.of_not_not (not_and.mp hc h)

/-! ### The merge, exactly -/

section Merge

variable (now : Nat) (cs : List NodeCondition)

/-- Position by position, the merge is `mergeCondition`; when no `Terminating` condition
was present, that is the identity on the old positions. -/
lemma addNodeTerminationCondition_getElem? (i : Nat) (h : i < cs.length) :
    (addNodeTerminationCondition now ⟨cs⟩).conditions[i]? =
      some (mergeCondition (terminatingCondition now) cs[i]) := by
  rw [addNodeTerminationCondition_conditions]
  split
  · next h0 =>
    have hi : cs[i].isTerminating = false := by
      simpa using List.countP_eq_zero.mp h0 cs[i] (List.getElem_mem h)
    rw [mergeCondition_of_not_isTerminating _ hi, List.getElem?_append_left h,
      List.getElem?_eq_getElem h]
  · simp [h]

lemma addNodeTerminationCondition_countP :
    (addNodeTerminationCondition now ⟨cs⟩).conditions.countP NodeCondition.isTerminating =
      max (cs.countP NodeCondition.isTerminating) 1 := by
  rw [addNodeTerminationCondition_conditions]
  split
  · next h0 => simp [h0]
  · next h0 =>
    have hmap : (cs.map (mergeCondition (terminatingCondition now))).countP
        NodeCondition.isTerminating = cs.countP NodeCondition.isTerminating := by
      rw [List.countP_map]
      exact List.countP_congr fun c _ => by
        simp [mergeCondition_isTerminating (terminatingCondition_isTerminating now)]
    omega

lemma addNodeTerminationCondition_status {c : NodeCondition}
    (hc : c ∈ (addNodeTerminationCondition now ⟨cs⟩).conditions)
    (ht : c.isTerminating = true) : c.status = conditionTrue := by
  rw [addNodeTerminationCondition_conditions] at hc
  split at hc
  · next h0 =>
    rcases List.mem_append.mp hc with hc | hc
    · exact absurd ht (by simpa using List.countP_eq_zero.mp h0 c hc)
    · rw [List.mem_singleton.mp hc]; rfl
  · obtain ⟨c₀, -, rfl⟩ := List.mem_map.mp hc
    exact mergeCondition_status now c₀ ht

/-- The conditions of other types are kept, in their order. -/
lemma addNodeTerminationCondition_filter :
    (addNodeTerminationCondition now ⟨cs⟩).conditions.filter (fun c => !c.isTerminating) =
      cs.filter (fun c => !c.isTerminating) := by
  rw [addNodeTerminationCondition_conditions]
  split
  · simp [List.filter_append]
  · rw [List.filter_map]
    have hp : ∀ c ∈ cs, ((fun c : NodeCondition => !c.isTerminating) ∘
        mergeCondition (terminatingCondition now)) c = !c.isTerminating := fun c _ => by
      simp [mergeCondition_isTerminating (terminatingCondition_isTerminating now)]
    rw [List.filter_congr hp]
    exact (List.map_congr_left fun c hc => mergeCondition_of_not_isTerminating _
      (by simpa using (List.mem_filter.mp hc).2)).trans (List.map_id _)

end Merge

/-- The merge, exactly: with no `Terminating` condition the new one is appended; otherwise
each position keeps its condition or gets the new one in place of a `Terminating` condition
that is not `True`.  Hence all `Terminating` conditions end `True`, there are `max k 1` of
them, the others keep their order, and a `True` one is left as it was. -/
theorem addNodeTerminationCondition_exact (now : Nat) (cs : List NodeCondition) :
    let out := (addNodeTerminationCondition now ⟨cs⟩).conditions
    let k := cs.countP NodeCondition.isTerminating
    (k = 0 → out = cs ++ [terminatingCondition now]) ∧
    (1 ≤ k → out.length = cs.length ∧ ∀ i (h : i < cs.length),
      out[i]? = some (if cs[i].isTerminating ∧ cs[i].status ≠ conditionTrue
        then terminatingCondition now else cs[i])) ∧
    (∀ c ∈ out, c.isTerminating → c.status = conditionTrue) ∧
    out.countP NodeCondition.isTerminating = max k 1 ∧
    out.filter (fun c => !c.isTerminating) = cs.filter (fun c => !c.isTerminating) ∧
    (∀ i (h : i < cs.length), cs[i].isTerminating → cs[i].status = conditionTrue →
      out[i]? = some cs[i]) := by
  refine ⟨fun h0 => by rw [addNodeTerminationCondition_conditions, if_pos h0],
    fun hk => ⟨?_, addNodeTerminationCondition_getElem? now cs⟩,
    fun c hc ht => addNodeTerminationCondition_status now cs hc ht,
    addNodeTerminationCondition_countP now cs, addNodeTerminationCondition_filter now cs,
    fun i h ht hs => ?_⟩
  · rw [addNodeTerminationCondition_conditions, if_neg (by omega), List.length_map]
  · simp [addNodeTerminationCondition_getElem? now cs i h, mergeCondition, ht, hs]

/-- On a list that has a `Terminating` condition, all of them `True`, the merge is the
identity. -/
lemma addNodeTerminationCondition_eq_self (now : Nat) {cs : List NodeCondition}
    (hk : cs.countP NodeCondition.isTerminating ≠ 0)
    (hs : ∀ c ∈ cs, c.isTerminating → c.status = conditionTrue) :
    addNodeTerminationCondition now ⟨cs⟩ = ⟨cs⟩ := by
  refine Node.ext ?_
  rw [addNodeTerminationCondition_conditions, if_neg hk]
  refine (List.map_congr_left fun c hc => ?_).trans (List.map_id cs)
  by_cases ht : c.isTerminating
  · simp [mergeCondition, hs c hc ht]
  · exact mergeCondition_of_not_isTerminating _ (by simpa using ht)

/-- Merging a second time, at any time, changes nothing. -/
lemma addNodeTerminationCondition_idem (t₁ t₂ : Nat) (node : Node) :
    addNodeTerminationCondition t₂ (addNodeTerminationCondition t₁ node) =
      addNodeTerminationCondition t₁ node := by
  obtain ⟨cs⟩ := node
  have hk : (addNodeTerminationCondition t₁ ⟨cs⟩).conditions.countP
      NodeCondition.isTerminating ≠ 0 := by
    rw [addNodeTerminationCondition_countP]; omega
  exact addNodeTerminationCondition_eq_self t₂ hk
    (fun c hc ht => addNodeTerminationCondition_status t₁ cs hc ht)

end GcpTermination
