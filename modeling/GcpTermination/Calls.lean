import GcpTermination.Condition

/-!
# The handler's two calls: the termination endpoint and the node store

`checkTerminationEndpoint` reads the metadata endpoint once, and `markNodeForDeletion` reads
the node, merges the `Terminating` condition into it and writes its status back.  Both are
modelled as functions of what the outside world answers: an `HttpOutcome` for the GET, a
`GetOutcome` and an `UpdateOutcome` for the two calls to the API server.  Errors keep the
texts the source builds with `fmt.Errorf`.

The main results are

* `checkTerminationEndpoint_eq_true`: the endpoint reports termination exactly on the body
  `TRUE`, and every other body is a clean `false`;
* `markNodeForDeletion_node`: a mark leaves the stored node as it was, or merged once.
-/

namespace GcpTermination

/-- A Go `error`, as far as the handler looks at it: the two sentinel errors of `context`,
which `run` compares errors against, and any other error, by its text. -/
inductive Error
  | canceled
  | deadlineExceeded
  | msg (text : String)
deriving DecidableEq, Repr

/-- `err.Error()`. -/
def Error.text : Error → String
  | .canceled => "context canceled"
  | .deadlineExceeded => "context deadline exceeded"
  | .msg t => t

/-- The fields of `handler` that the modelled functions read. -/
structure Handler where
  pollURL : String
  nodeName : String
deriving DecidableEq, Repr

/-- `gcpTerminationEndpointURL`, the URL `NewHandler` parses into `pollURL`. -/
def gcpTerminationEndpointURL : String :=
  "http://169.254.169.254/computeMetadata/v1/instance/preempted"

/-- The handler `NewHandler` builds for the node `nodeName`, its API client aside. -/
def newHandler (nodeName : String) : Handler := ⟨gcpTerminationEndpointURL, nodeName⟩

/-- `%q` on a string with nothing to escape, such as the endpoint URL. -/
def goQuote (s : String) : String := "\"" ++ s ++ "\""

/-! ### The termination endpoint -/

/-- What one GET of the metadata endpoint comes to: `http.NewRequest` fails, the transport
(`http.DefaultClient.Do`) fails, reading the body fails, or the whole body is read. -/
inductive HttpOutcome
  | requestFailed (err : String)
  | doFailed (err : String)
  | readFailed (err : String)
  | body (text : String)
deriving DecidableEq, Repr

/-- `checkTerminationEndpoint`, returning Go's pair `(terminated, err)`. -/
def checkTerminationEndpoint (h : Handler) : HttpOutcome → Bool × Option Error
  | .requestFailed e =>
    (false, some (.msg ("could not create request " ++ goQuote h.pollURL ++ ": " ++ e)))
  | .doFailed e => (false, some (.msg ("could not get URL " ++ goQuote h.pollURL ++ ": " ++ e)))
  | .readFailed e => (false, some (.msg ("failed to read responce body: " ++ e)))
  | .body b => if b = "TRUE" then (true, none) else (false, none)

/-- The endpoint reports termination exactly when the body is `TRUE`. -/
lemma checkTerminationEndpoint_eq_true (h : Handler) (o : HttpOutcome) :
    checkTerminationEndpoint h o = (true, none) ↔ o = .body "TRUE" := by
  cases o with
  | body b => by_cases hb : b = "TRUE" <;> simp [checkTerminationEndpoint, hb]
  | _ => simp [checkTerminationEndpoint]

/-- Every other body is a clean "not terminated". -/
lemma checkTerminationEndpoint_body (h : Handler) {b : String} (hb : b ≠ "TRUE") :
    checkTerminationEndpoint h (.body b) = (false, none) := by
  simp [checkTerminationEndpoint, hb]

/-- An error never comes with `terminated`, and is never one of the `context` sentinels. -/
lemma checkTerminationEndpoint_error (h : Handler) (o : HttpOutcome) {e : Error}
    (he : (checkTerminationEndpoint h o).2 = some e) :
    (checkTerminationEndpoint h o).1 = false ∧ ∃ t, e = .msg t := by
  cases o with
  | body b => by_cases hb : b = "TRUE" <;> simp [checkTerminationEndpoint, hb] at he
  | _ => simp only [checkTerminationEndpoint, Option.some.injEq] at he ⊢; exact ⟨trivial, _, he.symm⟩

/-! ### The node store -/

/-- How the API server answers the `Get` of the node. -/
inductive GetOutcome
  | ok
  | failed (err : String)
deriving DecidableEq, Repr

/-- How the API server answers `Status().Update`: applied, refused, or applied with the
reply lost, so that the client reports an error for a write that took place. -/
inductive UpdateOutcome
  | ok
  | failed (err : String)
  | appliedButFailed (err : String)
deriving DecidableEq, Repr

/-- The `Get` against the stored node. -/
def GetOutcome.apply : GetOutcome → Node → Except String Node
  | .ok, stored => .ok stored
  | .failed e, _ => .error e

/-- The `Update` of `stored` to `new`: the node the server holds afterwards, and the error
the client reports. -/
def UpdateOutcome.apply : UpdateOutcome → Node → Node → Node × Option String
  | .ok, _, new => (new, none)
  | .failed e, stored, _ => (stored, some e)
  | .appliedButFailed e, _, new => (new, some e)

/-- Whether the server took the write. -/
def UpdateOutcome.applied : UpdateOutcome → Bool
  | .failed _ => false
  | _ => true

/-- `markNodeForDeletion` at the time `now` the merge reads, against the stored node:
its error and the node stored afterwards. -/
def markNodeForDeletion (now : Nat) (g : GetOutcome) (u : UpdateOutcome) (stored : Node) :
    Option Error × Node :=
  match g.apply stored with
  | .error e => (some (.msg ("error fetching node: " ++ e)), stored)
  | .ok node =>
    match u.apply stored (addNodeTerminationCondition now node) with
    | (stored', some _) => (some (.msg "error updating node status"), stored')
    | (stored', none) => (none, stored')

/-- The stored node after a mark: merged once when the `Get` succeeded and the server took
the write, and as it was otherwise. -/
lemma markNodeForDeletion_node (now : Nat) (g : GetOutcome) (u : UpdateOutcome) (n : Node) :
    (markNodeForDeletion now g u n).2 =
      if g = .ok ∧ u.applied then addNodeTerminationCondition now n else n := by
  cases g <;> cases u <;> simp [markNodeForDeletion, GetOutcome.apply, UpdateOutcome.apply,
    UpdateOutcome.applied]

/-- A mark succeeds exactly when the `Get` succeeded and the update was applied and
acknowledged. -/
lemma markNodeForDeletion_eq_none (now : Nat) (g : GetOutcome) (u : UpdateOutcome) (n : Node) :
    (markNodeForDeletion now g u n).1 = none ↔ g = .ok ∧ u = .ok := by
  cases g <;> cases u <;> simp [markNodeForDeletion, GetOutcome.apply, UpdateOutcome.apply]

end GcpTermination
