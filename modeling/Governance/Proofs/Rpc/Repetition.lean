import Governance.Proofs.Attempts
import Governance.Proofs.Rpc.Exchanges

/-!
# The replies to a call

A call takes a number, makes a request of it, and sends this request until a reply ends the call or no repetition is
left. What an endpoint replies when the request is sent for the first time, the second time and so on
(`Endpoint.callReply`) decides everything: the first reply that ends the call is its outcome, and what went over
the line are the replies up to that one (`Endpoint.logged_call_of_first`, `Endpoint.logged_call_of_none`).
-/

namespace Governance.Rpc.Endpoint

open Json

variable {σ : Type} (endpoint : Endpoint (StateM σ)) (method : String) (params : Value) (s : σ)

/-- The text of the request that a call sends. -/
def callRequest : String :=
  requestText (endpoint.nextId s).1 method params

/-- The state in which a call has sent its request `k` times. -/
def afterSending (k : Nat) : σ :=
  afterCalls (endpoint.send (endpoint.callRequest method params s)) (endpoint.nextId s).2 k

/-- The reply to the request of a call when it is sent again after `k` times. -/
def callReply (k : Nat) : Reply :=
  (endpoint.post (endpoint.callRequest method params s) (endpoint.afterSending method params s k)).1

/-- What goes over the line when the request of a call is sent `n` times. -/
def callExchanges (n : Nat) : List Exchange :=
  (List.range n).map fun k =>
    ⟨endpoint.callRequest method params s, endpoint.callReply method params s k⟩

@[simp] theorem length_callExchanges (n : Nat) :
    (endpoint.callExchanges method params s n).length = n := by
  rw [callExchanges, List.length_map, List.length_range]

theorem callExchanges_succ (n : Nat) :
    endpoint.callExchanges method params s (n + 1) = endpoint.callExchanges method params s n ++
      [⟨endpoint.callRequest method params s, endpoint.callReply method params s n⟩] := by
  rw [callExchanges, List.range_succ, List.map_append]
  rfl

/-! ## Sending the request again and again -/

/-- Sending means what the reply means. -/
theorem gives_send : Gives (endpoint.send (endpoint.callRequest method params s)) (endpoint.nextId s).2
    fun k => (endpoint.callReply method params s k).result := by
  intro k
  show (endpoint.send _ (endpoint.afterSending method params s k)).1 = _
  rw [send_eq]
  rfl

/-- With a log, sending leaves the same states, and the exchanges in the log. -/
theorem afterCalls_logged_send (log : List Exchange) (k : Nat) :
    afterCalls (endpoint.logged.send (endpoint.callRequest method params s))
        ((endpoint.nextId s).2, log) k =
      (endpoint.afterSending method params s k, log ++ endpoint.callExchanges method params s k) := by
  induction k with
  | zero =>
    show _ = (_, log ++ [])
    rw [List.append_nil]
    rfl
  | succ k ih =>
    rw [afterCalls_succ, ih, (endpoint.run_send _ _ _).1, callExchanges_succ, ← List.append_assoc]
    show (_, _) = (afterCalls _ _ (k + 1), _)
    rw [afterCalls_succ]
    rfl

theorem gives_logged_send (log : List Exchange) :
    Gives (endpoint.logged.send (endpoint.callRequest method params s)) ((endpoint.nextId s).2, log)
      fun k => (endpoint.callReply method params s k).result := by
  intro k
  rw [afterCalls_logged_send, (endpoint.run_send _ _ _).1]
  exact endpoint.gives_send method params s k

/-! ## Calls -/

variable {endpoint method params s} {n : Nat}

theorem call_eq_retry : endpoint.call method params s =
    retry endpoint.retries (endpoint.send (endpoint.callRequest method params s)) (endpoint.nextId s).2 :=
  run_bind_ok (run_lift _)

theorem logged_call_eq_retry (log : List Exchange) : endpoint.logged.call method params (s, log) =
    retry endpoint.retries (endpoint.logged.send (endpoint.callRequest method params s))
      ((endpoint.nextId s).2, log) :=
  run_bind_ok (run_lift _)

/-- The first reply that ends a call is its outcome. -/
theorem call_of_first
    (first : IsLeast {k | Ends Error.isRetryable (endpoint.callReply method params s k).result} n)
    (enough : n ≤ endpoint.retries) :
    endpoint.call method params s = ((endpoint.callReply method params s n).result,
      endpoint.afterSending method params s (n + 1)) := by
  rw [call_eq_retry]
  exact attempts_of_first (endpoint.gives_send method params s) first enough

/-- Nothing is sent after it. -/
theorem logged_call_of_first (log : List Exchange)
    (first : IsLeast {k | Ends Error.isRetryable (endpoint.callReply method params s k).result} n)
    (enough : n ≤ endpoint.retries) :
    endpoint.logged.call method params (s, log) = ((endpoint.callReply method params s n).result,
      (endpoint.afterSending method params s (n + 1),
        log ++ endpoint.callExchanges method params s (n + 1))) := by
  rw [logged_call_eq_retry]
  refine (attempts_of_first (endpoint.gives_logged_send method params s log) first enough).trans ?_
  rw [afterCalls_logged_send]

/-- If no reply ends a call, the request is sent until no repetition is left. -/
theorem logged_call_of_none (log : List Exchange)
    (passed : ∀ k ≤ endpoint.retries,
      ¬ Ends Error.isRetryable (endpoint.callReply method params s k).result) :
    endpoint.logged.call method params (s, log) = (.error (.maxRetriesExceeded endpoint.retries),
      (endpoint.afterSending method params s (endpoint.retries + 1),
        log ++ endpoint.callExchanges method params s (endpoint.retries + 1))) := by
  rw [logged_call_eq_retry]
  refine (attempts_of_none (endpoint.gives_logged_send method params s log) passed).trans ?_
  rw [afterCalls_logged_send]

/-! ## Scripted replies -/

/-- An endpoint that replies one thing after the other. Its state is the number of replies given. -/
def scripted (reply : Nat → Reply) (retries : Nat) : Endpoint (StateM Nat) where
  nextId := pure 1
  post _ := fun k => (reply k, k + 1)
  retries := retries

/-- A call gets the replies of the script. -/
theorem callReply_scripted (reply : Nat → Reply) (retries : Nat) (method : String) (params : Value)
    (k : Nat) : (scripted reply retries).callReply method params 0 k = reply k := by
  have reached : (scripted reply retries).afterSending method params 0 k = k := by
    induction k with
    | zero => rfl
    | succ k ih =>
      unfold afterSending at ih ⊢
      rw [afterCalls_succ, ih, send_eq]
      rfl
  unfold callReply
  rw [reached]
  rfl

end Governance.Rpc.Endpoint
