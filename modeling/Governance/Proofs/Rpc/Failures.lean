import Governance.Proofs.Rpc.Repetition
import Governance.Proofs.Rpc.Wording
import Governance.Proofs.Text.Digits
import Mathlib.Order.Nat

/-!
# Replies without success

A reply without success is put into words: the word for a gateway, the status code, its reason, and the body as it is.
Whether another attempt is worth while is then decided on these words. The body may hold anything, a status code, a
colon or the name of a timeout among it, but the status code is written before it and ends at a blank, so that it
is the one that is read again (`isTransientRpc_failureText_iff`). Main statement: whether a reply without success
is worth another attempt is told by its status code, and how often a request is sent that gets only such replies is
told by the status codes and the number of repetitions (`failures_retried_by_status`).
-/

namespace Governance.Rpc

open Text Json

/-! ## The status code in the words -/

/-- The status codes of gateways that are expected to be back soon. -/
def passingStatuses : List Nat :=
  [500, 502, 503, 504]

/-- The words begin with those for a gateway, and go on with the status code and a blank. -/
theorem failureText_begins (status : Nat) (body : List UInt8) :
    ∃ rest, (failureText status body).toList = "HTTP ".toList ++ (digits status ++ ' ' :: rest) := by
  have same : ∀ s : String, toString s = s := fun _ => rfl
  refine ⟨((reasons.lookup status).getD "<unknown status code>").toList ++
    (": ".toList ++ (Utf8.decodeLenient body).toList), ?_⟩
  unfold failureText statusText
  simp [same]

/-- A number below 1000 begins with the status code of a failing gateway only if it is that code. -/
theorem failingGateway_digits_iff {status : Nat} (short : status < 1000) :
    FailingGateway (digits status) ↔ status ∈ passingStatuses := by
  have large : ∀ code ∈ ["500", "502", "503", "504"],
      500 ≤ numberOf code.toList ∧ numberOf code.toList ∈ passingStatuses := by
    decide
  constructor
  · intro ⟨code, listed, rest, split⟩
    have number : status = numberOf code.toList * 10 ^ rest.length + numberOf rest := by
      rw [← numberOf_append, split, numberOf_digits]
    obtain ⟨least, passing⟩ := large code listed
    -- a further digit would make the number ten times as large
    have ends : rest = [] := by
      by_cases more : rest.length = 0
      · exact List.eq_nil_of_length_eq_zero more
      · have power : 10 ^ 1 ≤ 10 ^ rest.length := Nat.pow_le_pow_right (by decide) (by omega)
        have product := Nat.mul_le_mul least power
        omega
    subst ends
    have whole : numberOf [] = 0 := rfl
    rw [List.length_nil, Nat.pow_zero, Nat.mul_one, whole, Nat.add_zero] at number
    rw [number]
    exact passing
  · intro passing
    simp only [passingStatuses, List.mem_cons, List.not_mem_nil, or_false] at passing
    rcases passing with rfl | rfl | rfl | rfl
    · exact ⟨"500", by decide, List.prefix_refl _⟩
    · exact ⟨"502", by decide, List.prefix_refl _⟩
    · exact ⟨"503", by decide, List.prefix_refl _⟩
    · exact ⟨"504", by decide, List.prefix_refl _⟩

/-- The body does not matter. -/
theorem isTransientRpc_failureText_iff {status : Nat} (short : status < 1000) (body : List UInt8) :
    isTransientRpc (failureText status body) = true ↔ status ∈ passingStatuses := by
  obtain ⟨rest, words⟩ := failureText_begins status body
  have gateway : "HTTP ".toList <+: (failureText status body).toList := ⟨_, words.symm⟩
  rw [isTransientRpc_iff, ← failingGateway_digits_iff short]
  constructor
  · intro judged
    rcases judged with ⟨rest', split, failing⟩ | ⟨other, _⟩
    · rw [← List.append_cancel_left (words.symm.trans split)] at failing
      exact (failingGateway_append_cons rfl).1 failing
    · exact absurd gateway other
  · intro failing
    exact .inl ⟨_, words, (failingGateway_append_cons rfl).2 failing⟩

/-! ## Replies without success -/

/-- A status that neither means success nor limits the rate, of at most three digits. -/
structure Unsuccessful (status : Nat) : Prop where
  failed : ¬ (200 ≤ status ∧ status < 300)
  unlimited : status ≠ 429
  short : status < 1000

section

variable {status : Nat}

/-- What a reply without success means is told by its status and its body. -/
theorem Reply.result_of_unsuccessful (unsuccessful : Unsuccessful status) (retryAfter : Option String)
    (body : List UInt8) :
    (Reply.answered status retryAfter body).result = .error (.rpc (failureText status body)) := by
  have failed : isSuccess status = false := decide_eq_false unsuccessful.failed
  show (if status = 429 then _ else if !isSuccess status then _ else _) = _
  rw [if_neg unsuccessful.unlimited, failed]
  rfl

/-- The error that it gives is worth another attempt if its status is that of a gateway that is expected back. -/
theorem isRetryable_failureText_iff (unsuccessful : Unsuccessful status) (body : List UInt8) :
    (Error.rpc (failureText status body)).isRetryable = true ↔ status ∈ passingStatuses :=
  isTransientRpc_failureText_iff unsuccessful.short body

theorem ends_of_unsuccessful_iff (unsuccessful : Unsuccessful status) (retryAfter : Option String)
    (body : List UInt8) :
    Ends Error.isRetryable (Reply.answered status retryAfter body).result ↔ status ∉ passingStatuses := by
  rw [Reply.result_of_unsuccessful unsuccessful, ends_error_iff, ← Bool.not_eq_true,
    isRetryable_failureText_iff unsuccessful]

end

/-! ## How often a request is sent -/

/-- How often a request is sent whose replies have these statuses and none of which is a success: once, and again
after every status of a gateway that is expected back, as long as there are repetitions left. -/
def requestsSent (status : Nat → Nat) (retries : Nat) : Nat :=
  ((List.range retries).takeWhile fun k => passingStatuses.contains (status k)).length + 1

/-- If a status is the first that is not passing, the request is sent until it is replied. -/
theorem requestsSent_of_first {status : Nat → Nat} {retries n : Nat}
    (first : IsLeast {k | status k ∉ passingStatuses} n) (enough : n ≤ retries) :
    requestsSent status retries = n + 1 := by
  have before : ∀ k ∈ List.range n, passingStatuses.contains (status k) = true := by
    intro k hk
    rw [List.mem_range] at hk
    refine List.contains_iff_mem.2 (Classical.not_not.1 fun other => ?_)
    exact Nat.not_le_of_lt hk (first.2 other)
  have stop : status n ∉ passingStatuses := first.1
  obtain ⟨more, rfl⟩ := Nat.exists_eq_add_of_le enough
  unfold requestsSent
  rw [List.range_add, List.takeWhile_append_of_pos before]
  cases more with
  | zero => simp
  | succ more => simp [List.range_succ_eq_map, stop]

/-- If all statuses are passing, all repetitions are made. -/
theorem requestsSent_of_none {status : Nat → Nat} {retries : Nat}
    (passing : ∀ k ≤ retries, status k ∈ passingStatuses) :
    requestsSent status retries = retries + 1 := by
  have all : ∀ k ∈ List.range retries, passingStatuses.contains (status k) = true := by
    intro k hk
    exact List.contains_iff_mem.2 (passing k (Nat.le_of_lt (List.mem_range.1 hk)))
  unfold requestsSent
  rw [List.takeWhile_eq_self_iff.2 all, List.length_range]

/-! ## Calls that fail -/

variable {σ : Type} {endpoint : Endpoint (StateM σ)} {method : String} {params : Value} {s : σ}

/-- What a call gets for its request are replies without success, which have these statuses. -/
def Endpoint.Fails (endpoint : Endpoint (StateM σ)) (method : String) (params : Value) (s : σ)
    (status : Nat → Nat) : Prop :=
  ∀ k ≤ endpoint.retries, Unsuccessful (status k) ∧
    ∃ retryAfter body, endpoint.callReply method params s k = .answered (status k) retryAfter body

theorem Endpoint.Fails.ends_iff {status : Nat → Nat} (fails : endpoint.Fails method params s status)
    {k : Nat} (sent : k ≤ endpoint.retries) :
    Ends Error.isRetryable (endpoint.callReply method params s k).result ↔ status k ∉ passingStatuses := by
  obtain ⟨unsuccessful, retryAfter, body, reply⟩ := fails k sent
  rw [reply]
  exact ends_of_unsuccessful_iff unsuccessful retryAfter body

/-- The first reply that ends the call is the first whose status is not passing. -/
theorem Endpoint.Fails.first_end {status : Nat → Nat} (fails : endpoint.Fails method params s status)
    {n : Nat} (first : IsLeast {k | status k ∉ passingStatuses} n) (enough : n ≤ endpoint.retries) :
    IsLeast {k | Ends Error.isRetryable (endpoint.callReply method params s k).result} n := by
  refine ⟨(fails.ends_iff enough).2 first.1, fun k ends => ?_⟩
  -- of the replies after the last repetition nothing is known, but they are late enough
  by_cases sent : k ≤ endpoint.retries
  · exact first.2 ((fails.ends_iff sent).1 ends)
  · omega

/-- **Failures are repeated by their status alone.** A reply without success, whatever its status of up to three
digits, its header and its body, gives an error that is worth another attempt exactly if the status is 500, 502, 503
or 504. If a call gets such replies only, it fails, and what it sends and gets is its request and the
reply to it as often as the statuses and the number of repetitions tell, whatever else is in the replies. -/
theorem failures_retried_by_status :
    (∀ status, Unsuccessful status → ∀ retryAfter body,
      ∃ fault, (Reply.answered status retryAfter body).result = .error fault ∧
        (fault.isRetryable = true ↔ status ∈ [500, 502, 503, 504])) ∧
    ∀ {σ : Type} (endpoint : Endpoint (StateM σ)) (method : String) (params : Value) (s : σ)
      (log : List Exchange) (status : Nat → Nat), endpoint.Fails method params s status →
      ∃ fault t es, endpoint.logged.call method params (s, log) = (.error fault, (t, log ++ es)) ∧
        es = endpoint.callExchanges method params s (requestsSent status endpoint.retries) ∧
        es.length = requestsSent status endpoint.retries := by
  constructor
  · intro status unsuccessful retryAfter body
    exact ⟨_, Reply.result_of_unsuccessful unsuccessful retryAfter body,
      isRetryable_failureText_iff unsuccessful body⟩
  · intro σ endpoint method params s log status fails
    by_cases passing : ∀ k ≤ endpoint.retries, status k ∈ passingStatuses
    · have passed : ∀ k ≤ endpoint.retries,
          ¬ Ends Error.isRetryable (endpoint.callReply method params s k).result := by
        intro k sent ends
        exact (fails.ends_iff sent).1 ends (passing k sent)
      refine ⟨_, _, _, Endpoint.logged_call_of_none log passed, ?_, ?_⟩
      · rw [requestsSent_of_none passing]
      · rw [requestsSent_of_none passing, Endpoint.length_callExchanges]
    · simp only [not_forall, exists_prop] at passing
      obtain ⟨k, sent, other⟩ := passing
      obtain ⟨n, first⟩ : ∃ n, IsLeast {k | status k ∉ passingStatuses} n :=
        ⟨_, Nat.isLeast_find ⟨k, other⟩⟩
      have enough : n ≤ endpoint.retries := Nat.le_trans (first.2 other) sent
      obtain ⟨unsuccessful, retryAfter, body, reply⟩ := fails n enough
      have fault := Reply.result_of_unsuccessful unsuccessful retryAfter body
      have stopped := Endpoint.logged_call_of_first log (fails.first_end first enough) enough
      rw [reply, fault, ← requestsSent_of_first first enough] at stopped
      exact ⟨_, _, _, stopped, rfl, Endpoint.length_callExchanges endpoint method params s _⟩

/-- A gateway that fails is asked again, and one that does not find the page is not, though it writes of an endpoint
that failed: of five repetitions one is made. -/
theorem failures_retried_after_503 :
    let words := Utf8.encode "HTTP 503 : TIMEOUT_ERROR"
    let reply : Nat → Reply := fun k => .answered (if k = 0 then 503 else 404) none words
    (∃ fault, (Reply.answered 404 none words).result = .error fault ∧ fault.isRetryable ≠ true) ∧
    ∃ fault t es, (Endpoint.scripted reply 5).logged.call "status" (.array []) (0, []) =
        (.error fault, (t, es)) ∧ es.length = 2 := by
  intro words reply
  have missing : Unsuccessful 404 := ⟨by decide, by decide, by decide⟩
  have failing : Unsuccessful 503 := ⟨by decide, by decide, by decide⟩
  have fails : (Endpoint.scripted reply 5).Fails "status" (.array []) 0
      fun k => if k = 0 then 503 else 404 := by
    intro k _
    refine ⟨?_, none, words, Endpoint.callReply_scripted reply 5 _ _ k⟩
    by_cases early : k = 0
    · simp only [if_pos early, failing]
    · simp only [if_neg early, missing]
  constructor
  · obtain ⟨fault, means, iff⟩ := failures_retried_by_status.1 404 missing none words
    exact ⟨fault, means, fun worth => absurd (iff.1 worth) (by decide)⟩
  · obtain ⟨fault, t, es, call, _, sent⟩ := failures_retried_by_status.2 _ _ _ _ [] _ fails
    exact ⟨fault, t, es, call, sent.trans (by decide)⟩

end Governance.Rpc
