import AkidbEmbedding.Python
import Mathlib.Algebra.Order.Field.Rat
import Mathlib.Tactic.NormNum
import Mathlib.Tactic.Linarith

/-!
# The SDK's retrying request

`AkiDBClient._request` sends one HTTP request up to `max_retries + 1` times. An
attempt returns when the response is `ok`, which `requests` denies only to a
status from 400 to 599: `None` for 204 and `response.json()` otherwise.
Whatever it raises is caught, a response that is not `ok` as an `AkiDBError`:
the loop sleeps `delay` and doubles it, capped at `max_delay`, unless the
attempt was the last one, and after the loop it raises the last exception
caught.

The `try` also covers `response.json()`, so a 2xx response whose body is not
JSON is caught and retried like a failure; `HealthAPI.metrics` reads the
Prometheus text of `/metrics` through this path. `delay` starts at
`initial_delay` without the cap. A negative `max_retries` leaves the loop empty,
and `raise None` raises `TypeError`. `time.sleep` of a negative delay raises
`ValueError` inside the handler, which ends the request.

The server's behaviour is an input: the outcome of each attempt, by its number.
Delays are rationals; doubling a float is exact below overflow.
-/

namespace AkidbEmbedding.Sdk

open AkidbEmbedding.Python

/-- `AkiDBConfig`, with its defaults. -/
structure AkiDBConfig where
  endpoint : String
  apiKey : String
  tenant : String
  timeout : Int := 30
  maxRetries : Int := 3
  initialDelay : ℚ := 1 / 10
  maxDelay : ℚ := 5

/-- The arguments of one `requests.request` call. -/
structure HttpRequest where
  method : String
  url : String
  headers : List (String × String)
  json : Option Value
  params : Option Value
  timeout : Int

/-- The request `_request(method, path, json, params)` sends on every attempt. -/
def AkiDBConfig.httpRequest (config : AkiDBConfig) (method path : String) (json params : Option Value) :
    HttpRequest where
  method := method
  url := config.endpoint ++ path
  headers := [("Content-Type", "application/json"), ("X-API-Key", config.apiKey),
    ("X-Tenant-ID", config.tenant)]
  json := json
  params := params
  timeout := config.timeout

/-- What `requests.request` does on one attempt: it raises, or returns a
response with its status, its text and what `response.json()` gives. -/
inductive Outcome where
  | raised (error : PyError)
  | response (statusCode : Nat) (text : String) (json : Except PyError Value)

/-- `response.ok`: `raise_for_status` raises for a client error, 400 to 499,
and a server error, 500 to 599, and for nothing else. -/
def responseOk (statusCode : Nat) : Bool :=
  !(400 ≤ statusCode && statusCode < 600)

example : responseOk 399 = true ∧ responseOk 400 = false ∧ responseOk 599 = false ∧ responseOk 600 = true := by
  decide

/-- The body of the `try` for one attempt. -/
def attempt : Outcome → Except PyError (Option Value)
  | .raised error => .error error
  | .response statusCode text json =>
    if !responseOk statusCode then .error ⟨"AkiDBError", "HTTP " ++ toString statusCode ++ ": " ++ text⟩
    else if statusCode = 204 then .ok none
    else json.map some

/-- What a request does, in order: an attempt sent, or a sleep. -/
inductive Event where
  | send (attempt : Nat) (request : HttpRequest)
  | sleep (seconds : ℚ)

/-- `raise last_error` with `last_error = None`. -/
def raiseNoneError : PyError :=
  ⟨"TypeError", "exceptions must derive from BaseException"⟩

/-- `time.sleep` of a negative length. -/
def sleepError : PyError :=
  ⟨"ValueError", "sleep length must be non-negative"⟩

/-- The `for` loop of `_request` from iteration `n` on, with `remaining`
iterations left, the current `delay` and the last exception caught. -/
def retryLoop (config : AkiDBConfig) (request : HttpRequest) (outcomes : Nat → Outcome) :
    Nat → Nat → ℚ → Option PyError → List Event × Except PyError (Option Value)
  | 0, _, _, lastError => ([], .error (lastError.getD raiseNoneError))
  | remaining + 1, n, delay, _ =>
    match attempt (outcomes n) with
    | .ok value => ([.send n request], .ok value)
    | .error e =>
      if (n : Int) < config.maxRetries then
        if delay < 0 then ([.send n request], .error sleepError)
        else
          let rest := retryLoop config request outcomes remaining (n + 1)
            (min (delay * 2) config.maxDelay) (some e)
          (.send n request :: .sleep delay :: rest.1, rest.2)
      else
        let rest := retryLoop config request outcomes remaining (n + 1) delay (some e)
        (.send n request :: rest.1, rest.2)

/-- `AkiDBClient._request(method, path, json, params)`. -/
def AkiDBConfig.request (config : AkiDBConfig) (method path : String) (json params : Option Value)
    (outcomes : Nat → Outcome) : List Event × Except PyError (Option Value) :=
  retryLoop config (config.httpRequest method path json params) outcomes
    (config.maxRetries + 1).toNat 0 config.initialDelay none

/-- `HealthAPI.metrics()`: the Prometheus text of `/metrics`, through `_request`. -/
def AkiDBConfig.metrics (config : AkiDBConfig) (outcomes : Nat → Outcome) :
    List Event × Except PyError (Option Value) :=
  config.request "GET" "/metrics" none none outcomes

/-- `delay` at iteration `k`: `initial_delay`, then doubled and capped at
`max_delay` after each sleep. -/
def delayAt (config : AkiDBConfig) : Nat → ℚ
  | 0 => config.initialDelay
  | k + 1 => min (delayAt config k * 2) config.maxDelay

/-- The events of `r` attempts from attempt `n` on, with a sleep of the current
delay between two attempts. -/
def attemptsFrom (config : AkiDBConfig) (request : HttpRequest) (n : Nat) : Nat → List Event
  | 0 => []
  | 1 => [.send n request]
  | r + 2 => .send n request :: .sleep (delayAt config n) :: attemptsFrom config request (n + 1) (r + 1)

/-- From the second one on, the delay is `initial_delay * 2^k` capped at a
non-negative `max_delay`; the first is not capped. -/
theorem delayAt_succ (config : AkiDBConfig) (nonneg : 0 ≤ config.maxDelay) :
    ∀ k, delayAt config (k + 1) = min (config.initialDelay * 2 ^ (k + 1)) config.maxDelay
  | 0 => by simp [delayAt]
  | k + 1 => by
    have doubled : config.maxDelay ≤ config.maxDelay * 2 := le_mul_of_one_le_right nonneg one_le_two
    rw [delayAt, delayAt_succ config nonneg k, min_mul_of_nonneg _ _ (zero_le_two : (0 : ℚ) ≤ 2),
      min_assoc, min_eq_right doubled, mul_assoc, ← pow_succ]

section Run

variable (config : AkiDBConfig) (request : HttpRequest) (outcomes : Nat → Outcome)

/-- The loop from iteration `n` with `m` iterations left sends `r` attempts,
`r` positive unless no iteration is left: each attempt but the last failed and
was followed by its sleep, and the last one's result is returned, or re-raised
after the last iteration, or else its sleep raised. -/
theorem retryLoop_run :
    ∀ (m n : Nat) (lastError : Option PyError), n + m = (config.maxRetries + 1).toNat →
      ∃ r ≤ m, (r = 0 ↔ m = 0) ∧
        (retryLoop config request outcomes m n (delayAt config n) lastError).1 =
          attemptsFrom config request n r ∧
        (∀ k, k + 1 < r → (∃ e, attempt (outcomes (n + k)) = .error e) ∧ 0 ≤ delayAt config (n + k)) ∧
        (retryLoop config request outcomes m n (delayAt config n) lastError).2 =
          if r = 0 then .error (lastError.getD raiseNoneError)
          else match attempt (outcomes (n + r - 1)) with
            | .ok value => .ok value
            | .error e => if r = m then .error e else .error sleepError
  | 0, n, lastError, _ => ⟨0, le_rfl, iff_of_true rfl rfl, rfl, fun _ beyond => absurd beyond (by omega), rfl⟩
  | m + 1, n, lastError, counted => by
    cases accepted : attempt (outcomes n) with
    | ok value =>
      refine ⟨1, by omega, by omega, ?_, fun _ beyond => absurd beyond (by omega), ?_⟩
      · simp only [retryLoop, accepted]; rfl
      · simp only [retryLoop, accepted, Nat.add_sub_cancel, one_ne_zero, if_false]
    | error e =>
      by_cases retried : (n : Int) < config.maxRetries
      · by_cases negative : delayAt config n < 0
        · refine ⟨1, by omega, by omega, ?_, fun _ beyond => absurd beyond (by omega), ?_⟩
          · simp only [retryLoop, accepted, retried, negative, if_true]; rfl
          · simp only [retryLoop, accepted, retried, negative, if_true, Nat.add_sub_cancel, one_ne_zero,
              if_false, show 1 ≠ m + 1 by omega]
        · obtain ⟨r, within, positive, events, failed, result⟩ :=
            retryLoop_run m (n + 1) (some e) (by omega)
          have more : r ≠ 0 := fun zero => by omega
          obtain ⟨r, rfl⟩ := Nat.exists_eq_succ_of_ne_zero more
          refine ⟨r + 2, by omega, by omega, ?_, fun k below => ?_, ?_⟩
          · simp only [retryLoop, accepted, retried, negative, if_true, if_false]
            rw [show min (delayAt config n * 2) config.maxDelay = delayAt config (n + 1) from rfl, events]
            rfl
          · cases k with
            | zero => exact ⟨⟨e, accepted⟩, le_of_not_lt negative⟩
            | succ k => simpa only [Nat.add_right_comm, Nat.add_assoc] using failed k (by omega)
          · simp only [retryLoop, accepted, retried, negative, if_true, if_false]
            rw [show min (delayAt config n * 2) config.maxDelay = delayAt config (n + 1) from rfl, result]
            simp only [Nat.succ_ne_zero, if_false, show n + 1 + (r + 1) - 1 = n + (r + 2) - 1 by omega,
              show (r + 1 = m) = (r + 2 = m + 1) from propext (by omega)]
      · have last : m = 0 := by omega
        subst last
        refine ⟨1, le_rfl, by omega, ?_, fun _ beyond => absurd beyond (by omega), ?_⟩
        · simp only [retryLoop, accepted, retried, if_false]; rfl
        · simp only [retryLoop, accepted, retried, if_false, Nat.add_sub_cancel, one_ne_zero, if_true]
          rfl

end Run

/-- For every configuration, every request and every outcome of every attempt,
`_request` sends `r` attempts, at most `max(max_retries, 0) + 1` and none
exactly when `max_retries` is negative, the same request each time. Every
attempt but the last failed, and the sleep after attempt `k` is `delayAt k`:
`initial_delay` uncapped, then doubled and capped. The last attempt's result is
returned; its exception is re-raised after the last iteration, and otherwise
its sleep raised. With no attempt, `raise None` raises `TypeError`. An attempt
fails on a 2xx response whose body is not JSON. -/
theorem request_attempts (config : AkiDBConfig) (method path : String) (json params : Option Value)
    (outcomes : Nat → Outcome) :
    ∃ r ≤ (config.maxRetries + 1).toNat, (r = 0 ↔ config.maxRetries < 0) ∧
      (config.request method path json params outcomes).1 =
        attemptsFrom config (config.httpRequest method path json params) 0 r ∧
      (∀ k, k + 1 < r → (∃ e, attempt (outcomes k) = .error e) ∧ 0 ≤ delayAt config k) ∧
      (config.request method path json params outcomes).2 =
        if r = 0 then .error raiseNoneError
        else match attempt (outcomes (r - 1)) with
          | .ok value => .ok value
          | .error e => if r = (config.maxRetries + 1).toNat then .error e else .error sleepError := by
  obtain ⟨r, within, empty, events, failed, result⟩ :=
    retryLoop_run config (config.httpRequest method path json params) outcomes
      (config.maxRetries + 1).toNat 0 none (Nat.zero_add _)
  refine ⟨r, within, empty.trans (by omega), events, fun k below => ?_, ?_⟩
  · simpa only [Nat.zero_add] using failed k below
  · simpa only [Nat.zero_add] using result

/-- A client with the defaults of `AkiDBClient` and `AkiDBConfig`. -/
def localClient : AkiDBConfig where
  endpoint := "http://localhost:8080"
  apiKey := "ak_your_api_key"
  tenant := "tenant_acme"

/-- `/metrics` answering 200 with Prometheus text on every attempt. -/
def prometheusText : Nat → Outcome :=
  fun _ => .response 200 "# TYPE akidb_requests_total counter"
    (.error ⟨"JSONDecodeError", "Expecting value: line 1 column 1 (char 0)"⟩)

/-- A transport error on the first attempt and a JSON body on the second. -/
def flakyOnce : Nat → Outcome
  | 0 => .raised ⟨"ConnectionError", "Connection refused"⟩
  | _ => .response 200 "{}" (.ok (.dict []))

/-- `health.metrics()` of the default client sends `/metrics` four times, each
answered 200, and raises the decoder's error; a first delay of 10 seconds is
slept whole under a cap of 5; and a negative `max_retries` raises `TypeError`
without an attempt. -/
theorem metrics_never_returns :
    (localClient.metrics prometheusText).1 =
      [.send 0 (localClient.httpRequest "GET" "/metrics" none none), .sleep (1 / 10),
        .send 1 (localClient.httpRequest "GET" "/metrics" none none), .sleep (1 / 5),
        .send 2 (localClient.httpRequest "GET" "/metrics" none none), .sleep (2 / 5),
        .send 3 (localClient.httpRequest "GET" "/metrics" none none)] ∧
    (localClient.metrics prometheusText).2 =
      .error ⟨"JSONDecodeError", "Expecting value: line 1 column 1 (char 0)"⟩ ∧
    ({ localClient with initialDelay := 10 }.request "GET" "/health" none none flakyOnce).1 =
      [.send 0 (localClient.httpRequest "GET" "/health" none none), .sleep 10,
        .send 1 (localClient.httpRequest "GET" "/health" none none)] ∧
    ({ localClient with maxRetries := -1 }.request "GET" "/health" none none flakyOnce) =
      ([], .error raiseNoneError) ∧
    ∃ r ≤ (localClient.maxRetries + 1).toNat, (r = 0 ↔ localClient.maxRetries < 0) ∧
      (localClient.request "GET" "/metrics" none none prometheusText).1 =
        attemptsFrom localClient (localClient.httpRequest "GET" "/metrics" none none) 0 r ∧
      (∀ k, k + 1 < r → (∃ e, attempt (prometheusText k) = .error e) ∧ 0 ≤ delayAt localClient k) ∧
      (localClient.request "GET" "/metrics" none none prometheusText).2 =
        if r = 0 then .error raiseNoneError
        else match attempt (prometheusText (r - 1)) with
          | .ok value => .ok value
          | .error e => if r = (localClient.maxRetries + 1).toNat then .error e else .error sleepError := by
  refine ⟨?_, ?_, ?_, ?_, request_attempts localClient "GET" "/metrics" none none prometheusText⟩ <;>
    norm_num [AkiDBConfig.metrics, AkiDBConfig.request, AkiDBConfig.httpRequest, retryLoop, attempt, responseOk,
      prometheusText, flakyOnce, localClient, Except.map]

/-- The seconds a request spends in `time.sleep`. -/
def sleptSeconds : List Event → ℚ
  | [] => 0
  | .send _ _ :: rest => sleptSeconds rest
  | .sleep seconds :: rest => seconds + sleptSeconds rest

section Waiting

variable (config : AkiDBConfig) (request : HttpRequest)

/-- From the second attempt on, every sleep is capped by `max_delay`. -/
theorem sleptSeconds_attemptsFrom_succ (n : Nat) :
    ∀ r : Nat, sleptSeconds (attemptsFrom config request (n + 1) (r + 1)) ≤ r * max config.maxDelay 0
  | 0 => by simp [attemptsFrom, sleptSeconds]
  | r + 1 => by
    have capped : delayAt config (n + 1) ≤ max config.maxDelay 0 := (min_le_right _ _).trans (le_max_left _ _)
    have rest := sleptSeconds_attemptsFrom_succ (n + 1) r
    simp only [attemptsFrom, sleptSeconds, Nat.cast_succ] at rest ⊢
    linarith

end Waiting

/-- For every configuration, every request and every outcome of every attempt,
`_request` spends at most `initial_delay + (max_retries - 1) * max_delay`
seconds in `time.sleep`: the first sleep is `initial_delay`, each later one is
capped by `max_delay`, and there are at most `max_retries` of them. A negative
delay is never slept, since sleeping it raises. -/
theorem request_sleep_bounded (config : AkiDBConfig) (method path : String) (json params : Option Value)
    (outcomes : Nat → Outcome) :
    sleptSeconds (config.request method path json params outcomes).1 ≤
      max config.initialDelay 0 + (config.maxRetries - 1).toNat * max config.maxDelay 0 := by
  obtain ⟨r, within, -, events, -, -⟩ :=
    retryLoop_run config (config.httpRequest method path json params) outcomes
      (config.maxRetries + 1).toNat 0 none (Nat.zero_add _)
  have sent : (config.request method path json params outcomes).1 =
      attemptsFrom config (config.httpRequest method path json params) 0 r := events
  have spread : 0 ≤ ((config.maxRetries - 1).toNat : ℚ) * max config.maxDelay 0 := by positivity
  rw [sent]
  rcases r with _ | _ | r
  · exact add_nonneg (le_max_right _ _) spread
  · exact add_nonneg (le_max_right _ _) spread
  · have fewer : (r : ℚ) * max config.maxDelay 0 ≤ (config.maxRetries - 1).toNat * max config.maxDelay 0 :=
      mul_le_mul_of_nonneg_right (by exact_mod_cast (by omega : r ≤ (config.maxRetries - 1).toNat))
        (le_max_right _ _)
    have first : delayAt config 0 ≤ max config.initialDelay 0 := le_max_left _ _
    have rest := sleptSeconds_attemptsFrom_succ config (config.httpRequest method path json params) 0 r
    simp only [attemptsFrom, sleptSeconds]
    linarith

end AkidbEmbedding.Sdk
