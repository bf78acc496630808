import ScfLog.Payload

/-!
# `_send_chunk`: one chunk, retried with backoff

`_send_chunk` builds the payload once and calls `put_log_raw` with it up to
`retries + 1` times. A success records the chunk as sent; a `LogException` that is
not retryable, or any failure on the last attempt, records it as failed; any
other failure sleeps `backoff_ms`, doubles it, caps it at `max_retry_backoff_ms`,
and tries again. The sleep sits inside the exception handlers, so an exception
from `time.sleep` itself leaves `_send_chunk` — the only way, besides the payload
build, that it raises. `time.sleep` refuses a negative length, a length whose
nanoseconds do not fit 64 bits, and, as the probe `time.sleep(9223372036.854)`
shows, a length whose deadline on the monotonic clock does not.

What happens outside the process is an `Outside`: what each `put_log_raw` call
does and what the monotonic clock reads at each sleep, both by attempt number, so
every sequence of outcomes and clock readings is covered.

## Main definitions

* `ScfLog.PutOutcome`, `ScfLog.retryable` — what a call does and how `_send_chunk` classifies it
* `ScfLog.Outside` — the outcome of each call and the clock at each sleep
* `ScfLog.sleep` — `time.sleep(ms / 1000.0)`, with the errors CPython raises
* `ScfLog.retryLoop`, `ScfLog.sendChunk` — the loop and the whole call, as effects and an ending
* `ScfLog.ChunkEnd.record` — the counters after the call
* `ScfLog.specBackoff`, `ScfLog.claimedSchedule` — the schedule the specification states

## Main results

* `ScfLog.retryLoop_ending_ne_raised` — with backoffs between zero and `maxSafeSleepMs`
  and a clock below `2^62` ns, the loop never raises
* `ScfLog.retryLoop_effects` — the loop's effects, call by call, from any attempt
* `ScfLog.sendChunk_follows_schedule` — with `0 ≤ base ≤ max ≤ maxSafeSleepMs` the call makes
  exactly the specified calls and sleeps, the sleeps never decrease and never pass the cap
* `ScfLog.sendChunk_off_schedule` — a negative backoff, which `validate` accepts, makes the
  first retried failure raise out of `_send_chunk`, and a first backoff above the cap is
  slept whole
* `ScfLog.sendChunk_sleeps_bounded` — for every configuration, one call sleeps at most
  `retries` times, each for at most the larger of the first backoff and the cap
-/

namespace ScfLog

/-- What one `put_log_raw` call does. -/
inductive PutOutcome
  | ok
  | logException (errorCode : String) (respStatus : Int)
  | otherException
  deriving DecidableEq, Repr

/-- The error codes `_send_chunk` retries whatever the response status. -/
def retryableErrorCodes : List String := ["InternalError", "Timeout", "SpeedQuotaExceed"]

/-- `retryable` in the `LogException` handler of `_send_chunk`. -/
def retryable (errorCode : String) (respStatus : Int) : Bool :=
  retryableErrorCodes.contains errorCode || decide (500 ≤ respStatus)

/-- What the world outside the process does during one `_send_chunk`: what the
`k`-th `put_log_raw` call does, and the reading of the monotonic clock, in
nanoseconds, when the backoff sleep after it begins. -/
structure Outside where
  put : Nat → PutOutcome
  clockNs : Nat → Nat

/-- The longest timeout, in whole milliseconds, that CPython turns into its signed
64-bit count of nanoseconds: `time.sleep` and a lock's timed `acquire` raise
`OverflowError` for a longer one. -/
def maxTimeoutMs : Int := 9223372036854

/-- The message of that `OverflowError`. -/
def timeOverflowMessage : String := "timestamp out of range for platform time_t"

/-- `time.sleep(ms / 1000.0)` with the monotonic clock at `clockNs`. CPython sleeps
until the deadline `clockNs + ms * 10^6` ns, and `clock_nanosleep` refuses a deadline
past the signed 64-bit range with `EINVAL`. The float `ms / 1000.0` is taken as exact. -/
def sleep (clockNs : Nat) (ms : Int) : Except PyError Unit :=
  if ms < 0 then .error (.valueError "sleep length must be non-negative")
  else if maxTimeoutMs < ms then .error (.overflowError timeOverflowMessage)
  else if 2 ^ 63 ≤ clockNs + ms.toNat * 1000000 then .error (.osError "[Errno 22] Invalid argument")
  else .ok ()

/-- What `_send_chunk` does outside the process, in order. -/
inductive ChunkEffect
  | putLogRaw (topicId : String) (payload : LogGroupList)
  | sleep (ms : Int)
  deriving DecidableEq, Repr

/-- How a `_send_chunk` call ends. -/
inductive ChunkEnd
  | delivered
  | failed
  | raised (err : PyError)
  deriving DecidableEq, Repr

/-- One `_send_chunk` call: its effects, and how it ended. -/
structure ChunkRun where
  effects : List ChunkEffect
  ending : ChunkEnd
  deriving DecidableEq, Repr

/-- What `_send_chunk` does after its `attempt`-th call. -/
inductive AttemptResult
  | delivered
  | giveUp
  | retry
  deriving DecidableEq, Repr

/-- The branch `_send_chunk` takes after the `attempt`-th call returned `outcome`:
`return` on success, `break` on a non-retryable `LogException` or on the last
attempt, and otherwise sleep and go on. -/
def afterAttempt (cfg : CLSConfig) (attempt : Nat) : PutOutcome → AttemptResult
  | .ok => .delivered
  | .logException errorCode respStatus =>
    if !retryable errorCode respStatus || cfg.retries ≤ attempt then .giveUp else .retry
  | .otherException => if cfg.retries ≤ attempt then .giveUp else .retry

/-- The loop `for attempt in range(retries + 1)` of `_send_chunk`, at `attempt`
with `left` iterations to go and the current `backoff_ms`. `call` is the effect of
`put_log_raw(topic_id, log_group_list)`, the same at every attempt. -/
def retryLoop (cfg : CLSConfig) (out : Outside) (call : ChunkEffect) :
    (attempt left : Nat) → (backoffMs : Int) → ChunkRun
  | _, 0, _ => ⟨[], .failed⟩
  | attempt, left + 1, backoffMs =>
    match afterAttempt cfg attempt (out.put attempt) with
    | .delivered => ⟨[call], .delivered⟩
    | .giveUp => ⟨[call], .failed⟩
    | .retry =>
      match sleep (out.clockNs attempt) backoffMs with
      | .error err => ⟨[call], .raised err⟩
      | .ok () =>
        let rest := retryLoop cfg out call (attempt + 1) left
          (min (backoffMs * 2) cfg.maxRetryBackoffMs)
        ⟨call :: .sleep backoffMs :: rest.effects, rest.ending⟩

/-- The number of iterations of `range(retries + 1)`. -/
def attempts (cfg : CLSConfig) : Nat := (cfg.retries + 1).toNat

/-- `_send_chunk(entries)`: build the payload once, then run the loop from
`backoff_ms = base_retry_backoff_ms`. -/
def sendChunk (cfg : CLSConfig) (out : Outside) (entries : List LogEntry) : ChunkRun :=
  match buildLogGroupList cfg entries with
  | .error err => ⟨[], .raised err⟩
  | .ok payload =>
    retryLoop cfg out (.putLogRaw cfg.topicId payload) 0 (attempts cfg) cfg.baseRetryBackoffMs

/-- The counters after a `_send_chunk` of `n` entries ended with `ending`. -/
def ChunkEnd.record (ending : ChunkEnd) (n : Nat) (stats : ProducerStats) : ProducerStats :=
  match ending with
  | .delivered => stats.incrSuccess.incrLogs n
  | .failed => stats.incrFail
  | .raised _ => stats

/-- The length of a sleep effect. -/
def ChunkEffect.sleepMs? : ChunkEffect → Option Int
  | .sleep ms => some ms
  | .putLogRaw _ _ => none

/-- The payload of a `put_log_raw` effect. -/
def ChunkEffect.payload? : ChunkEffect → Option LogGroupList
  | .putLogRaw _ payload => some payload
  | .sleep _ => none

/-- The lengths a run slept, in order. -/
def ChunkRun.sleeps (run : ChunkRun) : List Int := run.effects.filterMap ChunkEffect.sleepMs?

/-- The payloads a run sent, one per `put_log_raw` call. -/
def ChunkRun.payloads (run : ChunkRun) : List LogGroupList :=
  run.effects.filterMap ChunkEffect.payload?

variable {cfg : CLSConfig} {out : Outside} {put : Nat → PutOutcome} {call : ChunkEffect}

/-! ### The loop never raises on backoffs the clock accepts -/

/-- The longest backoff, in whole milliseconds, whose deadline stays below `2^63` ns
while the monotonic clock reads below `2^62` ns, some 146 years after it started. -/
def maxSafeSleepMs : Int := 4611686018427

/-- The backoffs `time.sleep` accepts whatever the monotonic clock reads below `2^62` ns. -/
def SleepRange (ms : Int) : Prop := 0 ≤ ms ∧ ms ≤ maxSafeSleepMs

/-- The monotonic clock reads below `2^62` ns at every sleep. -/
def ClockBelow (out : Outside) : Prop := ∀ attempt, out.clockNs attempt < 2 ^ 62

theorem sleep_eq_ok {clockNs : Nat} {ms : Int} (range : SleepRange ms) (early : clockNs < 2 ^ 62) :
    sleep clockNs ms = .ok () := by
  obtain ⟨nonneg, short⟩ := range
  unfold maxSafeSleepMs at short
  have notNeg : ¬ ms < 0 := by omega
  have fits : ¬ maxTimeoutMs < ms := by unfold maxTimeoutMs; omega
  have inTime : ¬ 2 ^ 63 ≤ clockNs + ms.toNat * 1000000 := by omega
  rw [sleep, if_neg notNeg, if_neg fits, if_neg inTime]

theorem sleepRange_min_double {ms : Int} (range : SleepRange ms)
    (maxRange : SleepRange cfg.maxRetryBackoffMs) :
    SleepRange (min (ms * 2) cfg.maxRetryBackoffMs) := by
  constructor
  · have := range.1; have := maxRange.1; omega
  · have := maxRange.2; omega

theorem retryLoop_ending_ne_raised (maxRange : SleepRange cfg.maxRetryBackoffMs)
    (clock : ClockBelow out) :
    ∀ (attempt left : Nat) (backoffMs : Int), SleepRange backoffMs →
      ∀ err, (retryLoop cfg out call attempt left backoffMs).ending ≠ .raised err
  | _, 0, _, _, _ => by simp [retryLoop]
  | attempt, left + 1, backoffMs, range, err => by
    have rest := retryLoop_ending_ne_raised maxRange clock (attempt + 1) left _
      (sleepRange_min_double range maxRange) err
    simp only [retryLoop]
    split <;> simp [sleep_eq_ok range (clock attempt), rest]

/-! ### The schedule the specification states -/

/-- The backoff the specification gives before the `(k+2)`-th call:
`min(base_retry_backoff_ms * 2^k, max_retry_backoff_ms)`. -/
def specBackoff (cfg : CLSConfig) (k : Nat) : Int :=
  min (cfg.baseRetryBackoffMs * 2 ^ k) cfg.maxRetryBackoffMs

/-- Whether the specification's loop stops after a call that returned `outcome`:
on success, or on a `LogException` that is not retryable. -/
def stopsAfter : PutOutcome → Bool
  | .ok => true
  | .logException errorCode respStatus => !retryable errorCode respStatus
  | .otherException => false

/-- How many calls the specification's loop makes over the attempts `k, k+1, …,
k+left-1`: up to and including the first stopping one, or all of them. -/
def callsFrom (put : Nat → PutOutcome) (k left : Nat) : Nat :=
  match (List.range' k left).find? (fun j => stopsAfter (put j)) with
  | some j => j + 1 - k
  | none => left

/-- `calls` calls of `call`, separated by the given sleeps. -/
def callsBetween (call : ChunkEffect) : List Int → List ChunkEffect
  | [] => [call]
  | ms :: rest => call :: .sleep ms :: callsBetween call rest

/-- The effects the specification gives one `_send_chunk`: `n` calls with one
payload, where `n` stops at the first stopping outcome or at `retries + 1`, and
`min(base * 2^k, max)` milliseconds of sleep before the `(k+2)`-th call. -/
def claimedSchedule (cfg : CLSConfig) (out : Outside) (call : ChunkEffect) :
    List ChunkEffect :=
  match callsFrom out.put 0 (attempts cfg) with
  | 0 => []
  | n + 1 => callsBetween call ((List.range n).map (specBackoff cfg))

/-! ### The loop follows the schedule when `base ≤ max` -/

theorem specBackoff_succ (maxNonneg : 0 ≤ cfg.maxRetryBackoffMs) (k : Nat) :
    min (specBackoff cfg k * 2) cfg.maxRetryBackoffMs = specBackoff cfg (k + 1) := by
  simp only [specBackoff, pow_succ, ← mul_assoc]
  generalize cfg.baseRetryBackoffMs * 2 ^ k = scaled
  omega

theorem callsFrom_zero (k : Nat) : callsFrom put k 0 = 0 := rfl

theorem callsFrom_succ_of_stops {k left : Nat} (stops : stopsAfter (put k) = true) :
    callsFrom put k (left + 1) = 1 := by
  simp [callsFrom, List.range'_succ, List.find?_cons, stops]

theorem callsFrom_succ_of_not_stops {k left : Nat} (goesOn : stopsAfter (put k) = false) :
    callsFrom put k (left + 1) = callsFrom put (k + 1) left + 1 := by
  simp only [callsFrom, List.range'_succ, List.find?_cons, goesOn]
  cases found : (List.range' (k + 1) left).find? (fun j => stopsAfter (put j)) with
  | none => rfl
  | some j =>
    have : k + 1 ≤ j := (List.mem_range'_1.mp (List.mem_of_find?_eq_some found)).1
    simp only
    omega

theorem callsFrom_pos {k left : Nat} (pos : 0 < left) : 0 < callsFrom put k left := by
  obtain ⟨left, rfl⟩ := Nat.exists_eq_add_of_lt pos
  by_cases stops : stopsAfter (put k) = true
  · simp [callsFrom_succ_of_stops stops]
  · simp [callsFrom_succ_of_not_stops (Bool.eq_false_iff.mpr stops)]

theorem callsBetween_range' (f : Nat → Int) (k c : Nat) :
    callsBetween call ((List.range' k (c + 1)).map f) =
      call :: .sleep (f k) :: callsBetween call ((List.range' (k + 1) c).map f) := by
  simp [List.range'_succ, callsBetween]

/-- From attempt `k`, with the backoff at its scheduled value and `k + left`
attempts in all, the loop makes exactly the calls and sleeps of the schedule. -/
theorem retryLoop_effects (maxNonneg : 0 ≤ cfg.maxRetryBackoffMs)
    (ranges : ∀ k, SleepRange (specBackoff cfg k)) (clock : ClockBelow out) :
    ∀ (k left : Nat), k + left = attempts cfg →
      (retryLoop cfg out call k left (specBackoff cfg k)).effects =
        match callsFrom out.put k left with
        | 0 => []
        | c + 1 => callsBetween call ((List.range' k c).map (specBackoff cfg))
  | k, 0, _ => by simp [retryLoop, callsFrom_zero]
  | k, left + 1, total => by
    have lastIff : cfg.retries ≤ (k : Int) ↔ left = 0 := by
      simp only [attempts] at total; omega
    by_cases stops : stopsAfter (out.put k) = true
    · rw [callsFrom_succ_of_stops stops]
      cases outcome : out.put k <;> simp_all [retryLoop, afterAttempt, stopsAfter, callsBetween]
    · have goesOn := Bool.eq_false_iff.mpr stops
      rw [callsFrom_succ_of_not_stops goesOn]
      have retries : afterAttempt cfg k (out.put k) = if left = 0 then .giveUp else .retry := by
        cases outcome : out.put k <;> simp_all [afterAttempt, stopsAfter]
      rcases Nat.eq_zero_or_pos left with rfl | pos
      · simp [retryLoop, retries, callsFrom_zero, callsBetween]
      · have rest := retryLoop_effects maxNonneg ranges clock (k + 1) left (by omega)
        have more : 0 < callsFrom out.put (k + 1) left := callsFrom_pos pos
        obtain ⟨c, hc⟩ := Nat.exists_eq_add_of_lt more
        simp only [Nat.zero_add] at hc
        simp only [hc] at rest ⊢
        simp [retryLoop, retries, pos.ne', sleep_eq_ok (ranges k) (clock k), specBackoff_succ maxNonneg,
          rest, callsBetween_range']

/-! ### What one `_send_chunk` does -/

variable {topicId : String} {payload : LogGroupList}

@[simp] theorem filterMap_sleepMs_callsBetween (ms : List Int) :
    (callsBetween (.putLogRaw topicId payload) ms).filterMap ChunkEffect.sleepMs? = ms := by
  induction ms with
  | nil => rfl
  | cons m ms ih => simp [callsBetween, ChunkEffect.sleepMs?, ih]

@[simp] theorem filterMap_payload_callsBetween (ms : List Int) :
    (callsBetween (.putLogRaw topicId payload) ms).filterMap ChunkEffect.payload? =
      List.replicate (ms.length + 1) payload := by
  induction ms with
  | nil => rfl
  | cons m ms ih => simp [callsBetween, ChunkEffect.payload?, ih, List.replicate_succ]

theorem specBackoff_zero (baseLeMax : cfg.baseRetryBackoffMs ≤ cfg.maxRetryBackoffMs) :
    specBackoff cfg 0 = cfg.baseRetryBackoffMs := by
  simp [specBackoff, baseLeMax]

theorem specBackoff_mono (baseNonneg : 0 ≤ cfg.baseRetryBackoffMs) {j k : Nat} (le : j ≤ k) :
    specBackoff cfg j ≤ specBackoff cfg k :=
  min_le_min_right _ (mul_le_mul_of_nonneg_left (pow_le_pow_right₀ (by decide) le) baseNonneg)

theorem sleepRange_specBackoff (baseNonneg : 0 ≤ cfg.baseRetryBackoffMs)
    (baseLeMax : cfg.baseRetryBackoffMs ≤ cfg.maxRetryBackoffMs)
    (maxFits : cfg.maxRetryBackoffMs ≤ maxSafeSleepMs) (k : Nat) : SleepRange (specBackoff cfg k) :=
  ⟨le_min (mul_nonneg baseNonneg (pow_nonneg (by decide) k)) (baseNonneg.trans baseLeMax),
    (min_le_right _ _).trans maxFits⟩

theorem claimedSchedule_sleeps :
    (claimedSchedule cfg out (.putLogRaw topicId payload)).filterMap ChunkEffect.sleepMs? =
      (List.range (callsFrom out.put 0 (attempts cfg) - 1)).map (specBackoff cfg) := by
  unfold claimedSchedule
  split <;> simp_all

theorem claimedSchedule_payloads :
    (claimedSchedule cfg out (.putLogRaw topicId payload)).filterMap ChunkEffect.payload? =
      List.replicate (callsFrom out.put 0 (attempts cfg)) payload := by
  unfold claimedSchedule
  split <;> simp_all

theorem callsFrom_of_never_stops (never : ∀ k, stopsAfter (put k) = false) (k left : Nat) :
    callsFrom put k left = left := by
  unfold callsFrom
  rw [List.find?_eq_none.mpr fun j _ => by simp [never j]]

/-- With `0 ≤ base_retry_backoff_ms ≤ max_retry_backoff_ms ≤ maxSafeSleepMs` and a
monotonic clock below `2^62` ns, a `_send_chunk` whose payload builds calls
`put_log_raw` with that one payload, stops at the first success or non-retryable
`LogException` or after `retries + 1` calls, and sleeps `min(base * 2^k, max)` before
the `(k+2)`-th call; the sleeps never decrease and never pass the cap; and when no
call stops the loop it makes all `retries + 1` calls with `retries` sleeps between
them (none when `retries < 0`). -/
theorem sendChunk_follows_schedule {entries : List LogEntry}
    (baseNonneg : 0 ≤ cfg.baseRetryBackoffMs)
    (baseLeMax : cfg.baseRetryBackoffMs ≤ cfg.maxRetryBackoffMs)
    (maxFits : cfg.maxRetryBackoffMs ≤ maxSafeSleepMs) (clock : ClockBelow out)
    (built : buildLogGroupList cfg entries = .ok payload) :
    (sendChunk cfg out entries).effects =
        claimedSchedule cfg out (.putLogRaw cfg.topicId payload) ∧
      (sendChunk cfg out entries).sleeps.Pairwise (· ≤ ·) ∧
      (∀ ms ∈ (sendChunk cfg out entries).sleeps, ms ≤ cfg.maxRetryBackoffMs) ∧
      ((∀ k, stopsAfter (out.put k) = false) →
        (sendChunk cfg out entries).payloads.length = attempts cfg ∧
          (sendChunk cfg out entries).sleeps.length = attempts cfg - 1) := by
  have ranges := sleepRange_specBackoff baseNonneg baseLeMax maxFits
  have effects : (sendChunk cfg out entries).effects =
      claimedSchedule cfg out (.putLogRaw cfg.topicId payload) := by
    rw [sendChunk, built, ← specBackoff_zero baseLeMax]
    simp only
    rw [retryLoop_effects (baseNonneg.trans baseLeMax) ranges clock 0 _ (Nat.zero_add _)]
    unfold claimedSchedule
    split <;> simp [List.range_eq_range']
  have sleeps : (sendChunk cfg out entries).sleeps =
      (List.range (callsFrom out.put 0 (attempts cfg) - 1)).map (specBackoff cfg) := by
    rw [ChunkRun.sleeps, effects, claimedSchedule_sleeps]
  refine ⟨effects, ?_, ?_, fun never => ?_⟩
  · rw [sleeps, List.pairwise_map]
    exact (List.pairwise_lt_range _).imp fun lt => specBackoff_mono baseNonneg lt.le
  · rw [sleeps]
    simp only [List.mem_map]
    rintro _ ⟨k, -, rfl⟩
    exact min_le_right _ _
  · rw [sleeps, ChunkRun.payloads, effects, claimedSchedule_payloads,
      callsFrom_of_never_stops never]
    simp

/-- Every `put_log_raw` call does `outcome`, and the monotonic clock reads zero. -/
def Outside.always (outcome : PutOutcome) : Outside := ⟨fun _ => outcome, fun _ => 0⟩

theorem clockBelow_always (outcome : PutOutcome) : ClockBelow (.always outcome) :=
  fun _ => Nat.two_pow_pos 62

theorem sendChunk_follows_schedule_defaults :
    0 ≤ (default : CLSConfig).baseRetryBackoffMs ∧
      (default : CLSConfig).baseRetryBackoffMs ≤ (default : CLSConfig).maxRetryBackoffMs ∧
      (default : CLSConfig).maxRetryBackoffMs ≤ maxSafeSleepMs ∧
      ClockBelow (.always .otherException) ∧
      buildLogGroupList default [] = .ok { logGroupList := [{ logs := [], source := [] }] } ∧
      (sendChunk default (.always .otherException) []).effects =
          claimedSchedule default (.always .otherException)
            (.putLogRaw "" { logGroupList := [{ logs := [], source := [] }] }) ∧
        (sendChunk default (.always .otherException) []).sleeps.Pairwise (· ≤ ·) ∧
        (∀ ms ∈ (sendChunk default (.always .otherException) []).sleeps,
          ms ≤ (default : CLSConfig).maxRetryBackoffMs) ∧
        ((∀ k : Nat, stopsAfter ((Outside.always .otherException).put k) = false) →
          (sendChunk default (.always .otherException) []).payloads.length = attempts default ∧
            (sendChunk default (.always .otherException) []).sleeps.length = attempts default - 1) :=
  ⟨by decide, by decide, by decide, clockBelow_always _, rfl,
    sendChunk_follows_schedule (by decide) (by decide) (by decide) (clockBelow_always _) rfl⟩

/-- A configuration `validate` accepts whose first backoff is negative. -/
def negativeBackoffConfig : CLSConfig :=
  { topicId := "t", host := "h", secretId := "i", secretKey := "k", baseRetryBackoffMs := -1 }

/-- A configuration `validate` accepts whose first backoff is above its cap. -/
def baseAboveCapConfig : CLSConfig :=
  { topicId := "t", host := "h", secretId := "i", secretKey := "k",
    baseRetryBackoffMs := 100, maxRetryBackoffMs := 50 }

/-- The first call fails with an exception other than `LogException`, and the next succeeds. -/
def failOnceOutside : Outside := ⟨fun k => if k = 0 then .otherException else .ok, fun _ => 0⟩

/-- Two configurations `validate` accepts leave the schedule. With
`base_retry_backoff_ms = -1` the first retried failure makes `time.sleep` raise: one
`put_log_raw` call of the eleven the configuration allows, and no sleep of
`min(base * 2^0, max)` ms. With `base = 100` over `max = 50` the first backoff is
slept whole, 100 ms, above the cap. -/
theorem sendChunk_off_schedule :
    negativeBackoffConfig.validate = .ok () ∧
      (sendChunk negativeBackoffConfig (.always .otherException) []).ending =
        .raised (.valueError "sleep length must be non-negative") ∧
      (sendChunk negativeBackoffConfig (.always .otherException) []).payloads.length = 1 ∧
      (sendChunk negativeBackoffConfig (.always .otherException) []).sleeps = [] ∧
      attempts negativeBackoffConfig = 11 ∧
      baseAboveCapConfig.validate = .ok () ∧
      (sendChunk baseAboveCapConfig failOnceOutside []).sleeps = [100] ∧
      baseAboveCapConfig.maxRetryBackoffMs < 100 :=
  ⟨rfl, rfl, rfl, rfl, rfl, rfl, rfl, by decide⟩

/-! ### How long a chunk can sleep

`_send_chunk` sleeps only between a retried failure and the next call, so at most
`retries` times; the first sleep is `base_retry_backoff_ms` and every later one is
capped at `max_retry_backoff_ms`; and a backoff `time.sleep` refuses raises instead
of sleeping. This bounds the time `flush()`, `close()` and the exit hook spend in
backoff, for every configuration `validate` accepts. -/

theorem lt_retries_of_afterAttempt {attempt : Nat} {outcome : PutOutcome}
    (retried : afterAttempt cfg attempt outcome = .retry) : (attempt : Int) < cfg.retries := by
  cases outcome with
  | ok => cases retried
  | logException errorCode respStatus =>
    simp only [afterAttempt] at retried
    split_ifs at retried with stop
    simp only [Bool.or_eq_true, decide_eq_true_eq, not_or] at stop
    omega
  | otherException =>
    simp only [afterAttempt] at retried
    split_ifs at retried with stop
    omega

/-- From attempt `attempt` on, the loop sleeps once per attempt before `retries`
at most, and each sleep lasts between nothing and the larger of the current backoff
and the cap. -/
theorem retryLoop_sleeps_bounded (topicId : String) (payload : LogGroupList) :
    ∀ (attempt left : Nat) (backoffMs : Int),
      (retryLoop cfg out (.putLogRaw topicId payload) attempt left backoffMs).sleeps.length ≤
          (cfg.retries - attempt).toNat ∧
        ∀ ms ∈ (retryLoop cfg out (.putLogRaw topicId payload) attempt left backoffMs).sleeps,
          0 ≤ ms ∧ ms ≤ max backoffMs cfg.maxRetryBackoffMs
  | _, 0, _ => by simp [retryLoop, ChunkRun.sleeps]
  | attempt, left + 1, backoffMs => by
    obtain ⟨count, each⟩ :=
      retryLoop_sleeps_bounded topicId payload (attempt + 1) left
        (min (backoffMs * 2) cfg.maxRetryBackoffMs)
    unfold retryLoop
    split
    · simp [ChunkRun.sleeps, ChunkEffect.sleepMs?]
    · simp [ChunkRun.sleeps, ChunkEffect.sleepMs?]
    · rename_i retried
      have below := lt_retries_of_afterAttempt retried
      split
      · simp [ChunkRun.sleeps, ChunkEffect.sleepMs?]
      · rename_i slept
        have range : 0 ≤ backoffMs := by
          unfold sleep at slept
          split_ifs at slept
          omega
        simp only [ChunkRun.sleeps, List.filterMap_cons, ChunkEffect.sleepMs?, List.length_cons,
          List.mem_cons] at count each ⊢
        refine ⟨by omega, ?_⟩
        rintro ms (rfl | later)
        · exact ⟨range, le_max_left _ _⟩
        · have := each ms later
          omega

/-- Whatever the configuration and whatever each `put_log_raw` call does, one
`_send_chunk` sleeps at most `retries` times, each time for between nothing and the
larger of `base_retry_backoff_ms` and `max_retry_backoff_ms` milliseconds. -/
theorem sendChunk_sleeps_bounded (entries : List LogEntry) :
    (sendChunk cfg out entries).sleeps.length ≤ cfg.retries.toNat ∧
      ∀ ms ∈ (sendChunk cfg out entries).sleeps,
        0 ≤ ms ∧ ms ≤ max cfg.baseRetryBackoffMs cfg.maxRetryBackoffMs := by
  unfold sendChunk
  split
  · simp [ChunkRun.sleeps]
  · simpa using retryLoop_sleeps_bounded cfg.topicId _ 0 (attempts cfg) cfg.baseRetryBackoffMs

end ScfLog
