import ScfLog.SendBatch

/-!
# The producer as a machine of threads

An `AsyncProducer` is shared by one flush thread, started in `__init__`, and any
number of client threads calling `send`, `flush` and `close`. Each block the code
runs under `_lock` is one step here, and so is each unlocked read or write of
`_closed`. The waits on `_not_empty` and `_not_full` release the lock, so beginning
a wait and waking from it are steps of their own. A wait with a timeout may end at
any moment — by a notify, or by the clock — so a wake-up is a step that is always
enabled, and whether a deadline has passed is a choice the step is given
(`timedOut`). A wait whose timeout is too long for CPython's 64-bit nanosecond count
raises `OverflowError` instead: the linger wait when `linger_ms` exceeds
`maxTimeoutMs`, which ends the flush thread, and the wait of a blocked `send` when
`max_block_sec` exceeds `maxTimeoutSec`, which ends that `send` with its entry in no
counter. A `_send_chunk` call is one step: between its lock-protected counter
updates no other thread's step reads the counters.

The model takes the producer's own log records, those of `scf_log.producer`, to go
to handlers that do not send to this producer. A `CLSHandler` on the root logger,
which is what `setup_cls_logging` installs by default, receives them; there the
warning a drop logs while `_lock` is held re-enters `send`, which blocks on that
same lock forever.

The state holds what the code holds — the buffer, its byte count, `_closed`, the
counters, where every thread is — and history fields that no code reads and that
record the run so far: each `send` past its `_closed` test, each append, each
non-empty drain, each chunk handed to `_send_chunk`, and the entries that reached
no counter.

## Main definitions

* `ScfLog.FlushPc`, `ScfLog.ClientPc` — where the flush thread and a client thread are
* `ScfLog.Producer` — the shared state, the threads, and the history
* `ScfLog.maxTimeoutSec` — the longest `max_block_sec` the wait of `send` accepts
* `ScfLog.Action`, `ScfLog.step` — one atomic step of one thread
* `ScfLog.newProducer` — `AsyncProducer.__init__`
* `ScfLog.Reachable` — the states the runs a predicate allows reach
* `ScfLog.run` — a list of steps taken in order, for replaying a schedule
-/

namespace ScfLog

/-- Where the flush thread is in `_flush_loop`. -/
inductive FlushPc
  /-- about to test `while not self._closed` -/
  | loopTest
  /-- past the test, about to take `_not_empty` and wait -/
  | waitBegin
  /-- inside `_not_empty.wait(timeout=linger_sec)` -/
  | lingering
  /-- inside `_send_batch`, with these chunks still to send -/
  | sending (chunks : List (List LogEntry))
  /-- the loop has ended -/
  | exited
  /-- an exception has ended the thread -/
  | crashed
  deriving DecidableEq

/-- Where a client thread is. -/
inductive ClientPc
  | idle
  /-- in `send`, past the `_closed` test, about to take `_not_full` -/
  | admitting (entry : LogEntry)
  /-- in `send`, inside `_not_full.wait` -/
  | blocked (entry : LogEntry)
  /-- in `flush`, inside `_send_batch` with these chunks still to send; `closing`
  when this `flush` is the one `close` makes -/
  | flushing (chunks : List (List LogEntry)) (closing : Bool)
  /-- in `close`, past the `_closed` test -/
  | closeMarking
  /-- in `close`, `_closed` set, about to notify `_not_empty` -/
  | closeNotifying
  /-- in `close`, inside `_flush_thread.join` -/
  | closeJoining
  /-- in `close`, about to call `flush` -/
  | closeFlushing
  deriving DecidableEq

/-- An `AsyncProducer` and its threads, with the history of the run. -/
structure Producer where
  buffer : List LogEntry
  bufferSize : Nat
  closed : Bool
  stats : ProducerStats
  flusher : FlushPc
  clients : List ClientPc
  /-- each `send` past its `_closed` test, with its thread and entry -/
  calls : List (Nat × LogEntry)
  /-- the `send` calls the `_closed` test turned away -/
  closedRejects : Nat
  /-- each append to `_buffer`, with the appending thread -/
  appended : List (Nat × LogEntry)
  /-- each non-empty list `_drain_buffer` returned -/
  drains : List (List LogEntry)
  /-- each chunk handed to `_send_chunk` -/
  sent : List (List LogEntry)
  /-- the entries of chunks recorded as failed -/
  failedLogs : Nat
  /-- the entries that left `_buffer` and reached no counter: never handed to
  `_send_chunk`, or handed to one that raised -/
  lostLogs : Nat
  /-- the `send` calls whose wait on `_not_full` raised, their entry neither
  appended nor dropped -/
  raisedSends : Nat
  /-- the exceptions that escaped `_send_batch` -/
  raises : Nat
  /-- whether a `close` that set `_closed` has returned -/
  closeReturned : Bool

/-- Whether a `_send_chunk` ended in a recorded failure. -/
def ChunkEnd.isFailed : ChunkEnd → Bool
  | .failed => true
  | _ => false

/-- Whether a `_send_chunk` raised. -/
def ChunkEnd.isRaised : ChunkEnd → Bool
  | .raised _ => true
  | _ => false

/-- A client once its `flush` has `progress` left: idle when the call returned or
raised, still inside `_send_batch` otherwise. -/
def ClientPc.resume (closing : Bool) : Option (List (List LogEntry)) → ClientPc
  | some (chunk :: rest) => .flushing (chunk :: rest) closing
  | _ => .idle

/-! ### One element of a list replaced

A step of client `t` replaces the `t`-th position of `clients`; these lemmas say
what that does to anything computed position by position. -/

section SetFlatMap

variable {α β : Type} {l : List α} {t : Nat} {old : α}

/-- The list around position `t`, before and after replacing it. -/
theorem flatMap_set_split (f : α → List β) (at_t : l[t]? = some old) (new : α) :
    l.flatMap f = (l.take t).flatMap f ++ f old ++ (l.drop (t + 1)).flatMap f ∧
      (l.set t new).flatMap f = (l.take t).flatMap f ++ f new ++ (l.drop (t + 1)).flatMap f := by
  obtain ⟨below, rfl⟩ := List.getElem?_eq_some_iff.mp at_t
  constructor
  · conv_lhs => rw [← List.take_append_drop t l, List.drop_eq_getElem_cons below]
    simp only [List.flatMap_append, List.flatMap_cons, List.append_assoc]
  · rw [List.set_eq_take_append_cons_drop, if_pos below]
    simp only [List.flatMap_append, List.flatMap_cons, List.append_assoc]

theorem flatMap_set_of_eq (f : α → List β) (at_t : l[t]? = some old) {new : α}
    (same : f new = f old) : (l.set t new).flatMap f = l.flatMap f := by
  obtain ⟨before, after⟩ := flatMap_set_split f at_t new
  rw [after, before, same]

/-- When only the replaced element contributes, the replacement is all that is left. -/
theorem flatMap_set_of_only (f : α → List β) (at_t : l[t]? = some old) {new : α}
    (only : l.flatMap f = f old) : (l.set t new).flatMap f = f new := by
  obtain ⟨before, after⟩ := flatMap_set_split f at_t new
  have lengths := congrArg List.length (before.symm.trans only)
  simp only [List.length_append] at lengths
  have none : (l.take t).flatMap f = [] := List.eq_nil_of_length_eq_zero (by omega)
  have noneAfter : (l.drop (t + 1)).flatMap f = [] := List.eq_nil_of_length_eq_zero (by omega)
  simp [after, none, noneAfter]

/-- Replacing one element trades its contribution for the new one's. -/
theorem perm_flatMap_set [DecidableEq β] (f : α → List β) (at_t : l[t]? = some old) (new : α) :
    List.Perm ((l.set t new).flatMap f ++ f old) (l.flatMap f ++ f new) := by
  obtain ⟨before, after⟩ := flatMap_set_split f at_t new
  rw [before, after]
  exact List.perm_iff_count.mpr fun y => by simp only [List.count_append]; omega

end SetFlatMap

/-- The longest `max_block_sec`, in whole seconds, for which the timeout of
`_not_full.wait`, which is at most `max_block_sec`, fits CPython's 64-bit count of
nanoseconds; for a longer one `remaining` exceeds it, and the wait raises
`OverflowError`. -/
def maxTimeoutSec : Int := 9223372036

namespace Producer

/-- The producer `__init__` leaves, with `threads` client threads. -/
def init (threads : Nat) : Producer where
  buffer := []
  bufferSize := 0
  closed := false
  stats := {}
  flusher := .loopTest
  clients := List.replicate threads .idle
  calls := []
  closedRejects := 0
  appended := []
  drains := []
  sent := []
  failedLogs := 0
  lostLogs := 0
  raisedSends := 0
  raises := 0
  closeReturned := false

/-- Client `t` moves to `pc`. -/
@[simps]
def setClient (s : Producer) (t : Nat) (pc : ClientPc) : Producer :=
  { s with clients := s.clients.set t pc }

/-- The capacity test of `send`: `self._buffer_size + entry.size > self._config.total_size_bytes`. -/
def overCapacity (cfg : CLSConfig) (s : Producer) (entry : LogEntry) : Bool :=
  cfg.totalSizeBytes < ((s.bufferSize + entry.size : Nat) : Int)

/-- One pass of the locked block of `send` for client `t`'s `entry`: append it when
it fits; otherwise wait on `_not_full` when blocking and the deadline has not
passed, and drop it when not blocking or past the deadline. The wait's timeout is
at most `max_block_sec`, and nearly all of it on the first pass: above
`maxTimeoutSec` the wait raises, and `send` with it. -/
def sendLocked (cfg : CLSConfig) (s : Producer) (t : Nat) (entry : LogEntry) (blocking timedOut : Bool) :
    Producer :=
  if s.overCapacity cfg entry then
    if blocking && !timedOut then
      if maxTimeoutSec < cfg.maxBlockSec then { s.setClient t .idle with raisedSends := s.raisedSends + 1 }
      else s.setClient t (.blocked entry)
    else { s.setClient t .idle with stats := s.stats.incrDrop 1 }
  else
    { s.setClient t .idle with
      buffer := s.buffer ++ [entry]
      bufferSize := s.bufferSize + entry.size
      appended := s.appended ++ [(t, entry)] }

/-- `_drain_buffer` on a non-empty buffer: take it and reset the byte count. -/
@[simps]
def takeBuffer (s : Producer) : Producer :=
  { s with buffer := [], bufferSize := 0, drains := s.drains ++ [s.buffer] }

/-- The start of `_send_batch batch`: the chunks to send, or `none` when `range()`
raised. Entries no chunk holds are lost, and a raise is counted. -/
@[simps]
def startBatch (cfg : CLSConfig) (s : Producer) (batch : List LogEntry) :
    Option (List (List LogEntry)) × Producer :=
  ((batchChunks cfg batch).toOption,
    { s with
      lostLogs := s.lostLogs + (batch.length - ((batchChunks cfg batch).toOption.getD []).flatten.length)
      raises := s.raises + if (batchChunks cfg batch).isOk then 0 else 1 })

/-- `entries = self._drain_buffer(); if entries: self._send_batch(entries)`, up to the
first chunk: the chunks left to send (`some []` when there is nothing to send), or
`none` when `_send_batch` raised. -/
def drainAndStart (cfg : CLSConfig) (s : Producer) : Option (List (List LogEntry)) × Producer :=
  if s.buffer.isEmpty then (some [], s) else s.takeBuffer.startBatch cfg s.buffer

section DrainFrame

variable {cfg : CLSConfig} {s : Producer}

@[simp] theorem drainAndStart_clients : (s.drainAndStart cfg).2.clients = s.clients := by
  unfold drainAndStart; split <;> rfl

@[simp] theorem drainAndStart_flusher : (s.drainAndStart cfg).2.flusher = s.flusher := by
  unfold drainAndStart; split <;> rfl

@[simp] theorem drainAndStart_closed : (s.drainAndStart cfg).2.closed = s.closed := by
  unfold drainAndStart; split <;> rfl

@[simp] theorem drainAndStart_closeReturned :
    (s.drainAndStart cfg).2.closeReturned = s.closeReturned := by
  unfold drainAndStart; split <;> rfl

@[simp] theorem drainAndStart_calls : (s.drainAndStart cfg).2.calls = s.calls := by
  unfold drainAndStart; split <;> rfl

@[simp] theorem drainAndStart_appended : (s.drainAndStart cfg).2.appended = s.appended := by
  unfold drainAndStart; split <;> rfl

@[simp] theorem drainAndStart_stats : (s.drainAndStart cfg).2.stats = s.stats := by
  unfold drainAndStart; split <;> rfl

@[simp] theorem drainAndStart_sent : (s.drainAndStart cfg).2.sent = s.sent := by
  unfold drainAndStart; split <;> rfl

@[simp] theorem drainAndStart_failedLogs : (s.drainAndStart cfg).2.failedLogs = s.failedLogs := by
  unfold drainAndStart; split <;> rfl

@[simp] theorem drainAndStart_closedRejects :
    (s.drainAndStart cfg).2.closedRejects = s.closedRejects := by
  unfold drainAndStart; split <;> rfl

@[simp] theorem drainAndStart_raisedSends : (s.drainAndStart cfg).2.raisedSends = s.raisedSends := by
  unfold drainAndStart; split <;> rfl

end DrainFrame

/-- One `_send_chunk(chunk)` inside `_send_batch`, with `rest` to follow: the chunks
left afterwards, or `none` when it raised and ended `_send_batch`. The counters
record its ending; the entries of a failed chunk are failed logs, and a raise loses
this chunk and the rest. -/
@[simps]
def chunkStep (cfg : CLSConfig) (out : Outside) (s : Producer)
    (chunk : List LogEntry) (rest : List (List LogEntry)) : Option (List (List LogEntry)) × Producer :=
  let ending := (sendChunk cfg out chunk).ending
  (if ending.isRaised then none else some rest,
    { s with
      sent := s.sent ++ [chunk]
      stats := ending.record chunk.length s.stats
      failedLogs := s.failedLogs + if ending.isFailed then chunk.length else 0
      lostLogs := s.lostLogs + if ending.isRaised then chunk.length + rest.flatten.length else 0
      raises := s.raises + if ending.isRaised then 1 else 0 })

/-- Client `t` once its `flush` has `progress` left: it returns — and `close` with it
when `closing` — or goes on to the next chunk, or the exception ends the call. -/
@[simps]
def clientResume (s : Producer) (t : Nat) (closing : Bool)
    (progress : Option (List (List LogEntry))) : Producer :=
  { s.setClient t (ClientPc.resume closing progress) with
    closeReturned := s.closeReturned || (closing && decide (progress = some [])) }

end Producer

/-- The flush thread once `_send_batch` has `progress` left: back to the loop test
when it returned, on to the next chunk, or dead when it raised. -/
def FlushPc.resume : Option (List (List LogEntry)) → FlushPc
  | none => .crashed
  | some [] => .loopTest
  | some (chunk :: rest) => .sending (chunk :: rest)

/-- Whether `join` on the flush thread returns without a timeout. -/
def FlushPc.terminated : FlushPc → Bool
  | .exited | .crashed => true
  | _ => false

/-- One atomic step of one thread. The client steps name their thread. -/
inductive Action
  /-- `send(fields, timestamp_us)`: the `_closed` test -/
  | send (t : Nat) (fields : PyDict) (timestampUs : Int)
  /-- the locked admission block of `send`, first pass or after a wake-up -/
  | sendLocked (t : Nat) (timedOut : Bool)
  /-- `flush()`: `_drain_buffer` and the start of `_send_batch` -/
  | flush (t : Nat)
  /-- `close()`: the `_closed` test -/
  | close (t : Nat)
  /-- `self._closed = True` -/
  | closeMark (t : Nat)
  /-- `self._not_empty.notify()` -/
  | closeNotify (t : Nat)
  /-- `self._flush_thread.join(timeout)` returning -/
  | closeJoin (t : Nat) (timedOut : Bool)
  /-- the `flush()` of `close` -/
  | closeFlush (t : Nat)
  /-- one `_send_chunk` of a client's `flush`, meeting `out` -/
  | clientChunk (t : Nat) (out : Outside)
  /-- `while not self._closed` -/
  | loopTest
  /-- `with self._not_empty: self._not_empty.wait(timeout=linger_sec)`, up to the wait -/
  | beginWait
  /-- the wait ends; `_drain_buffer` and the start of `_send_batch` -/
  | wakeUp
  /-- one `_send_chunk` of the flush thread, meeting `out` -/
  | flusherChunk (out : Outside)

open Producer in
/-- One step, or `none` when the thread is not where the step starts. -/
def step (cfg : CLSConfig) (s : Producer) : Action → Option Producer
  | .send t fields timestampUs =>
    match s.clients[t]? with
    | some .idle =>
      if s.closed then some { s with closedRejects := s.closedRejects + 1 }
      else
        let entry := LogEntry.new timestampUs fields
        some { s.setClient t (.admitting entry) with calls := s.calls ++ [(t, entry)] }
    | _ => none
  | .sendLocked t timedOut =>
    match s.clients[t]? with
    | some (.admitting entry) => some (s.sendLocked cfg t entry (0 < cfg.maxBlockSec) timedOut)
    | some (.blocked entry) => some (s.sendLocked cfg t entry true timedOut)
    | _ => none
  | .flush t =>
    match s.clients[t]? with
    | some .idle => some ((s.drainAndStart cfg).2.clientResume t false (s.drainAndStart cfg).1)
    | _ => none
  | .close t =>
    match s.clients[t]? with
    | some .idle => some (if s.closed then s else s.setClient t .closeMarking)
    | _ => none
  | .closeMark t =>
    match s.clients[t]? with
    | some .closeMarking => some { s.setClient t .closeNotifying with closed := true }
    | _ => none
  | .closeNotify t =>
    match s.clients[t]? with
    | some .closeNotifying => some (s.setClient t .closeJoining)
    | _ => none
  | .closeJoin t timedOut =>
    match s.clients[t]? with
    | some .closeJoining =>
      if timedOut || s.flusher.terminated then some (s.setClient t .closeFlushing) else none
    | _ => none
  | .closeFlush t =>
    match s.clients[t]? with
    | some .closeFlushing => some ((s.drainAndStart cfg).2.clientResume t true (s.drainAndStart cfg).1)
    | _ => none
  | .clientChunk t out =>
    match s.clients[t]? with
    | some (.flushing (chunk :: rest) closing) =>
      some ((s.chunkStep cfg out chunk rest).2.clientResume t closing
        (s.chunkStep cfg out chunk rest).1)
    | _ => none
  | .loopTest =>
    match s.flusher with
    | .loopTest => some { s with flusher := if s.closed then .exited else .waitBegin }
    | _ => none
  | .beginWait =>
    match s.flusher with
    | .waitBegin => some { s with flusher := if maxTimeoutMs < cfg.lingerMs then .crashed else .lingering }
    | _ => none
  | .wakeUp =>
    match s.flusher with
    | .lingering =>
      some { (s.drainAndStart cfg).2 with flusher := FlushPc.resume (s.drainAndStart cfg).1 }
    | _ => none
  | .flusherChunk out =>
    match s.flusher with
    | .sending (chunk :: rest) =>
      some { (s.chunkStep cfg out chunk rest).2 with
        flusher := FlushPc.resume (s.chunkStep cfg out chunk rest).1 }
    | _ => none

/-- `AsyncProducer(config)`, with `threads` client threads: `validate`, then an
empty buffer and the flush thread at its loop test. -/
def newProducer (cfg : CLSConfig) (threads : Nat) : Except PyError Producer := do
  cfg.validate
  pure (Producer.init threads)

/-- The states reached from a new producer by runs whose every step `allowed` permits. -/
inductive Reachable (cfg : CLSConfig) (allowed : Producer → Action → Prop) : Producer → Prop
  | init {threads : Nat} {s : Producer} : newProducer cfg threads = .ok s → Reachable cfg allowed s
  | next {s s' : Producer} {a : Action} :
      Reachable cfg allowed s → allowed s a → step cfg s a = some s' → Reachable cfg allowed s'

/-- The state after taking `actions` in order, when each step is enabled. -/
def run (cfg : CLSConfig) : Producer → List Action → Option Producer
  | s, [] => some s
  | s, a :: rest => (step cfg s a).bind (run cfg · rest)

variable {cfg : CLSConfig} {allowed : Producer → Action → Prop} {s s' : Producer}

/-! ### What each step does

One lemma per action says where the step starts and what it leaves; every
invariant below is proved from these and never unfolds `step`. -/

section StepInversion

variable {t : Nat}

theorem step_send {fields : PyDict} {timestampUs : Int}
    (stepped : step cfg s (.send t fields timestampUs) = some s') :
    s.clients[t]? = some .idle ∧
      (s.closed = true ∧ s' = { s with closedRejects := s.closedRejects + 1 } ∨
        s.closed = false ∧
          s' = { s.setClient t (.admitting (LogEntry.new timestampUs fields)) with
            calls := s.calls ++ [(t, LogEntry.new timestampUs fields)] }) := by
  simp only [step] at stepped
  split at stepped <;> try cases stepped
  split at stepped <;> cases stepped
  · exact ⟨‹_›, .inl ⟨‹_›, rfl⟩⟩
  · exact ⟨‹_›, .inr ⟨Bool.eq_false_iff.mpr ‹_›, rfl⟩⟩

theorem step_sendLocked {timedOut : Bool} (stepped : step cfg s (.sendLocked t timedOut) = some s') :
    ∃ entry, s.clients[t]? = some (.admitting entry) ∧
        s' = s.sendLocked cfg t entry (0 < cfg.maxBlockSec) timedOut ∨
      s.clients[t]? = some (.blocked entry) ∧ s' = s.sendLocked cfg t entry true timedOut := by
  simp only [step] at stepped
  split at stepped <;> cases stepped
  · exact ⟨_, .inl ⟨‹_›, rfl⟩⟩
  · exact ⟨_, .inr ⟨‹_›, rfl⟩⟩

theorem step_flush (stepped : step cfg s (.flush t) = some s') :
    s.clients[t]? = some .idle ∧
      s' = (s.drainAndStart cfg).2.clientResume t false (s.drainAndStart cfg).1 := by
  simp only [step] at stepped
  split at stepped <;> cases stepped
  exact ⟨‹_›, rfl⟩

theorem step_close (stepped : step cfg s (.close t) = some s') :
    s.clients[t]? = some .idle ∧ s' = if s.closed then s else s.setClient t .closeMarking := by
  simp only [step] at stepped
  split at stepped <;> cases stepped
  exact ⟨‹_›, rfl⟩

theorem step_closeMark (stepped : step cfg s (.closeMark t) = some s') :
    s.clients[t]? = some .closeMarking ∧
      s' = { s.setClient t .closeNotifying with closed := true } := by
  simp only [step] at stepped
  split at stepped <;> cases stepped
  exact ⟨‹_›, rfl⟩

theorem step_closeNotify (stepped : step cfg s (.closeNotify t) = some s') :
    s.clients[t]? = some .closeNotifying ∧ s' = s.setClient t .closeJoining := by
  simp only [step] at stepped
  split at stepped <;> cases stepped
  exact ⟨‹_›, rfl⟩

theorem step_closeJoin {timedOut : Bool} (stepped : step cfg s (.closeJoin t timedOut) = some s') :
    s.clients[t]? = some .closeJoining ∧ (timedOut || s.flusher.terminated) = true ∧
      s' = s.setClient t .closeFlushing := by
  simp only [step] at stepped
  split at stepped <;> try split at stepped
  all_goals cases stepped
  exact ⟨‹_›, ‹_›, rfl⟩

theorem step_closeFlush (stepped : step cfg s (.closeFlush t) = some s') :
    s.clients[t]? = some .closeFlushing ∧
      s' = (s.drainAndStart cfg).2.clientResume t true (s.drainAndStart cfg).1 := by
  simp only [step] at stepped
  split at stepped <;> cases stepped
  exact ⟨‹_›, rfl⟩

theorem step_clientChunk {out : Outside}
    (stepped : step cfg s (.clientChunk t out) = some s') :
    ∃ chunk rest closing, s.clients[t]? = some (.flushing (chunk :: rest) closing) ∧
      s' = (s.chunkStep cfg out chunk rest).2.clientResume t closing
        (s.chunkStep cfg out chunk rest).1 := by
  simp only [step] at stepped
  split at stepped <;> cases stepped
  exact ⟨_, _, _, ‹_›, rfl⟩

theorem step_loopTest (stepped : step cfg s .loopTest = some s') :
    s.flusher = .loopTest ∧ s' = { s with flusher := if s.closed then .exited else .waitBegin } := by
  simp only [step] at stepped
  split at stepped <;> cases stepped
  exact ⟨‹_›, rfl⟩

theorem step_beginWait (stepped : step cfg s .beginWait = some s') :
    s.flusher = .waitBegin ∧
      s' = { s with flusher := if maxTimeoutMs < cfg.lingerMs then .crashed else .lingering } := by
  simp only [step] at stepped
  split at stepped <;> cases stepped
  exact ⟨‹_›, rfl⟩

theorem step_wakeUp (stepped : step cfg s .wakeUp = some s') :
    s.flusher = .lingering ∧
      s' = { (s.drainAndStart cfg).2 with flusher := FlushPc.resume (s.drainAndStart cfg).1 } := by
  simp only [step] at stepped
  split at stepped <;> cases stepped
  exact ⟨‹_›, rfl⟩

theorem step_flusherChunk {out : Outside}
    (stepped : step cfg s (.flusherChunk out) = some s') :
    ∃ chunk rest, s.flusher = .sending (chunk :: rest) ∧
      s' = { (s.chunkStep cfg out chunk rest).2 with
        flusher := FlushPc.resume (s.chunkStep cfg out chunk rest).1 } := by
  simp only [step] at stepped
  split at stepped <;> cases stepped
  exact ⟨_, _, ‹_›, rfl⟩

end StepInversion

theorem newProducer_eq_ok {threads : Nat} (valid : cfg.validate = .ok ()) :
    newProducer cfg threads = .ok (Producer.init threads) := by
  simp [newProducer, valid]

theorem eq_init_of_newProducer {threads : Nat} (built : newProducer cfg threads = .ok s) :
    s = Producer.init threads := by
  unfold newProducer at built
  cases valid : cfg.validate <;> simp_all

/-- A run of `a :: rest` is a step by `a` and then a run of `rest`. -/
theorem run_cons_eq_some {a : Action} {rest : List Action} :
    run cfg s (a :: rest) = some s' ↔
      ∃ mid, step cfg s a = some mid ∧ run cfg mid rest = some s' := by
  simp only [run, Option.bind_eq_some]

/-- A replayed schedule whose steps are all permitted ends in a reachable state. -/
theorem reachable_of_run {actions : List Action} (start : Reachable cfg allowed s)
    (permitted : ∀ t, Reachable cfg allowed t → ∀ a ∈ actions, allowed t a)
    (replayed : run cfg s actions = some s') : Reachable cfg allowed s' := by
  induction actions generalizing s with
  | nil => cases replayed; exact start
  | cons a rest ih =>
    obtain ⟨mid, stepped, replayed⟩ := run_cons_eq_some.mp replayed
    exact ih (.next start (permitted s start a (List.mem_cons_self _ _)) stepped)
      (fun t reach b mem => permitted t reach b (List.mem_cons_of_mem _ mem)) replayed

/-- The state a schedule reaches from a new producer with `threads` clients, or the
new producer when some step of it is not enabled. -/
def replay (cfg : CLSConfig) (threads : Nat) (actions : List Action) : Producer :=
  (run cfg (Producer.init threads) actions).getD (Producer.init threads)

theorem reachable_replay {threads : Nat} {actions : List Action} (valid : cfg.validate = .ok ())
    (permitted : ∀ a ∈ actions, ∀ t, allowed t a)
    (enabled : (run cfg (Producer.init threads) actions).isSome) :
    Reachable cfg allowed (replay cfg threads actions) := by
  obtain ⟨final, ran⟩ := Option.isSome_iff_exists.mp enabled
  rw [replay, ran, Option.getD_some]
  exact reachable_of_run (.init (newProducer_eq_ok valid)) (fun t _ a mem => permitted a mem t) ran

/-- Whether each step of `actions`, taken in order from `s`, is enabled and passes
`permits`: how a schedule is checked against a predicate on the state it runs in. -/
def runsWithin (cfg : CLSConfig) (permits : Producer → Action → Bool) : Producer → List Action → Bool
  | _, [] => true
  | s, a :: rest =>
    permits s a && match step cfg s a with
      | some mid => runsWithin cfg permits mid rest
      | none => false

/-- A schedule whose every step is enabled and passes a check that implies `allowed`
runs, step by step, to a reachable state. -/
theorem reachable_of_runsWithin {permits : Producer → Action → Bool}
    (sound : ∀ s a, permits s a = true → allowed s a) :
    ∀ {s : Producer} (actions : List Action), Reachable cfg allowed s →
      runsWithin cfg permits s actions = true →
      ∃ s', run cfg s actions = some s' ∧ Reachable cfg allowed s'
  | s, [], start, _ => ⟨s, rfl, start⟩
  | s, a :: rest, start, checked => by
    simp only [runsWithin, Bool.and_eq_true] at checked
    obtain ⟨permitted, continues⟩ := checked
    cases stepped : step cfg s a with
    | none => simp [stepped] at continues
    | some mid =>
      rw [stepped] at continues
      obtain ⟨final, ran, reach⟩ :=
        reachable_of_runsWithin sound rest (.next start (sound s a permitted) stepped) continues
      exact ⟨final, run_cons_eq_some.mpr ⟨mid, stepped, ran⟩, reach⟩

theorem reachable_replay_within {threads : Nat} {actions : List Action}
    {permits : Producer → Action → Bool} (valid : cfg.validate = .ok ())
    (sound : ∀ s a, permits s a = true → allowed s a)
    (checked : runsWithin cfg permits (Producer.init threads) actions = true) :
    Reachable cfg allowed (replay cfg threads actions) := by
  obtain ⟨final, ran, reach⟩ :=
    reachable_of_runsWithin sound actions (.init (newProducer_eq_ok valid)) checked
  rwa [replay, ran, Option.getD_some]

/-- A configuration `validate` accepts, every other field at its default. -/
def demoConfig : CLSConfig :=
  { topicId := "topic", host := "host", secretId := "id", secretKey := "key" }

theorem demoConfig_valid : demoConfig.validate = .ok () := rfl

/-- One log line with one field. -/
def demoFields : PyDict := ⟨[("msg", "hi")], by decide⟩

end ScfLog
