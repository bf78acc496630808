import ScfLog.Producer.Buffer

/-!
# Where every accepted `send` ends up

A `send` that passes the `_closed` test holds its entry until its locked block
appends or drops it, or until its wait on `_not_full` raises; `_drain_buffer` hands
the buffer to `_send_batch` as chunks, some of which `range()` may never produce;
and each `_send_chunk` records its chunk as delivered, as failed, or — when it
raises — loses it together with the chunks after it. So at every point each such
`send` is counted exactly once: in `log_count` or `drop_count`, among the entries
of failed or lost chunks, among the sends that raised, in `_buffer`, or held by a
thread. The sends the `_closed` test turns away are counted nowhere, although
`send` reports them as drops.

## Main definitions

* `ScfLog.ClientPc.held`, `ScfLog.FlushPc.held` — the entries a thread holds
* `ScfLog.Producer.tally` — everything an accepted `send` can have become

## Main results

* `ScfLog.step_tally` — a step adds to the tally exactly the `send`s it accepts
* `ScfLog.reachable_conserved` — the tally counts the accepted sends in every reachable state
* `ScfLog.closed_send_goes_uncounted` — a `send` after `close()` is counted nowhere
* `ScfLog.send_appends_after_close` — a `send` that passed the `_closed` test before
  `close()` appends after `close()` has returned, and its entry stays in `_buffer`
-/

namespace ScfLog

/-! ### The entries a thread holds -/

/-- The entries a client holds outside the buffer and the counters: the one its
`send` is about to append, or those of the chunks its `flush` has still to send. -/
def ClientPc.held : ClientPc → List LogEntry
  | .admitting entry | .blocked entry => [entry]
  | .flushing chunks _ => chunks.flatten
  | _ => []

/-- The entries of the chunks the flush thread has still to send. -/
def FlushPc.held : FlushPc → List LogEntry
  | .sending chunks => chunks.flatten
  | _ => []

@[simp] theorem ClientPc.held_resume (closing : Bool) (progress : Option (List (List LogEntry))) :
    (ClientPc.resume closing progress).held = (progress.getD []).flatten := by
  rcases progress with _ | _ | _ <;> rfl

@[simp] theorem FlushPc.held_resume (progress : Option (List (List LogEntry))) :
    (FlushPc.resume progress).held = (progress.getD []).flatten := by
  rcases progress with _ | _ | _ <;> rfl

theorem length_flatMap_set {l : List ClientPc} {t : Nat} {old : ClientPc} (new : ClientPc)
    (at_t : l[t]? = some old) :
    ((l.set t new).flatMap ClientPc.held).length + old.held.length =
      (l.flatMap ClientPc.held).length + new.held.length := by
  obtain ⟨before, after⟩ := flatMap_set_split ClientPc.held at_t new
  simp only [before, after, List.length_append]
  omega

namespace Producer

/-- The entries the threads hold. -/
def held (s : Producer) : List LogEntry := s.clients.flatMap ClientPc.held ++ s.flusher.held

/-- What the accepted `send`s have become: delivered, dropped, in failed or lost
chunks, raised out of their wait, buffered, or held by a thread. -/
def tally (s : Producer) : Nat :=
  s.stats.logCount + s.stats.dropCount + s.failedLogs + s.lostLogs + s.raisedSends +
    s.buffer.length + s.held.length

variable {t : Nat} {old : ClientPc}

@[simp] theorem tally_withCalls (s : Producer) (calls : List (Nat × LogEntry)) :
    { s with calls }.tally = s.tally := rfl

@[simp] theorem tally_withClosedRejects (s : Producer) (closedRejects : Nat) :
    { s with closedRejects }.tally = s.tally := rfl

@[simp] theorem tally_withClosed (s : Producer) (closed : Bool) : { s with closed }.tally = s.tally :=
  rfl

theorem tally_setClient {s : Producer} (at_t : s.clients[t]? = some old) (new : ClientPc) :
    (s.setClient t new).tally + old.held.length = s.tally + new.held.length := by
  have := length_flatMap_set new at_t
  simp only [tally, held, setClient_clients, setClient_stats, setClient_failedLogs,
    setClient_lostLogs, setClient_raisedSends, setClient_buffer, setClient_flusher, List.length_append]
  omega

theorem tally_setClient_of_length {s : Producer} (at_t : s.clients[t]? = some old) (new : ClientPc)
    (same : new.held.length = old.held.length) : (s.setClient t new).tally = s.tally := by
  have := tally_setClient at_t new
  omega

theorem tally_clientResume (s : Producer) (at_t : s.clients[t]? = some old) (closing : Bool)
    (progress : Option (List (List LogEntry))) :
    (s.clientResume t closing progress).tally + old.held.length =
      s.tally + (progress.getD []).flatten.length := by
  simpa using tally_setClient at_t (ClientPc.resume closing progress)

theorem tally_setFlusher (s : Producer) (pc : FlushPc) :
    { s with flusher := pc }.tally + s.flusher.held.length = s.tally + pc.held.length := by
  simp only [tally, held, List.length_append]
  omega

theorem tally_setFlusher_of_length (s : Producer) (pc : FlushPc)
    (same : pc.held.length = s.flusher.held.length) : { s with flusher := pc }.tally = s.tally := by
  have := tally_setFlusher s pc
  omega

@[simp] theorem sendLocked_calls (cfg : CLSConfig) (s : Producer) (entry : LogEntry)
    (blocking timedOut : Bool) : (s.sendLocked cfg t entry blocking timedOut).calls = s.calls := by
  unfold sendLocked
  split_ifs <;> rfl

/-- The locked block of `send` appends, drops, raises out of its wait, or keeps
waiting with the entry. -/
theorem tally_sendLocked (cfg : CLSConfig) {s : Producer} {entry : LogEntry}
    (at_t : s.clients[t]? = some old) (pending : old.held = [entry]) (blocking timedOut : Bool) :
    (s.sendLocked cfg t entry blocking timedOut).tally = s.tally := by
  have := tally_setClient at_t .idle
  rw [pending] at this
  simp only [ClientPc.held, List.length_singleton, List.length_nil] at this
  unfold sendLocked
  split_ifs
  rotate_left
  · exact tally_setClient_of_length at_t _ (by rw [pending]; rfl)
  all_goals
    simp only [tally, held, setClient_clients, setClient_stats, setClient_failedLogs,
      setClient_lostLogs, setClient_raisedSends, setClient_buffer, setClient_flusher,
      List.length_append, List.length_singleton, ProducerStats.incrDrop_logCount,
      ProducerStats.incrDrop_dropCount] at this ⊢
    omega

/-- The chunks `_send_batch` is given hold the batch's entries in order, or none of them. -/
theorem flatten_batchChunks_sublist (cfg : CLSConfig) (batch : List LogEntry) :
    ((batchChunks cfg batch).toOption.getD []).flatten.Sublist batch := by
  rcases Int.lt_trichotomy cfg.maxBatchCount 0 with neg | zero | pos
  · simp [batchChunks_of_neg neg, Except.toOption]
  · simp [batchChunks_of_zero zero, Except.toOption]
  · have flat : (batchChunks cfg batch).map List.flatten = .ok batch := flatten_batchChunks pos
    cases chunked : batchChunks cfg batch with
    | error => simp [Except.toOption]
    | ok chunks =>
      simp only [chunked, Except.map, Except.ok.injEq] at flat
      simp [Except.toOption, flat]

/-- The chunks `_send_batch` is given hold no more entries than the batch. -/
theorem length_flatten_batchChunks_le (cfg : CLSConfig) (batch : List LogEntry) :
    ((batchChunks cfg batch).toOption.getD []).flatten.length ≤ batch.length :=
  (flatten_batchChunks_sublist cfg batch).length_le

/-- A drain moves the buffer's entries into the chunks to send and the lost entries. -/
theorem drainAndStart_tally (cfg : CLSConfig) (s : Producer) :
    (s.drainAndStart cfg).2.tally + ((s.drainAndStart cfg).1.getD []).flatten.length = s.tally := by
  unfold drainAndStart
  split
  · simp
  · have := length_flatten_batchChunks_le cfg s.buffer
    simp only [tally, held, startBatch_fst, startBatch_snd_stats, startBatch_snd_failedLogs,
      startBatch_snd_lostLogs, startBatch_snd_raisedSends, startBatch_snd_buffer,
      startBatch_snd_clients, startBatch_snd_flusher, takeBuffer_stats, takeBuffer_failedLogs,
      takeBuffer_lostLogs, takeBuffer_raisedSends, takeBuffer_buffer, takeBuffer_clients,
      takeBuffer_flusher, List.length_nil, List.length_append]
    omega

/-- One `_send_chunk` moves its chunk into a counter, and on a raise the rest with it. -/
theorem chunkStep_tally (cfg : CLSConfig) (s : Producer) (out : Outside)
    (chunk : List LogEntry) (rest : List (List LogEntry)) :
    (s.chunkStep cfg out chunk rest).2.tally +
        ((s.chunkStep cfg out chunk rest).1.getD []).flatten.length =
      s.tally + chunk.length + rest.flatten.length := by
  simp only [tally, held, chunkStep_fst, chunkStep_snd_stats, chunkStep_snd_failedLogs,
    chunkStep_snd_lostLogs, chunkStep_snd_raisedSends, chunkStep_snd_buffer, chunkStep_snd_clients,
    chunkStep_snd_flusher]
  cases (sendChunk cfg out chunk).ending <;>
    simp [ChunkEnd.isRaised, ChunkEnd.isFailed, ChunkEnd.record] <;> omega

/-- A client's `flush` that drains and starts `_send_batch`. -/
theorem tally_drainResume (cfg : CLSConfig) (s : Producer) (at_t : s.clients[t]? = some old)
    (idle : old.held = []) (closing : Bool) :
    ((s.drainAndStart cfg).2.clientResume t closing (s.drainAndStart cfg).1).tally = s.tally := by
  have resumed := tally_clientResume (s.drainAndStart cfg).2 (by simpa using at_t) closing
    (s.drainAndStart cfg).1
  have := drainAndStart_tally cfg s
  rw [idle, List.length_nil, Nat.add_zero] at resumed
  omega

/-- A client's `_send_chunk`, and its move to the next chunk or out of `flush`. -/
theorem tally_chunkResume (cfg : CLSConfig) (s : Producer) (out : Outside)
    {chunk : List LogEntry} {rest : List (List LogEntry)} {closing : Bool}
    (at_t : s.clients[t]? = some (.flushing (chunk :: rest) closing)) :
    ((s.chunkStep cfg out chunk rest).2.clientResume t closing
      (s.chunkStep cfg out chunk rest).1).tally = s.tally := by
  have resumed := tally_clientResume (s.chunkStep cfg out chunk rest).2 (by simpa using at_t)
    closing (s.chunkStep cfg out chunk rest).1
  have := chunkStep_tally cfg s out chunk rest
  simp only [ClientPc.held, List.flatten_cons, List.length_append] at resumed
  omega

/-- The flush thread's drain after its wait, and its start of `_send_batch`. -/
theorem tally_drainFlusher (cfg : CLSConfig) (s : Producer) (idle : s.flusher.held = []) :
    { (s.drainAndStart cfg).2 with flusher := FlushPc.resume (s.drainAndStart cfg).1 }.tally =
      s.tally := by
  have resumed := tally_setFlusher (s.drainAndStart cfg).2 (FlushPc.resume (s.drainAndStart cfg).1)
  have := drainAndStart_tally cfg s
  rw [FlushPc.held_resume, drainAndStart_flusher, idle, List.length_nil, Nat.add_zero] at resumed
  dsimp only
  omega

/-- The flush thread's `_send_chunk`, and its move to the next chunk or back to its loop. -/
theorem tally_chunkFlusher (cfg : CLSConfig) (s : Producer) (out : Outside)
    {chunk : List LogEntry} {rest : List (List LogEntry)}
    (sending : s.flusher = .sending (chunk :: rest)) :
    { (s.chunkStep cfg out chunk rest).2 with
        flusher := FlushPc.resume (s.chunkStep cfg out chunk rest).1 }.tally = s.tally := by
  have resumed := tally_setFlusher (s.chunkStep cfg out chunk rest).2
    (FlushPc.resume (s.chunkStep cfg out chunk rest).1)
  have := chunkStep_tally cfg s out chunk rest
  rw [FlushPc.held_resume, chunkStep_snd_flusher, sending] at resumed
  simp only [FlushPc.held, List.flatten_cons, List.length_append] at resumed
  dsimp only
  omega

end Producer

open Producer

variable {cfg : CLSConfig} {allowed : Producer → Action → Prop} {s s' : Producer} {a : Action}

/-! ### Each step keeps the count -/

theorem tally_of_keep (calls : s'.calls = s.calls) (kept : s'.tally = s.tally) :
    s'.calls.length + s.tally = s.calls.length + s'.tally := by
  rw [calls, kept]

/-- A step adds to the tally exactly the `send`s it lets past the `_closed` test. -/
theorem step_tally (stepped : step cfg s a = some s') :
    s'.calls.length + s.tally = s.calls.length + s'.tally := by
  cases a with
  | send t fields timestampUs =>
    obtain ⟨at_t, ⟨-, rfl⟩ | ⟨-, rfl⟩⟩ := step_send stepped
    · rfl
    · have := tally_setClient at_t (.admitting (LogEntry.new timestampUs fields))
      show (s.calls ++ _).length + s.tally = s.calls.length + (s.setClient t _).tally
      simp only [ClientPc.held, List.length_singleton, List.length_nil, List.length_append] at this ⊢
      omega
  | sendLocked t timedOut =>
    obtain ⟨entry, ⟨at_t, rfl⟩ | ⟨at_t, rfl⟩⟩ := step_sendLocked stepped <;>
      exact tally_of_keep (by simp) (tally_sendLocked cfg at_t rfl _ _)
  | flush t =>
    obtain ⟨at_t, rfl⟩ := step_flush stepped
    exact tally_of_keep (by simp) (tally_drainResume cfg s at_t rfl _)
  | closeFlush t =>
    obtain ⟨at_t, rfl⟩ := step_closeFlush stepped
    exact tally_of_keep (by simp) (tally_drainResume cfg s at_t rfl _)
  | close t =>
    obtain ⟨at_t, rfl⟩ := step_close stepped
    split
    · rfl
    · exact tally_of_keep (by simp) (tally_setClient_of_length at_t .closeMarking rfl)
  | closeMark t =>
    obtain ⟨at_t, rfl⟩ := step_closeMark stepped
    exact tally_of_keep (by simp) (tally_setClient_of_length at_t .closeNotifying rfl)
  | closeNotify t =>
    obtain ⟨at_t, rfl⟩ := step_closeNotify stepped
    exact tally_of_keep (by simp) (tally_setClient_of_length at_t .closeJoining rfl)
  | closeJoin t _ =>
    obtain ⟨at_t, -, rfl⟩ := step_closeJoin stepped
    exact tally_of_keep (by simp) (tally_setClient_of_length at_t .closeFlushing rfl)
  | clientChunk t out =>
    obtain ⟨_, _, _, at_t, rfl⟩ := step_clientChunk stepped
    exact tally_of_keep (by simp) (tally_chunkResume cfg s out at_t)
  | loopTest =>
    obtain ⟨at_flusher, rfl⟩ := step_loopTest stepped
    exact tally_of_keep rfl (tally_setFlusher_of_length s (if s.closed then .exited else .waitBegin)
      (by rw [at_flusher]; split <;> rfl))
  | beginWait =>
    obtain ⟨at_flusher, rfl⟩ := step_beginWait stepped
    exact tally_of_keep rfl (tally_setFlusher_of_length s _ (by rw [at_flusher]; split <;> rfl))
  | wakeUp =>
    obtain ⟨at_flusher, rfl⟩ := step_wakeUp stepped
    exact tally_of_keep (by simp) (tally_drainFlusher cfg s (by rw [at_flusher]; rfl))
  | flusherChunk out =>
    obtain ⟨_, _, sending, rfl⟩ := step_flusherChunk stepped
    exact tally_of_keep (by simp) (tally_chunkFlusher cfg s out sending)

@[simp] theorem held_init (threads : Nat) : (Producer.init threads).held = [] := by
  unfold held Producer.init
  simp [ClientPc.held, FlushPc.held]

theorem tally_init (threads : Nat) : (Producer.init threads).tally = 0 := by
  simp [tally, held, Producer.init, ClientPc.held, FlushPc.held]

theorem reachable_calls_eq_tally (reach : Reachable cfg allowed s) : s.calls.length = s.tally := by
  induction reach with
  | init built => rw [eq_init_of_newProducer built, tally_init]; rfl
  | next _ _ stepped conserved => have := step_tally stepped; omega

/-- In every reachable state each `send` that passed the `_closed` test is counted
exactly once: delivered in `log_count`, dropped in `drop_count`, in a chunk recorded
as failed, lost with a `_send_batch` that raised or never produced its chunk,
raised out of its wait on `_not_full`, still in `_buffer`, or held by a thread. -/
theorem reachable_conserved (reach : Reachable cfg allowed s) :
    s.calls.length = s.stats.logCount + s.stats.dropCount + s.failedLogs + s.lostLogs +
      s.raisedSends + s.buffer.length + s.held.length :=
  reachable_calls_eq_tally reach

/-- A configuration `validate` accepts with no room in the buffer and a blocking
time above `maxTimeoutSec`. -/
def overlongBlockConfig : CLSConfig := { demoConfig with totalSizeBytes := 0, maxBlockSec := 9223372037 }

/-- A client's `send` must wait for room; a second client's `send` is past its `_closed` test. -/
def blockedSendSchedule : List Action :=
  [.send 0 demoFields 1, .sendLocked 0 false, .send 1 demoFields 2]

theorem reachable_conserved_blockedSend :
    (replay overlongBlockConfig 2 blockedSendSchedule).calls.length =
      (replay overlongBlockConfig 2 blockedSendSchedule).stats.logCount +
        (replay overlongBlockConfig 2 blockedSendSchedule).stats.dropCount +
        (replay overlongBlockConfig 2 blockedSendSchedule).failedLogs +
        (replay overlongBlockConfig 2 blockedSendSchedule).lostLogs +
        (replay overlongBlockConfig 2 blockedSendSchedule).raisedSends +
        (replay overlongBlockConfig 2 blockedSendSchedule).buffer.length +
        (replay overlongBlockConfig 2 blockedSendSchedule).held.length :=
  reachable_conserved (reachable_replay rfl (fun _ _ _ => trivial) (by decide))

/-- The wait of the first `send` raises: its entry is neither appended nor dropped,
and only the sends that raised count it. -/
example :
    (replay overlongBlockConfig 2 blockedSendSchedule).raisedSends = 1 ∧
      (replay overlongBlockConfig 2 blockedSendSchedule).stats.dropCount = 0 ∧
      (replay overlongBlockConfig 2 blockedSendSchedule).buffer = [] := by
  decide

/-! ### A `send` after `close()` -/

/-- A step whose `put_log_raw` calls all return normally. -/
def Action.putSucceeds : Action → Prop
  | .clientChunk _ out | .flusherChunk out => ∀ attempt, out.put attempt = .ok
  | _ => True

/-- A `close` that runs to its end, then a `send` from another thread. -/
def closedSendSchedule : List Action :=
  [.close 0, .closeMark 0, .closeNotify 0, .loopTest, .closeJoin 0 false, .closeFlush 0,
    .send 1 demoFields 1]

/-- After `close` has returned and the flush thread has ended, a `send` from another
thread is turned away by the `_closed` test and counted nowhere: one `send` was
made, and `log_count + drop_count` is zero. -/
theorem closed_send_goes_uncounted :
    Reachable demoConfig (fun _ a => a.putSucceeds) (replay demoConfig 2 closedSendSchedule) ∧
      (replay demoConfig 2 closedSendSchedule).closeReturned = true ∧
      (replay demoConfig 2 closedSendSchedule).flusher = .exited ∧
      (replay demoConfig 2 closedSendSchedule).clients = [.idle, .idle] ∧
      (replay demoConfig 2 closedSendSchedule).calls.length +
          (replay demoConfig 2 closedSendSchedule).closedRejects = 1 ∧
      (replay demoConfig 2 closedSendSchedule).stats.logCount +
          (replay demoConfig 2 closedSendSchedule).stats.dropCount = 0 :=
  ⟨reachable_replay demoConfig_valid (by simp [closedSendSchedule, Action.putSucceeds]) (by decide),
    by decide, by decide, by decide, by decide, by decide⟩

/-- A `send` past its `_closed` test, then a whole `close()` from another thread. -/
def closeDuringSendSchedule : List Action :=
  [.send 0 demoFields 1, .close 1, .closeMark 1, .closeNotify 1, .loopTest, .closeJoin 1 false,
    .closeFlush 1]

/-- A `send` that passed the `_closed` test before `close()` ran appends its entry
after `close()` has set `_closed`, drained the buffer and returned, with the flush
thread gone: the entry stays in `_buffer`, and the `send` returns `True`. -/
theorem send_appends_after_close :
    Reachable demoConfig (fun _ _ => True) (replay demoConfig 2 closeDuringSendSchedule) ∧
      (replay demoConfig 2 closeDuringSendSchedule).closed = true ∧
      (replay demoConfig 2 closeDuringSendSchedule).closeReturned = true ∧
      (replay demoConfig 2 closeDuringSendSchedule).flusher = .exited ∧
      (replay demoConfig 2 closeDuringSendSchedule).buffer = [] ∧
      (step demoConfig (replay demoConfig 2 closeDuringSendSchedule) (.sendLocked 0 false)).map
          Producer.buffer = some [LogEntry.new 1 demoFields] :=
  ⟨reachable_replay demoConfig_valid (fun _ _ _ => trivial) (by decide), by decide, by decide,
    by decide, by decide, by decide⟩

end ScfLog
