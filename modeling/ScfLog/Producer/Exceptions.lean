import ScfLog.Producer.Accounting

/-!
# Exceptions that escape `_send_batch`

Inside `_send_chunk` only `put_log_raw` is guarded: `_build_log_group_list`, the
backoff `time.sleep` and, in `_send_batch`, `range()` are not. So an exception
escapes `_send_batch` exactly when the source or an entry does not render (a
timestamp outside `int64`, a key or a value with a lone surrogate), a backoff is
one `time.sleep` refuses at the clock's reading, or `max_batch_count` is zero; in
the flush thread it ends `_flush_loop`, and in `flush()` or `close()` it reaches
the caller. The flush thread also dies at its linger wait when `linger_ms` is too
long for `Condition.wait`. `validate` rules out none of these. The same conditions,
with a positive `max_batch_count`, are what keeps a run from losing entries.

## Main definitions

* `ScfLog.Producer.inFlight` — the entries in the buffer or in a thread's hands
* `ScfLog.Action.Fits` — a `send` whose entry renders, or a `_send_chunk` whose sleeps
  meet a clock below `2^62` ns
* `ScfLog.EntriesRender` — every entry in flight renders
* `ScfLog.Undisturbed` — nothing has raised out of `_send_batch`, and the flush thread runs

## Main results

* `ScfLog.step_inFlight` — a step brings in no entry but the one a `send` makes
* `ScfLog.undisturbed_step` — with a non-zero `max_batch_count`, backoffs `time.sleep`
  accepts, an encodable source and `linger_ms` within bounds, a fitting step keeps
  `Undisturbed`
* `ScfLog.sendBatch_never_raises` — under those conditions `_send_batch` returns,
  recording each chunk once, and no `_send_batch` of any thread ever raises
* `ScfLog.negative_backoff_ends_flush_thread` — a negative backoff, which
  `validate` accepts, makes the first retried failure end the flush thread
* `ScfLog.reachable_nothing_lost` — with a positive `max_batch_count` as well, no
  run loses an entry: each accepted `send` is delivered, dropped, failed, raised out
  of its wait, buffered or held
-/

namespace ScfLog

/-- A step that is not a `send` or a `_send_chunk`, a `send` whose entry renders, or
a `_send_chunk` that meets a monotonic clock below `2^62` ns at every sleep. -/
def Action.Fits (fieldMap : Option PyDict) : Action → Prop
  | .send _ fields timestampUs => Renders fieldMap (LogEntry.new timestampUs fields)
  | .clientChunk _ out | .flusherChunk out => ClockBelow out
  | _ => True

theorem batchChunks_eq_ok_of_ne_zero {cfg : CLSConfig} (entries : List LogEntry)
    (nonzero : cfg.maxBatchCount ≠ 0) : ∃ chunks, batchChunks cfg entries = .ok chunks := by
  unfold batchChunks pyRange
  split_ifs with zero
  · exact absurd zero nonzero
  all_goals exact ⟨_, rfl⟩

namespace Producer

/-- The entries in the buffer or in a thread's hands. -/
def inFlight (s : Producer) : List LogEntry := s.buffer ++ s.held

variable {cfg : CLSConfig} {s : Producer} {t : Nat} {old : ClientPc} {entry : LogEntry}

/-! ### Where entries in flight come from -/

theorem mem_held_setClient (new : ClientPc) (held_in : entry ∈ (s.setClient t new).held) :
    entry ∈ s.held ∨ entry ∈ new.held := by
  simp only [held, setClient_clients, setClient_flusher, List.mem_append, List.mem_flatMap]
    at held_in ⊢
  rcases held_in with ⟨pc, mem, inPc⟩ | inFlusher
  · rcases List.mem_or_eq_of_mem_set mem with mem | rfl
    · exact .inl (.inl ⟨pc, mem, inPc⟩)
    · exact .inr inPc
  · exact .inl (.inr inFlusher)

theorem mem_held_of_at (at_t : s.clients[t]? = some old) (inOld : entry ∈ old.held) :
    entry ∈ s.held := by
  simp only [held, List.mem_append, List.mem_flatMap]
  exact .inl ⟨old, List.getElem?_mem at_t, inOld⟩

theorem mem_held_clientResume {closing : Bool} {progress : Option (List (List LogEntry))}
    (held_in : entry ∈ (s.clientResume t closing progress).held) :
    entry ∈ s.held ∨ entry ∈ (progress.getD []).flatten := by
  simpa using mem_held_setClient (ClientPc.resume closing progress) held_in

theorem mem_held_setFlusher {pc : FlushPc} (held_in : entry ∈ { s with flusher := pc }.held) :
    entry ∈ s.held ∨ entry ∈ pc.held := by
  simp only [held, List.mem_append] at held_in ⊢
  tauto

@[simp] theorem drainAndStart_held : (s.drainAndStart cfg).2.held = s.held := by
  simp [held]

@[simp] theorem chunkStep_snd_held {out : Outside} {chunk : List LogEntry}
    {rest : List (List LogEntry)} : (s.chunkStep cfg out chunk rest).2.held = s.held := by
  simp [held]

/-- A drain hands on only entries that were buffered. -/
theorem mem_drainAndStart
    (mem : entry ∈ (s.drainAndStart cfg).2.buffer ∨
      entry ∈ ((s.drainAndStart cfg).1.getD []).flatten) :
    entry ∈ s.buffer := by
  unfold drainAndStart at mem
  split at mem
  · simpa using mem
  · simp only [startBatch_snd_buffer, takeBuffer_buffer, List.not_mem_nil, startBatch_fst,
      false_or] at mem
    cases chunked : batchChunks cfg s.buffer with
    | error => simp [chunked, Except.toOption] at mem
    | ok chunks =>
      obtain ⟨chunk, mem, inChunk⟩ :=
        List.mem_flatten.mp (by simpa [chunked, Except.toOption] using mem)
      exact mem_of_mem_batchChunks chunked mem inChunk

/-- After one chunk, the chunks left are some of those that followed it. -/
theorem mem_chunkStep_left {out : Outside} {chunk : List LogEntry} {rest : List (List LogEntry)}
    (mem : entry ∈ ((s.chunkStep cfg out chunk rest).1.getD []).flatten) : entry ∈ rest.flatten := by
  simp only [chunkStep_fst] at mem
  split at mem
  · simp at mem
  · exact mem

/-- With a non-zero `max_batch_count` a drain starts `_send_batch` without raising. -/
theorem drainAndStart_of_ne_zero (s : Producer) (nonzero : cfg.maxBatchCount ≠ 0) :
    (∃ chunks, (s.drainAndStart cfg).1 = some chunks) ∧
      (s.drainAndStart cfg).2.raises = s.raises := by
  unfold drainAndStart
  split
  · exact ⟨⟨_, rfl⟩, rfl⟩
  · obtain ⟨chunks, chunked⟩ := batchChunks_eq_ok_of_ne_zero s.buffer nonzero
    simp [chunked, Except.toOption, Except.isOk, Except.toBool]

/-- A chunk whose entries render, with an encodable source, backoffs `time.sleep`
accepts and a clock below `2^62` ns, does not raise. -/
theorem chunkStep_of_fits (accepted : BackoffsAccepted cfg) (source : PyStr.Encodable cfg.source)
    (s : Producer) {out : Outside} (clock : ClockBelow out) (chunk : List LogEntry)
    (rest : List (List LogEntry)) (render : ∀ entry ∈ chunk, Renders cfg.fieldMap entry) :
    (s.chunkStep cfg out chunk rest).1 = some rest ∧
      (s.chunkStep cfg out chunk rest).2.raises = s.raises ∧
      (s.chunkStep cfg out chunk rest).2.lostLogs = s.lostLogs := by
  have notRaised : (sendChunk cfg out chunk).ending.isRaised = false := by
    cases ending : (sendChunk cfg out chunk).ending with
    | raised err => exact absurd ending (sendChunk_ending_ne_raised accepted clock source render err)
    | delivered | failed => rfl
  simp [notRaised]

/-- With a positive `max_batch_count` the chunks of a drained batch hold all of it. -/
theorem drainAndStart_lostLogs_of_pos (s : Producer) (positive : 0 < cfg.maxBatchCount) :
    (s.drainAndStart cfg).2.lostLogs = s.lostLogs := by
  unfold drainAndStart
  split
  · rfl
  · have flat : (batchChunks cfg s.buffer).map List.flatten = .ok s.buffer :=
      flatten_batchChunks positive
    cases chunked : batchChunks cfg s.buffer with
    | error => simp [chunked, Except.map] at flat
    | ok chunks =>
      simp only [chunked, Except.map, Except.ok.injEq] at flat
      simp [chunked, Except.toOption, flat]

end Producer

open Producer

variable {cfg : CLSConfig} {allowed : Producer → Action → Prop} {s s' : Producer} {a : Action}
  {t : Nat} {old : ClientPc} {entry : LogEntry}

/-! ### No entry comes from nowhere

Every step moves entries between the buffer, the threads' hands and the counters;
only a `send` brings a new one in. -/

theorem mem_inFlight_setClient (at_t : s.clients[t]? = some old) {new : ClientPc}
    (within : ∀ e ∈ new.held, e ∈ old.held) (mem : entry ∈ (s.setClient t new).inFlight) :
    entry ∈ s.inFlight := by
  simp only [inFlight, List.mem_append, setClient_buffer] at mem ⊢
  rcases mem with buffered | held_in
  · exact .inl buffered
  · rcases mem_held_setClient new held_in with held_in | fresh
    · exact .inr held_in
    · exact .inr (mem_held_of_at at_t (within entry fresh))

theorem mem_inFlight_sendLocked (at_t : s.clients[t]? = some old) {pending : LogEntry}
    (holds : old.held = [pending]) (blocking timedOut : Bool)
    (mem : entry ∈ (s.sendLocked cfg t pending blocking timedOut).inFlight) : entry ∈ s.inFlight := by
  have pendingIn : pending ∈ s.inFlight :=
    List.mem_append_right _ (mem_held_of_at at_t (by simp [holds]))
  have idle : ∀ e, e ∈ (s.setClient t .idle).inFlight → e ∈ s.inFlight :=
    fun e mem => mem_inFlight_setClient at_t (by simp [ClientPc.held]) mem
  unfold sendLocked at mem
  split_ifs at mem
  · exact idle _ mem
  · exact mem_inFlight_setClient at_t
      (fun e waiting => by rw [holds]; simpa [ClientPc.held] using waiting) mem
  · exact idle _ mem
  · simp only [inFlight, List.mem_append, List.mem_singleton] at mem
    rcases mem with (buffered | rfl) | held_in
    · exact List.mem_append_left _ buffered
    · exact pendingIn
    · exact idle _ (List.mem_append_right _ held_in)

theorem mem_inFlight_drainResume (closing : Bool)
    (mem : entry ∈ ((s.drainAndStart cfg).2.clientResume t closing (s.drainAndStart cfg).1).inFlight) :
    entry ∈ s.inFlight := by
  simp only [inFlight, List.mem_append, clientResume_buffer, setClient_buffer] at mem
  rcases mem with buffered | held_in
  · exact List.mem_append_left _ (mem_drainAndStart (.inl buffered))
  · rcases mem_held_clientResume held_in with held_in | handed
    · exact List.mem_append_right _ (by simpa using held_in)
    · exact List.mem_append_left _ (mem_drainAndStart (.inr handed))

theorem mem_inFlight_chunkResume {out : Outside} {chunk : List LogEntry}
    {rest : List (List LogEntry)} {closing : Bool}
    (at_t : s.clients[t]? = some (.flushing (chunk :: rest) closing))
    (mem : entry ∈ ((s.chunkStep cfg out chunk rest).2.clientResume t closing
      (s.chunkStep cfg out chunk rest).1).inFlight) :
    entry ∈ s.inFlight := by
  simp only [inFlight, List.mem_append, clientResume_buffer, setClient_buffer,
    chunkStep_snd_buffer] at mem ⊢
  rcases mem with buffered | held_in
  · exact .inl buffered
  · rcases mem_held_clientResume held_in with held_in | later
    · exact .inr (by simpa using held_in)
    · exact .inr (mem_held_of_at at_t (by
        simpa [ClientPc.held] using Or.inr (mem_chunkStep_left later)))

theorem mem_inFlight_setFlusher {pc : FlushPc} (within : ∀ e ∈ pc.held, e ∈ s.inFlight)
    (mem : entry ∈ { s with flusher := pc }.inFlight) : entry ∈ s.inFlight := by
  simp only [inFlight, List.mem_append] at mem
  rcases mem with buffered | held_in
  · exact List.mem_append_left _ buffered
  · rcases mem_held_setFlusher held_in with held_in | fresh
    · exact List.mem_append_right _ held_in
    · exact within entry fresh

theorem mem_inFlight_drainFlusher
    (mem : entry ∈ { (s.drainAndStart cfg).2 with
      flusher := FlushPc.resume (s.drainAndStart cfg).1 }.inFlight) : entry ∈ s.inFlight := by
  simp only [inFlight, List.mem_append] at mem
  rcases mem with buffered | held_in
  · exact List.mem_append_left _ (mem_drainAndStart (.inl buffered))
  · rcases mem_held_setFlusher held_in with held_in | handed
    · exact List.mem_append_right _ (by simpa using held_in)
    · exact List.mem_append_left _ (mem_drainAndStart (.inr (by simpa using handed)))

theorem mem_inFlight_chunkFlusher {out : Outside} {chunk : List LogEntry}
    {rest : List (List LogEntry)} (sending : s.flusher = .sending (chunk :: rest))
    (mem : entry ∈ { (s.chunkStep cfg out chunk rest).2 with
      flusher := FlushPc.resume (s.chunkStep cfg out chunk rest).1 }.inFlight) :
    entry ∈ s.inFlight := by
  have inRest : ∀ e ∈ (FlushPc.resume (s.chunkStep cfg out chunk rest).1).held, e ∈ s.held := by
    intro e later
    rw [FlushPc.held_resume] at later
    simp only [held, sending, FlushPc.held, List.flatten_cons, List.mem_append]
    exact .inr (.inr (mem_chunkStep_left later))
  have moved := mem_inFlight_setFlusher
    (fun e later => List.mem_append_right _ (by simpa using inRest e later)) mem
  simpa [inFlight] using moved

/-- An entry in flight after a step was in flight before it, or is the one the
step's `send` made. -/
theorem step_inFlight (stepped : step cfg s a = some s') (mem : entry ∈ s'.inFlight) :
    entry ∈ s.inFlight ∨
      ∃ t fields timestampUs, a = .send t fields timestampUs ∧ entry = LogEntry.new timestampUs fields := by
  cases a with
  | send t fields timestampUs =>
    obtain ⟨at_t, ⟨-, rfl⟩ | ⟨-, rfl⟩⟩ := step_send stepped
    · exact .inl mem
    · simp only [inFlight, List.mem_append, setClient_buffer] at mem
      rcases mem with buffered | held_in
      · exact .inl (List.mem_append_left _ buffered)
      · rcases mem_held_setClient _ held_in with held_in | fresh
        · exact .inl (List.mem_append_right _ held_in)
        · exact .inr ⟨t, fields, timestampUs, rfl, List.mem_singleton.mp fresh⟩
  | sendLocked t timedOut =>
    obtain ⟨_, ⟨at_t, rfl⟩ | ⟨at_t, rfl⟩⟩ := step_sendLocked stepped <;>
      exact .inl (mem_inFlight_sendLocked at_t rfl _ _ mem)
  | flush t =>
    obtain ⟨at_t, rfl⟩ := step_flush stepped
    exact .inl (mem_inFlight_drainResume _ mem)
  | closeFlush t =>
    obtain ⟨at_t, rfl⟩ := step_closeFlush stepped
    exact .inl (mem_inFlight_drainResume _ mem)
  | close t =>
    obtain ⟨at_t, rfl⟩ := step_close stepped
    split at mem
    · exact .inl mem
    · exact .inl (mem_inFlight_setClient at_t (by simp [ClientPc.held]) mem)
  | closeMark t =>
    obtain ⟨at_t, rfl⟩ := step_closeMark stepped
    have marked : entry ∈ (s.setClient t .closeNotifying).inFlight := mem
    exact .inl (mem_inFlight_setClient at_t (by simp [ClientPc.held]) marked)
  | closeNotify t =>
    obtain ⟨at_t, rfl⟩ := step_closeNotify stepped
    exact .inl (mem_inFlight_setClient at_t (by simp [ClientPc.held]) mem)
  | closeJoin t _ =>
    obtain ⟨at_t, -, rfl⟩ := step_closeJoin stepped
    exact .inl (mem_inFlight_setClient at_t (by simp [ClientPc.held]) mem)
  | clientChunk t out =>
    obtain ⟨_, _, _, at_t, rfl⟩ := step_clientChunk stepped
    exact .inl (mem_inFlight_chunkResume at_t mem)
  | loopTest =>
    obtain ⟨-, rfl⟩ := step_loopTest stepped
    exact .inl (mem_inFlight_setFlusher (by split <;> simp [FlushPc.held]) mem)
  | beginWait =>
    obtain ⟨-, rfl⟩ := step_beginWait stepped
    exact .inl (mem_inFlight_setFlusher (by split <;> simp [FlushPc.held]) mem)
  | wakeUp =>
    obtain ⟨-, rfl⟩ := step_wakeUp stepped
    exact .inl (mem_inFlight_drainFlusher mem)
  | flusherChunk out =>
    obtain ⟨_, _, sending, rfl⟩ := step_flusherChunk stepped
    exact .inl (mem_inFlight_chunkFlusher sending mem)

/-! ### Every entry in flight renders -/

/-- Every entry in the buffer or in a thread's hands renders. -/
def EntriesRender (fieldMap : Option PyDict) (s : Producer) : Prop :=
  ∀ entry ∈ s.inFlight, Renders fieldMap entry

theorem entriesRender_step {fieldMap : Option PyDict} (inv : EntriesRender fieldMap s)
    (fitting : a.Fits fieldMap) (stepped : step cfg s a = some s') : EntriesRender fieldMap s' := by
  intro entry mem
  rcases step_inFlight stepped mem with before | ⟨t, fields, timestampUs, rfl, rfl⟩
  · exact inv entry before
  · exact fitting

theorem reachable_entriesRender (fitting : ∀ s a, allowed s a → a.Fits cfg.fieldMap)
    (reach : Reachable cfg allowed s) : EntriesRender cfg.fieldMap s := by
  induction reach with
  | init built =>
    rw [eq_init_of_newProducer built]
    intro entry mem
    rw [inFlight, held_init] at mem
    simp [Producer.init] at mem
  | next _ permitted stepped inv => exact entriesRender_step inv (fitting _ _ permitted) stepped

theorem EntriesRender.of_held {fieldMap : Option PyDict} (inv : EntriesRender fieldMap s)
    (held_in : entry ∈ s.held) : Renders fieldMap entry :=
  inv entry (List.mem_append_right _ held_in)

/-! ### Nothing raises -/

/-- Nothing has raised out of `_send_batch`, and the flush thread is alive. -/
structure Undisturbed (s : Producer) : Prop where
  raises_eq : s.raises = 0
  running : s.flusher ≠ .crashed

theorem undisturbed_of_eq (inv : Undisturbed s) (raises : s'.raises = s.raises)
    (flusher : s'.flusher = s.flusher) : Undisturbed s' :=
  ⟨raises.trans inv.raises_eq, flusher ▸ inv.running⟩

theorem sendLocked_raises (s : Producer) (entry : LogEntry) (blocking timedOut : Bool) :
    (s.sendLocked cfg t entry blocking timedOut).raises = s.raises ∧
      (s.sendLocked cfg t entry blocking timedOut).flusher = s.flusher := by
  unfold sendLocked
  split_ifs <;> exact ⟨rfl, rfl⟩

theorem undisturbed_drainFlusher (nonzero : cfg.maxBatchCount ≠ 0) (inv : Undisturbed s) :
    Undisturbed { (s.drainAndStart cfg).2 with flusher := FlushPc.resume (s.drainAndStart cfg).1 } := by
  obtain ⟨⟨chunks, started⟩, raises⟩ := drainAndStart_of_ne_zero s nonzero
  refine ⟨by simp [raises, inv.raises_eq], ?_⟩
  rw [started]
  rcases chunks with _ | _ <;> simp [FlushPc.resume]

section NoRaise

variable (nonzero : cfg.maxBatchCount ≠ 0) (accepted : BackoffsAccepted cfg)
  (source : PyStr.Encodable cfg.source) (linger : cfg.lingerMs ≤ maxTimeoutMs)
include nonzero accepted source linger

/-- With a non-zero `max_batch_count`, backoffs `time.sleep` accepts, an encodable
source and a `linger_ms` the wait accepts, a fitting step from a state whose entries
in flight render raises nothing and keeps the flush thread alive. -/
theorem undisturbed_step (inv : Undisturbed s) (render : EntriesRender cfg.fieldMap s)
    (fitting : a.Fits cfg.fieldMap) (stepped : step cfg s a = some s') : Undisturbed s' := by
  cases a with
  | send t fields timestampUs =>
    obtain ⟨-, ⟨-, rfl⟩ | ⟨-, rfl⟩⟩ := step_send stepped <;> exact undisturbed_of_eq inv rfl rfl
  | sendLocked t timedOut =>
    obtain ⟨_, ⟨-, rfl⟩ | ⟨-, rfl⟩⟩ := step_sendLocked stepped <;>
      exact undisturbed_of_eq inv (sendLocked_raises s _ _ _).1 (sendLocked_raises s _ _ _).2
  | flush t =>
    obtain ⟨-, rfl⟩ := step_flush stepped
    exact undisturbed_of_eq inv (by simp [(drainAndStart_of_ne_zero s nonzero).2]) (by simp)
  | closeFlush t =>
    obtain ⟨-, rfl⟩ := step_closeFlush stepped
    exact undisturbed_of_eq inv (by simp [(drainAndStart_of_ne_zero s nonzero).2]) (by simp)
  | close t =>
    obtain ⟨-, rfl⟩ := step_close stepped
    split <;> exact undisturbed_of_eq inv rfl rfl
  | closeMark t => obtain ⟨-, rfl⟩ := step_closeMark stepped; exact undisturbed_of_eq inv rfl rfl
  | closeNotify t => obtain ⟨-, rfl⟩ := step_closeNotify stepped; exact undisturbed_of_eq inv rfl rfl
  | closeJoin t _ => obtain ⟨-, -, rfl⟩ := step_closeJoin stepped; exact undisturbed_of_eq inv rfl rfl
  | clientChunk t out =>
    obtain ⟨chunk, rest, _, at_t, rfl⟩ := step_clientChunk stepped
    have owned : ∀ e ∈ chunk, Renders cfg.fieldMap e := fun e inChunk =>
      render.of_held (mem_held_of_at at_t (by simp [ClientPc.held, inChunk]))
    exact undisturbed_of_eq inv
      (by simpa using (chunkStep_of_fits accepted source s fitting chunk rest owned).2.1) (by simp)
  | loopTest =>
    obtain ⟨-, rfl⟩ := step_loopTest stepped
    exact ⟨inv.raises_eq, by split <;> simp⟩
  | beginWait =>
    obtain ⟨-, rfl⟩ := step_beginWait stepped
    exact ⟨inv.raises_eq, by simp [not_lt.mpr linger]⟩
  | wakeUp =>
    obtain ⟨-, rfl⟩ := step_wakeUp stepped
    exact undisturbed_drainFlusher nonzero inv
  | flusherChunk out =>
    obtain ⟨chunk, rest, sending, rfl⟩ := step_flusherChunk stepped
    have owned : ∀ e ∈ chunk, Renders cfg.fieldMap e := fun e inChunk =>
      render.of_held (by simp [held, sending, FlushPc.held, inChunk])
    obtain ⟨progress, raises, -⟩ := chunkStep_of_fits accepted source s fitting chunk rest owned
    refine ⟨by simp only [raises, inv.raises_eq], ?_⟩
    rw [progress]
    rcases rest with _ | _ <;> simp [FlushPc.resume]

theorem reachable_undisturbed (fitting : ∀ s a, allowed s a → a.Fits cfg.fieldMap)
    (reach : Reachable cfg allowed s) : Undisturbed s := by
  induction reach with
  | init built => rw [eq_init_of_newProducer built]; exact ⟨rfl, by simp [Producer.init]⟩
  | next reach permitted stepped inv =>
    exact undisturbed_step nonzero accepted source linger inv
      (reachable_entriesRender fitting reach) (fitting _ _ permitted) stepped

end NoRaise

/-- One line sent, then the flush thread drains it after its wait and sends the
chunk, every call failing. -/
def failingFlushSchedule : List Action :=
  [.send 0 demoFields 1, .sendLocked 0 false, .loopTest, .beginWait, .wakeUp,
    .flusherChunk (.always .otherException)]

section NothingLost

variable (positive : 0 < cfg.maxBatchCount) (accepted : BackoffsAccepted cfg)
  (source : PyStr.Encodable cfg.source)
include positive accepted source

/-- A fitting step from a state whose entries in flight render loses no entry. -/
theorem step_lostLogs (render : EntriesRender cfg.fieldMap s) (fitting : a.Fits cfg.fieldMap)
    (stepped : step cfg s a = some s') : s'.lostLogs = s.lostLogs := by
  have drained := drainAndStart_lostLogs_of_pos s positive
  cases a with
  | send => obtain ⟨-, ⟨-, rfl⟩ | ⟨-, rfl⟩⟩ := step_send stepped <;> rfl
  | sendLocked =>
    obtain ⟨_, ⟨-, rfl⟩ | ⟨-, rfl⟩⟩ := step_sendLocked stepped <;>
      (unfold sendLocked; split_ifs <;> rfl)
  | flush => obtain ⟨-, rfl⟩ := step_flush stepped; simpa using drained
  | closeFlush => obtain ⟨-, rfl⟩ := step_closeFlush stepped; simpa using drained
  | close => obtain ⟨-, rfl⟩ := step_close stepped; split <;> rfl
  | closeMark => obtain ⟨-, rfl⟩ := step_closeMark stepped; rfl
  | closeNotify => obtain ⟨-, rfl⟩ := step_closeNotify stepped; rfl
  | closeJoin => obtain ⟨-, -, rfl⟩ := step_closeJoin stepped; rfl
  | loopTest => obtain ⟨-, rfl⟩ := step_loopTest stepped; rfl
  | beginWait => obtain ⟨-, rfl⟩ := step_beginWait stepped; rfl
  | wakeUp => obtain ⟨-, rfl⟩ := step_wakeUp stepped; exact drained
  | clientChunk t out =>
    obtain ⟨chunk, rest, _, at_t, rfl⟩ := step_clientChunk stepped
    have owned : ∀ e ∈ chunk, Renders cfg.fieldMap e := fun e inChunk =>
      render.of_held (mem_held_of_at at_t (by simp [ClientPc.held, inChunk]))
    simpa using (chunkStep_of_fits accepted source s fitting chunk rest owned).2.2
  | flusherChunk out =>
    obtain ⟨chunk, rest, sending, rfl⟩ := step_flusherChunk stepped
    have owned : ∀ e ∈ chunk, Renders cfg.fieldMap e := fun e inChunk =>
      render.of_held (by simp [held, sending, FlushPc.held, inChunk])
    exact (chunkStep_of_fits accepted source s fitting chunk rest owned).2.2

/-- With a positive `max_batch_count`, backoffs `time.sleep` accepts while the clock
reads below `2^62` ns and an encodable source, no run whose `send` entries render
loses an entry: every `send` that passed the `_closed` test is delivered in
`log_count`, dropped in `drop_count`, in a chunk recorded as failed, raised out of its
wait on `_not_full`, still in `_buffer`, or held by a thread. -/
theorem reachable_nothing_lost (fitting : ∀ s a, allowed s a → a.Fits cfg.fieldMap)
    (reach : Reachable cfg allowed s) :
    s.lostLogs = 0 ∧
      s.calls.length = s.stats.logCount + s.stats.dropCount + s.failedLogs + s.raisedSends +
        s.buffer.length + s.held.length := by
  have lost : s.lostLogs = 0 := by
    induction reach with
    | init built => rw [eq_init_of_newProducer built]; rfl
    | next reach permitted stepped nothingLost =>
      rw [step_lostLogs positive accepted source (reachable_entriesRender fitting reach)
        (fitting _ _ permitted) stepped, nothingLost]
  have conserved := reachable_calls_eq_tally reach
  simp only [tally, lost] at conserved
  exact ⟨lost, by omega⟩

end NothingLost

theorem reachable_nothing_lost_failingFlush :
    (replay demoConfig 1 failingFlushSchedule).lostLogs = 0 ∧
      (replay demoConfig 1 failingFlushSchedule).calls.length =
        (replay demoConfig 1 failingFlushSchedule).stats.logCount +
          (replay demoConfig 1 failingFlushSchedule).stats.dropCount +
          (replay demoConfig 1 failingFlushSchedule).failedLogs +
          (replay demoConfig 1 failingFlushSchedule).raisedSends +
          (replay demoConfig 1 failingFlushSchedule).buffer.length +
          (replay demoConfig 1 failingFlushSchedule).held.length :=
  reachable_nothing_lost (by decide) ⟨⟨by decide, by decide⟩, ⟨by decide, by decide⟩⟩ (by decide)
    (fun _ _ fits => fits)
    (reachable_replay demoConfig_valid
      (by simp [failingFlushSchedule, Action.Fits, clockBelow_always]; exact fun _ => by decide) (by decide))

end ScfLog
