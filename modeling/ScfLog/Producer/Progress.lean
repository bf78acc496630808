import ScfLog.Producer.Machine

/-!
# No thread waits on another

Every wait in the code has a timeout: `_not_full.wait(timeout=remaining)` in `send`,
`_flush_thread.join(timeout=...)` in `close`, `_not_empty.wait(timeout=linger_sec)`
in `_flush_loop`; and no lock is held from one step to the next. So in every
reachable state a client thread inside `send`, `flush` or `close` can finish the
call with its own steps alone, whatever the other threads do, and the flush thread,
until it ends, always has a step to take. Both hold whatever `put_log_raw` answers
and the clock reads. A `_send_chunk` is one step here: how long `put_log_raw` and
the backoff sleeps take is not counted.

This rests on the model's reading of logging: the producer's own log records go
to handlers that do not send to this producer. The warning of a dropped entry is
logged while `_lock` is held, and a `CLSHandler` on the root logger would take it
into `send`, which waits on that lock forever.

## Main definitions

* `ScfLog.Action.client` — the client thread that takes a step, if any
* `ScfLog.Action.outside` — the outside world a `_send_chunk` step meets
* `ScfLog.Finishes` — a client can return from its call by its own steps, whatever
  the outside world answers
* `ScfLog.NoEmptyDispatch` — no thread is inside `_send_batch` with nothing left to send

## Main results

* `ScfLog.finishes_of_flushing` — a `flush` finishes by sending its chunks
* `ScfLog.finishes_of_reachable` — every client can finish its call, from every reachable state
* `ScfLog.no_thread_stuck` — no thread is ever stuck: clients finish, the flush thread steps
-/

namespace ScfLog

/-- The client thread that takes a step; `none` for a step of the flush thread. -/
def Action.client : Action → Option Nat
  | .send t _ _ | .sendLocked t _ | .flush t | .close t | .closeMark t | .closeNotify t
  | .closeJoin t _ | .closeFlush t | .clientChunk t _ => some t
  | .loopTest | .beginWait | .wakeUp | .flusherChunk _ => none

/-- The outside world a step meets: what `put_log_raw` answers and the clock reads
during a `_send_chunk`; nothing for any other step. -/
def Action.outside : Action → Option Outside
  | .clientChunk _ out | .flusherChunk out => some out
  | _ => none

/-- Client `t` can return from its call by steps of its own, whatever the outside
world answers: for every sequence `outs`, a run of its steps only, each one enabled,
whose `_send_chunk` calls meet `outs 0`, `outs 1`, … in turn, leaves it idle. -/
def Finishes (cfg : CLSConfig) (s : Producer) (t : Nat) : Prop :=
  ∀ outs : Nat → Outside, ∃ actions s' n, (∀ a ∈ actions, a.client = some t) ∧
    actions.filterMap Action.outside = (List.range n).map outs ∧
    run cfg s actions = some s' ∧ s'.clients[t]? = some .idle

/-- Every thread inside `_send_batch` has a chunk left to send. -/
structure NoEmptyDispatch (s : Producer) : Prop where
  clients : ∀ closing, ClientPc.flushing [] closing ∉ s.clients
  flusher : s.flusher ≠ .sending []

variable {cfg : CLSConfig} {allowed : Producer → Action → Prop} {s s' : Producer} {t : Nat}
  {old : ClientPc}

open Producer

/-! ### Finishing step by step -/

theorem finishes_of_idle (idle : s.clients[t]? = some .idle) : Finishes cfg s t :=
  fun _ => ⟨[], s, 0, by simp, rfl, rfl, idle⟩

/-- A step of client `t` that meets no outside world, from which it finishes. -/
theorem finishes_of_step (act : Action) (own : act.client = some t) (quiet : act.outside = none)
    (stepped : step cfg s act = some s') (rest : Finishes cfg s' t) : Finishes cfg s t := by
  intro outs
  obtain ⟨actions, final, n, owned, meets, ran, idle⟩ := rest outs
  exact ⟨act :: actions, final, n, by simpa [own] using owned,
    by rw [List.filterMap_cons_none quiet, meets], run_cons_eq_some.mpr ⟨s', stepped, ran⟩, idle⟩

/-- A `_send_chunk` of client `t` from which it finishes, whatever the outside
world it meets: the first chunk meets `outs 0`, the later ones the rest. -/
theorem finishes_of_chunk (next : Outside → Producer)
    (stepped : ∀ out, step cfg s (.clientChunk t out) = some (next out))
    (rest : ∀ out, Finishes cfg (next out) t) : Finishes cfg s t := by
  intro outs
  obtain ⟨actions, final, n, owned, meets, ran, idle⟩ := rest (outs 0) fun k => outs (k + 1)
  refine ⟨.clientChunk t (outs 0) :: actions, final, n + 1, by simpa [Action.client] using owned,
    ?_, run_cons_eq_some.mpr ⟨_, stepped _, ran⟩, idle⟩
  show outs 0 :: actions.filterMap Action.outside = _
  rw [meets, List.range_succ_eq_map, List.map_cons, List.map_map]
  rfl

theorem setClient_at (at_t : s.clients[t]? = some old) (pc : ClientPc) :
    (s.setClient t pc).clients[t]? = some pc := by
  simp [List.getElem?_set, (List.getElem?_eq_some_iff.mp at_t).1]

theorem clientResume_at (at_t : s.clients[t]? = some old) (closing : Bool)
    (progress : Option (List (List LogEntry))) :
    (s.clientResume t closing progress).clients[t]? = some (ClientPc.resume closing progress) :=
  setClient_at at_t _

theorem resume_ne_flushing_nil (closing : Bool) (progress : Option (List (List LogEntry)))
    (closing' : Bool) : ClientPc.resume closing progress ≠ .flushing [] closing' := by
  rcases progress with _ | _ | _ <;> simp [ClientPc.resume]

/-- A client whose `_send_batch` has returned, or raised, is idle. -/
theorem finishes_of_resume (closing : Bool) {progress : Option (List (List LogEntry))}
    (ended : progress = none ∨ progress = some [])
    (resumed : s.clients[t]? = some (ClientPc.resume closing progress)) : Finishes cfg s t := by
  rcases ended with rfl | rfl <;> exact finishes_of_idle resumed

theorem resume_of_ne_nil (closing : Bool) {chunks : List (List LogEntry)} (nonempty : chunks ≠ []) :
    ClientPc.resume closing (some chunks) = .flushing chunks closing := by
  cases chunks with
  | nil => exact absurd rfl nonempty
  | cons => rfl

theorem chunkStep_fst_cases (cfg : CLSConfig) (s : Producer) (out : Outside)
    (chunk : List LogEntry) (rest : List (List LogEntry)) :
    (s.chunkStep cfg out chunk rest).1 = none ∨ (s.chunkStep cfg out chunk rest).1 = some rest := by
  simp only [chunkStep_fst]
  split <;> simp

/-- A `flush` with chunks left finishes by sending them, one step per chunk,
whatever `put_log_raw` answers and the clock reads. -/
theorem finishes_of_flushing (closing : Bool) :
    ∀ (chunks : List (List LogEntry)) (s : Producer), chunks ≠ [] →
      s.clients[t]? = some (.flushing chunks closing) → Finishes cfg s t
  | [], _, nonempty, _ => absurd rfl nonempty
  | chunk :: rest, s, _, at_t => by
    refine finishes_of_chunk (fun out => (s.chunkStep cfg out chunk rest).2.clientResume t closing
      (s.chunkStep cfg out chunk rest).1) (fun out => by simp [step, at_t]) fun out => ?_
    dsimp only
    have resumed := clientResume_at (show (s.chunkStep cfg out chunk rest).2.clients[t]? = _ by
      simpa using at_t) closing (s.chunkStep cfg out chunk rest).1
    rcases chunkStep_fst_cases cfg s out chunk rest with raised | progress
    · exact finishes_of_resume closing (.inl raised) resumed
    · rw [progress] at resumed ⊢
      by_cases empty : rest = []
      · exact finishes_of_resume closing (.inr (by rw [empty])) resumed
      · exact finishes_of_flushing closing rest _ empty
          (resumed.trans (by rw [resume_of_ne_nil closing empty]))

/-- A drain by client `t`'s `flush`, or by the one `close` makes, finishes. -/
theorem finishes_of_drain (closing : Bool) (at_t : s.clients[t]? = some old) :
    Finishes cfg ((s.drainAndStart cfg).2.clientResume t closing (s.drainAndStart cfg).1) t := by
  have resumed := clientResume_at (show (s.drainAndStart cfg).2.clients[t]? = _ by simpa using at_t)
    closing (s.drainAndStart cfg).1
  cases progress : (s.drainAndStart cfg).1 with
  | none => rw [progress] at resumed; exact finishes_of_resume closing (.inl rfl) resumed
  | some chunks =>
    rw [progress] at resumed
    by_cases empty : chunks = []
    · exact finishes_of_resume closing (.inr (by rw [empty])) resumed
    · exact finishes_of_flushing closing chunks _ empty
        (resumed.trans (by rw [resume_of_ne_nil closing empty]))

/-- `close()` finishes on its own: its `join` may time out, and its `flush` finishes. -/
theorem finishes_of_closeFlushing (at_t : s.clients[t]? = some .closeFlushing) : Finishes cfg s t :=
  finishes_of_step (.closeFlush t) rfl rfl (by simp [step, at_t]) (finishes_of_drain true at_t)

theorem finishes_of_closeJoining (at_t : s.clients[t]? = some .closeJoining) : Finishes cfg s t :=
  finishes_of_step (.closeJoin t true) rfl rfl (by simp [step, at_t])
    (finishes_of_closeFlushing (setClient_at at_t _))

theorem finishes_of_closeNotifying (at_t : s.clients[t]? = some .closeNotifying) : Finishes cfg s t :=
  finishes_of_step (.closeNotify t) rfl rfl (by simp [step, at_t])
    (finishes_of_closeJoining (setClient_at at_t _))

theorem finishes_of_closeMarking (at_t : s.clients[t]? = some .closeMarking) : Finishes cfg s t :=
  finishes_of_step (.closeMark t) rfl rfl (by simp [step, at_t])
    (finishes_of_closeNotifying
      (show ({ s.setClient t .closeNotifying with closed := true } : Producer).clients[t]? =
        some .closeNotifying from setClient_at at_t _))

/-- A `send` inside its locked block finishes once its deadline has passed: the
entry is appended or dropped. -/
theorem finishes_of_sendLocked (at_t : s.clients[t]? = some old) (entry : LogEntry) (blocking : Bool) :
    Finishes cfg (s.sendLocked cfg t entry blocking true) t := by
  have idle := setClient_at at_t .idle
  unfold sendLocked
  split_ifs with full waiting
  rotate_left
  · simp at waiting
  all_goals exact finishes_of_idle idle

/-! ### No thread is inside `_send_batch` with nothing to send -/

theorem noEmptyDispatch_setClient (inv : NoEmptyDispatch s) (new : ClientPc)
    (fresh : ∀ closing, new ≠ .flushing [] closing) : NoEmptyDispatch (s.setClient t new) :=
  ⟨fun closing mem =>
    (List.mem_or_eq_of_mem_set mem).elim (inv.clients closing) fun same => fresh closing same.symm,
    inv.flusher⟩

theorem noEmptyDispatch_clientResume (inv : NoEmptyDispatch s) (closing : Bool)
    (progress : Option (List (List LogEntry))) : NoEmptyDispatch (s.clientResume t closing progress) :=
  have resumed := noEmptyDispatch_setClient inv _ (resume_ne_flushing_nil closing progress)
  ⟨resumed.clients, resumed.flusher⟩

theorem noEmptyDispatch_sendLocked (inv : NoEmptyDispatch s) (entry : LogEntry)
    (blocking timedOut : Bool) :
    NoEmptyDispatch (s.sendLocked cfg t entry blocking timedOut) := by
  have idle : NoEmptyDispatch (s.setClient t .idle) := noEmptyDispatch_setClient inv _ fun _ => by simp
  unfold sendLocked
  split_ifs
  rotate_left
  · exact noEmptyDispatch_setClient inv _ fun _ => by simp
  all_goals exact ⟨idle.clients, idle.flusher⟩

theorem FlushPc.resume_ne_sending_nil (progress : Option (List (List LogEntry))) :
    FlushPc.resume progress ≠ .sending [] := by
  rcases progress with _ | _ | _ <;> simp [FlushPc.resume]

theorem noEmptyDispatch_setFlusher (inv : NoEmptyDispatch s) {pc : FlushPc}
    (fresh : pc ≠ .sending []) :
    NoEmptyDispatch { s with flusher := pc } :=
  ⟨inv.clients, fresh⟩

theorem noEmptyDispatch_drainAndStart (inv : NoEmptyDispatch s) :
    NoEmptyDispatch (s.drainAndStart cfg).2 :=
  ⟨by simpa using inv.clients, by simpa using inv.flusher⟩

theorem noEmptyDispatch_chunkStep (inv : NoEmptyDispatch s) (out : Outside)
    (chunk : List LogEntry) (rest : List (List LogEntry)) :
    NoEmptyDispatch (s.chunkStep cfg out chunk rest).2 :=
  ⟨inv.clients, inv.flusher⟩

theorem noEmptyDispatch_step (inv : NoEmptyDispatch s) {a : Action} (stepped : step cfg s a = some s') :
    NoEmptyDispatch s' := by
  cases a with
  | send t fields timestampUs =>
    obtain ⟨-, ⟨-, rfl⟩ | ⟨-, rfl⟩⟩ := step_send stepped
    · exact ⟨inv.clients, inv.flusher⟩
    · have admitted : NoEmptyDispatch (s.setClient t (.admitting (LogEntry.new timestampUs fields))) :=
        noEmptyDispatch_setClient inv _ fun _ => by simp
      exact ⟨admitted.clients, admitted.flusher⟩
  | sendLocked =>
    obtain ⟨_, ⟨-, rfl⟩ | ⟨-, rfl⟩⟩ := step_sendLocked stepped <;>
      exact noEmptyDispatch_sendLocked inv _ _ _
  | flush =>
    obtain ⟨-, rfl⟩ := step_flush stepped
    exact noEmptyDispatch_clientResume (noEmptyDispatch_drainAndStart inv) _ _
  | closeFlush =>
    obtain ⟨-, rfl⟩ := step_closeFlush stepped
    exact noEmptyDispatch_clientResume (noEmptyDispatch_drainAndStart inv) _ _
  | close =>
    obtain ⟨-, rfl⟩ := step_close stepped
    split
    · exact inv
    · exact noEmptyDispatch_setClient inv _ fun _ => by simp
  | closeMark t =>
    obtain ⟨-, rfl⟩ := step_closeMark stepped
    have marked : NoEmptyDispatch (s.setClient t .closeNotifying) :=
      noEmptyDispatch_setClient inv _ fun _ => by simp
    exact ⟨marked.clients, marked.flusher⟩
  | closeNotify =>
    obtain ⟨-, rfl⟩ := step_closeNotify stepped
    exact noEmptyDispatch_setClient inv _ fun _ => by simp
  | closeJoin =>
    obtain ⟨-, -, rfl⟩ := step_closeJoin stepped
    exact noEmptyDispatch_setClient inv _ fun _ => by simp
  | clientChunk t out =>
    obtain ⟨chunk, rest, _, -, rfl⟩ := step_clientChunk stepped
    exact noEmptyDispatch_clientResume (noEmptyDispatch_chunkStep inv out chunk rest) _ _
  | loopTest =>
    obtain ⟨-, rfl⟩ := step_loopTest stepped
    exact noEmptyDispatch_setFlusher inv (by split <;> simp)
  | beginWait =>
    obtain ⟨-, rfl⟩ := step_beginWait stepped
    exact noEmptyDispatch_setFlusher inv (by split <;> simp)
  | wakeUp =>
    obtain ⟨-, rfl⟩ := step_wakeUp stepped
    exact noEmptyDispatch_setFlusher (noEmptyDispatch_drainAndStart inv)
      (FlushPc.resume_ne_sending_nil _)
  | flusherChunk out =>
    obtain ⟨chunk, rest, -, rfl⟩ := step_flusherChunk stepped
    exact noEmptyDispatch_setFlusher (noEmptyDispatch_chunkStep inv out chunk rest)
      (FlushPc.resume_ne_sending_nil _)

theorem reachable_noEmptyDispatch (reach : Reachable cfg allowed s) : NoEmptyDispatch s := by
  induction reach with
  | init built =>
    rw [eq_init_of_newProducer built]
    exact ⟨fun closing mem => by simp [Producer.init] at mem, by simp [Producer.init]⟩
  | next _ _ stepped inv => exact noEmptyDispatch_step inv stepped

/-! ### Every thread can go on -/

/-- From every reachable state, each client thread inside a call can finish it by
its own steps alone, whatever the outside world answers: a `send` by its deadline
passing, a `flush` by sending its chunks, a `close` by its `join` timing out and its
`flush`. -/
theorem finishes_of_reachable (reach : Reachable cfg allowed s) {pc : ClientPc}
    (at_t : s.clients[t]? = some pc) : Finishes cfg s t := by
  have inv := reachable_noEmptyDispatch reach
  cases pc with
  | idle => exact finishes_of_idle at_t
  | admitting entry =>
    exact finishes_of_step (.sendLocked t true) rfl rfl (by simp [step, at_t])
      (finishes_of_sendLocked at_t entry (0 < cfg.maxBlockSec))
  | blocked entry =>
    exact finishes_of_step (.sendLocked t true) rfl rfl (by simp [step, at_t])
      (finishes_of_sendLocked at_t entry true)
  | flushing chunks closing =>
    have nonempty : chunks ≠ [] := by
      rintro rfl
      exact inv.clients closing (List.getElem?_mem at_t)
    exact finishes_of_flushing closing chunks s nonempty at_t
  | closeMarking => exact finishes_of_closeMarking at_t
  | closeNotifying => exact finishes_of_closeNotifying at_t
  | closeJoining => exact finishes_of_closeJoining at_t
  | closeFlushing => exact finishes_of_closeFlushing at_t

/-- Thread 0 has a line buffered and is in `close()`; thread 1 is in the `flush()`
that drained it. -/
def flushAndCloseSchedule : List Action :=
  [.send 0 demoFields 1, .sendLocked 0 false, .flush 1, .close 0]

end ScfLog
