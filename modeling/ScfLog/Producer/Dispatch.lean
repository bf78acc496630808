import ScfLog.Producer.Accounting

/-!
# Who runs `_send_batch`

The flush thread runs `_send_batch` from `_flush_loop`, and so does every caller of
`flush()`, on its own thread, `close()` included. Nothing serialises them: a public
`flush()`, or a `close()` whose `join` timed out, runs a second `_send_batch` next
to the flush thread's, and their chunks reach the sink interleaved. When `flush()`
starts only after the flush thread has ended and while no other `flush()` is
sending — as `close()` does when its `join` returns in time — one thread at a time
sends, and the chunks reach the sink in the order they were planned from the
drained batches. Whoever sends, each `_send_batch` takes its batch from the buffer
under `_lock`, so in every interleaving no chunk is sent twice.

The flush thread's wait has a gap of its own: it tests `_closed` and then takes
`_not_empty`, and a `notify` between the two finds no waiter.

## Main definitions

* `ScfLog.Producer.dispatching` — the chunks each running `_send_batch` has left
* `ScfLog.Serial` — runs in which `flush()` starts only once the flush thread has
  ended and no other `_send_batch` is running
* `ScfLog.SerialInv` — one sender, and chunks sent in planned order
* `ScfLog.Undoubled` — no chunk sent or left to send more often than it was planned

## Main results

* `ScfLog.serialInv_step` — a serial step keeps `SerialInv`
* `ScfLog.serial_dispatch_in_order` — in serial runs at most one thread is in
  `_send_batch`, and chunks reach the sink in drain order
* `ScfLog.serial_entries_in_append_order` — in serial runs entries reach the sink in
  the order they were appended
* `ScfLog.flush_overlaps_flush_thread` — a public `flush()` runs beside the flush
  thread, and the later batch reaches the sink first
* `ScfLog.sent_subperm_planned` — in every run the chunks sent are among those planned,
  and each entry reaches the sink at most as often as it was appended
* `ScfLog.flush_thread_waits_after_notify` — the flush thread can begin its linger
  wait after `close()` has set `_closed` and notified, or with a full batch buffered
-/

namespace ScfLog

/-! ### Flattening -/

section Flatten

variable {α : Type}

theorem flatten_sublist_flatten {L₁ L₂ : List (List α)} (sub : L₁.Sublist L₂) :
    L₁.flatten.Sublist L₂.flatten := by
  induction sub with
  | slnil => exact .slnil
  | cons a _ ih => exact ih.trans (List.sublist_append_right a _)
  | cons₂ a _ ih => exact ih.append_left a

theorem subperm_flatten {L₁ L₂ : List (List α)} (sub : L₁.Subperm L₂) :
    L₁.flatten.Subperm L₂.flatten :=
  let ⟨L, perm, sublist⟩ := sub
  ⟨L.flatten, perm.flatten, flatten_sublist_flatten sublist⟩

end Flatten

/-! ### The running `_send_batch` calls -/

/-- The chunks a client's `flush` has still to send, if it is inside `_send_batch`. -/
def ClientPc.dispatch : ClientPc → List (List (List LogEntry))
  | .flushing chunks _ => [chunks]
  | _ => []

/-- The chunks the flush thread has still to send, if it is inside `_send_batch`. -/
def FlushPc.dispatch : FlushPc → List (List (List LogEntry))
  | .sending chunks => [chunks]
  | _ => []

@[simp] theorem ClientPc.flatten_dispatch_resume (closing : Bool)
    (progress : Option (List (List LogEntry))) :
    (ClientPc.resume closing progress).dispatch.flatten = progress.getD [] := by
  rcases progress with _ | _ | _ <;> simp [ClientPc.resume, ClientPc.dispatch]

@[simp] theorem FlushPc.flatten_dispatch_resume (progress : Option (List (List LogEntry))) :
    (FlushPc.resume progress).dispatch.flatten = progress.getD [] := by
  rcases progress with _ | _ | _ <;> simp [FlushPc.resume, FlushPc.dispatch]

theorem ClientPc.length_dispatch_le (pc : ClientPc) : pc.dispatch.length ≤ 1 := by
  cases pc <;> simp [ClientPc.dispatch]

theorem FlushPc.length_dispatch_le (pc : FlushPc) : pc.dispatch.length ≤ 1 := by
  cases pc <;> simp [FlushPc.dispatch]

theorem FlushPc.dispatch_of_terminated {pc : FlushPc} (ended : pc.terminated = true) :
    pc.dispatch = [] := by
  cases pc <;> simp_all [FlushPc.terminated, FlushPc.dispatch]

namespace Producer

/-- The chunks each running `_send_batch` has left, one list per thread in it. -/
def dispatching (s : Producer) : List (List (List LogEntry)) :=
  s.flusher.dispatch ++ s.clients.flatMap ClientPc.dispatch

/-- The chunks `_send_batch` plans for a drained batch: none when `range()` raised. -/
def planOf (cfg : CLSConfig) (batch : List LogEntry) : List (List LogEntry) :=
  (batchChunks cfg batch).toOption.getD []

variable {cfg : CLSConfig} {s : Producer}

/-- The planned chunks hold the drained entries in order, less those of batches
whose `range()` raised. -/
theorem flatten_planned_sublist (cfg : CLSConfig) :
    ∀ drains : List (List LogEntry), (drains.flatMap (planOf cfg)).flatten.Sublist drains.flatten
  | [] => .slnil
  | batch :: rest => by
    simpa only [List.flatMap_cons, List.flatten_append, List.flatten_cons] using
      (flatten_batchChunks_sublist cfg batch).append (flatten_planned_sublist cfg rest)

@[simp] theorem clientResume_dispatching {t : Nat} {closing : Bool}
    {progress : Option (List (List LogEntry))} :
    (s.clientResume t closing progress).dispatching =
      (s.setClient t (ClientPc.resume closing progress)).dispatching := rfl

@[simp] theorem drainAndStart_dispatching : (s.drainAndStart cfg).2.dispatching = s.dispatching := by
  simp [dispatching]

@[simp] theorem chunkStep_dispatching {out : Outside} {chunk : List LogEntry}
    {rest : List (List LogEntry)} : (s.chunkStep cfg out chunk rest).2.dispatching = s.dispatching :=
  rfl

theorem dispatching_init (threads : Nat) : (Producer.init threads).dispatching = [] := by
  simp [dispatching, Producer.init, ClientPc.dispatch, FlushPc.dispatch]

/-- A drain appends its plan to the plans of the batches drained before it. -/
theorem drainAndStart_planned :
    (s.drainAndStart cfg).2.drains.flatMap (planOf cfg) =
      s.drains.flatMap (planOf cfg) ++ ((s.drainAndStart cfg).1.getD []) := by
  unfold drainAndStart
  split
  · simp
  · simp [planOf]

end Producer

open Producer

/-- The runs in which `flush()`, called directly or by `close()`, starts only once the
flush thread has ended and while no other `_send_batch` is running. -/
def Serial (s : Producer) : Action → Prop
  | .flush _ | .closeFlush _ => s.flusher.terminated = true ∧ s.dispatching = []
  | _ => True

instance (s : Producer) : (a : Action) → Decidable (Serial s a)
  | .flush _ | .closeFlush _ => inferInstanceAs (Decidable (_ ∧ _))
  | .send .. | .sendLocked .. | .close _ | .closeMark _ | .closeNotify _ | .closeJoin .. => isTrue trivial
  | .clientChunk .. | .loopTest | .beginWait | .wakeUp | .flusherChunk _ => isTrue trivial

/-- At most one thread is inside `_send_batch`; a client is only once the flush
thread has ended; and the chunks sent so far, followed by those still to send, are
a sublist of the chunks planned from the drained batches, in drain order. -/
structure SerialInv (cfg : CLSConfig) (s : Producer) : Prop where
  single : s.dispatching.length ≤ 1
  afterFlusher : s.clients.flatMap ClientPc.dispatch ≠ [] → s.flusher.terminated = true
  inOrder : (s.sent ++ s.dispatching.flatten).Sublist (s.drains.flatMap (planOf cfg))

variable {cfg : CLSConfig} {allowed : Producer → Action → Prop} {s s' : Producer} {a : Action}
  {t : Nat} {old : ClientPc}

theorem serialInv_of_frame (inv : SerialInv cfg s) (flusher : s'.flusher = s.flusher)
    (clients : s'.clients.flatMap ClientPc.dispatch = s.clients.flatMap ClientPc.dispatch)
    (sent : s'.sent = s.sent) (drains : s'.drains = s.drains) : SerialInv cfg s' := by
  obtain ⟨single, afterFlusher, inOrder⟩ := inv
  exact ⟨by rwa [dispatching, flusher, clients], by rwa [flusher, clients],
    by rwa [dispatching, flusher, clients, sent, drains]⟩

theorem serialInv_setClient (inv : SerialInv cfg s) (at_t : s.clients[t]? = some old)
    (new : ClientPc) (same : new.dispatch = old.dispatch) : SerialInv cfg (s.setClient t new) :=
  serialInv_of_frame inv rfl (flatMap_set_of_eq _ at_t same) rfl rfl

theorem serialInv_sendLocked (inv : SerialInv cfg s) (at_t : s.clients[t]? = some old)
    (idle : old.dispatch = []) (entry : LogEntry) (blocking timedOut : Bool) :
    SerialInv cfg (s.sendLocked cfg t entry blocking timedOut) := by
  have clients : (s.clients.set t .idle).flatMap ClientPc.dispatch =
      s.clients.flatMap ClientPc.dispatch := flatMap_set_of_eq _ at_t (by rw [idle]; rfl)
  unfold sendLocked
  split_ifs
  rotate_left
  · exact serialInv_setClient inv at_t _ (by rw [idle]; rfl)
  all_goals exact serialInv_of_frame inv rfl clients rfl rfl

theorem eq_singleton_of_length_le_one {β : Type} {l : List β} {x : β} (short : l.length ≤ 1)
    (mem : x ∈ l) : l = [x] := by
  match l, short, mem with
  | [y], _, mem => rw [List.mem_singleton.mp mem]

theorem serialInv_setFlusher (inv : SerialInv cfg s) (pc : FlushPc)
    (noClients : s.clients.flatMap ClientPc.dispatch = []) (same : pc.dispatch = s.flusher.dispatch) :
    SerialInv cfg { s with flusher := pc } := by
  obtain ⟨single, -, inOrder⟩ := inv
  refine ⟨?_, fun busy => absurd noClients busy, ?_⟩
  · simpa [dispatching, same] using single
  · simpa [dispatching, same] using inOrder

/-- A `flush` that starts when no other `_send_batch` runs becomes the only sender. -/
theorem serialInv_drainResume (inv : SerialInv cfg s) (ended : s.flusher.terminated = true)
    (idle : s.dispatching = []) (at_t : s.clients[t]? = some old) (oldIdle : old.dispatch = [])
    (closing : Bool) :
    SerialInv cfg ((s.drainAndStart cfg).2.clientResume t closing (s.drainAndStart cfg).1) := by
  obtain ⟨noFlusher, noClients⟩ := List.append_eq_nil.mp idle
  have sender : ((s.drainAndStart cfg).2.clientResume t closing (s.drainAndStart cfg).1).dispatching =
      (ClientPc.resume closing (s.drainAndStart cfg).1).dispatch := by
    simp only [dispatching, clientResume_flusher, setClient_flusher, drainAndStart_flusher, noFlusher,
      clientResume_clients, setClient_clients, drainAndStart_clients, List.nil_append]
    exact flatMap_set_of_only _ at_t (by rw [noClients, oldIdle])
  have sentBefore : s.sent.Sublist (s.drains.flatMap (planOf cfg)) := by
    simpa [idle] using inv.inOrder
  refine ⟨by rw [sender]; exact ClientPc.length_dispatch_le _, fun _ => by simpa using ended, ?_⟩
  rw [sender, ClientPc.flatten_dispatch_resume]
  simpa [drainAndStart_planned] using sentBefore

/-- The flush thread's drain after its wait, with no client inside `_send_batch`. -/
theorem serialInv_drainFlusher (inv : SerialInv cfg s) (waiting : s.flusher.terminated = false)
    (idle : s.flusher.dispatch = []) :
    SerialInv cfg
      { (s.drainAndStart cfg).2 with flusher := FlushPc.resume (s.drainAndStart cfg).1 } := by
  have noClients : s.clients.flatMap ClientPc.dispatch = [] := by
    by_contra busy
    simp [inv.afterFlusher busy] at waiting
  have sentBefore : s.sent.Sublist (s.drains.flatMap (planOf cfg)) := by
    simpa [dispatching, idle, noClients] using inv.inOrder
  refine ⟨by simpa [dispatching, noClients] using FlushPc.length_dispatch_le _, fun busy => ?_, ?_⟩
  · simp [noClients] at busy
  · simpa [dispatching, noClients, drainAndStart_planned] using sentBefore

/-- After one chunk, the chunks left are the rest, or none when it raised. -/
theorem chunkStep_left_sublist (cfg : CLSConfig) (s : Producer) (out : Outside)
    (chunk : List LogEntry) (rest : List (List LogEntry)) :
    ((s.chunkStep cfg out chunk rest).1.getD []).Sublist rest := by
  simp only [chunkStep_fst]
  split <;> simp

/-- Sending one chunk moves it from the chunks left to the chunks sent. -/
theorem sublist_chunkStep (cfg : CLSConfig) (s : Producer) (out : Outside)
    (chunk : List LogEntry) (rest : List (List LogEntry)) :
    ((s.chunkStep cfg out chunk rest).2.sent ++ ((s.chunkStep cfg out chunk rest).1.getD [])).Sublist
      (s.sent ++ chunk :: rest) := by
  simpa using ((chunkStep_left_sublist cfg s out chunk rest).cons_cons chunk).append_left s.sent

theorem serialInv_chunkResume (inv : SerialInv cfg s) (out : Outside)
    {chunk : List LogEntry} {rest : List (List LogEntry)} {closing : Bool}
    (at_t : s.clients[t]? = some (.flushing (chunk :: rest) closing)) :
    SerialInv cfg ((s.chunkStep cfg out chunk rest).2.clientResume t closing
      (s.chunkStep cfg out chunk rest).1) := by
  have mine : (chunk :: rest) ∈ s.clients.flatMap ClientPc.dispatch :=
    List.mem_flatMap.mpr ⟨_, List.getElem?_mem at_t, List.mem_singleton_self _⟩
  have ended := inv.afterFlusher (List.ne_nil_of_mem mine)
  have noFlusher := FlushPc.dispatch_of_terminated ended
  have only : s.clients.flatMap ClientPc.dispatch = [chunk :: rest] :=
    eq_singleton_of_length_le_one (by simpa [dispatching, noFlusher] using inv.single) mine
  have sender : ((s.chunkStep cfg out chunk rest).2.clientResume t closing
      (s.chunkStep cfg out chunk rest).1).dispatching =
      (ClientPc.resume closing (s.chunkStep cfg out chunk rest).1).dispatch := by
    simp only [dispatching, clientResume_flusher, setClient_flusher, chunkStep_snd_flusher, noFlusher,
      clientResume_clients, setClient_clients, chunkStep_snd_clients, List.nil_append]
    exact flatMap_set_of_only _ at_t only
  refine ⟨by rw [sender]; exact ClientPc.length_dispatch_le _, fun _ => by simpa using ended, ?_⟩
  rw [sender, ClientPc.flatten_dispatch_resume]
  refine (sublist_chunkStep cfg s out chunk rest).trans ?_
  simpa [dispatching, noFlusher, only] using inv.inOrder

theorem serialInv_chunkFlusher (inv : SerialInv cfg s) (out : Outside)
    {chunk : List LogEntry} {rest : List (List LogEntry)}
    (sending : s.flusher = .sending (chunk :: rest)) :
    SerialInv cfg { (s.chunkStep cfg out chunk rest).2 with
      flusher := FlushPc.resume (s.chunkStep cfg out chunk rest).1 } := by
  have noClients : s.clients.flatMap ClientPc.dispatch = [] := by
    have := inv.single
    simp only [dispatching, sending, FlushPc.dispatch, List.singleton_append, List.length_cons] at this
    exact List.eq_nil_of_length_eq_zero (by omega)
  refine ⟨by simpa [dispatching, noClients] using FlushPc.length_dispatch_le _, fun busy => ?_, ?_⟩
  · simp [noClients] at busy
  · simp only [dispatching, chunkStep_snd_clients, noClients, List.append_nil,
      FlushPc.flatten_dispatch_resume, chunkStep_snd_drains]
    refine (sublist_chunkStep cfg s out chunk rest).trans ?_
    simpa [dispatching, sending, FlushPc.dispatch, noClients] using inv.inOrder

/-- A step a serial run permits keeps one sender and the planned order. -/
theorem serialInv_step (inv : SerialInv cfg s) (permitted : Serial s a)
    (stepped : step cfg s a = some s') : SerialInv cfg s' := by
  have noClients (at_flusher : s.flusher.terminated = false) :
      s.clients.flatMap ClientPc.dispatch = [] := by
    by_contra busy
    simpa [at_flusher] using inv.afterFlusher busy
  cases a with
  | send t fields timestampUs =>
    obtain ⟨at_t, ⟨-, rfl⟩ | ⟨-, rfl⟩⟩ := step_send stepped
    · exact serialInv_of_frame inv rfl rfl rfl rfl
    · exact serialInv_of_frame (serialInv_setClient inv at_t (.admitting _) rfl) rfl rfl rfl rfl
  | sendLocked t timedOut =>
    obtain ⟨_, ⟨at_t, rfl⟩ | ⟨at_t, rfl⟩⟩ := step_sendLocked stepped <;>
      exact serialInv_sendLocked inv at_t rfl _ _ _
  | flush t =>
    obtain ⟨at_t, rfl⟩ := step_flush stepped
    exact serialInv_drainResume inv permitted.1 permitted.2 at_t rfl _
  | closeFlush t =>
    obtain ⟨at_t, rfl⟩ := step_closeFlush stepped
    exact serialInv_drainResume inv permitted.1 permitted.2 at_t rfl _
  | close t =>
    obtain ⟨at_t, rfl⟩ := step_close stepped
    split
    · exact inv
    · exact serialInv_setClient inv at_t .closeMarking rfl
  | closeMark t =>
    obtain ⟨at_t, rfl⟩ := step_closeMark stepped
    exact serialInv_of_frame (serialInv_setClient inv at_t .closeNotifying rfl) rfl rfl rfl rfl
  | closeNotify t =>
    obtain ⟨at_t, rfl⟩ := step_closeNotify stepped
    exact serialInv_setClient inv at_t .closeJoining rfl
  | closeJoin t _ =>
    obtain ⟨at_t, -, rfl⟩ := step_closeJoin stepped
    exact serialInv_setClient inv at_t .closeFlushing rfl
  | clientChunk t out =>
    obtain ⟨_, _, _, at_t, rfl⟩ := step_clientChunk stepped
    exact serialInv_chunkResume inv out at_t
  | loopTest =>
    obtain ⟨at_flusher, rfl⟩ := step_loopTest stepped
    exact serialInv_setFlusher inv _ (noClients (by rw [at_flusher]; rfl))
      (by rw [at_flusher]; split <;> rfl)
  | beginWait =>
    obtain ⟨at_flusher, rfl⟩ := step_beginWait stepped
    exact serialInv_setFlusher inv _ (noClients (by rw [at_flusher]; rfl))
      (by rw [at_flusher]; split <;> rfl)
  | wakeUp =>
    obtain ⟨at_flusher, rfl⟩ := step_wakeUp stepped
    exact serialInv_drainFlusher inv (by rw [at_flusher]; rfl) (by rw [at_flusher]; rfl)
  | flusherChunk out =>
    obtain ⟨_, _, sending, rfl⟩ := step_flusherChunk stepped
    exact serialInv_chunkFlusher inv out sending

theorem serialInv_init (threads : Nat) : SerialInv cfg (Producer.init threads) := by
  have none := dispatching_init threads
  have idle := (List.append_eq_nil.mp none).2
  exact ⟨by simp [none], fun busy => absurd idle busy, by rw [none]; exact List.nil_sublist _⟩

theorem reachable_serialInv (serial : ∀ s a, allowed s a → Serial s a)
    (reach : Reachable cfg allowed s) : SerialInv cfg s := by
  induction reach with
  | init built => rw [eq_init_of_newProducer built]; exact serialInv_init _
  | next _ permitted stepped inv => exact serialInv_step inv (serial _ _ permitted) stepped

/-- In a run in which `flush()`, called directly or by `close()`, starts only once the
flush thread has ended and no other `_send_batch` is running, at most one thread is
ever inside `_send_batch`; and the chunks handed to `_send_chunk` so far, followed
by those the running `_send_batch` has left, are a sublist of the chunks planned
from the drained batches in drain order: batches reach the sink in drain order,
each batch's chunks in order, none twice. -/
theorem serial_dispatch_in_order (serial : ∀ s a, allowed s a → Serial s a)
    (reach : Reachable cfg allowed s) :
    s.dispatching.length ≤ 1 ∧
      (s.sent ++ s.dispatching.flatten).Sublist (s.drains.flatMap (planOf cfg)) :=
  have inv := reachable_serialInv serial reach
  ⟨inv.single, inv.inOrder⟩

/-- Two batches, each sent by a different thread: thread 0 sends a line, which the
flush thread drains after its wait and delivers; thread 0 sends a second line;
thread 1 runs `close()`, the flush thread sees `_closed` and leaves its loop, the
`join` returns, and the `flush()` of `close()` drains and delivers the second line. -/
def serialCloseSchedule : List Action :=
  [.send 0 demoFields 1, .sendLocked 0 false, .loopTest, .beginWait, .wakeUp,
    .flusherChunk (.always .ok), .send 0 demoFields 2, .sendLocked 0 false,
    .close 1, .closeMark 1, .closeNotify 1, .loopTest, .closeJoin 1 false, .closeFlush 1,
    .clientChunk 1 (.always .ok)]

/-- The run of `serialCloseSchedule`, checked step by step to be serial. -/
theorem reachable_serialCloseSchedule :
    Reachable demoConfig Serial (replay demoConfig 2 serialCloseSchedule) :=
  reachable_replay_within demoConfig_valid (fun _ _ serial => of_decide_eq_true serial) (by decide)

theorem serial_dispatch_in_order_closeRun :
    (replay demoConfig 2 serialCloseSchedule).dispatching.length ≤ 1 ∧
      ((replay demoConfig 2 serialCloseSchedule).sent ++
          (replay demoConfig 2 serialCloseSchedule).dispatching.flatten).Sublist
        ((replay demoConfig 2 serialCloseSchedule).drains.flatMap (planOf demoConfig)) :=
  serial_dispatch_in_order (fun _ _ serial => serial) reachable_serialCloseSchedule

/-- The flush thread sends the first batch and `close()` the second, in drain order,
and `close()` returns. -/
example :
    (replay demoConfig 2 serialCloseSchedule).drains =
        [[LogEntry.new 1 demoFields], [LogEntry.new 2 demoFields]] ∧
      (replay demoConfig 2 serialCloseSchedule).sent =
        [[LogEntry.new 1 demoFields], [LogEntry.new 2 demoFields]] ∧
      (replay demoConfig 2 serialCloseSchedule).flusher = .exited ∧
      (replay demoConfig 2 serialCloseSchedule).closeReturned = true := by
  decide

/-- In a serial run the log entries reach `_send_chunk` in the order `send` appended
them to the buffer: those handed over so far are a subsequence of the appended ones. -/
theorem serial_entries_in_append_order (serial : ∀ s a, allowed s a → Serial s a)
    (reach : Reachable cfg allowed s) : s.sent.flatten.Sublist (s.appended.map Prod.snd) := by
  have sentPlanned : s.sent.Sublist (s.drains.flatMap (planOf cfg)) :=
    (List.sublist_append_left _ _).trans (reachable_serialInv serial reach).inOrder
  rw [(reachable_bufferInv reach).history]
  exact (flatten_sublist_flatten sentPlanned).trans
    ((flatten_planned_sublist cfg s.drains).trans (List.sublist_append_left _ _))

theorem serial_entries_in_append_order_closeRun :
    (replay demoConfig 2 serialCloseSchedule).sent.flatten.Sublist
      ((replay demoConfig 2 serialCloseSchedule).appended.map Prod.snd) :=
  serial_entries_in_append_order (fun _ _ serial => serial) reachable_serialCloseSchedule

/-- One line drained by the flush thread after its wait; a second line sent and
drained by a public `flush()` while the flush thread is still in `_send_batch`. -/
def overlapSchedule : List Action :=
  [.send 0 demoFields 1, .sendLocked 0 false, .loopTest, .beginWait, .wakeUp,
    .send 0 demoFields 2, .sendLocked 0 false, .flush 1]

/-- The two `_send_batch` calls of `overlapSchedule`, the later one first. -/
def overlapDeliverSchedule : List Action :=
  overlapSchedule ++ [.clientChunk 1 (.always .ok), .flusherChunk (.always .ok)]

/-- A public `flush()` runs a second `_send_batch` beside the flush thread's, and
the batch drained second reaches the sink first. -/
theorem flush_overlaps_flush_thread :
    Reachable demoConfig (fun _ _ => True) (replay demoConfig 2 overlapSchedule) ∧
      (replay demoConfig 2 overlapSchedule).dispatching.length = 2 ∧
      Reachable demoConfig (fun _ _ => True) (replay demoConfig 2 overlapDeliverSchedule) ∧
      (replay demoConfig 2 overlapDeliverSchedule).drains =
        [[LogEntry.new 1 demoFields], [LogEntry.new 2 demoFields]] ∧
      (replay demoConfig 2 overlapDeliverSchedule).sent =
        [[LogEntry.new 2 demoFields], [LogEntry.new 1 demoFields]] :=
  ⟨reachable_replay demoConfig_valid (fun _ _ _ => trivial) (by decide), by decide,
    reachable_replay demoConfig_valid (fun _ _ _ => trivial) (by decide), by decide, by decide⟩

/-! ### No chunk is sent twice

Overlapping `_send_batch` calls reorder chunks, but each takes its batch from the
buffer under `_lock`, so none is handed to `_send_chunk` twice: in every run, with
no restriction on the interleaving, the chunks sent and those still to send occur,
counted with multiplicity, among the chunks planned from the drained batches. -/

/-- Each chunk occurs among the chunks sent and those still to send at most as
often as among the chunks planned from the drained batches. -/
def Undoubled (cfg : CLSConfig) (s : Producer) : Prop :=
  ∀ chunk, (s.sent ++ s.dispatching.flatten).count chunk ≤ (s.drains.flatMap (planOf cfg)).count chunk

/-- A thread's new position trades the chunks its old one had left for the new one's. -/
theorem count_dispatching_setClient (at_t : s.clients[t]? = some old) (new : ClientPc)
    (chunk : List LogEntry) :
    (s.setClient t new).dispatching.flatten.count chunk + old.dispatch.flatten.count chunk =
      s.dispatching.flatten.count chunk + new.dispatch.flatten.count chunk := by
  have moved : ((s.clients.set t new).flatMap ClientPc.dispatch ++ old.dispatch).flatten.count chunk =
      (s.clients.flatMap ClientPc.dispatch ++ new.dispatch).flatten.count chunk :=
    ((perm_flatMap_set ClientPc.dispatch at_t new).flatten).countP_eq _
  simp only [List.flatten_append, List.count_append] at moved
  simp only [dispatching, setClient_flusher, setClient_clients, List.flatten_append, List.count_append]
  omega

theorem undoubled_of_frame (inv : Undoubled cfg s) (sent : s'.sent = s.sent)
    (drains : s'.drains = s.drains) (sameDispatch : s'.dispatching = s.dispatching) :
    Undoubled cfg s' := by
  intro chunk
  rw [sent, drains, sameDispatch]
  exact inv chunk

theorem undoubled_setClient (inv : Undoubled cfg s) (at_t : s.clients[t]? = some old)
    (new : ClientPc) (same : new.dispatch = old.dispatch) : Undoubled cfg (s.setClient t new) :=
  undoubled_of_frame inv rfl rfl <| by
    simp only [dispatching, setClient_flusher, setClient_clients, flatMap_set_of_eq _ at_t same]

theorem undoubled_sendLocked (inv : Undoubled cfg s) (at_t : s.clients[t]? = some old)
    (idle : old.dispatch = []) (entry : LogEntry) (blocking timedOut : Bool) :
    Undoubled cfg (s.sendLocked cfg t entry blocking timedOut) := by
  have admitted := undoubled_setClient inv at_t .idle (by rw [idle]; rfl)
  unfold sendLocked
  split_ifs
  rotate_left
  · exact undoubled_setClient inv at_t _ (by rw [idle]; rfl)
  all_goals exact admitted

/-- A drain adds its plan both to the chunks left and to the chunks planned. -/
theorem undoubled_drainResume (inv : Undoubled cfg s) (at_t : s.clients[t]? = some old)
    (idle : old.dispatch = []) (closing : Bool) :
    Undoubled cfg ((s.drainAndStart cfg).2.clientResume t closing (s.drainAndStart cfg).1) := by
  intro chunk
  have moved := count_dispatching_setClient
    (show (s.drainAndStart cfg).2.clients[t]? = some old by simpa using at_t)
    (ClientPc.resume closing (s.drainAndStart cfg).1) chunk
  have before := inv chunk
  simp only [idle, List.flatten_nil, List.count_nil, drainAndStart_dispatching,
    ClientPc.flatten_dispatch_resume] at moved
  simp only [List.count_append] at before
  simp only [clientResume_dispatching, clientResume_sent, setClient_sent, drainAndStart_sent,
    clientResume_drains, setClient_drains, drainAndStart_planned, List.count_append]
  omega

theorem undoubled_drainFlusher (inv : Undoubled cfg s) (idle : s.flusher.dispatch = []) :
    Undoubled cfg
      { (s.drainAndStart cfg).2 with flusher := FlushPc.resume (s.drainAndStart cfg).1 } := by
  intro chunk
  have before := inv chunk
  simp only [dispatching, idle, List.nil_append, List.count_append] at before
  simp only [dispatching, List.flatten_append, FlushPc.flatten_dispatch_resume, drainAndStart_clients,
    drainAndStart_sent, drainAndStart_planned, List.count_append]
  omega

/-- Sending a chunk moves it from the chunks left to the chunks sent. -/
theorem undoubled_chunkResume (inv : Undoubled cfg s) (out : Outside)
    {chunk : List LogEntry} {rest : List (List LogEntry)} {closing : Bool}
    (at_t : s.clients[t]? = some (.flushing (chunk :: rest) closing)) :
    Undoubled cfg ((s.chunkStep cfg out chunk rest).2.clientResume t closing
      (s.chunkStep cfg out chunk rest).1) := by
  intro c
  have moved := count_dispatching_setClient
    (show (s.chunkStep cfg out chunk rest).2.clients[t]? = some _ by simpa using at_t)
    (ClientPc.resume closing (s.chunkStep cfg out chunk rest).1) c
  have left := (chunkStep_left_sublist cfg s out chunk rest).count_le c
  have before := inv c
  simp only [chunkStep_dispatching, ClientPc.flatten_dispatch_resume] at moved
  simp only [ClientPc.dispatch, List.flatten_singleton, List.count_cons] at moved
  simp only [List.count_append] at before
  simp only [clientResume_dispatching, clientResume_sent, setClient_sent, chunkStep_snd_sent,
    clientResume_drains, setClient_drains, chunkStep_snd_drains, List.count_append,
    List.count_singleton]
  omega

theorem undoubled_chunkFlusher (inv : Undoubled cfg s) (out : Outside)
    {chunk : List LogEntry} {rest : List (List LogEntry)}
    (sending : s.flusher = .sending (chunk :: rest)) :
    Undoubled cfg { (s.chunkStep cfg out chunk rest).2 with
      flusher := FlushPc.resume (s.chunkStep cfg out chunk rest).1 } := by
  intro c
  have left := (chunkStep_left_sublist cfg s out chunk rest).count_le c
  have before := inv c
  simp only [dispatching, sending, FlushPc.dispatch, List.singleton_append, List.flatten_cons,
    List.count_append, List.count_cons] at before
  simp only [dispatching, List.flatten_append, FlushPc.flatten_dispatch_resume, chunkStep_snd_clients,
    chunkStep_snd_sent, chunkStep_snd_drains, List.count_append, List.count_singleton]
  omega

/-- Every step keeps `Undoubled`, whichever thread takes it. -/
theorem undoubled_step (inv : Undoubled cfg s) (stepped : step cfg s a = some s') :
    Undoubled cfg s' := by
  cases a with
  | send t fields timestampUs =>
    obtain ⟨at_t, ⟨-, rfl⟩ | ⟨-, rfl⟩⟩ := step_send stepped
    · exact undoubled_of_frame inv rfl rfl rfl
    · exact undoubled_of_frame (undoubled_setClient inv at_t (.admitting _) rfl) rfl rfl rfl
  | sendLocked t timedOut =>
    obtain ⟨_, ⟨at_t, rfl⟩ | ⟨at_t, rfl⟩⟩ := step_sendLocked stepped <;>
      exact undoubled_sendLocked inv at_t rfl _ _ _
  | flush t =>
    obtain ⟨at_t, rfl⟩ := step_flush stepped
    exact undoubled_drainResume inv at_t rfl _
  | closeFlush t =>
    obtain ⟨at_t, rfl⟩ := step_closeFlush stepped
    exact undoubled_drainResume inv at_t rfl _
  | close t =>
    obtain ⟨at_t, rfl⟩ := step_close stepped
    split
    · exact inv
    · exact undoubled_setClient inv at_t .closeMarking rfl
  | closeMark t =>
    obtain ⟨at_t, rfl⟩ := step_closeMark stepped
    exact undoubled_of_frame (undoubled_setClient inv at_t .closeNotifying rfl) rfl rfl rfl
  | closeNotify t =>
    obtain ⟨at_t, rfl⟩ := step_closeNotify stepped
    exact undoubled_setClient inv at_t .closeJoining rfl
  | closeJoin t _ =>
    obtain ⟨at_t, -, rfl⟩ := step_closeJoin stepped
    exact undoubled_setClient inv at_t .closeFlushing rfl
  | clientChunk t out =>
    obtain ⟨_, _, _, at_t, rfl⟩ := step_clientChunk stepped
    exact undoubled_chunkResume inv out at_t
  | loopTest =>
    obtain ⟨at_flusher, rfl⟩ := step_loopTest stepped
    exact undoubled_of_frame inv rfl rfl (by simp only [dispatching, at_flusher]; split <;> rfl)
  | beginWait =>
    obtain ⟨at_flusher, rfl⟩ := step_beginWait stepped
    exact undoubled_of_frame inv rfl rfl (by simp only [dispatching, at_flusher]; split <;> rfl)
  | wakeUp =>
    obtain ⟨at_flusher, rfl⟩ := step_wakeUp stepped
    exact undoubled_drainFlusher inv (by rw [at_flusher]; rfl)
  | flusherChunk out =>
    obtain ⟨_, _, sending, rfl⟩ := step_flusherChunk stepped
    exact undoubled_chunkFlusher inv out sending

/-- In every run, however its threads interleave and whichever of them run
`_send_batch` at once, the chunks handed to `_send_chunk`, followed by those still
to send, are, counted with multiplicity, among the chunks planned from the drained
batches; and each log entry reaches `_send_chunk` at most as many times as `send`
appended it to the buffer. -/
theorem sent_subperm_planned (reach : Reachable cfg allowed s) :
    (s.sent ++ s.dispatching.flatten).Subperm (s.drains.flatMap (planOf cfg)) ∧
      s.sent.flatten.Subperm (s.appended.map Prod.snd) := by
  have inv : Undoubled cfg s := by
    induction reach with
    | init built =>
      rw [eq_init_of_newProducer built]
      intro chunk
      rw [dispatching_init]
      simp [Producer.init]
    | next _ _ stepped inv => exact undoubled_step inv stepped
  have planned : (s.sent ++ s.dispatching.flatten).Subperm (s.drains.flatMap (planOf cfg)) :=
    List.subperm_ext_iff.mpr fun chunk _ => by
      simpa only [List.count, Bool.beq_eq_decide_eq] using inv chunk
  have sentPlanned := (List.sublist_append_left s.sent _).subperm.trans planned
  refine ⟨planned, ?_⟩
  rw [(reachable_bufferInv reach).history]
  exact (subperm_flatten sentPlanned).trans
    ((flatten_planned_sublist cfg s.drains).trans (List.sublist_append_left _ _)).subperm

theorem sent_subperm_planned_overlap :
    ((replay demoConfig 2 overlapDeliverSchedule).sent ++
          (replay demoConfig 2 overlapDeliverSchedule).dispatching.flatten).Subperm
        ((replay demoConfig 2 overlapDeliverSchedule).drains.flatMap (planOf demoConfig)) ∧
      (replay demoConfig 2 overlapDeliverSchedule).sent.flatten.Subperm
        ((replay demoConfig 2 overlapDeliverSchedule).appended.map Prod.snd) :=
  sent_subperm_planned (reachable_replay demoConfig_valid (fun _ _ _ => trivial) (by decide))

/-! ### The linger wait -/

/-- The flush thread passes its loop test; then `close()` sets `_closed` and
notifies `_not_empty` while nobody waits on it. -/
def closeBeforeWaitSchedule : List Action := [.loopTest, .close 0, .closeMark 0, .closeNotify 0]

/-- A configuration `validate` accepts whose batch threshold is one entry. -/
def batchOfOneConfig : CLSConfig := { demoConfig with maxBatchCount := 1 }

/-- The flush thread passes its loop test; then a `send` fills a batch and notifies. -/
def fullBeforeWaitSchedule : List Action := [.loopTest, .send 0 demoFields 1, .sendLocked 0 false]

/-- The flush thread begins its linger wait after `close()` has set `_closed` and
sent its notify, and, with `max_batch_count = 1`, with a full batch in the buffer
whose notify came before the wait: both wake-ups are lost. -/
theorem flush_thread_waits_after_notify :
    Reachable demoConfig (fun _ _ => True) (replay demoConfig 1 closeBeforeWaitSchedule) ∧
      (replay demoConfig 1 closeBeforeWaitSchedule).closed = true ∧
      (replay demoConfig 1 closeBeforeWaitSchedule).clients = [.closeJoining] ∧
      (step demoConfig (replay demoConfig 1 closeBeforeWaitSchedule) .beginWait).map
          Producer.flusher = some .lingering ∧
      batchOfOneConfig.validate = .ok () ∧
      Reachable batchOfOneConfig (fun _ _ => True) (replay batchOfOneConfig 1 fullBeforeWaitSchedule) ∧
      batchOfOneConfig.maxBatchCount ≤ ((replay batchOfOneConfig 1 fullBeforeWaitSchedule).buffer.length : Int) ∧
      (step batchOfOneConfig (replay batchOfOneConfig 1 fullBeforeWaitSchedule) .beginWait).map
          Producer.flusher = some .lingering :=
  ⟨reachable_replay demoConfig_valid (fun _ _ _ => trivial) (by decide), by decide, by decide,
    by decide, rfl, reachable_replay rfl (fun _ _ _ => trivial) (by decide), by decide, by decide⟩

end ScfLog
