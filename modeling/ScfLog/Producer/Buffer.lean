import ScfLog.Producer.Machine

/-!
# The buffer between its lock-protected steps

Only two steps touch `_buffer`: the locked block of `send`, which appends one entry
after checking that it fits, and `_drain_buffer`, which takes the whole list and
zeroes the byte count in one locked block. Every other step — the unlocked
`_closed` tests, the waits, `_send_chunk` — leaves the buffer, its byte count and
their history alone. `step_bufferView_cases` says this once; the invariants follow.

## Main definitions

* `ScfLog.Producer.bufferView` — the buffer, its byte count, and their history
* `ScfLog.BufferInv` — what holds of them in every reachable state

## Main results

* `ScfLog.step_bufferView_cases` — a step keeps the buffer, appends a fitting entry, or drains
* `ScfLog.reachable_bufferInv` — the invariant holds in every reachable state
* `ScfLog.reachable_bufferSize_eq` — `_buffer_size` is the byte total of `_buffer`, and a
  non-empty buffer is within `total_size_bytes`
* `ScfLog.reachable_appended_eq` — every appended entry is in exactly one drained list
  or still buffered, in append order, and each thread's entries in its call order
-/

namespace ScfLog

namespace Producer

/-- The buffer, its byte count, and their history. -/
def bufferView (s : Producer) :
    List LogEntry × Nat × List (Nat × LogEntry) × List (List LogEntry) :=
  (s.buffer, s.bufferSize, s.appended, s.drains)

theorem sendLocked_bufferView_cases (cfg : CLSConfig) (s : Producer) (t : Nat) (entry : LogEntry)
    (blocking timedOut : Bool) :
    (s.sendLocked cfg t entry blocking timedOut).bufferView = s.bufferView ∨
      (s.overCapacity cfg entry = false ∧
        (s.sendLocked cfg t entry blocking timedOut).bufferView =
          (s.buffer ++ [entry], s.bufferSize + entry.size, s.appended ++ [(t, entry)], s.drains)) := by
  unfold sendLocked
  split_ifs <;> simp_all [bufferView]

theorem drainAndStart_bufferView_cases (cfg : CLSConfig) (s : Producer) :
    (s.drainAndStart cfg).2.bufferView = s.bufferView ∨
      (s.buffer ≠ [] ∧
        (s.drainAndStart cfg).2.bufferView = ([], 0, s.appended, s.drains ++ [s.buffer])) := by
  unfold drainAndStart
  split_ifs with empty
  · exact .inl rfl
  · exact .inr ⟨by simpa using empty, by simp [bufferView]⟩

end Producer

open Producer

variable {cfg : CLSConfig} {allowed : Producer → Action → Prop} {s s' : Producer} {a : Action}

/-- A step keeps the buffer and its history, appends one entry that fits, or takes
the whole non-empty buffer as one drained list. -/
theorem step_bufferView_cases (stepped : step cfg s a = some s') :
    s'.bufferView = s.bufferView ∨
      (∃ t entry, s.overCapacity cfg entry = false ∧
        s'.bufferView =
          (s.buffer ++ [entry], s.bufferSize + entry.size, s.appended ++ [(t, entry)], s.drains)) ∨
      (s.buffer ≠ [] ∧ s'.bufferView = ([], 0, s.appended, s.drains ++ [s.buffer])) := by
  cases a with
  | sendLocked t timedOut =>
    obtain ⟨entry, ⟨-, rfl⟩ | ⟨-, rfl⟩⟩ := step_sendLocked stepped
    all_goals
      rcases sendLocked_bufferView_cases cfg s t entry _ timedOut with same | ⟨fits, appended⟩
    all_goals first | exact .inl same | exact .inr (.inl ⟨t, entry, fits, appended⟩)
  | flush t =>
    obtain ⟨-, rfl⟩ := step_flush stepped
    exact (drainAndStart_bufferView_cases cfg s).imp id .inr
  | closeFlush t =>
    obtain ⟨-, rfl⟩ := step_closeFlush stepped
    exact (drainAndStart_bufferView_cases cfg s).imp id .inr
  | wakeUp =>
    obtain ⟨-, rfl⟩ := step_wakeUp stepped
    exact (drainAndStart_bufferView_cases cfg s).imp id .inr
  | send t fields timestampUs =>
    obtain ⟨-, ⟨-, rfl⟩ | ⟨-, rfl⟩⟩ := step_send stepped <;> exact .inl rfl
  | close t => obtain ⟨-, rfl⟩ := step_close stepped; exact .inl (by split <;> rfl)
  | closeMark t => obtain ⟨-, rfl⟩ := step_closeMark stepped; exact .inl rfl
  | closeNotify t => obtain ⟨-, rfl⟩ := step_closeNotify stepped; exact .inl rfl
  | closeJoin t _ => obtain ⟨-, -, rfl⟩ := step_closeJoin stepped; exact .inl rfl
  | clientChunk t out => obtain ⟨_, _, _, -, rfl⟩ := step_clientChunk stepped; exact .inl rfl
  | loopTest => obtain ⟨-, rfl⟩ := step_loopTest stepped; exact .inl rfl
  | beginWait => obtain ⟨-, rfl⟩ := step_beginWait stepped; exact .inl rfl
  | flusherChunk out => obtain ⟨_, _, -, rfl⟩ := step_flusherChunk stepped; exact .inl rfl

/-- What holds of the buffer between its locked blocks: `_buffer_size` is the byte
total of `_buffer`; a non-empty buffer is within `total_size_bytes`; and the
entries appended so far are, in append order, those of the drained lists in drain
order followed by those still buffered. -/
structure BufferInv (cfg : CLSConfig) (s : Producer) : Prop where
  size_eq : s.bufferSize = entriesSize s.buffer
  within : s.buffer ≠ [] → (s.bufferSize : Int) ≤ cfg.totalSizeBytes
  history : s.appended.map Prod.snd = s.drains.flatten ++ s.buffer

theorem bufferInv_init (threads : Nat) : BufferInv cfg (Producer.init threads) :=
  ⟨rfl, fun nonempty => absurd rfl nonempty, rfl⟩

theorem bufferInv_step (inv : BufferInv cfg s) (stepped : step cfg s a = some s') :
    BufferInv cfg s' := by
  obtain ⟨sizeEq, within, history⟩ := inv
  rcases step_bufferView_cases stepped with same | ⟨t, entry, fits, appended⟩ | ⟨-, drained⟩
  · simp only [bufferView, Prod.mk.injEq] at same
    obtain ⟨buffer, size, appended, drains⟩ := same
    exact ⟨by rw [buffer, size, sizeEq], by rw [buffer, size]; exact within,
      by rw [buffer, appended, drains, history]⟩
  · simp only [bufferView, Prod.mk.injEq] at appended
    obtain ⟨buffer, size, appendedEq, drains⟩ := appended
    simp only [overCapacity, decide_eq_false_iff_not, not_lt] at fits
    refine ⟨by rw [buffer, size, sizeEq]; simp, fun _ => by rw [size]; exact fits, ?_⟩
    rw [buffer, appendedEq, drains, List.map_append, history]
    simp
  · simp only [bufferView, Prod.mk.injEq] at drained
    obtain ⟨buffer, size, appended, drains⟩ := drained
    refine ⟨by rw [buffer, size]; rfl, fun nonempty => absurd buffer nonempty, ?_⟩
    rw [buffer, appended, drains, history]
    simp

theorem reachable_bufferInv (reach : Reachable cfg allowed s) : BufferInv cfg s := by
  induction reach with
  | init built => rw [eq_init_of_newProducer built]; exact bufferInv_init _
  | next _ _ stepped inv => exact bufferInv_step inv stepped

/-- In every reachable state `_buffer_size` equals the summed sizes of `_buffer`,
and a non-empty buffer holds at most `total_size_bytes` bytes: no admission, blocking
or not, overfills the buffer or puts the count out of step with it. -/
theorem reachable_bufferSize_eq (reach : Reachable cfg allowed s) :
    s.bufferSize = entriesSize s.buffer ∧
      (s.buffer ≠ [] → (s.bufferSize : Int) ≤ cfg.totalSizeBytes) :=
  ⟨(reachable_bufferInv reach).size_eq, (reachable_bufferInv reach).within⟩

/-- A client sends two lines, both appended; the flush thread drains them after its
wait; the client sends a third line, appended to the emptied buffer; a second client
is past its `_closed` test. -/
def twoAppendsSchedule : List Action :=
  [.send 0 demoFields 1, .sendLocked 0 false, .send 0 demoFields 2, .sendLocked 0 false,
    .loopTest, .beginWait, .wakeUp, .send 0 demoFields 3, .sendLocked 0 false, .send 1 demoFields 4]

theorem reachable_bufferSize_eq_twoAppends :
    (replay demoConfig 2 twoAppendsSchedule).bufferSize =
        entriesSize (replay demoConfig 2 twoAppendsSchedule).buffer ∧
      ((replay demoConfig 2 twoAppendsSchedule).buffer ≠ [] →
        ((replay demoConfig 2 twoAppendsSchedule).bufferSize : Int) ≤ demoConfig.totalSizeBytes) :=
  reachable_bufferSize_eq (reachable_replay demoConfig_valid (fun _ _ _ => trivial) (by decide))

/-! ### Each thread's entries keep its call order -/

/-- The entry a client is about to append: the one its `send` holds. -/
def ClientPc.pending : ClientPc → List LogEntry
  | .admitting entry | .blocked entry => [entry]
  | _ => []

namespace Producer

/-- The entry client `t` is about to append, if any. -/
def pendingOf (s : Producer) (t : Nat) : List LogEntry :=
  (s.clients[t]?.map ClientPc.pending).getD []

/-- The entries thread `t` appended, in append order. -/
def appendedBy (s : Producer) (t : Nat) : List LogEntry :=
  (s.appended.filter fun p => p.1 = t).map Prod.snd

/-- The entries of thread `t`'s `send` calls past the `_closed` test, in call order. -/
def callsBy (s : Producer) (t : Nat) : List LogEntry :=
  (s.calls.filter fun p => p.1 = t).map Prod.snd

theorem pendingOf_setClient {s : Producer} {t : Nat} {old new : ClientPc}
    (at_t : s.clients[t]? = some old) (same : new.pending = old.pending) :
    (s.setClient t new).pendingOf = s.pendingOf := by
  funext u
  by_cases here : t = u
  · subst here
    simp [pendingOf, List.getElem?_set, at_t, same, (List.getElem?_eq_some_iff.mp at_t).1]
  · simp [pendingOf, List.getElem?_set, here]

theorem pendingOf_setClient_idle {s : Producer} {t : Nat} {old new : ClientPc}
    (at_t : s.clients[t]? = some old) (idleOld : old.pending = []) (idleNew : new.pending = []) :
    (s.setClient t new).pendingOf = s.pendingOf :=
  pendingOf_setClient at_t (idleNew.trans idleOld.symm)

theorem pendingOf_clientResume {s : Producer} {t : Nat} {old : ClientPc} {closing : Bool}
    {progress : Option (List (List LogEntry))} (at_t : s.clients[t]? = some old)
    (idleOld : old.pending = []) : (s.clientResume t closing progress).pendingOf = s.pendingOf := by
  have : (s.clientResume t closing progress).pendingOf =
      (s.setClient t (ClientPc.resume closing progress)).pendingOf := rfl
  rw [this, pendingOf_setClient_idle at_t idleOld]
  rcases progress with _ | _ | _ <;> rfl

end Producer

/-- Each thread's appended entries, in append order, followed by the entry it is
about to append, are a sublist of its `send` calls in call order. -/
def OrderInv (s : Producer) : Prop :=
  ∀ t, (s.appendedBy t ++ s.pendingOf t).Sublist (s.callsBy t)

theorem orderInv_init (threads : Nat) : OrderInv (Producer.init threads) := by
  intro t
  simp only [appendedBy, callsBy, pendingOf, Producer.init, List.getElem?_replicate]
  split <;> simp [ClientPc.pending]

theorem orderInv_of_frame (inv : OrderInv s) (calls : s'.calls = s.calls)
    (appended : s'.appended = s.appended) (pending : s'.pendingOf = s.pendingOf) : OrderInv s' := by
  intro t
  simpa [appendedBy, callsBy, calls, appended, pending] using inv t

theorem orderInv_send {t : Nat} (inv : OrderInv s) (at_t : s.clients[t]? = some .idle)
    (entry : LogEntry) :
    OrderInv { s.setClient t (.admitting entry) with calls := s.calls ++ [(t, entry)] } := by
  intro u
  by_cases here : t = u
  · subst here
    have mine := inv t
    simp only [pendingOf, at_t, Option.map_some', Option.getD_some, ClientPc.pending,
      List.append_nil] at mine
    simpa [appendedBy, callsBy, pendingOf, List.getElem?_set, (List.getElem?_eq_some_iff.mp at_t).1,
      ClientPc.pending, List.filter_append] using mine.append_right [entry]
  · simpa [appendedBy, callsBy, pendingOf, List.getElem?_set, here, List.filter_append,
      Ne.symm here] using inv u

theorem orderInv_sendLocked {t : Nat} {old : ClientPc} {entry : LogEntry} (inv : OrderInv s)
    (at_t : s.clients[t]? = some old) (pending : old.pending = [entry]) (blocking timedOut : Bool) :
    OrderInv (s.sendLocked cfg t entry blocking timedOut) := by
  have mine := inv t
  simp only [pendingOf, at_t, Option.map_some', Option.getD_some, pending] at mine
  unfold Producer.sendLocked
  split_ifs
  rotate_left
  · exact orderInv_of_frame inv rfl rfl (pendingOf_setClient at_t (by rw [pending]; rfl))
  all_goals
    intro u
    by_cases here : t = u
    · subst here
      simp only [appendedBy, callsBy, pendingOf, setClient_clients, List.getElem?_set,
        (List.getElem?_eq_some_iff.mp at_t).1, if_true, Option.map_some', Option.getD_some,
        ClientPc.pending, List.append_nil, List.filter_append, List.map_append] at mine ⊢
      first
        | simpa using mine
        | exact (List.sublist_append_left _ _).trans mine
    · simpa [appendedBy, callsBy, pendingOf, List.getElem?_set, here, List.filter_append,
        Ne.symm here] using inv u

/-- A client leaving or going on with its `flush`, after a step that kept the calls,
the appends and the threads. -/
theorem orderInv_clientResume {mid : Producer} {t : Nat} {old : ClientPc} (inv : OrderInv s)
    (calls : mid.calls = s.calls) (appended : mid.appended = s.appended)
    (clients : mid.clients = s.clients) (at_t : s.clients[t]? = some old) (idle : old.pending = [])
    (closing : Bool) (progress : Option (List (List LogEntry))) :
    OrderInv (mid.clientResume t closing progress) := by
  refine orderInv_of_frame inv (by simp [calls]) (by simp [appended]) ?_
  rw [pendingOf_clientResume (by rwa [clients]) idle]
  funext u
  simp [pendingOf, clients]

theorem orderInv_step (inv : OrderInv s) (stepped : step cfg s a = some s') : OrderInv s' := by
  cases a with
  | send t fields timestampUs =>
    obtain ⟨at_t, ⟨-, rfl⟩ | ⟨-, rfl⟩⟩ := step_send stepped
    · exact orderInv_of_frame inv rfl rfl rfl
    · exact orderInv_send inv at_t _
  | sendLocked t timedOut =>
    obtain ⟨entry, ⟨at_t, rfl⟩ | ⟨at_t, rfl⟩⟩ := step_sendLocked stepped <;>
      exact orderInv_sendLocked inv at_t rfl _ _
  | flush t =>
    obtain ⟨at_t, rfl⟩ := step_flush stepped
    exact orderInv_clientResume inv (by simp) (by simp) (by simp) at_t rfl _ _
  | closeFlush t =>
    obtain ⟨at_t, rfl⟩ := step_closeFlush stepped
    exact orderInv_clientResume inv (by simp) (by simp) (by simp) at_t rfl _ _
  | clientChunk t out =>
    obtain ⟨_, _, _, at_t, rfl⟩ := step_clientChunk stepped
    exact orderInv_clientResume inv (by simp) (by simp) (by simp) at_t rfl _ _
  | close t =>
    obtain ⟨at_t, rfl⟩ := step_close stepped
    split
    · exact inv
    · exact orderInv_of_frame inv rfl rfl (pendingOf_setClient_idle at_t rfl rfl)
  | closeMark t =>
    obtain ⟨at_t, rfl⟩ := step_closeMark stepped
    exact orderInv_of_frame inv rfl rfl (pendingOf_setClient_idle at_t rfl rfl)
  | closeNotify t =>
    obtain ⟨at_t, rfl⟩ := step_closeNotify stepped
    exact orderInv_of_frame inv rfl rfl (pendingOf_setClient_idle at_t rfl rfl)
  | closeJoin t _ =>
    obtain ⟨at_t, -, rfl⟩ := step_closeJoin stepped
    exact orderInv_of_frame inv rfl rfl (pendingOf_setClient_idle at_t rfl rfl)
  | loopTest =>
    obtain ⟨-, rfl⟩ := step_loopTest stepped
    exact orderInv_of_frame inv rfl rfl rfl
  | beginWait =>
    obtain ⟨-, rfl⟩ := step_beginWait stepped
    exact orderInv_of_frame inv rfl rfl rfl
  | wakeUp =>
    obtain ⟨-, rfl⟩ := step_wakeUp stepped
    exact orderInv_of_frame inv (by simp) (by simp) (by funext u; simp [pendingOf])
  | flusherChunk out =>
    obtain ⟨_, _, -, rfl⟩ := step_flusherChunk stepped
    exact orderInv_of_frame inv (by simp) (by simp) (by funext u; simp [pendingOf])

theorem reachable_orderInv (reach : Reachable cfg allowed s) : OrderInv s := by
  induction reach with
  | init built => rw [eq_init_of_newProducer built]; exact orderInv_init _
  | next _ _ stepped inv => exact orderInv_step inv stepped

/-- In every reachable state the entries appended to `_buffer`, in append order, are
those of the non-empty lists `_drain_buffer` returned, in drain order, followed by
the current `_buffer`: none is lost, doubled or reordered between admission and
dispatch. And the entries each thread appended are a sublist of its `send` calls,
in call order. -/
theorem reachable_appended_eq (reach : Reachable cfg allowed s) :
    s.appended.map Prod.snd = s.drains.flatten ++ s.buffer ∧
      ∀ t, ((s.appended.filter fun p => p.1 = t).map Prod.snd).Sublist
        ((s.calls.filter fun p => p.1 = t).map Prod.snd) :=
  ⟨(reachable_bufferInv reach).history,
    fun t => (List.sublist_append_left _ _).trans (reachable_orderInv reach t)⟩

theorem reachable_appended_eq_twoAppends :
    (replay demoConfig 2 twoAppendsSchedule).appended.map Prod.snd =
        (replay demoConfig 2 twoAppendsSchedule).drains.flatten ++
          (replay demoConfig 2 twoAppendsSchedule).buffer ∧
      ∀ t, (((replay demoConfig 2 twoAppendsSchedule).appended.filter fun p => p.1 = t).map Prod.snd).Sublist
        (((replay demoConfig 2 twoAppendsSchedule).calls.filter fun p => p.1 = t).map Prod.snd) :=
  reachable_appended_eq (reachable_replay demoConfig_valid (fun _ _ _ => trivial) (by decide))

/-- The run of `twoAppendsSchedule` drained the first two lines as one list, in
the order the client sent them, and holds the third in the buffer. -/
example :
    (replay demoConfig 2 twoAppendsSchedule).drains =
        [[LogEntry.new 1 demoFields, LogEntry.new 2 demoFields]] ∧
      (replay demoConfig 2 twoAppendsSchedule).buffer = [LogEntry.new 3 demoFields] := by
  decide

end ScfLog
