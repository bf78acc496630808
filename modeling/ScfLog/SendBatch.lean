import ScfLog.SendChunk

/-!
# `_send_batch`: a drained batch, in chunks

`_send_batch` walks `range(0, len(entries), max_batch_count)` and hands each slice
`entries[i : i + max_batch_count]` to `_send_chunk`. For a positive
`max_batch_count` the slices are non-empty, no longer than the bound, and
concatenate back to the batch. `validate` does not bound the field, and Python's
`range` raises on a zero step and is empty for a negative one: there the batch is
not sent at all. The loop stops at the first `_send_chunk` that raises, so the
chunks after it are never handed over.

## Main definitions

* `ScfLog.pyRange` — `range(0, stop, step)`
* `ScfLog.batchChunks` — the chunks `_send_batch` hands to `_send_chunk`, in order
* `ScfLog.BatchRun`, `ScfLog.sendBatch` — `_send_batch`: the chunks it hands to
  `_send_chunk`, and the counters or the exception it ends with

## Main results

* `ScfLog.flatten_batchChunks` — for a positive bound the chunks concatenate to the batch
* `ScfLog.batchChunks_bounded` — each chunk is non-empty and within the bound
* `ScfLog.sendBatch_partitions` — the chunks handed over are a prefix of that partition,
  all of it when `_send_batch` returns
* `ScfLog.sendBatch_hands_over_less` — a bound below one, or a chunk that raises, leaves
  drained entries that no chunk handed over holds
* `ScfLog.sendBatch_eq_ok` — on backoffs the clock accepts and entries that render,
  `_send_batch` returns, having handed over and recorded every chunk once
-/

namespace ScfLog

/-- `range(0, stop, step)` for a length `stop`. -/
def pyRange (stop : Nat) (step : Int) : Except PyError (List Nat) :=
  if step = 0 then .error (.valueError "range() arg 3 must not be zero")
  else if step < 0 then .ok []
  else .ok (List.range' 0 ((stop + step.toNat - 1) / step.toNat) step.toNat)

/-- The chunks `_send_batch` hands to `_send_chunk`, in order:
`entries[i : i + max_batch_count]` for each `i` in `range(0, len(entries), max_batch_count)`. -/
def batchChunks (cfg : CLSConfig) (entries : List LogEntry) :
    Except PyError (List (List LogEntry)) := do
  let starts ← pyRange entries.length cfg.maxBatchCount
  pure (starts.map fun i => (entries.drop i).take cfg.maxBatchCount.toNat)

/-- What the `for` loop of `_send_batch` does: the chunks it hands to `_send_chunk`,
in order, and how it ends, with the counters or with the first exception. -/
structure BatchRun where
  handed : List (List LogEntry)
  result : Except PyError ProducerStats

/-- The `for` loop of `_send_batch` over `chunks`, the `i`-th of which meets the
world `outs i`; the first exception ends it. -/
def sendChunks (cfg : CLSConfig) (outs : Nat → Outside) :
    Nat → List (List LogEntry) → ProducerStats → BatchRun
  | _, [], stats => ⟨[], .ok stats⟩
  | i, chunk :: rest, stats =>
    match (sendChunk cfg (outs i) chunk).ending with
    | .raised err => ⟨[chunk], .error err⟩
    | ending =>
      let later := sendChunks cfg outs (i + 1) rest (ending.record chunk.length stats)
      ⟨chunk :: later.handed, later.result⟩

/-- `_send_batch(entries)`, from the counters `stats`. -/
def sendBatch (cfg : CLSConfig) (outs : Nat → Outside) (entries : List LogEntry)
    (stats : ProducerStats) : BatchRun :=
  match batchChunks cfg entries with
  | .error err => ⟨[], .error err⟩
  | .ok chunks => sendChunks cfg outs 0 chunks stats

variable {cfg : CLSConfig} {entries : List LogEntry}

/-! ### The chunks partition the batch -/

theorem batchChunks_of_pos (pos : 0 < cfg.maxBatchCount) :
    batchChunks cfg entries =
      .ok ((List.range' 0 ((entries.length + cfg.maxBatchCount.toNat - 1) / cfg.maxBatchCount.toNat)
        cfg.maxBatchCount.toNat).map fun i => (entries.drop i).take cfg.maxBatchCount.toNat) := by
  have : ¬ cfg.maxBatchCount = 0 := by omega
  have : ¬ cfg.maxBatchCount < 0 := by omega
  simp [batchChunks, pyRange, *]

/-- Slices of width `width` from `start` on, `count` of them, cover the list from
`start` on whenever they reach its end. -/
theorem flatten_slices {α : Type} (l : List α) (width : Nat) :
    ∀ (count start : Nat), l.length ≤ start + count * width →
      ((List.range' start count width).map fun i => (l.drop i).take width).flatten = l.drop start
  | 0, start, reach => by simp [List.drop_eq_nil_of_le (by omega : l.length ≤ start)]
  | count + 1, start, reach => by
    have rest := flatten_slices l width count (start + width) (by rw [Nat.succ_mul] at reach; omega)
    rw [List.range'_succ, List.map_cons, List.flatten_cons, rest, ← List.drop_drop,
      List.take_append_drop]

theorem le_div_mul_of_pos {n width : Nat} (pos : 0 < width) :
    n ≤ (n + width - 1) / width * width := by
  have split := Nat.div_add_mod (n + width - 1) width
  have small := Nat.mod_lt (n + width - 1) pos
  rw [Nat.mul_comm] at split
  omega

/-- For a positive bound the chunks concatenate back to the batch. -/
theorem flatten_batchChunks (pos : 0 < cfg.maxBatchCount) :
    (batchChunks cfg entries).map List.flatten = .ok entries := by
  rw [batchChunks_of_pos pos]
  have width : 0 < cfg.maxBatchCount.toNat := by omega
  simp only [Except.map]
  rw [flatten_slices _ _ _ 0 (by simpa using le_div_mul_of_pos width), List.drop_zero]

/-- For a positive bound each chunk is non-empty and holds at most
`max_batch_count` entries. -/
theorem batchChunks_bounded (pos : 0 < cfg.maxBatchCount) {chunks : List (List LogEntry)}
    (chunked : batchChunks cfg entries = .ok chunks) :
    ∀ chunk ∈ chunks, chunk ≠ [] ∧ chunk.length ≤ cfg.maxBatchCount.toNat := by
  rw [batchChunks_of_pos pos, Except.ok.injEq] at chunked
  subst chunked
  have width : 0 < cfg.maxBatchCount.toNat := by omega
  simp only [List.mem_map, List.mem_range']
  rintro _ ⟨_, ⟨m, below, rfl⟩, rfl⟩
  refine ⟨?_, List.length_take_le _ _⟩
  have reach : (m + 1) * cfg.maxBatchCount.toNat ≤ entries.length + cfg.maxBatchCount.toNat - 1 :=
    (Nat.mul_le_mul_right _ below).trans (Nat.div_mul_le_self _ _)
  rw [Nat.succ_mul, Nat.mul_comm m] at reach
  simp only [ne_eq, List.take_eq_nil_iff, List.drop_eq_nil_iff, not_or]
  omega

theorem batchChunks_of_zero (zero : cfg.maxBatchCount = 0) :
    batchChunks cfg entries = .error (.valueError "range() arg 3 must not be zero") := by
  simp [batchChunks, pyRange, zero]

theorem batchChunks_of_neg (neg : cfg.maxBatchCount < 0) : batchChunks cfg entries = .ok [] := by
  have : ¬ cfg.maxBatchCount = 0 := by omega
  simp [batchChunks, pyRange, neg, this]

/-! ### The chunks handed over

The loop hands over chunk after chunk and stops after the first that raises, so
what reaches `_send_chunk` is a prefix of the planned chunks, and all of them
whenever `_send_batch` returns. -/

section Handed

variable {outs : Nat → Outside}

theorem sendChunks_handed_isPrefix :
    ∀ (i : Nat) (chunks : List (List LogEntry)) (stats : ProducerStats),
      (sendChunks cfg outs i chunks stats).handed <+: chunks
  | _, [], _ => List.nil_prefix
  | i, chunk :: rest, stats => by
    unfold sendChunks
    split
    · exact List.prefix_cons_inj chunk |>.mpr List.nil_prefix
    · exact (List.prefix_cons_inj chunk).mpr (sendChunks_handed_isPrefix (i + 1) rest _)

theorem sendChunks_handed_of_isOk :
    ∀ (i : Nat) (chunks : List (List LogEntry)) (stats : ProducerStats),
      (sendChunks cfg outs i chunks stats).result.isOk →
        (sendChunks cfg outs i chunks stats).handed = chunks
  | _, [], _, _ => rfl
  | i, chunk :: rest, stats, returned => by
    unfold sendChunks at returned ⊢
    split
    · simp_all [Except.isOk, Except.toBool]
    · simp only [List.cons.injEq, true_and]
      exact sendChunks_handed_of_isOk (i + 1) rest _ (by simpa using returned)

end Handed

/-- For a positive `max_batch_count`, `_send_batch` plans non-empty chunks of at most
`max_batch_count` entries that concatenate to the drained list, and hands them to
`_send_chunk` in order, stopping after the first that raises: the chunks handed over
are a prefix of the plan, and the whole plan when `_send_batch` returns. And with an
encodable source, each chunk whose entries render becomes one log group with the
configured source, whose logs carry the chunk's timestamps and fields in order,
each key renamed through `field_map`. -/
theorem sendBatch_partitions (pos : 0 < cfg.maxBatchCount) (outs : Nat → Outside)
    (stats : ProducerStats) :
    ∃ chunks, batchChunks cfg entries = .ok chunks ∧ chunks.flatten = entries ∧
      (sendBatch cfg outs entries stats).handed <+: chunks ∧
      ((sendBatch cfg outs entries stats).result.isOk →
        (sendBatch cfg outs entries stats).handed = chunks) ∧
      ∀ chunk ∈ chunks, chunk ≠ [] ∧ chunk.length ≤ cfg.maxBatchCount.toNat ∧
        (PyStr.Encodable cfg.source → (∀ entry ∈ chunk, Renders cfg.fieldMap entry) →
          buildLogGroupList cfg chunk =
            .ok { logGroupList := [{ logs := chunk.map (logOf cfg.fieldMap), source := cfg.source }] }) := by
  have flat : (batchChunks cfg entries).map List.flatten = .ok entries := flatten_batchChunks pos
  cases chunked : batchChunks cfg entries with
  | error err => simp [chunked, Except.map] at flat
  | ok chunks =>
    simp only [chunked, Except.map, Except.ok.injEq] at flat
    have run : sendBatch cfg outs entries stats = sendChunks cfg outs 0 chunks stats := by
      simp [sendBatch, chunked]
    refine ⟨chunks, rfl, flat, run ▸ sendChunks_handed_isPrefix 0 chunks stats,
      run ▸ sendChunks_handed_of_isOk 0 chunks stats, fun chunk mem => ?_⟩
    obtain ⟨nonempty, bounded⟩ := batchChunks_bounded pos chunked chunk mem
    exact ⟨nonempty, bounded, buildLogGroupList_eq_ok⟩

theorem sendBatch_partitions_defaults :
    0 < (default : CLSConfig).maxBatchCount ∧
      ∃ chunks, batchChunks default [LogEntry.new 0 PyDict.empty] = .ok chunks ∧
        chunks.flatten = [LogEntry.new 0 PyDict.empty] ∧
        (sendBatch default (fun _ => .always .ok) [LogEntry.new 0 PyDict.empty] {}).handed <+: chunks ∧
        ((sendBatch default (fun _ => .always .ok) [LogEntry.new 0 PyDict.empty] {}).result.isOk →
          (sendBatch default (fun _ => .always .ok) [LogEntry.new 0 PyDict.empty] {}).handed = chunks) ∧
        ∀ chunk ∈ chunks, chunk ≠ [] ∧ chunk.length ≤ (default : CLSConfig).maxBatchCount.toNat ∧
          (PyStr.Encodable (default : CLSConfig).source →
            (∀ entry ∈ chunk, Renders (default : CLSConfig).fieldMap entry) →
            buildLogGroupList default chunk =
              .ok { logGroupList :=
                [{ logs := chunk.map (logOf (default : CLSConfig).fieldMap), source := [] }] }) :=
  ⟨by decide, sendBatch_partitions (by decide) _ _⟩

/-- A configuration whose `max_batch_count` is negative. -/
def negativeBatchConfig : CLSConfig :=
  { topicId := "t", host := "h", secretId := "i", secretKey := "k", maxBatchCount := -1 }

/-- A configuration whose chunks hold one entry each. -/
def singleChunkConfig : CLSConfig :=
  { topicId := "t", host := "h", secretId := "i", secretKey := "k", maxBatchCount := 1 }

/-- A drained list whose first timestamp does not fit `int64`. -/
def overflowBatch : List LogEntry := [LogEntry.new (2 ^ 63) PyDict.empty, LogEntry.new 0 PyDict.empty]

/-- Two configurations `validate` accepts for which the chunks handed to
`_send_chunk` do not make up the drained list. With a negative `max_batch_count`
`range()` is empty: `_send_batch` hands nothing over, and the drained entry is lost.
With `max_batch_count = 1` and a first timestamp of `2^63`, two chunks are planned,
the first raises, and the second is never handed over. -/
theorem sendBatch_hands_over_less :
    negativeBatchConfig.validate = .ok () ∧
      batchChunks negativeBatchConfig [LogEntry.new 0 PyDict.empty] = .ok [] ∧
      (sendBatch negativeBatchConfig (fun _ => .always .ok) [LogEntry.new 0 PyDict.empty] {}).handed = [] ∧
      singleChunkConfig.validate = .ok () ∧
      batchChunks singleChunkConfig overflowBatch = .ok [[LogEntry.new (2 ^ 63) PyDict.empty],
        [LogEntry.new 0 PyDict.empty]] ∧
      (sendBatch singleChunkConfig (fun _ => .always .ok) overflowBatch {}).handed =
        [[LogEntry.new (2 ^ 63) PyDict.empty]] :=
  ⟨rfl, batchChunks_of_neg (by decide), rfl, rfl, rfl, rfl⟩

/-! ### `_send_batch` returns when nothing in it can raise -/

/-- The backoffs `time.sleep` accepts, at the start and at the cap, while the
monotonic clock reads below `2^62` ns. -/
structure BackoffsAccepted (cfg : CLSConfig) : Prop where
  base : SleepRange cfg.baseRetryBackoffMs
  cap : SleepRange cfg.maxRetryBackoffMs

theorem sendChunk_ending_ne_raised {out : Outside} (accepted : BackoffsAccepted cfg)
    (clock : ClockBelow out) (source : PyStr.Encodable cfg.source)
    (render : ∀ entry ∈ entries, Renders cfg.fieldMap entry) (err : PyError) :
    (sendChunk cfg out entries).ending ≠ .raised err := by
  rw [sendChunk, buildLogGroupList_eq_ok source render]
  exact retryLoop_ending_ne_raised accepted.cap clock _ _ _ accepted.base err

/-- The counters once each chunk's outcome is recorded, in order. -/
def recordChunks (cfg : CLSConfig) (outs : Nat → Outside) :
    Nat → List (List LogEntry) → ProducerStats → ProducerStats
  | _, [], stats => stats
  | i, chunk :: rest, stats =>
    recordChunks cfg outs (i + 1) rest ((sendChunk cfg (outs i) chunk).ending.record chunk.length stats)

section Returns

variable {outs : Nat → Outside} (accepted : BackoffsAccepted cfg) (clock : ∀ i, ClockBelow (outs i))
  (source : PyStr.Encodable cfg.source)
include accepted clock source

theorem sendChunks_eq_ok :
    ∀ (i : Nat) (chunks : List (List LogEntry)) (stats : ProducerStats),
      (∀ chunk ∈ chunks, ∀ entry ∈ chunk, Renders cfg.fieldMap entry) →
      sendChunks cfg outs i chunks stats = ⟨chunks, .ok (recordChunks cfg outs i chunks stats)⟩
  | _, [], _, _ => rfl
  | i, chunk :: rest, stats, render => by
    have head : ∀ err, (sendChunk cfg (outs i) chunk).ending ≠ .raised err :=
      sendChunk_ending_ne_raised accepted (clock i) source (render chunk (List.mem_cons_self _ _))
    have tail := sendChunks_eq_ok (i + 1) rest
      ((sendChunk cfg (outs i) chunk).ending.record chunk.length stats)
      fun c mem => render c (List.mem_cons_of_mem _ mem)
    unfold sendChunks
    split
    · exact absurd ‹_› (head _)
    · simp only [tail, recordChunks]

/-- Each recorded chunk adds one to exactly one of `send_success` and `send_fail`,
and nothing to `drop_count`; `log_count` grows by the delivered entries only. -/
theorem recordChunks_counts :
    ∀ (i : Nat) (chunks : List (List LogEntry)) (stats : ProducerStats),
      (∀ chunk ∈ chunks, ∀ entry ∈ chunk, Renders cfg.fieldMap entry) →
      (recordChunks cfg outs i chunks stats).sendSuccess +
          (recordChunks cfg outs i chunks stats).sendFail =
        stats.sendSuccess + stats.sendFail + chunks.length ∧
      (recordChunks cfg outs i chunks stats).dropCount = stats.dropCount ∧
      stats.logCount ≤ (recordChunks cfg outs i chunks stats).logCount ∧
      (recordChunks cfg outs i chunks stats).logCount ≤ stats.logCount + chunks.flatten.length
  | _, [], _, _ => by simp [recordChunks]
  | i, chunk :: rest, stats, render => by
    have head : ∀ err, (sendChunk cfg (outs i) chunk).ending ≠ .raised err :=
      sendChunk_ending_ne_raised accepted (clock i) source (render chunk (List.mem_cons_self _ _))
    obtain ⟨total, drops, lower, upper⟩ := recordChunks_counts (i + 1) rest
      ((sendChunk cfg (outs i) chunk).ending.record chunk.length stats)
      fun c mem => render c (List.mem_cons_of_mem _ mem)
    simp only [recordChunks, List.length_cons, List.flatten_cons, List.length_append]
    cases ending : (sendChunk cfg (outs i) chunk).ending with
    | raised err => exact absurd ending (head err)
    | delivered | failed =>
      simp only [ending, ChunkEnd.record, ProducerStats.incrSuccess_sendSuccess,
        ProducerStats.incrLogs_sendSuccess, ProducerStats.incrSuccess_sendFail, ProducerStats.incrLogs_sendFail,
        ProducerStats.incrFail_sendSuccess, ProducerStats.incrFail_sendFail,
        ProducerStats.incrSuccess_dropCount, ProducerStats.incrLogs_dropCount,
        ProducerStats.incrFail_dropCount, ProducerStats.incrSuccess_logCount,
        ProducerStats.incrLogs_logCount, ProducerStats.incrFail_logCount] at total drops lower upper ⊢
      omega

end Returns

theorem mem_of_mem_batchChunks {chunks : List (List LogEntry)} {chunk : List LogEntry}
    {entry : LogEntry} (chunked : batchChunks cfg entries = .ok chunks) (mem : chunk ∈ chunks)
    (inChunk : entry ∈ chunk) : entry ∈ entries := by
  unfold batchChunks pyRange at chunked
  split_ifs at chunked
  all_goals simp only [except_ok_bind, except_error_bind] at chunked
  all_goals cases chunked
  · simp at mem
  · obtain ⟨i, -, rfl⟩ := List.mem_map.mp mem
    exact List.mem_of_mem_drop (List.mem_of_mem_take inChunk)

/-- With a non-zero `max_batch_count`, backoffs `time.sleep` accepts while the clock
reads below `2^62` ns, an encodable source and entries that render, `_send_batch`
returns normally, having handed over and recorded each chunk once. -/
theorem sendBatch_eq_ok {outs : Nat → Outside} (nonzero : cfg.maxBatchCount ≠ 0)
    (accepted : BackoffsAccepted cfg) (clock : ∀ i, ClockBelow (outs i))
    (source : PyStr.Encodable cfg.source) (render : ∀ entry ∈ entries, Renders cfg.fieldMap entry)
    (stats : ProducerStats) :
    ∃ chunks, batchChunks cfg entries = .ok chunks ∧
      sendBatch cfg outs entries stats = ⟨chunks, .ok (recordChunks cfg outs 0 chunks stats)⟩ := by
  cases chunked : batchChunks cfg entries with
  | error err =>
    unfold batchChunks pyRange at chunked
    split_ifs at chunked <;> simp_all
  | ok chunks =>
    refine ⟨chunks, rfl, ?_⟩
    simp only [sendBatch, chunked]
    exact sendChunks_eq_ok accepted clock source 0 chunks stats fun chunk mem entry inChunk =>
      render entry (mem_of_mem_batchChunks chunked mem inChunk)

end ScfLog
