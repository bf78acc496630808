import ScfLog.Config

/-!
# Log entries and the producer's counters

A `LogEntry` is what `send` puts in the buffer: the caller's timestamp and fields
and a byte estimate computed once, in `__post_init__`. `ProducerStats` holds the
four counters every outcome is recorded in.

## Main definitions

* `ScfLog.fieldsSize` — `sum(len(k) + len(v) for k, v in fields.items())`
* `ScfLog.LogEntry` and `LogEntry.new` — the entry `send` builds
* `ScfLog.ProducerStats` with `incrSuccess`, `incrFail`, `incrLogs`, `incrDrop`
* `ScfLog.entriesSize` — the byte total of a list of entries, as `_buffer_size` counts it
-/

namespace ScfLog

/-- The estimate `LogEntry.__post_init__` computes: the lengths of all keys and
values. Python's `len` of a `str` counts code points, lone surrogates included,
as the length of a `PyStr` does. -/
def fieldsSize (fields : PyDict) : Nat :=
  fields.items.foldr (fun item total => item.1.length + item.2.length + total) 0

/-- `LogEntry`: a timestamp in microseconds, the fields, and the size estimate. -/
structure LogEntry where
  timestampUs : Int
  fields : PyDict
  size : Nat := 0
  deriving DecidableEq

namespace LogEntry

/-- `LogEntry.__post_init__`: a size left at zero is replaced by the estimate. -/
def postInit (entry : LogEntry) : LogEntry :=
  if entry.size = 0 then { entry with size := fieldsSize entry.fields } else entry

/-- `LogEntry(timestamp_us=timestamp_us, fields=log_fields)`, as `send` builds it. -/
def new (timestampUs : Int) (fields : PyDict) : LogEntry :=
  postInit { timestampUs, fields }

@[simp] theorem new_size (timestampUs : Int) (fields : PyDict) :
    (new timestampUs fields).size = fieldsSize fields := by
  simp [new, postInit]

@[simp] theorem new_timestampUs (timestampUs : Int) (fields : PyDict) :
    (new timestampUs fields).timestampUs = timestampUs := by
  simp [new, postInit]

@[simp] theorem new_fields (timestampUs : Int) (fields : PyDict) :
    (new timestampUs fields).fields = fields := by
  simp [new, postInit]

end LogEntry

/-- The bytes a list of entries holds: what `_buffer_size` should equal. -/
def entriesSize : List LogEntry → Nat
  | [] => 0
  | entry :: rest => entry.size + entriesSize rest

@[simp] theorem entriesSize_nil : entriesSize [] = 0 := rfl

@[simp] theorem entriesSize_append (xs ys : List LogEntry) :
    entriesSize (xs ++ ys) = entriesSize xs + entriesSize ys := by
  induction xs with
  | nil => simp
  | cons entry rest ih => rw [List.cons_append, entriesSize, entriesSize, ih, Nat.add_assoc]

@[simp] theorem entriesSize_singleton (entry : LogEntry) : entriesSize [entry] = entry.size := rfl

/-- `ProducerStats`: the counters, as `snapshot` returns them. -/
structure ProducerStats where
  sendSuccess : Nat := 0
  sendFail : Nat := 0
  logCount : Nat := 0
  dropCount : Nat := 0
  deriving DecidableEq, Repr

namespace ProducerStats

/-- `incr_success`. -/
def incrSuccess (stats : ProducerStats) : ProducerStats :=
  { stats with sendSuccess := stats.sendSuccess + 1 }

/-- `incr_fail`. -/
def incrFail (stats : ProducerStats) : ProducerStats :=
  { stats with sendFail := stats.sendFail + 1 }

/-- `incr_logs(n)`. -/
def incrLogs (stats : ProducerStats) (n : Nat) : ProducerStats :=
  { stats with logCount := stats.logCount + n }

/-- `incr_drop(n)`. -/
def incrDrop (stats : ProducerStats) (n : Nat) : ProducerStats :=
  { stats with dropCount := stats.dropCount + n }

variable (stats : ProducerStats) (n : Nat)

@[simp] theorem incrSuccess_sendSuccess : stats.incrSuccess.sendSuccess = stats.sendSuccess + 1 := rfl
@[simp] theorem incrSuccess_sendFail : stats.incrSuccess.sendFail = stats.sendFail := rfl
@[simp] theorem incrSuccess_logCount : stats.incrSuccess.logCount = stats.logCount := rfl
@[simp] theorem incrSuccess_dropCount : stats.incrSuccess.dropCount = stats.dropCount := rfl
@[simp] theorem incrFail_sendSuccess : stats.incrFail.sendSuccess = stats.sendSuccess := rfl
@[simp] theorem incrFail_sendFail : stats.incrFail.sendFail = stats.sendFail + 1 := rfl
@[simp] theorem incrFail_logCount : stats.incrFail.logCount = stats.logCount := rfl
@[simp] theorem incrFail_dropCount : stats.incrFail.dropCount = stats.dropCount := rfl
@[simp] theorem incrLogs_sendSuccess : (stats.incrLogs n).sendSuccess = stats.sendSuccess := rfl
@[simp] theorem incrLogs_sendFail : (stats.incrLogs n).sendFail = stats.sendFail := rfl
@[simp] theorem incrLogs_logCount : (stats.incrLogs n).logCount = stats.logCount + n := rfl
@[simp] theorem incrLogs_dropCount : (stats.incrLogs n).dropCount = stats.dropCount := rfl
@[simp] theorem incrDrop_sendSuccess : (stats.incrDrop n).sendSuccess = stats.sendSuccess := rfl
@[simp] theorem incrDrop_sendFail : (stats.incrDrop n).sendFail = stats.sendFail := rfl
@[simp] theorem incrDrop_logCount : (stats.incrDrop n).logCount = stats.logCount := rfl
@[simp] theorem incrDrop_dropCount : (stats.incrDrop n).dropCount = stats.dropCount + n := rfl

end ProducerStats

end ScfLog
