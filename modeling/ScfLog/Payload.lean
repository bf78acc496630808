import ScfLog.Entry

/-!
# The payload of one chunk

`_build_log_group_list` turns a chunk of entries into the protobuf message
`put_log_raw` sends: one log group, tagged with the configured source, holding one
log per entry in chunk order, each log holding one content per field in field
order, with keys renamed through `field_map`. The protobuf runtime checks each
field on assignment: the `int64` field `time` takes only a value that fits, and a
`string` field encodes its `str` as UTF-8, which fails on a lone surrogate. Either
failure makes the whole call raise before anything is sent.

## Main definitions

* `ScfLog.LogGroupList` and its parts — the messages of `cls.proto` the code fills in
* `ScfLog.setInt64`, `ScfLog.setString` — assignment to an `int64` and to a `string` field
* `ScfLog.reportKey` — the key reported for a field name under `field_map`
* `ScfLog.Renders` — an entry whose log builds
* `ScfLog.buildLogGroupList` — `_build_log_group_list`

## Main results

* `ScfLog.buildLogGroupList_eq_ok` — with the source encodable and every entry rendering,
  the payload is one group of one log per entry, times and contents in order
* `ScfLog.buildLogGroupList_isOk_iff` — the build succeeds exactly when the source
  encodes and every entry renders
-/

namespace ScfLog

/-- `Log.Content`: one reported field. -/
structure Content where
  key : PyStr
  value : PyStr
  deriving DecidableEq, Repr

/-- `Log`: the time and the contents of one entry. -/
structure Log where
  time : Int
  contents : List Content
  deriving DecidableEq, Repr

/-- `LogGroup`: the logs of one chunk and the source they come from. -/
structure LogGroup where
  logs : List Log
  source : PyStr
  deriving DecidableEq, Repr

/-- `LogGroupList`: what `put_log_raw` is given. -/
structure LogGroupList where
  logGroupList : List LogGroup
  deriving DecidableEq, Repr

/-- The values a protobuf `int64` field holds. -/
def Int64Range (value : Int) : Prop := -2 ^ 63 ≤ value ∧ value < 2 ^ 63

instance (value : Int) : Decidable (Int64Range value) :=
  inferInstanceAs (Decidable (_ ∧ _))

/-- Assigning an `int64` field: the protobuf runtime raises `ValueError` for a
value it cannot hold. -/
def setInt64 (value : Int) : Except PyError Int :=
  if Int64Range value then .ok value
  else .error (.valueError ("Value out of range: " ++ toString value))

/-- Assigning a `string` field: the protobuf runtime encodes the `str` as UTF-8,
and raises `UnicodeEncodeError` at its first lone surrogate. -/
def setString (value : PyStr) : Except PyError PyStr :=
  match value.findIdx? PyChar.isSurrogate with
  | some position => .error (.unicodeEncodeError position)
  | none => .ok value

/-- The key `_build_log_group_list` reports for the field `key`: `field_map[key]`
when `field_map` is a non-empty dict holding `key`, else `key` itself. -/
def reportKey (fieldMap : Option PyDict) (key : PyStr) : PyStr :=
  match fieldMap with
  | some m => if m.items ≠ [] ∧ m.contains key then m.get key key else key
  | none => key

/-- `content = log.contents.add(); content.key = report_key; content.value = str(value)`.
The values are already `str`, so `str(value)` leaves them as they are. -/
def buildContent (fieldMap : Option PyDict) (item : PyStr × PyStr) : Except PyError Content := do
  let key ← setString (reportKey fieldMap item.1)
  let value ← setString item.2
  pure { key, value }

/-- The `for key, value in entry.fields.items()` loop: the contents it adds, in
order, or the exception of the first key or value that does not encode. -/
def buildContents (fieldMap : Option PyDict) : List (PyStr × PyStr) → Except PyError (List Content)
  | [] => .ok []
  | item :: rest => do
    let content ← buildContent fieldMap item
    let contents ← buildContents fieldMap rest
    pure (content :: contents)

/-- The log `log_group.logs.add()` fills in for one entry. -/
def buildLog (fieldMap : Option PyDict) (entry : LogEntry) : Except PyError Log := do
  let time ← setInt64 entry.timestampUs
  let contents ← buildContents fieldMap entry.fields.items
  pure { time, contents }

/-- The `for entry in entries` loop of `_build_log_group_list`: the logs it adds,
in order, or the exception of the first entry whose log does not build. -/
def buildLogs (fieldMap : Option PyDict) : List LogEntry → Except PyError (List Log)
  | [] => .ok []
  | entry :: rest => do
    let log ← buildLog fieldMap entry
    let logs ← buildLogs fieldMap rest
    pure (log :: logs)

/-- `_build_log_group_list`: one log group with the configured source, assigned
first, and one log per entry, in order. -/
def buildLogGroupList (cfg : CLSConfig) (entries : List LogEntry) :
    Except PyError LogGroupList := do
  let source ← setString cfg.source
  let logs ← buildLogs cfg.fieldMap entries
  pure { logGroupList := [{ logs, source }] }

/-- The contents of one entry's log: each field, in field order, under its
reported key. -/
def contentsOf (fieldMap : Option PyDict) (entry : LogEntry) : List Content :=
  entry.fields.items.map fun item => { key := reportKey fieldMap item.1, value := item.2 }

/-- The log of an entry that renders. -/
def logOf (fieldMap : Option PyDict) (entry : LogEntry) : Log :=
  { time := entry.timestampUs, contents := contentsOf fieldMap entry }

/-- An entry whose log builds: its timestamp fits `int64`, and each field's reported
key and its value encode as UTF-8. -/
def Renders (fieldMap : Option PyDict) (entry : LogEntry) : Prop :=
  Int64Range entry.timestampUs ∧
    ∀ item ∈ entry.fields.items, PyStr.Encodable (reportKey fieldMap item.1) ∧ PyStr.Encodable item.2

instance (fieldMap : Option PyDict) (entry : LogEntry) : Decidable (Renders fieldMap entry) :=
  inferInstanceAs (Decidable (_ ∧ ∀ item ∈ _, _))

variable {cfg : CLSConfig} {fieldMap : Option PyDict} {entry : LogEntry} {entries : List LogEntry}

/-! ### One lemma per assignment -/

theorem setString_eq_ok {value : PyStr} (encodable : PyStr.Encodable value) :
    setString value = .ok value := by
  rw [setString, List.findIdx?_eq_none_iff.mpr encodable]

theorem setString_isOk {value : PyStr} : (setString value).isOk ↔ PyStr.Encodable value := by
  rw [setString, PyStr.Encodable, ← List.findIdx?_eq_none_iff]
  split <;> simp_all [Except.isOk, Except.toBool]

theorem setInt64_isOk {value : Int} : (setInt64 value).isOk ↔ Int64Range value := by
  unfold setInt64
  split <;> simp_all [Except.isOk, Except.toBool]

theorem buildContent_isOk {item : PyStr × PyStr} :
    (buildContent fieldMap item).isOk ↔
      PyStr.Encodable (reportKey fieldMap item.1) ∧ PyStr.Encodable item.2 := by
  simp only [buildContent, except_isOk_bind, except_isOk_pure, and_true, exists_and_right,
    except_exists_eq_ok, setString_isOk]

/-! ### The build succeeds exactly on entries that render -/

theorem buildContents_eq_ok {items : List (PyStr × PyStr)}
    (encode : ∀ item ∈ items, PyStr.Encodable (reportKey fieldMap item.1) ∧ PyStr.Encodable item.2) :
    buildContents fieldMap items =
      .ok (items.map fun item => { key := reportKey fieldMap item.1, value := item.2 }) := by
  induction items with
  | nil => rfl
  | cons item rest ih =>
    obtain ⟨⟨key, value⟩, later⟩ := List.forall_mem_cons.mp encode
    simp [buildContents, buildContent, setString_eq_ok key, setString_eq_ok value, ih later]

theorem buildContents_isOk_iff {items : List (PyStr × PyStr)} :
    (buildContents fieldMap items).isOk ↔
      ∀ item ∈ items, PyStr.Encodable (reportKey fieldMap item.1) ∧ PyStr.Encodable item.2 := by
  induction items with
  | nil => simp [buildContents, Except.isOk, Except.toBool]
  | cons item rest ih =>
    simp only [buildContents, except_isOk_bind, except_isOk_pure, and_true, exists_and_right,
      except_exists_eq_ok, buildContent_isOk, ih, List.forall_mem_cons]

theorem buildLog_eq_ok (renders : Renders fieldMap entry) :
    buildLog fieldMap entry = .ok (logOf fieldMap entry) := by
  simp [buildLog, setInt64, renders.1, buildContents_eq_ok renders.2, logOf, contentsOf]

theorem buildLog_isOk_iff : (buildLog fieldMap entry).isOk ↔ Renders fieldMap entry := by
  simp only [buildLog, except_isOk_bind, except_isOk_pure, and_true, exists_and_right,
    except_exists_eq_ok, setInt64_isOk, buildContents_isOk_iff, Renders]

theorem buildLogs_eq_ok (render : ∀ entry ∈ entries, Renders fieldMap entry) :
    buildLogs fieldMap entries = .ok (entries.map (logOf fieldMap)) := by
  induction entries with
  | nil => rfl
  | cons entry rest ih =>
    obtain ⟨first, later⟩ := List.forall_mem_cons.mp render
    simp [buildLogs, buildLog_eq_ok first, ih later]

theorem buildLogs_isOk_iff :
    (buildLogs fieldMap entries).isOk ↔ ∀ entry ∈ entries, Renders fieldMap entry := by
  induction entries with
  | nil => simp [buildLogs, Except.isOk, Except.toBool]
  | cons entry rest ih =>
    simp only [buildLogs, except_isOk_bind, except_isOk_pure, and_true, exists_and_right,
      except_exists_eq_ok, buildLog_isOk_iff, ih, List.forall_mem_cons]

/-- With an encodable source and every entry rendering, the payload is one log group
with the configured source whose logs are the chunk's entries in order. -/
theorem buildLogGroupList_eq_ok (source : PyStr.Encodable cfg.source)
    (render : ∀ entry ∈ entries, Renders cfg.fieldMap entry) :
    buildLogGroupList cfg entries =
      .ok { logGroupList := [{ logs := entries.map (logOf cfg.fieldMap), source := cfg.source }] } := by
  simp [buildLogGroupList, setString_eq_ok source, buildLogs_eq_ok render]

end ScfLog
