import ScfLog.Producer.Machine

/-!
# `CLSHandler`: log records as fields

`CLSHandler.emit` turns a `logging.LogRecord` into a `dict[str, str]` and hands it
to `AsyncProducer.send`. `_record_to_fields` fills in the fixed fields, the
context fields, the stack trace and the `extra` attributes, in that order, and
then renames the keys through `field_map`. `_build_log_group_list` renames them
through `field_map` once more, so a key the first renaming produces is renamed
again when it is itself a key of `field_map`.

## Main definitions

* `ScfLog.LogRecord` — the parts of a record `_record_to_fields` reads, as text
* `ScfLog.collectFields` — the fields `_record_to_fields` collects before renaming
* `ScfLog.fixedFields` — the six fixed fields of its dict literal
* `ScfLog.fieldLayers` — the fields a key is read from, in order of precedence
* `ScfLog.applyFieldMap` — `CLSHandler._apply_field_map`
* `ScfLog.recordToFields` — `CLSHandler._record_to_fields`
* `ScfLog.emit` — the `send` that `CLSHandler.emit` makes
* `ScfLog.setContextFields` — `CLSHandler.set_context_fields`
* `ScfLog.NonChaining` — a field map none of whose targets is renamed again

## Main results

* `ScfLog.collectFields_keeps_fixed` — the collected fields begin with the six fixed
  ones, which nothing replaces, and `StackTrace` holds the record's traceback
* `ScfLog.lookup_collectFields` — a collected key holds the value of the first layer
  that has it: fixed field, traceback, context field, `extra` attribute
* `ScfLog.lookup_applyFieldMap` — after renaming, a key holds the value of the last
  field renamed to it
* `ScfLog.payload_keys_renamed_once` — for a non-chaining field map every reported
  pair carries `field_map.get(k, k)` for the field `k` it came from, and its value
* `ScfLog.handler_renames_twice` — with a chained map a field is renamed twice
-/

namespace ScfLog

/-- The parts of a `logging.LogRecord` that `_record_to_fields` and `emit` read,
each already as the text the code uses: `self.format(record)`, the creation time
formatted with `time_format`, `int(record.created * 1_000_000)`, the traceback text
when `record.exc_info` holds an exception, and `str(value)` for each entry of
`record.__dict__`, in its order. -/
structure LogRecord where
  message : PyStr
  time : PyStr
  createdUs : Int
  levelname : PyStr
  filename : PyStr
  lineno : Nat
  funcName : Option PyStr
  name : Option PyStr
  excText : Option PyStr
  attributes : PyDict

/-- `TIME_KEY`. -/
def timeKey : PyStr := "Time"
/-- `LEVEL_KEY`. -/
def levelKey : PyStr := "Level"
/-- `MSG_KEY`. -/
def msgKey : PyStr := "Msg"
/-- `CALLER_KEY`. -/
def callerKey : PyStr := "Caller"
/-- `FUNC_KEY`. -/
def funcKey : PyStr := "func"
/-- `NAME_KEY`. -/
def nameKey : PyStr := "Name"
/-- `STACKTRACE_KEY`. -/
def stacktraceKey : PyStr := "StackTrace"

/-- `_BUILTIN_ATTRS`: the attributes every `LogRecord` has, never reported as extra fields. -/
def builtinAttrs : List PyStr :=
  ["name", "msg", "args", "created", "relativeCreated", "exc_info", "exc_text", "stack_info",
    "lineno", "funcName", "filename", "module", "pathname", "thread", "threadName", "process",
    "processName", "levelname", "levelno", "msecs", "message", "taskName"]

/-- `fields[key] = value` unless `key` is already there or `skip` holds. -/
def insertNew (skip : PyStr → Bool) (fields : PyDict) (item : PyStr × PyStr) : PyDict :=
  if skip item.1 || fields.contains item.1 then fields else fields.setItem item.1 item.2

/-- The fields `_record_to_fields` collects before renaming: the six fixed ones, the
context fields not already present, the stack trace when there is one, and the
`extra` attributes not built in and not already present. -/
def collectFields (context : PyDict) (record : LogRecord) : PyDict :=
  let fixed := (((((PyDict.empty.setItem timeKey record.time).setItem levelKey record.levelname).setItem
    msgKey record.message).setItem callerKey (record.filename ++ PyStr.ofString (":" ++ toString record.lineno))).setItem
    funcKey (record.funcName.getD "")).setItem nameKey (record.name.getD "")
  let withContext := context.items.foldl (insertNew fun _ => false) fixed
  let withTrace := match record.excText with
    | some trace => withContext.setItem stacktraceKey trace
    | none => withContext
  record.attributes.items.foldl (insertNew fun key => builtinAttrs.contains key) withTrace

/-- Whether a `field_map` is truthy: given and non-empty. -/
def truthy : Option PyDict → Bool
  | some m => !m.items.isEmpty
  | none => false

/-- The loop of `_apply_field_map`: each field, in order, stored under
`field_map.get(key, key)`; a later field overwrites an earlier one of the same name. -/
def mapFields (m : PyDict) : List (PyStr × PyStr) → PyDict → PyDict
  | [], mapped => mapped
  | (key, value) :: rest, mapped => mapFields m rest (mapped.setItem (m.get key key) value)

/-- `CLSHandler._apply_field_map`. -/
def applyFieldMap (fieldMap : Option PyDict) (fields : PyDict) : PyDict :=
  match fieldMap with
  | some m => if m.items.isEmpty then fields else mapFields m fields.items PyDict.empty
  | none => fields

/-- `CLSHandler._record_to_fields`. -/
def recordToFields (cfg : CLSConfig) (context : PyDict) (record : LogRecord) : PyDict :=
  if truthy cfg.fieldMap then applyFieldMap cfg.fieldMap (collectFields context record)
  else collectFields context record

/-- The `send` that `CLSHandler.emit` makes from client thread `t`. -/
def emit (cfg : CLSConfig) (context : PyDict) (t : Nat) (record : LogRecord) : Action :=
  .send t (recordToFields cfg context record) record.createdUs

/-- `CLSHandler.set_context_fields(**kwargs)`: each keyword argument, in order,
stored in the context fields as `str(v)`, which is taken as given. -/
def setContextFields (context : PyDict) (kwargs : List (PyStr × PyStr)) : PyDict :=
  kwargs.foldl (fun fields item => fields.setItem item.1 item.2) context

/-- A field map none of whose targets is renamed again: each target is not a key of
the map, or maps to itself. -/
def NonChaining (m : PyDict) : Prop := ∀ item ∈ m.items, m.get item.2 item.2 = item.2

instance (m : PyDict) : Decidable (NonChaining m) :=
  inferInstanceAs (Decidable (∀ item ∈ m.items, _))

/-! ### The fixed fields come first

The dict literal `_record_to_fields` starts from holds the six fixed fields; the
context fields and the `extra` attributes are added only under keys not yet
present, and the stack trace is assigned over whatever `StackTrace` held. -/

/-- The dict literal of `_record_to_fields`: the six fixed fields, in order. -/
def fixedFields (record : LogRecord) : List (PyStr × PyStr) :=
  [(timeKey, record.time), (levelKey, record.levelname), (msgKey, record.message),
    (callerKey, record.filename ++ PyStr.ofString (":" ++ toString record.lineno)), (funcKey, record.funcName.getD ""),
    (nameKey, record.name.getD "")]

/-- The dict literal holds the six fixed fields, its keys being distinct. -/
theorem fixedFields_eq (record : LogRecord) :
    ((((((PyDict.empty.setItem timeKey record.time).setItem levelKey record.levelname).setItem msgKey
      record.message).setItem callerKey (record.filename ++ PyStr.ofString (":" ++ toString record.lineno))).setItem
      funcKey (record.funcName.getD "")).setItem nameKey (record.name.getD "")).items =
      fixedFields record := by
  simp [PyDict.setItem, PyDict.keys, PyDict.empty, timeKey, levelKey, msgKey, callerKey, funcKey,
    nameKey, fixedFields]

theorem isPrefix_insertNew (skip : PyStr → Bool) (fields : PyDict) (item : PyStr × PyStr) :
    fields.items <+: (insertNew skip fields item).items := by
  unfold insertNew
  split
  · exact ⟨[], List.append_nil _⟩
  · rename_i fresh
    have absent : item.1 ∉ fields.keys := fun mem => fresh (by simp [mem])
    exact ⟨[item], (PyDict.items_setItem_of_not_mem absent).symm⟩

theorem isPrefix_foldl_insertNew (skip : PyStr → Bool) {start : List (PyStr × PyStr)} :
    ∀ (items : List (PyStr × PyStr)) (fields : PyDict), start <+: fields.items →
      start <+: (items.foldl (insertNew skip) fields).items
  | [], _, within => within
  | item :: rest, fields, within =>
    isPrefix_foldl_insertNew skip rest _ (within.trans (isPrefix_insertNew skip fields item))

/-- The dict `_record_to_fields` collects begins with the six fixed fields, in order
and with the record's values, whatever the context fields and the `extra`
attributes are; and when the record carries an exception, `StackTrace` holds its
traceback. -/
theorem collectFields_keeps_fixed (context : PyDict) (record : LogRecord) :
    fixedFields record <+: (collectFields context record).items ∧
      ∀ trace, record.excText = some trace → (collectFields context record).get stacktraceKey "" = trace := by
  have fixedKeys :
      (fixedFields record).map Prod.fst = [timeKey, levelKey, msgKey, callerKey, funcKey, nameKey] :=
    rfl
  have traceOutside : stacktraceKey ∉ (fixedFields record).map Prod.fst := by rw [fixedKeys]; decide
  unfold collectFields
  dsimp only
  refine ⟨isPrefix_foldl_insertNew _ _ _ ?_, fun trace hasTrace => ?_⟩
  · have literal := (List.append_nil _).trans (fixedFields_eq record).symm
    split
    · exact PyDict.isPrefix_setItem (isPrefix_foldl_insertNew _ _ _ ⟨[], literal⟩) traceOutside
    · exact isPrefix_foldl_insertNew _ _ _ ⟨[], literal⟩
  · rw [hasTrace]
    exact PyDict.get_of_mem
      ((isPrefix_foldl_insertNew _ _ _ ⟨[], List.append_nil _⟩).subset PyDict.mem_items_setItem_self)

/-- A context field named `StackTrace` gives way to the record's traceback. -/
example :
    (collectFields ⟨[("StackTrace", "none"), ("nodeID", "n1")], by decide⟩
        { message := "hi", time := "2024-01-01 00:00:00", createdUs := 0, levelname := "INFO",
          filename := "app.py", lineno := 7, funcName := some "main", name := some "root",
          excText := some "Traceback", attributes := ⟨[("name", "root")], by decide⟩ }).items =
      ([("Time", "2024-01-01 00:00:00"), ("Level", "INFO"), ("Msg", "hi"), ("Caller", "app.py:7"),
        ("func", "main"), ("Name", "root"), ("StackTrace", "Traceback"), ("nodeID", "n1")] :
        List (PyStr × PyStr)) := by
  decide

/-! ### Which field a key holds

`_record_to_fields` fills its dict in four passes, and only the traceback is
assigned over what is there; the context fields and the `extra` attributes go in
only under keys still free. So a key holds the value of the first of four layers
that has it. -/

theorem lookup_foldl_insertNew (skip : PyStr → Bool) (key : PyStr) :
    ∀ (items : List (PyStr × PyStr)) (fields : PyDict),
      (items.foldl (insertNew skip) fields).items.lookup key =
        (fields.items.lookup key).or ((items.filter fun item => !skip item.1).lookup key)
  | [], _ => by simp
  | (k, v) :: rest, fields => by
    rw [List.foldl_cons, lookup_foldl_insertNew skip key rest, List.filter_cons]
    unfold insertNew
    by_cases skipped : skip k
    · simp [skipped]
    by_cases present : k ∈ fields.keys
    · obtain ⟨value, found⟩ : ∃ value, fields.items.lookup k = some value :=
        Option.isSome_iff_exists.mp (lookup_isSome_of_mem present)
      by_cases same : key = k
      · subst same
        simp [skipped, present, found, List.lookup_cons]
      · simp [skipped, present, List.lookup_cons, beq_false_of_ne same]
    · have absent : fields.items.lookup k = none := lookup_eq_none_of_not_mem present
      by_cases same : key = k
      · subst same
        simp [skipped, present, PyDict.items_setItem, absent, List.lookup_cons]
      · simp [skipped, present, PyDict.items_setItem, List.lookup_cons, beq_false_of_ne same, same]

/-- What `_record_to_fields` reads a key from, in order of precedence: the six fixed
fields, the traceback when the record carries an exception, the context fields, and
the `extra` attributes that are not built in. -/
def fieldLayers (context : PyDict) (record : LogRecord) : List (PyStr × PyStr) :=
  fixedFields record ++ (record.excText.map fun trace => (stacktraceKey, trace)).toList ++
    context.items ++ record.attributes.items.filter fun item => !builtinAttrs.contains item.1

theorem lookup_fixedFields_stacktraceKey (record : LogRecord) :
    (fixedFields record).lookup stacktraceKey = none := rfl

/-- A key of the collected fields holds the value of the first layer that has it:
a fixed field, then the traceback, then a context field, then an `extra` attribute
that is not built in. -/
theorem lookup_collectFields (context : PyDict) (record : LogRecord) (key : PyStr) :
    (collectFields context record).items.lookup key = (fieldLayers context record).lookup key := by
  have withContext := lookup_foldl_insertNew (fun _ => false) key context.items
  simp only [Bool.not_false, List.filter_true] at withContext
  unfold collectFields fieldLayers
  simp only [lookup_foldl_insertNew, List.lookup_append, Option.or_assoc]
  cases record.excText with
  | none => simp [withContext, fixedFields_eq, Option.or_assoc]
  | some trace =>
    rw [PyDict.items_setItem, lookup_assign]
    by_cases traced : key = stacktraceKey
    · subst traced
      simp [lookup_fixedFields_stacktraceKey, List.lookup_cons]
    · have differ : (key == stacktraceKey) = false := by simpa using traced
      simp [traced, differ, withContext, List.lookup_cons, fixedFields_eq, Option.or_assoc]

/-- A context field holds the last value `set_context_fields` gave it, over any
number of calls. -/
theorem lookup_setContextFields (context : PyDict) (kwargs : List (PyStr × PyStr)) (key : PyStr) :
    (setContextFields context kwargs).items.lookup key =
      (((kwargs.filter fun item => item.1 = key).getLast?).map Prod.snd).or
        (context.items.lookup key) := by
  have assigned := congrArg (List.lookup key) (PyDict.items_foldl_setItem id kwargs context)
  exact assigned.trans (lookup_foldl_assign id key kwargs context.items)

/-! ### Keys `field_map` sends to one name

`_apply_field_map` assigns each field under its renamed key, so two fields renamed
to one key leave only the later one's value. -/

theorem mapFields_eq_foldl (m : PyDict) :
    ∀ (items : List (PyStr × PyStr)) (mapped : PyDict),
      mapFields m items mapped =
        items.foldl (fun d item => d.setItem (m.get item.1 item.1) item.2) mapped
  | [], _ => rfl
  | (_, _) :: rest, _ => mapFields_eq_foldl m rest _

/-- The loop of `_apply_field_map`, from an empty dict, leaves under each key the
value of the last field renamed to it. -/
theorem lookup_mapFields (m : PyDict) (items : List (PyStr × PyStr)) (key : PyStr) :
    (mapFields m items PyDict.empty).items.lookup key =
      ((items.filter fun item => m.get item.1 item.1 = key).getLast?).map Prod.snd := by
  rw [mapFields_eq_foldl, PyDict.items_foldl_setItem fun k => m.get k k,
    lookup_foldl_assign fun k => m.get k k]
  exact Option.or_none

/-- With a non-empty `field_map`, `_apply_field_map` leaves under each key the value
of the last field that `field_map.get(k, k)` renames to it, and nothing under a key
no field is renamed to. -/
theorem lookup_applyFieldMap {m : PyDict} (nonempty : m.items ≠ []) (fields : PyDict)
    (key : PyStr) :
    (applyFieldMap (some m) fields).items.lookup key =
      ((fields.items.filter fun item => m.get item.1 item.1 = key).getLast?).map Prod.snd := by
  have notEmpty : m.items.isEmpty = false := by simpa using nonempty
  rw [applyFieldMap, if_neg (by simp [notEmpty])]
  exact lookup_mapFields m fields.items key

/-- A field map that renames `Msg` to `content`. -/
def contentFieldMap : PyDict := ⟨[("Msg", "content")], by decide⟩

/-- A message with an `extra` attribute named `content`. -/
def collidingFields : PyDict := ⟨[("Msg", "hi"), ("content", "raw")], by decide⟩

theorem lookup_applyFieldMap_colliding :
    contentFieldMap.items ≠ [] ∧
      (applyFieldMap (some contentFieldMap) collidingFields).items.lookup ("content" : PyStr) = some ("raw" : PyStr) :=
  ⟨by decide, (lookup_applyFieldMap (by decide) collidingFields ("content" : PyStr)).trans (by decide)⟩

/-! ### Renaming twice is renaming once when nothing chains -/

variable {m : PyDict} {fieldMap : Option PyDict}

theorem reportKey_of_truthy (given : fieldMap = some m) (nonempty : truthy fieldMap = true)
    (key : PyStr) : reportKey fieldMap key = m.get key key := by
  subst given
  by_cases present : key ∈ m.keys
  · have : m.items ≠ [] := by simpa [truthy] using nonempty
    simp [reportKey, this, present]
  · simp [reportKey, present, PyDict.get_of_not_mem present]

/-- Under a non-chaining map the producer's renaming fixes every key the handler's
renaming produced. -/
theorem reportKey_idem (nonChaining : ∀ m, fieldMap = some m → NonChaining m) (key : PyStr) :
    reportKey fieldMap (reportKey fieldMap key) = reportKey fieldMap key := by
  unfold reportKey
  split
  · rename_i m
    by_cases renamed : m.items ≠ [] ∧ m.contains key = true
    · have stored : (key, m.get key key) ∈ m.items :=
        PyDict.mem_items_get ((PyDict.contains_iff).mp renamed.2)
      simp only [if_pos renamed]
      split_ifs
      · exact nonChaining m rfl _ stored
      · rfl
    · simp only [if_neg renamed]
  · rfl

theorem mem_mapFields {item : PyStr × PyStr} :
    ∀ (items : List (PyStr × PyStr)) (mapped : PyDict),
      item ∈ (mapFields m items mapped).items → item ∈ mapped.items ∨ ∃ field ∈ items, item = (m.get field.1 field.1, field.2)
  | [], _, mem => .inl mem
  | (key, value) :: rest, mapped, mem => by
    rcases mem_mapFields rest _ mem with earlier | later
    · rcases PyDict.mem_items_setItem earlier with rfl | earlier
      · exact .inr ⟨(key, value), List.mem_cons_self _ _, rfl⟩
      · exact .inl earlier
    · obtain ⟨field, inRest, rfl⟩ := later
      exact .inr ⟨field, List.mem_cons_of_mem _ inRest, rfl⟩

/-- Each field `_record_to_fields` returns is a collected field under its reported key. -/
theorem mem_recordToFields {cfg : CLSConfig} {context : PyDict} {record : LogRecord}
    {item : PyStr × PyStr} (mem : item ∈ (recordToFields cfg context record).items) :
    ∃ field ∈ (collectFields context record).items,
      item = (reportKey cfg.fieldMap field.1, field.2) ∨
        item = field ∧ truthy cfg.fieldMap = false := by
  unfold recordToFields at mem
  split at mem
  · rename_i nonempty
    obtain ⟨m, given⟩ : ∃ m, cfg.fieldMap = some m := by
      cases h : cfg.fieldMap <;> simp_all [truthy]
    have nonemptyItems : m.items.isEmpty = false := by simpa [given, truthy] using nonempty
    simp only [applyFieldMap, given, nonemptyItems] at mem
    rcases mem_mapFields _ _ mem with none | ⟨field, inFields, rfl⟩
    · simp [PyDict.empty] at none
    · exact ⟨field, inFields, .inl (by rw [reportKey_of_truthy given nonempty])⟩
  · rename_i off
    exact ⟨item, mem, .inr ⟨rfl, by simpa using off⟩⟩

/-- Under a field map that does not chain, every pair `_build_log_group_list` reports
for a record `CLSHandler.emit` sends carries `field_map.get(k, k)` for the field `k`
it was collected under, with that field's value: along the handler the renaming
counts once, as it does for a direct `send`. -/
theorem payload_keys_renamed_once {cfg : CLSConfig}
    (nonChaining : ∀ m, cfg.fieldMap = some m → NonChaining m) (context : PyDict)
    (record : LogRecord) :
    ∀ content ∈ contentsOf cfg.fieldMap (LogEntry.new record.createdUs (recordToFields cfg context record)),
      ∃ field ∈ (collectFields context record).items,
        content.key = reportKey cfg.fieldMap field.1 ∧ content.value = field.2 := by
  intro content mem
  simp only [contentsOf, LogEntry.new_fields, List.mem_map] at mem
  obtain ⟨item, inFields, rfl⟩ := mem
  obtain ⟨field, collected, renamed | ⟨rfl, -⟩⟩ := mem_recordToFields inFields
  · subst renamed
    exact ⟨field, collected, reportKey_idem nonChaining _, rfl⟩
  · exact ⟨item, collected, rfl, rfl⟩

/-- The field map of `example_manual`. -/
def exampleFieldMap : PyDict := ⟨[("Level", "log_level"), ("Msg", "message")], by decide⟩

/-- A configuration with the field map of `example_manual`. -/
def exampleMapConfig : CLSConfig := { demoConfig with fieldMap := some exampleFieldMap }

/-- An `INFO` record of the root logger, with no exception and no extra attribute. -/
def infoRecord : LogRecord :=
  { message := "hi", time := "2024-01-01 00:00:00", createdUs := 1704067200000000,
    levelname := "INFO", filename := "app.py", lineno := 7, funcName := some "main",
    name := some "root", excText := none,
    attributes := ⟨[("name", "root"), ("msg", "hi"), ("levelname", "INFO")], by decide⟩ }

theorem payload_keys_renamed_once_example :
    ∃ field ∈ (collectFields PyDict.empty infoRecord).items,
      "log_level" = reportKey exampleMapConfig.fieldMap field.1 ∧ "INFO" = field.2 :=
  payload_keys_renamed_once (fun m given => by cases given; decide) PyDict.empty infoRecord
    ⟨"log_level", "INFO"⟩ (by decide)

/-- A field map whose target for `Level` is itself a key. -/
def chainedFieldMap : PyDict := ⟨[("Level", "log_level"), ("log_level", "lvl")], by decide⟩

/-- A configuration `validate` accepts with the chained field map. -/
def chainedMapConfig : CLSConfig := { demoConfig with fieldMap := some chainedFieldMap }

/-- With the chained map, the handler renames `Level` to `log_level` and the
producer renames it again, to `lvl`, where `field_map.get("Level", "Level")` is
`log_level`; a direct `send` of a `Level` field reports `log_level`. -/
theorem handler_renames_twice :
    chainedMapConfig.validate = .ok () ∧
      chainedFieldMap.get levelKey levelKey = "log_level" ∧
      (contentsOf chainedMapConfig.fieldMap (LogEntry.new infoRecord.createdUs
          (recordToFields chainedMapConfig PyDict.empty infoRecord))).map Content.key =
        ["Time", "lvl", "Msg", "Caller", "func", "Name"] ∧
      (contentsOf chainedMapConfig.fieldMap
          (LogEntry.new 0 ⟨[("Level", "INFO")], by decide⟩)).map Content.key = ["log_level"] :=
  ⟨rfl, by decide, by decide, by decide⟩

end ScfLog
