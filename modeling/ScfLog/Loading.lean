import ScfLog.Producer.Machine

/-!
# Loading a configuration

`CLSConfig.from_yaml` takes the document `yaml.safe_load` read, picks the node the
configuration sits in, and hands it to `CLSConfig.from_dict`. That renames two YAML
spellings through `_alias`, keeps the keys that name a field of the dataclass, and
calls `cls(**filtered)`, which fills in every other field's default and then runs
`__post_init__`, where an empty `source` becomes the local address. Nothing on the
way looks at a value's type: a loaded `CLSConfig` holds whatever the document held,
and `validate` tests only the truth of four fields. `setup_cls_logging` takes a
`CLSConfig`, a dict or a YAML file, in that order, and validates what it got before
the handler builds the producer, which validates it once more.

The model starts from the value `yaml.safe_load` returns, and from the address
`_get_local_ip` returns: reading the file and opening the socket are left out.

## Main definitions

* `ScfLog.PyScalar`, `ScfLog.PyValue` — the values `yaml.safe_load` builds
* `ScfLog.ConfigInstance` — a `CLSConfig` instance: each field, in order, with its value
* `ScfLog.newConfig` — `CLSConfig(**kwargs)`, `__post_init__` included
* `ScfLog.fromDict`, `ScfLog.fromYaml` — `CLSConfig.from_dict`, `CLSConfig.from_yaml`
* `ConfigInstance.validate` — `CLSConfig.validate` on the values a document gave
* `ConfigInstance.Typed` — a loaded configuration whose fields have their declared types
* `ScfLog.chooseConfig`, `ScfLog.setupConfig` — the configuration `setup_cls_logging`
  takes from its arguments, and validates

## Main results

* `ScfLog.fromDict_fields` — on every mapping `from_dict` returns, and each field holds
  the value of the last item naming it, directly or through `_alias`, or its default
* `ConfigInstance.validate_eq_ok_iff` — validation passes exactly when the four
  credentials are true values, whatever their types
* `ScfLog.setupConfig_starts_producer` — a configuration `setup_cls_logging` accepts,
  with the declared types, validates as the typed model does and starts the producer
-/

namespace ScfLog

/-- A hashable scalar `yaml.safe_load` builds. A float, a date or a binary scalar is
kept as its type's name, its text and its truth value, which is all that loading
reads of it. -/
inductive PyScalar
  | none
  | bool (b : Bool)
  | int (n : Int)
  | str (s : String)
  | other (typeName text : String) (truth : Bool)
  deriving DecidableEq, Repr

/-- A value `yaml.safe_load` builds. The keys of a mapping are scalars: the loader
refuses a key that is a list or a mapping, which Python cannot hash. -/
inductive PyValue
  | scalar (value : PyScalar)
  | list (items : List PyValue)
  | dict (items : List (PyScalar × PyValue))
  deriving Repr

namespace PyScalar

/-- `bool(value)`. -/
def truthy : PyScalar → Bool
  | .none => false
  | .bool b => b
  | .int n => n != 0
  | .str s => s != ""
  | .other _ _ truth => truth

/-- `type(value).__name__`. -/
def typeName : PyScalar → String
  | .none => "NoneType"
  | .bool _ => "bool"
  | .int _ => "int"
  | .str _ => "str"
  | .other name _ _ => name

end PyScalar

namespace PyValue

/-- `bool(value)`. -/
def truthy : PyValue → Bool
  | .scalar value => value.truthy
  | .list items => !items.isEmpty
  | .dict items => !items.isEmpty

/-- `type(value).__name__`. -/
def typeName : PyValue → String
  | .scalar value => value.typeName
  | .list _ => "list"
  | .dict _ => "dict"

end PyValue

/-- An exception that escapes `from_dict`, `from_yaml` or `setup_cls_logging`. -/
inductive LoadError
  /-- `ValueError`, with the message the code gives it -/
  | valueError (message : String)
  /-- `AttributeError` from `d.items()` on a value of this type, which is not a dict -/
  | attributeError (typeName : String)
  /-- `TypeError` from `cls(**kwargs)` with a key that is not a field's name -/
  | typeError
  deriving DecidableEq, Repr

/-! ### The dataclass -/

/-- The fields of the `CLSConfig` dataclass, in declaration order, with their defaults. -/
def fieldDefaults : List (String × PyScalar) :=
  [("topic_id", .str ""), ("host", .str ""), ("secret_id", .str ""), ("secret_key", .str ""),
    ("source", .str ""), ("total_size_bytes", .int 104857600), ("max_send_workers", .int 50),
    ("max_block_sec", .int 0), ("max_batch_size", .int 5242880), ("max_batch_count", .int 4096),
    ("linger_ms", .int 2000), ("retries", .int 10), ("base_retry_backoff_ms", .int 100),
    ("max_retry_backoff_ms", .int 50000), ("field_map", .none)]

/-- `valid_fields`: the names of the dataclass's fields. -/
def fieldNames : List String := fieldDefaults.map Prod.fst

theorem fieldNames_nodup : fieldNames.Nodup := by decide

/-- A `CLSConfig` instance: each field of the dataclass, in declaration order, with
the value it holds, of whatever type that is. -/
structure ConfigInstance where
  values : List (String × PyValue)
  names : values.map Prod.fst = fieldNames

namespace ConfigInstance

/-- `getattr(config, name)`. -/
def get (inst : ConfigInstance) (name : String) : PyValue :=
  (inst.values.lookup name).getD (.scalar .none)

/-- `setattr(config, name, value)` for a field `name`. -/
def set (inst : ConfigInstance) (name : String) (present : name ∈ fieldNames)
    (value : PyValue) : ConfigInstance :=
  ⟨assign inst.values name value, by
    rw [keys_assign_of_mem (inst.names ▸ present), inst.names]⟩

@[simp] theorem get_set {inst : ConfigInstance} {name name' : String} {present : name ∈ fieldNames}
    {value : PyValue} :
    (inst.set name present value).get name' = if name' = name then value else inst.get name' := by
  unfold get set
  rw [lookup_assign]
  split <;> rfl

end ConfigInstance

/-- The dataclass `__init__` on keyword arguments that all name fields: each field
takes its argument, or its default. -/
def initFields (named : List (String × PyValue)) : ConfigInstance :=
  ⟨fieldDefaults.map fun field => (field.1, (named.lookup field.1).getD (.scalar field.2)), by
    simp [fieldNames, Function.comp_def]⟩

/-- The keyword arguments of `cls(**kwargs)` by name, or the `TypeError` Python raises
for a key that is not a string naming a field. -/
def keywordArgs : List (PyScalar × PyValue) → Except LoadError (List (String × PyValue))
  | [] => .ok []
  | (.str name, value) :: rest =>
    if fieldNames.contains name then (keywordArgs rest).map ((name, value) :: ·)
    else .error .typeError
  | _ :: _ => .error .typeError

/-- `CLSConfig.__post_init__`: a false `source` becomes the address `_get_local_ip`
returned. -/
def postInit (localIp : String) (inst : ConfigInstance) : ConfigInstance :=
  if (inst.get "source").truthy then inst else inst.set "source" (by decide) (.scalar (.str localIp))

/-- `CLSConfig(**kwargs)`. -/
def newConfig (localIp : String) (kwargs : List (PyScalar × PyValue)) :
    Except LoadError ConfigInstance :=
  (keywordArgs kwargs).map fun named => postInit localIp (initFields named)

/-! ### `from_dict` and `from_yaml` -/

/-- `_alias` of `from_dict`: the YAML spellings of two fields. -/
def aliases : List (String × String) :=
  [("total_size_ln_bytes", "total_size_bytes"), ("max_send_worker_count", "max_send_workers")]

/-- `_alias.get(k, k)`. -/
def aliasKey : PyScalar → PyScalar
  | .str k => .str ((aliases.lookup k).getD k)
  | k => k

/-- `k in valid_fields`. -/
def isField : PyScalar → Bool
  | .str k => fieldNames.contains k
  | _ => false

/-- The loop of `from_dict`: each item stored under `_alias.get(k, k)`, a later item
overwriting an earlier one of the same name. A key that is not a string keeps its
place and is dropped by the filter after, so how such keys compare does not change
what `from_dict` returns. -/
def aliasItems (items : List (PyScalar × PyValue)) : List (PyScalar × PyValue) :=
  items.foldl (fun mapped item => assign mapped (aliasKey item.1) item.2) []

/-- `CLSConfig.from_dict`. -/
def fromDict (localIp : String) : PyValue → Except LoadError ConfigInstance
  | .dict items => newConfig localIp ((aliasItems items).filter fun item => isField item.1)
  | value => .error (.attributeError value.typeName)

/-- The message of the `ValueError` `from_yaml` raises on a document that is not a mapping. -/
def yamlFormatMessage (path : String) : String := "YAML 文件格式错误: " ++ path

/-- The message of the `ValueError` `from_yaml` raises when no node holds the configuration. -/
def yamlMissingMessage (path key : String) : String :=
  "无法从 " ++ path ++ " 中解析 CLS 配置，请确保配置在顶层或 plugin." ++ key ++ " 下"

/-- The last two tries of `from_yaml`: the document itself when it holds `topic_id`,
then its `key` node. -/
def fromTopLevel (localIp path key : String) (data : List (PyScalar × PyValue)) :
    Except LoadError ConfigInstance :=
  if (data.lookup (.str "topic_id")).isSome then fromDict localIp (.dict data)
  else match data.lookup (.str key) with
    | some node => fromDict localIp node
    | none => .error (.valueError (yamlMissingMessage path key))

/-- `CLSConfig.from_yaml` on the document `yaml.safe_load` returned. -/
def fromYaml (localIp path key : String) : PyValue → Except LoadError ConfigInstance
  | .dict data =>
    match data.lookup (.str "plugin") with
    | some (.dict plugin) =>
      match plugin.lookup (.str key) with
      | some node => fromDict localIp node
      | none => fromTopLevel localIp path key data
    | _ => fromTopLevel localIp path key data
  | _ => .error (.valueError (yamlFormatMessage path))

/-! ### `from_dict` returns on every mapping

The filter leaves only keys that name fields, so `cls(**filtered)` never raises,
and `_alias` makes the last item naming a field, in either spelling, the one whose
value the field gets. -/

theorem isField_of_mem {field : String × PyScalar} (mem : field ∈ fieldDefaults) :
    isField (.str field.1) = true := by
  simpa [isField, fieldNames] using List.mem_map_of_mem Prod.fst mem

theorem get_initFields {named : List (String × PyValue)} {field : String × PyScalar}
    (mem : field ∈ fieldDefaults) :
    (initFields named).get field.1 = (named.lookup field.1).getD (.scalar field.2) := by
  simp only [initFields, ConfigInstance.get]
  rw [lookup_map_of_mem fieldNames_nodup mem]
  rfl

theorem get_postInit (localIp : String) (inst : ConfigInstance) (name : String) :
    (postInit localIp inst).get name =
      if name = "source" ∧ (inst.get name).truthy = false then .scalar (.str localIp)
      else inst.get name := by
  unfold postInit
  by_cases source : name = "source"
  · subst source
    split <;> simp_all
  · split <;> simp [source]

/-- Keyword arguments that all name fields pass `cls(**kwargs)`, each under its name. -/
theorem keywordArgs_of_isField :
    ∀ (kwargs : List (PyScalar × PyValue)), (∀ item ∈ kwargs, isField item.1 = true) →
      ∃ named, keywordArgs kwargs = .ok named ∧
        ∀ name, named.lookup name = kwargs.lookup (.str name)
  | [], _ => ⟨[], rfl, fun _ => rfl⟩
  | (key, value) :: rest, fields => by
    obtain ⟨named, ok, lookups⟩ :=
      keywordArgs_of_isField rest fun item mem => fields item (.tail _ mem)
    have head := fields (key, value) (.head _)
    cases key with
    | str name =>
      refine ⟨(name, value) :: named, by simp_all [keywordArgs, isField, Except.map], fun k => ?_⟩
      by_cases same : k = name
      · simp [List.lookup_cons, same]
      · have differ : PyScalar.str k ≠ .str name := fun eq => same (PyScalar.str.inj eq)
        simp [List.lookup_cons, beq_false_of_ne same, beq_false_of_ne differ, lookups]
    | _ => simp [isField] at head

/-- The value a mapping gives field `name`: that of its last item whose key, read
through `_alias`, is `name`. -/
def givenValue (items : List (PyScalar × PyValue)) (name : String) : Option PyValue :=
  ((items.filter fun item => aliasKey item.1 = .str name).getLast?).map Prod.snd

/-- `from_dict` returns on every mapping, and each field of what it returns holds the
value of the mapping's last item naming that field, directly or through `_alias`,
or the field's default; a `source` that is false then becomes the local address. -/
theorem fromDict_fields (localIp : String) (items : List (PyScalar × PyValue)) :
    ∃ inst, fromDict localIp (.dict items) = .ok inst ∧
      ∀ field ∈ fieldDefaults,
        inst.get field.1 =
          let given := (givenValue items field.1).getD (.scalar field.2)
          if field.1 = "source" ∧ given.truthy = false then .scalar (.str localIp) else given := by
  obtain ⟨named, ok, lookups⟩ :=
    keywordArgs_of_isField ((aliasItems items).filter fun item => isField item.1)
      fun item mem => (List.mem_filter.mp mem).2
  refine ⟨postInit localIp (initFields named), by simp [fromDict, newConfig, ok, Except.map], ?_⟩
  intro field mem
  have given :
      (initFields named).get field.1 = (givenValue items field.1).getD (.scalar field.2) := by
    rw [get_initFields mem, lookups, lookup_filter_fst, if_pos (isField_of_mem mem), aliasItems,
      lookup_foldl_assign, List.lookup_nil, Option.or_none]
    rfl
  rw [get_postInit, given]

/-! ### Validation and the typed configuration -/

namespace ConfigInstance

/-- The list `missing` of `validate`: the required fields whose values are false. -/
def missingFields (inst : ConfigInstance) : List String :=
  ["topic_id", "host", "secret_id", "secret_key"].filter fun name => !(inst.get name).truthy

/-- `CLSConfig.validate`. -/
def validate (inst : ConfigInstance) : Except LoadError Unit :=
  match inst.missingFields with
  | [] => .ok ()
  | missing => .error (.valueError (CLSConfig.missingFieldsMessage ++ ", ".intercalate missing))

end ConfigInstance

namespace PyValue

/-- The text of a `str` field. -/
def asStr : PyValue → Option String
  | .scalar (.str s) => some s
  | _ => none

/-- The integer of an `int` field; a `bool` is an `int` in Python. -/
def asInt : PyValue → Option Int
  | .scalar (.int n) => some n
  | .scalar (.bool b) => some (if b then 1 else 0)
  | _ => none

/-- The items of a `dict[str, str]`. -/
def asStrItems : List (PyScalar × PyValue) → Option (List (PyStr × PyStr))
  | [] => some []
  | (.str key, .scalar (.str value)) :: rest =>
    ((PyStr.ofString key, PyStr.ofString value) :: ·) <$> asStrItems rest
  | _ :: _ => none

/-- The `Optional[dict[str, str]]` of `field_map`. -/
def asFieldMap : PyValue → Option (Option PyDict)
  | .scalar .none => some none
  | .dict items =>
    match asStrItems items with
    | some pairs =>
      if nodup : (pairs.map Prod.fst).Nodup then some (some ⟨pairs, nodup⟩) else none
    | none => none
  | _ => none

end PyValue

namespace ConfigInstance

/-- A loaded configuration stands for the typed `cfg` the producer and the handler
are modelled over: every field they read holds `cfg`'s value with its declared type. -/
structure Typed (inst : ConfigInstance) (cfg : CLSConfig) : Prop where
  topicId : (inst.get "topic_id").asStr = some cfg.topicId
  host : (inst.get "host").asStr = some cfg.host
  secretId : (inst.get "secret_id").asStr = some cfg.secretId
  secretKey : (inst.get "secret_key").asStr = some cfg.secretKey
  source : (inst.get "source").asStr.map PyStr.ofString = some cfg.source
  totalSizeBytes : (inst.get "total_size_bytes").asInt = some cfg.totalSizeBytes
  maxBlockSec : (inst.get "max_block_sec").asInt = some cfg.maxBlockSec
  maxBatchSize : (inst.get "max_batch_size").asInt = some cfg.maxBatchSize
  maxBatchCount : (inst.get "max_batch_count").asInt = some cfg.maxBatchCount
  retries : (inst.get "retries").asInt = some cfg.retries
  baseRetryBackoffMs : (inst.get "base_retry_backoff_ms").asInt = some cfg.baseRetryBackoffMs
  maxRetryBackoffMs : (inst.get "max_retry_backoff_ms").asInt = some cfg.maxRetryBackoffMs
  fieldMap : (inst.get "field_map").asFieldMap = some cfg.fieldMap
  lingerMs : (inst.get "linger_ms").asInt = some cfg.lingerMs

end ConfigInstance

/-- The text of the `ValueError` `setup_cls_logging` raises when given no configuration. -/
def noConfigMessage : String := "必须提供 config_path、config_dict 或 config 中的至少一个"

/-- The configuration `setup_cls_logging` takes from its arguments, in their order of
precedence. `configPath` comes with the document `yaml.safe_load` read from that file. -/
def chooseConfig (localIp clsKey : String) (config : Option ConfigInstance)
    (configDict : Option PyValue) (configPath : Option (String × PyValue)) :
    Except LoadError ConfigInstance :=
  match config, configDict, configPath with
  | some config, _, _ => .ok config
  | none, some dict, _ => fromDict localIp dict
  | none, none, some (path, data) => fromYaml localIp path clsKey data
  | none, none, none => .error (.valueError noConfigMessage)

/-- The configuration `setup_cls_logging` builds and validates before it builds the
handler. -/
def setupConfig (localIp clsKey : String) (config : Option ConfigInstance)
    (configDict : Option PyValue) (configPath : Option (String × PyValue)) :
    Except LoadError ConfigInstance := do
  let clsConfig ← chooseConfig localIp clsKey config configDict configPath
  clsConfig.validate
  pure clsConfig

/-! ### Validation on loaded values

`validate` tests the truth of four fields and nothing else. When every field has
its declared type, what it tests is what the typed model's `validate` tests, so a
configuration `setup_cls_logging` accepts starts the producer the machine model
runs. -/

theorem PyValue.eq_of_asStr {v : PyValue} {s : String} (text : v.asStr = some s) :
    v = .scalar (.str s) := by
  unfold asStr at text
  split at text <;> simp_all

namespace ConfigInstance

variable {inst : ConfigInstance} {cfg : CLSConfig}

theorem missingFields_eq_nil_iff :
    inst.missingFields = [] ↔
      (inst.get "topic_id").truthy ∧ (inst.get "host").truthy ∧ (inst.get "secret_id").truthy ∧
        (inst.get "secret_key").truthy := by
  simp [missingFields, List.filter_eq_nil_iff]

/-- Validation passes exactly when the four credentials hold true values, whatever
their types. -/
theorem validate_eq_ok_iff :
    inst.validate = .ok () ↔
      (inst.get "topic_id").truthy ∧ (inst.get "host").truthy ∧ (inst.get "secret_id").truthy ∧
        (inst.get "secret_key").truthy := by
  rw [← missingFields_eq_nil_iff, validate]
  split <;> simp_all [Except.ok.injEq]

theorem get_of_requiredFields (typed : inst.Typed cfg) :
    ∀ field ∈ cfg.requiredFields, inst.get field.1 = .scalar (.str field.2) := by
  simp only [CLSConfig.requiredFields, List.mem_cons, List.mem_singleton, List.not_mem_nil, or_false]
  rintro field (rfl | rfl | rfl | rfl)
  exacts [PyValue.eq_of_asStr typed.topicId, PyValue.eq_of_asStr typed.host,
    PyValue.eq_of_asStr typed.secretId, PyValue.eq_of_asStr typed.secretKey]

/-- A configuration whose fields have their declared types misses the same fields,
in the same order, as the typed configuration it stands for. -/
theorem missingFields_of_typed (typed : inst.Typed cfg) : inst.missingFields = cfg.missingFields := by
  have names :
      ["topic_id", "host", "secret_id", "secret_key"] = cfg.requiredFields.map Prod.fst := rfl
  rw [missingFields, names, List.filter_map, CLSConfig.missingFields]
  congr 1
  refine List.filter_congr fun field mem => ?_
  simp [get_of_requiredFields typed field mem, PyValue.truthy, PyScalar.truthy, bne,
    Bool.beq_eq_decide_eq]

theorem validate_of_typed (typed : inst.Typed cfg) (valid : inst.validate = .ok ()) :
    cfg.validate = .ok () := by
  rw [validate] at valid
  rw [CLSConfig.validate, ← missingFields_of_typed typed]
  split at valid <;> simp_all

end ConfigInstance

/-- What `setup_cls_logging` goes on with has passed `validate`. -/
theorem validate_of_setupConfig {localIp clsKey : String} {config : Option ConfigInstance}
    {configDict : Option PyValue} {configPath : Option (String × PyValue)} {inst : ConfigInstance}
    (setup : setupConfig localIp clsKey config configDict configPath = .ok inst) :
    inst.validate = .ok () := by
  obtain ⟨chosen, -, checked⟩ := except_bind_eq_ok.mp setup
  obtain ⟨⟨⟩, valid, returned⟩ := except_bind_eq_ok.mp checked
  cases returned
  exact valid

/-- A configuration `setup_cls_logging` accepts, when its fields have their declared
types, passes the typed `validate` too, so the producer `AsyncProducer(config)`
builds starts in its initial state. -/
theorem setupConfig_starts_producer {localIp clsKey : String} {config : Option ConfigInstance}
    {configDict : Option PyValue} {configPath : Option (String × PyValue)} {inst : ConfigInstance}
    {cfg : CLSConfig} (setup : setupConfig localIp clsKey config configDict configPath = .ok inst)
    (typed : inst.Typed cfg) (threads : Nat) :
    cfg.validate = .ok () ∧ newProducer cfg threads = .ok (Producer.init threads) := by
  have typedValid := ConfigInstance.validate_of_typed typed (validate_of_setupConfig setup)
  exact ⟨typedValid, newProducer_eq_ok typedValid⟩

end ScfLog
