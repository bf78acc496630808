import ScfLog.Basic

/-!
# The producer's configuration

`CLSConfig` is read-only once the producer is built. `CLSConfig.validate` checks
only that the four credential fields are present: none of the numeric fields is
bounded, so every theorem about the producer below quantifies over all of them,
negative and zero values included.

## Main definitions

* `ScfLog.CLSConfig` — the fields the producer and the handler read, with the source's defaults
* `CLSConfig.missingFields` — the names `validate` collects, in its order
* `CLSConfig.validate` — `CLSConfig.validate`, raising `ValueError` with those names

## Main results

* `CLSConfig.validate_eq_ok_iff` — validation passes exactly when no required field is empty
* `CLSConfig.validate_eq_error_iff` — the error names every empty required field, in order
* `CLSConfig.mem_missingFields` — a name is reported exactly when its field is empty
-/

namespace ScfLog

/-- `CLSConfig`, with the defaults of the dataclass. `source` is taken after
`__post_init__` has filled it in; it is a `str` the producer writes into every
payload, so it may hold a lone surrogate. `max_send_workers` is read by nothing. -/
structure CLSConfig where
  topicId : String := ""
  host : String := ""
  secretId : String := ""
  secretKey : String := ""
  source : PyStr := []
  totalSizeBytes : Int := 104857600
  maxBlockSec : Int := 0
  maxBatchSize : Int := 5242880
  maxBatchCount : Int := 4096
  lingerMs : Int := 2000
  retries : Int := 10
  baseRetryBackoffMs : Int := 100
  maxRetryBackoffMs : Int := 50000
  fieldMap : Option PyDict := none

instance : Inhabited CLSConfig := ⟨{}⟩

namespace CLSConfig

variable {cfg : CLSConfig} {name : String} {e : PyError}

/-- The fields `validate` checks, in its order, each with the name it reports. -/
def requiredFields (cfg : CLSConfig) : List (String × String) :=
  [("topic_id", cfg.topicId), ("host", cfg.host), ("secret_id", cfg.secretId),
    ("secret_key", cfg.secretKey)]

/-- The list `missing` of `validate`: the names of the empty required fields. -/
def missingFields (cfg : CLSConfig) : List String :=
  (cfg.requiredFields.filter fun field => field.2 = "").map Prod.fst

/-- The text `validate` puts before the missing names. -/
def missingFieldsMessage : String := "CLS 配置缺少必填字段: "

/-- `CLSConfig.validate`. -/
def validate (cfg : CLSConfig) : Except PyError Unit :=
  match cfg.missingFields with
  | [] => .ok ()
  | missing => .error (.valueError (missingFieldsMessage ++ ", ".intercalate missing))

theorem mem_missingFields :
    name ∈ cfg.missingFields ↔ (name, "") ∈ cfg.requiredFields := by
  simp [missingFields]

theorem missingFields_eq_nil_iff :
    cfg.missingFields = [] ↔
      cfg.topicId ≠ "" ∧ cfg.host ≠ "" ∧ cfg.secretId ≠ "" ∧ cfg.secretKey ≠ "" := by
  simp [missingFields, requiredFields, List.filter_cons]
  split_ifs <;> simp_all

theorem validate_eq_ok_iff :
    cfg.validate = .ok () ↔
      cfg.topicId ≠ "" ∧ cfg.host ≠ "" ∧ cfg.secretId ≠ "" ∧ cfg.secretKey ≠ "" := by
  rw [← missingFields_eq_nil_iff, validate]
  split <;> simp_all [Except.ok.injEq]

/-- Every failed validation raises one `ValueError`, and its message lists every
empty required field, in the order `validate` checks them. -/
theorem validate_eq_error_iff :
    cfg.validate = .error e ↔
      cfg.missingFields ≠ [] ∧
        e = .valueError (missingFieldsMessage ++ ", ".intercalate cfg.missingFields) := by
  rw [validate]
  split
  · simp_all
  · rename_i missing nonempty
    constructor
    · rintro ⟨⟩
      exact ⟨by simpa using nonempty, rfl⟩
    · rintro ⟨-, rfl⟩
      rfl

/-- The dataclass defaults leave all four credentials empty. -/
example : (default : CLSConfig).validate =
    .error (.valueError "CLS 配置缺少必填字段: topic_id, host, secret_id, secret_key") := rfl

end CLSConfig

end ScfLog
