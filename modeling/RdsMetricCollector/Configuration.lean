import RdsMetricCollector.Scheduler.Settings

/-! # The configuration

The configuration with the `validate` tags of its fields. The validator is a
third-party package; what is documented of it is stated here, for any function
in its place.
-/

namespace RdsMetricCollector.Configuration

open RdsMetricCollector.Scheduler

/-! ## Tagged fields -/

inductive FieldValue
  | string (value : String)
  | int (value : Int64)
  | pointer (value : Option Int64)
  deriving DecidableEq, Repr

inductive Tag
  | required
  | isdefault
  | gte (bound : Int64)
  | lte (bound : Int64)
  deriving DecidableEq, Repr

structure Field where
  path : String
  tags : List Tag
  value : FieldValue
  deriving DecidableEq, Repr

/-- The meaning of a tag. A pointer is compared by what it points to, and only a
nil pointer is a default; the length of a string is compared. -/
def Tag.Holds : Tag → FieldValue → Prop
  | .required, .string value => value ≠ ""
  | .required, .int value => value ≠ 0
  | .required, .pointer value => value ≠ none
  | .isdefault, .string value => value = ""
  | .isdefault, .int value => value = 0
  | .isdefault, .pointer value => value = none
  | .gte bound, .string value => bound.toInt ≤ value.length
  | .gte bound, .int value => bound ≤ value
  | .gte bound, .pointer value => ∃ target ∈ value, bound ≤ target
  | .lte bound, .string value => value.length ≤ bound.toInt
  | .lte bound, .int value => value ≤ bound
  | .lte bound, .pointer value => ∃ target ∈ value, target ≤ bound

instance : (tag : Tag) → (value : FieldValue) → Decidable (tag.Holds value)
  | .required, .string value => inferInstanceAs (Decidable (value ≠ ""))
  | .required, .int value => inferInstanceAs (Decidable (value ≠ 0))
  | .required, .pointer value => inferInstanceAs (Decidable (value ≠ none))
  | .isdefault, .string value => inferInstanceAs (Decidable (value = ""))
  | .isdefault, .int value => inferInstanceAs (Decidable (value = 0))
  | .isdefault, .pointer value => inferInstanceAs (Decidable (value = none))
  | .gte bound, .string value => inferInstanceAs (Decidable (bound.toInt ≤ value.length))
  | .gte bound, .int value => inferInstanceAs (Decidable (bound ≤ value))
  | .gte bound, .pointer value => inferInstanceAs (Decidable (∃ target ∈ value, bound ≤ target))
  | .lte bound, .string value => inferInstanceAs (Decidable (value.length ≤ bound.toInt))
  | .lte bound, .int value => inferInstanceAs (Decidable (value ≤ bound))
  | .lte bound, .pointer value => inferInstanceAs (Decidable (∃ target ∈ value, target ≤ bound))

/-- What is documented of the validator: all tags of all fields have to hold,
except that a nil pointer whose first tag is `isdefault` is accepted without
looking at the others. -/
structure Documented (validator : List Field → Option String) : Prop where
  struct : ∀ fields, validator fields = none ↔
    ∀ field ∈ fields, validator [field] = none
  nilDefault : ∀ path tags,
    validator [{ path := path, tags := .isdefault :: tags, value := .pointer none }] =
      none
  tags : ∀ field, field.value ≠ .pointer none →
    (validator [field] = none ↔ ∀ tag ∈ field.tags, tag.Holds field.value)

/-! ## Configurations -/

structure AWSConfig where
  region : String
  awsPartition : String
  deriving DecidableEq, Repr

structure RDSBrokerInfoConfig where
  dbPrefix : String
  brokerName : String
  masterPasswordSeed : String
  deriving DecidableEq, Repr

structure LoggregatorEmitterConfig where
  metronURL : String
  caCertPath : String
  certPath : String
  keyPath : String
  deriving DecidableEq, Repr

/-- A `Config` without the embedded locket configuration, which has no tags. -/
structure Config where
  logLevel : String
  aws : AWSConfig
  rdsBrokerInfo : RDSBrokerInfoConfig
  scheduler : SchedulerConfig
  loggregatorEmitter : LoggregatorEmitterConfig
  deriving DecidableEq, Repr

def requiredField (path value : String) : Field where
  path := path
  tags := [.required]
  value := .string value

def intervalField (path : String) (least value : Int64) : Field where
  path := path
  tags := [.required, .gte least, .lte 3600]
  value := .int value

def optionField (path : String) (most : Int64) (value : Option Int64) : Field where
  path := path
  tags := [.isdefault, .gte 0, .lte most]
  value := .pointer value

/-- The tagged fields, in the order of the structs. -/
def Config.fields (c : Config) : List Field :=
  [requiredField "Config.LogLevel" c.logLevel,
    requiredField "Config.AWS.Region" c.aws.region,
    requiredField "Config.AWS.AWSPartition" c.aws.awsPartition,
    requiredField "Config.RDSBrokerInfo.DBPrefix" c.rdsBrokerInfo.dbPrefix,
    requiredField "Config.RDSBrokerInfo.BrokerName" c.rdsBrokerInfo.brokerName,
    requiredField "Config.RDSBrokerInfo.MasterPasswordSeed"
      c.rdsBrokerInfo.masterPasswordSeed,
    intervalField "Config.Scheduler.InstanceRefreshInterval" 1
      c.scheduler.instanceRefreshInterval,
    optionField "Config.Scheduler.CollectorTimeoutMs" 15000
      c.scheduler.collectorTimeoutMs,
    optionField "Config.Scheduler.CollectorRetryIntervalMs" 10000
      c.scheduler.collectorRetryIntervalMs,
    optionField "Config.Scheduler.CollectorMaxRetries" 10
      c.scheduler.collectorMaxRetries,
    intervalField "Config.Scheduler.SQLMetricCollectorInterval" 0
      c.scheduler.sqlMetricCollectorInterval,
    intervalField "Config.Scheduler.CWMetricCollectorInterval" 0
      c.scheduler.cwMetricCollectorInterval,
    requiredField "Config.LoggregatorEmitter.MetronURL" c.loggregatorEmitter.metronURL,
    requiredField "Config.LoggregatorEmitter.CACertPath"
      c.loggregatorEmitter.caCertPath,
    requiredField "Config.LoggregatorEmitter.CertPath" c.loggregatorEmitter.certPath,
    requiredField "Config.LoggregatorEmitter.KeyPath" c.loggregatorEmitter.keyPath]

/-- `Validate`, with the error of the validator if there is one. -/
def Config.validate (validator : List Field → Option String) (c : Config) :
    Option String :=
  validator c.fields

/-! ## Accepted configurations -/

/-- The field is not a pointer. -/
def Field.Plain (field : Field) : Prop :=
  match field.value with
  | .pointer _ => False
  | _ => True

instance : (field : Field) → Decidable field.Plain
  | ⟨_, _, .string _⟩ | ⟨_, _, .int _⟩ => .isTrue trivial
  | ⟨_, _, .pointer _⟩ => .isFalse id

theorem Field.Plain.ne_pointer {field : Field} (plain : field.Plain)
    (target : Option Int64) : field.value ≠ .pointer target := by
  intro pointer
  rw [Plain, pointer] at plain
  exact plain

@[simp] theorem plain_requiredField (path value : String) :
    (requiredField path value).Plain :=
  trivial

@[simp] theorem plain_intervalField (path : String) (least value : Int64) :
    (intervalField path least value).Plain :=
  trivial

@[simp] theorem not_plain_optionField (path : String) (most : Int64)
    (value : Option Int64) : ¬(optionField path most value).Plain :=
  id

/-- All fields but the options satisfy their tags. -/
def Config.OthersValid (c : Config) : Prop :=
  ∀ field ∈ c.fields, field.Plain → ∀ tag ∈ field.tags, tag.Holds field.value

instance (c : Config) : Decidable c.OthersValid :=
  inferInstanceAs (Decidable (∀ field ∈ c.fields, _))

/-- No option is set. -/
def NoOptions (cfg : SchedulerConfig) : Prop :=
  cfg.collectorTimeoutMs = none ∧ cfg.collectorRetryIntervalMs = none ∧
    cfg.collectorMaxRetries = none

/-- The option is not set, or set in its declared range. -/
def InRange (most : Int64) (value : Option Int64) : Prop :=
  ∀ target, value = some target → 0 ≤ target ∧ target ≤ most

def OptionsInRange (cfg : SchedulerConfig) : Prop :=
  InRange 15000 cfg.collectorTimeoutMs ∧ InRange 10000 cfg.collectorRetryIntervalMs ∧
    InRange 10 cfg.collectorMaxRetries

theorem NoOptions.optionsInRange {cfg : SchedulerConfig} (unset : NoOptions cfg) :
    OptionsInRange cfg := by
  rcases unset with ⟨timeout, retryInterval, maxRetries⟩
  simp [OptionsInRange, InRange, timeout, retryInterval, maxRetries]

variable {validator : List Field → Option String} {c : Config}

/-- The tags of an option accept nothing but a nil pointer. -/
theorem Documented.option_iff (documented : Documented validator) (path : String)
    (most : Int64) (value : Option Int64) :
    validator [optionField path most value] = none ↔ value = none := by
  cases value with
  | none => simp only [optionField, documented.nilDefault]
  | some target =>
      rw [documented.tags _ (by simp [optionField])]
      simp [optionField, Tag.Holds]

/-- A configuration that is valid otherwise is accepted if no option is set. -/
theorem Documented.validate_iff (documented : Documented validator)
    (others : c.OthersValid) :
    c.validate validator = none ↔ NoOptions c.scheduler := by
  have fine : ∀ field ∈ c.fields, field.Plain → validator [field] = none := by
    intro field member plain
    rw [documented.tags field (plain.ne_pointer none)]
    exact others field member plain
  simp only [Config.fields, List.forall_mem_cons, plain_requiredField, plain_intervalField,
    not_plain_optionField, true_imp_iff, false_imp_iff, true_and, List.not_mem_nil,
    implies_true, and_true] at fine
  rw [Config.validate, documented.struct]
  simp only [Config.fields, List.forall_mem_cons, documented.option_iff, fine, true_and,
    List.not_mem_nil, false_imp_iff, implies_true, and_true, NoOptions]

/-! ## A validator as documented -/

def Field.accepted (field : Field) : Bool :=
  match field.value, field.tags with
  | .pointer none, .isdefault :: _ => true
  | value, tags => tags.all fun tag => decide (tag.Holds value)

/-- Report the first field that is not accepted. -/
def sampleValidator (fields : List Field) : Option String :=
  (fields.find? (!·.accepted)).map fun field =>
    "Field validation for '" ++ field.path ++ "' failed"

theorem sampleValidator_eq_none_iff {fields : List Field} :
    sampleValidator fields = none ↔ ∀ field ∈ fields, field.accepted := by
  simp [sampleValidator]

theorem documented_sampleValidator : Documented sampleValidator where
  struct := by
    intro fields
    simp only [sampleValidator_eq_none_iff, List.forall_mem_singleton]
  nilDefault := fun _ _ => rfl
  tags := by
    intro field notNil
    rw [sampleValidator_eq_none_iff, List.forall_mem_singleton, Field.accepted]
    split
    · exact absurd ‹_› notNil
    · simp

end RdsMetricCollector.Configuration
