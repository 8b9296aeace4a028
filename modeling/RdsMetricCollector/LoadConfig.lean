import RdsMetricCollector.Configuration

/-! # Loading the configuration

`LoadConfig` reads a file over the defaults and validates the result. Files and
the decoding of JSON come from other packages and are parameters: a decoded
document says which fields it sets.
-/

namespace RdsMetricCollector.Configuration

open RdsMetricCollector.Scheduler

/-- The fields that a JSON document sets. A null sets a pointer to nil and leaves
other fields as they are. -/
structure Document where
  logLevel : Option String
  region : Option String
  awsPartition : Option String
  dbPrefix : Option String
  brokerName : Option String
  masterPasswordSeed : Option String
  instanceRefreshInterval : Option Int64
  collectorTimeoutMs : Option (Option Int64)
  collectorRetryIntervalMs : Option (Option Int64)
  collectorMaxRetries : Option (Option Int64)
  sqlMetricCollectorInterval : Option Int64
  cwMetricCollectorInterval : Option Int64
  metronURL : Option String
  caCertPath : Option String
  certPath : Option String
  keyPath : Option String
  deriving DecidableEq, Repr

/-- The zero value of a `Config`. -/
def Config.zero : Config where
  logLevel := ""
  aws := { region := "", awsPartition := "" }
  rdsBrokerInfo := { dbPrefix := "", brokerName := "", masterPasswordSeed := "" }
  scheduler := {
    instanceRefreshInterval := 0
    collectorTimeoutMs := none
    collectorRetryIntervalMs := none
    collectorMaxRetries := none
    sqlMetricCollectorInterval := 0
    cwMetricCollectorInterval := 0 }
  loggregatorEmitter := { metronURL := "", caCertPath := "", certPath := "", keyPath := "" }

/-- What `Unmarshal` makes of a `Config` that has values already. -/
def Document.unmarshalInto (d : Document) (c : Config) : Config where
  logLevel := d.logLevel.getD c.logLevel
  aws := {
    region := d.region.getD c.aws.region
    awsPartition := d.awsPartition.getD c.aws.awsPartition }
  rdsBrokerInfo := {
    dbPrefix := d.dbPrefix.getD c.rdsBrokerInfo.dbPrefix
    brokerName := d.brokerName.getD c.rdsBrokerInfo.brokerName
    masterPasswordSeed := d.masterPasswordSeed.getD c.rdsBrokerInfo.masterPasswordSeed }
  scheduler := {
    instanceRefreshInterval :=
      d.instanceRefreshInterval.getD c.scheduler.instanceRefreshInterval
    collectorTimeoutMs := d.collectorTimeoutMs.getD c.scheduler.collectorTimeoutMs
    collectorRetryIntervalMs :=
      d.collectorRetryIntervalMs.getD c.scheduler.collectorRetryIntervalMs
    collectorMaxRetries := d.collectorMaxRetries.getD c.scheduler.collectorMaxRetries
    sqlMetricCollectorInterval :=
      d.sqlMetricCollectorInterval.getD c.scheduler.sqlMetricCollectorInterval
    cwMetricCollectorInterval :=
      d.cwMetricCollectorInterval.getD c.scheduler.cwMetricCollectorInterval }
  loggregatorEmitter := {
    metronURL := d.metronURL.getD c.loggregatorEmitter.metronURL
    caCertPath := d.caCertPath.getD c.loggregatorEmitter.caCertPath
    certPath := d.certPath.getD c.loggregatorEmitter.certPath
    keyPath := d.keyPath.getD c.loggregatorEmitter.keyPath }

def defaultConfig : Document where
  logLevel := some "INFO"
  region := none
  awsPartition := some "aws"
  dbPrefix := none
  brokerName := none
  masterPasswordSeed := none
  instanceRefreshInterval := some 120
  collectorTimeoutMs := none
  collectorRetryIntervalMs := none
  collectorMaxRetries := none
  sqlMetricCollectorInterval := some 180
  cwMetricCollectorInterval := some 300
  metronURL := some "localhost:3458"
  caCertPath := none
  certPath := none
  keyPath := none

/-- The packages that `LoadConfig` uses. `unmarshal` returns what it has decoded
also with an error. -/
structure Packages (File : Type) where
  openFile : String → Except String File
  readAll : File → Except String String
  unmarshal : String → Document × Option String
  validator : List Field → Option String

def loadConfig {File : Type} (packages : Packages File) (configFile : String) :
    Config × Option String :=
  if configFile = "" then
    (.zero, some "Must provide a config file")
  else
    match packages.openFile configFile with
    | .error err => (.zero, some err)
    | .ok file =>
        match packages.readAll file with
        | .error err => (.zero, some err)
        | .ok bytes =>
            let config := defaultConfig.unmarshalInto .zero
            match packages.unmarshal bytes with
            | (document, some err) => (document.unmarshalInto config, some err)
            | (document, none) =>
                let config := document.unmarshalInto config
                match config.validate packages.validator with
                | some err => (config, some ("Validating config contents: " ++ err))
                | none => (config, none)

/-- A configuration that is returned without an error has been validated. -/
theorem validate_of_loadConfig {File : Type} {packages : Packages File}
    {configFile : String} {config : Config}
    (loaded : loadConfig packages configFile = (config, none)) :
    config.validate packages.validator = none := by
  unfold loadConfig at loaded
  split_ifs at loaded
  · cases loaded
  · split at loaded
    · cases loaded
    · split at loaded
      · cases loaded
      · split at loaded
        · cases loaded
        · simp only at loaded
          split at loaded
          · cases loaded
          · cases loaded
            assumption

/-! ## Accepted files -/

/-- The field is set to something. -/
def Given (value : Option String) : Prop :=
  ∃ text, value = some text ∧ text ≠ ""

/-- The interval is between a second and an hour, if it is set. -/
def IntervalInRange (value : Option Int64) : Prop :=
  ∀ interval, value = some interval → 1 ≤ interval ∧ interval ≤ 3600

/-- The documents that make a valid configuration: they set what has no default,
do not blank what has one, and leave the options alone. -/
structure Document.Complete (d : Document) : Prop where
  given : ∀ value ∈ [d.region, d.dbPrefix, d.brokerName, d.masterPasswordSeed,
    d.caCertPath, d.certPath, d.keyPath], Given value
  kept : ∀ value ∈ [d.logLevel, d.awsPartition, d.metronURL], value ≠ some ""
  intervals : ∀ value ∈ [d.instanceRefreshInterval, d.sqlMetricCollectorInterval,
    d.cwMetricCollectorInterval], IntervalInRange value
  options : ∀ value ∈ [d.collectorTimeoutMs, d.collectorRetryIntervalMs,
    d.collectorMaxRetries], value = none ∨ value = some none

theorem interval_iff {least interval : Int64} (first : least = 0 ∨ least = 1) :
    interval ≠ 0 ∧ least ≤ interval ∧ interval ≤ 3600 ↔ 1 ≤ interval ∧ interval ≤ 3600 := by
  have zero : (0 : Int64).toInt = 0 := by decide
  have one : (1 : Int64).toInt = 1 := by decide
  simp only [Int64.le_iff_toInt_le, ne_eq, ← Int64.toInt_inj]
  rcases first with rfl | rfl <;> omega

/-- The configuration that a document makes of the defaults. -/
def Document.config (d : Document) : Config :=
  d.unmarshalInto (defaultConfig.unmarshalInto .zero)

theorem Documented.validate_eq_none_iff {validator : List Field → Option String}
    (documented : Documented validator) (c : Config) :
    c.validate validator = none ↔ c.OthersValid ∧ NoOptions c.scheduler := by
  constructor
  · intro accepted
    have each := (documented.struct c.fields).mp accepted
    have others : c.OthersValid := by
      intro field member plain
      exact (documented.tags field (plain.ne_pointer none)).mp (each field member)
    exact ⟨others, (documented.validate_iff others).mp accepted⟩
  · intro valid
    exact (documented.validate_iff valid.1).mpr valid.2

def sampleDocument : Document :=
  { defaultConfig with
    region := some "eu-west-1"
    dbPrefix := some "rdsbroker"
    brokerName := some "broker"
    masterPasswordSeed := some "seed"
    caCertPath := some "ca.crt"
    certPath := some "client.crt"
    keyPath := some "client.key" }

/-- Every file has the sample document. -/
def samplePackages : Packages String where
  openFile := .ok
  readAll := .ok
  unmarshal _ := (sampleDocument, none)
  validator := sampleValidator

end RdsMetricCollector.Configuration
