import RdsMetricCollector.Scheduler.Refresh
import RdsMetricCollector.Scheduler.Settings

/-! # The deployed scheduler

The drivers that `main` registers, and what a refresh wants to run for the
databases that the broker lists.
-/

namespace RdsMetricCollector.Deployment

open RdsMetricCollector.BrokerInfo
open RdsMetricCollector.Collector
open RdsMetricCollector.Runtime
open RdsMetricCollector.Scheduler
open RdsMetricCollector.Strings

/-- The scheduler as `main` sets it up. -/
def scheduler (cfg : SchedulerConfig) : Settings :=
  (((newScheduler cfg).withDriver
      [newPostgresMetricsCollectorDriver cfg.sqlMetricCollectorInterval]).withDriver
      [newMysqlMetricsCollectorDriver cfg.sqlMetricCollectorInterval]).withDriver
      [newCloudWatchCollectorDriver cfg.cwMetricCollectorInterval]

/-! ## Databases -/

section Databases

variable (r : RDSBrokerInfo)

def identifier (db : DBInstance) : String :=
  stringValue db.dbInstanceIdentifier

def guid (db : DBInstance) : String :=
  r.dbInstanceIdentifierToServiceInstanceID (identifier db)

/-- The prefix of all databases of the broker. -/
def normalisedPrefix : String :=
  replaceAll r.dbPrefix '_' '-' ++ "-"

/-- The database has one of the engines that can be monitored. -/
def Monitored (db : DBInstance) : Prop :=
  stringValue db.engine = "postgres" ∨ stringValue db.engine = "mysql"

instance (db : DBInstance) : Decidable (Monitored db) :=
  inferInstanceAs (Decidable (_ ∨ _))

/-- AWS names no two databases alike, and the broker gives its own databases
its prefix. -/
structure WellNamed (dbs : List DBInstance) : Prop where
  distinct : (dbs.map identifier).Nodup
  prefixed : ∀ db ∈ dbs, HasPrefix (identifier db) (normalisedPrefix r)

instance (dbs : List DBInstance) : Decidable (WellNamed r dbs) :=
  decidable_of_iff
    ((dbs.map identifier).Nodup ∧
      ∀ db ∈ dbs, HasPrefix (identifier db) (normalisedPrefix r))
    ⟨fun named => ⟨named.1, named.2⟩, fun named => ⟨named.distinct, named.prefixed⟩⟩

variable {r}

/-- Stripping the prefix keeps the databases apart. -/
theorem WellNamed.pairwise_guid {dbs : List DBInstance} (named : WellNamed r dbs) :
    dbs.Pairwise fun left right => guid r left ≠ guid r right := by
  have distinct := List.pairwise_map.mp named.distinct
  apply distinct.imp_of_mem
  intro left right leftMember rightMember different equal
  exact different (trimPrefix_injOn (named.prefixed left leftMember)
    (named.prefixed right rightMember) equal)

private theorem WellNamed.eq_of_guid {dbs : List DBInstance} (named : WellNamed r dbs)
    {left right : DBInstance} (leftMember : left ∈ dbs) (rightMember : right ∈ dbs)
    (equal : guid r left = guid r right) : left = right := by
  have identifiers : identifier left = identifier right :=
    trimPrefix_injOn (named.prefixed left leftMember)
      (named.prefixed right rightMember) equal
  exact List.inj_on_of_nodup_map named.distinct leftMember rightMember identifiers

/-! ## Listing them -/

/-- What the broker lists for a monitored database. -/
@[simps] def instanceInfo (r : RDSBrokerInfo) (db : DBInstance) : InstanceInfo where
  guid := guid r db
  type := stringValue db.engine

theorem filterMap_listedInstance (dbs : List DBInstance) :
    dbs.filterMap r.listedInstance =
      (dbs.filter (Monitored ·)).map (instanceInfo r) := by
  induction dbs with
  | nil => rfl
  | cons db dbs induction =>
      by_cases monitored : Monitored db
      · have listed : r.listedInstance db = some (instanceInfo r db) :=
          if_pos ((RDSBrokerInfo.supportedEngine_iff _).mpr monitored)
        rw [List.filterMap_cons_some listed, induction,
          List.filter_cons_of_pos (by simpa using monitored), List.map_cons]
      · have skipped : r.listedInstance db = none :=
          if_neg (mt (RDSBrokerInfo.supportedEngine_iff _).mp monitored)
        rw [List.filterMap_cons_none skipped, induction,
          List.filter_cons_of_neg (by simpa using monitored)]

theorem listInstances_eq {dbs : List DBInstance}
    (described : r.dbInstance.describeByTag "Broker Name" r.brokerName = .ok dbs) :
    r.listInstances = .ok ((dbs.filter (Monitored ·)).map (instanceInfo r)) := by
  rw [RDSBrokerInfo.listInstances, described]
  exact congrArg Except.ok (filterMap_listedInstance dbs)

/-- `GetInstanceConnectionDetails` only fails when AWS does. -/
def AcceptsInstance (r : RDSBrokerInfo) (instanceInfo : InstanceInfo) : Prop :=
  ∀ generateHash,
    (∃ details,
      r.getInstanceConnectionDetails generateHash instanceInfo = .ok details) ∨
    ∃ err,
      r.dbInstance.describe (r.dbInstanceIdentifier instanceInfo.guid) = .error err ∧
      r.getInstanceConnectionDetails generateHash instanceInfo = .error err

private theorem acceptsInstance {instanceInfo : InstanceInfo}
    (supported : instanceInfo.type = "postgres" ∨ instanceInfo.type = "mysql") :
    AcceptsInstance r instanceInfo := by
  intro generateHash
  rw [RDSBrokerInfo.getInstanceConnectionDetails,
    if_pos ((RDSBrokerInfo.supportedEngine_iff _).mpr supported)]
  cases r.dbInstance.describe (r.dbInstanceIdentifier instanceInfo.guid) with
  | ok details => exact .inl ⟨_, rfl⟩
  | error err => exact .inr ⟨err, rfl, rfl⟩

end Databases

/-! ## Workers for them -/

theorem lookup_drivers (cfg : SchedulerConfig) (name : String) :
    (scheduler cfg).metricsCollectorDrivers.lookup name =
      if name = "cloudwatch" then
        some (newCloudWatchCollectorDriver cfg.cwMetricCollectorInterval)
      else if name = "mysql" then
        some (newMysqlMetricsCollectorDriver cfg.sqlMetricCollectorInterval)
      else if name = "postgres" then
        some (newPostgresMetricsCollectorDriver cfg.sqlMetricCollectorInterval)
      else none := by
  change Finmap.lookup name (Finmap.insert "cloudwatch" _
    (Finmap.insert "mysql" _ (Finmap.insert "postgres" _ ∅))) = _
  rw [lookup_insert_eq_ite, lookup_insert_eq_ite, lookup_insert_eq_ite,
    Finmap.lookup_empty]

/-- The deployed drivers want an instance for the SQL driver named after its
type and for the cloudwatch driver. -/
theorem wants_iff {cfg : SchedulerConfig} {id : WorkerID}
    {instanceInfo : InstanceInfo}
    (supported : instanceInfo.type = "postgres" ∨ instanceInfo.type = "mysql") :
    Wants (scheduler cfg).metricsCollectorDrivers id instanceInfo ↔
      instanceInfo.guid = id.instanceGUID ∧
        (id.driver = instanceInfo.type ∨ id.driver = "cloudwatch") := by
  apply and_congr_right
  intro _
  rw [lookup_drivers]
  by_cases cloudwatch : id.driver = "cloudwatch"
  · simpa [cloudwatch, newCloudWatchCollectorDriver] using supported
  · by_cases mysql : id.driver = "mysql"
    · simp [mysql, newMysqlMetricsCollectorDriver, sqlMetricsCollectorDriver, eq_comm]
    · by_cases postgres : id.driver = "postgres"
      · simp [postgres, newPostgresMetricsCollectorDriver, sqlMetricsCollectorDriver,
          eq_comm]
      · rcases supported with type | type <;> simp [cloudwatch, mysql, postgres, type]

/-- The ids under which a database should be monitored. -/
def workerIDs (r : RDSBrokerInfo) (db : DBInstance) : List WorkerID :=
  [⟨stringValue db.engine, guid r db⟩, ⟨"cloudwatch", guid r db⟩]

private theorem nodup_workerIDs {r : RDSBrokerInfo} {db : DBInstance}
    (monitored : Monitored db) : (workerIDs r db).Nodup := by
  have notCloudwatch : stringValue db.engine ≠ "cloudwatch" := by
    rcases monitored with engine | engine <;> simp [engine]
  simp [workerIDs, notCloudwatch]

theorem mem_workerIDs_iff {r : RDSBrokerInfo} {db : DBInstance} {id : WorkerID} :
    id ∈ workerIDs r db ↔
      guid r db = id.instanceGUID ∧
        (id.driver = stringValue db.engine ∨ id.driver = "cloudwatch") := by
  rcases id with ⟨driver, instanceGUID⟩
  simp only [workerIDs, List.mem_pair, WorkerID.mk.injEq, ← or_and_right]
  rw [and_comm, eq_comm]

theorem wants_instanceInfo_iff {cfg : SchedulerConfig} {r : RDSBrokerInfo}
    {db : DBInstance} {id : WorkerID} (monitored : Monitored db) :
    Wants (scheduler cfg).metricsCollectorDrivers id (instanceInfo r db) ↔
      id ∈ workerIDs r db := by
  have supported : (instanceInfo r db).type = "postgres" ∨
      (instanceInfo r db).type = "mysql" := monitored
  rw [mem_workerIDs_iff, wants_iff supported, instanceInfo_guid, instanceInfo_type]

private theorem guid_of_mem_workerIDs {r : RDSBrokerInfo} {db : DBInstance} {id : WorkerID}
    (member : id ∈ workerIDs r db) : id.instanceGUID = guid r db := by
  exact (mem_workerIDs_iff.mp member).1.symm

/-- All the ids under which databases should be monitored. -/
def expectedIDs (r : RDSBrokerInfo) (dbs : List DBInstance) : List WorkerID :=
  (dbs.filter (Monitored ·)).flatMap (workerIDs r)

theorem mem_expectedIDs {r : RDSBrokerInfo} {dbs : List DBInstance} {id : WorkerID} :
    id ∈ expectedIDs r dbs ↔ ∃ db ∈ dbs, Monitored db ∧ id ∈ workerIDs r db := by
  simp [expectedIDs, and_assoc]

private theorem length_expectedIDs (r : RDSBrokerInfo) (dbs : List DBInstance) :
    (expectedIDs r dbs).length = 2 * (dbs.filter (Monitored ·)).length := by
  rw [expectedIDs, List.length_flatMap]
  simp [workerIDs, Nat.mul_comm]

private theorem WellNamed.nodup_expectedIDs {r : RDSBrokerInfo} {dbs : List DBInstance}
    (named : WellNamed r dbs) : (expectedIDs r dbs).Nodup := by
  rw [expectedIDs, List.nodup_flatMap]
  constructor
  · intro db member
    exact nodup_workerIDs (by simpa using (List.mem_filter.mp member).2)
  · apply (named.pairwise_guid.filter _).imp
    intro left right different id leftMember rightMember
    apply different
    rw [← guid_of_mem_workerIDs leftMember, guid_of_mem_workerIDs rightMember]

/-- A refresh desires `desired` for `dbs`, with each monitored database once
per applicable driver. -/
structure MonitorsOnce (r : RDSBrokerInfo) (dbs : List DBInstance)
    (desired : DesiredWorkers) : Prop where
  /-- A monitored database has two ids, for its SQL driver and cloudwatch. -/
  two : ∀ db ∈ dbs, Monitored db →
    desired.keys.filter (·.instanceGUID = guid r db) =
        {⟨stringValue db.engine, guid r db⟩, ⟨"cloudwatch", guid r db⟩} ∧
      (desired.keys.filter (·.instanceGUID = guid r db)).card = 2
  /-- Any other database has none. -/
  others : ∀ db ∈ dbs, ¬Monitored db →
    desired.keys.filter (·.instanceGUID = guid r db) = ∅
  /-- Every id is for one of the databases. -/
  listed : ∀ id ∈ desired, ∃ db ∈ dbs, id.instanceGUID = guid r db
  /-- No two databases share their ids. -/
  different : dbs.Pairwise fun left right => guid r left ≠ guid r right
  total : desired.keys.card = 2 * (dbs.filter (Monitored ·)).length
  /-- An SQL worker is for an instance of its type, whose connection details
  can be obtained. -/
  accepted : ∀ id instanceInfo, desired.lookup id = some instanceInfo →
    id.driver ≠ "cloudwatch" →
    instanceInfo.type = id.driver ∧ AcceptsInstance r instanceInfo

section Refresh

variable {cfg : SchedulerConfig} {r : RDSBrokerInfo} {dbs : List DBInstance}
variable {listing : Listing}

/-- A listing of the databases, ranged over by a refresh. -/
structure Refreshes (cfg : SchedulerConfig) (r : RDSBrokerInfo)
    (listing : Listing) : Prop where
  returned : r.listInstances = .ok (listing.map Prod.fst)
  ranges : ∀ listed ∈ listing,
    RangeOrder (scheduler cfg).metricsCollectorDrivers listed.2

private theorem Refreshes.listed (refreshes : Refreshes cfg r listing)
    (described : r.dbInstance.describeByTag "Broker Name" r.brokerName = .ok dbs) :
    listing.map Prod.fst = (dbs.filter (Monitored ·)).map (instanceInfo r) := by
  have returned := refreshes.returned
  rw [listInstances_eq described] at returned
  exact (Except.ok.inj returned).symm

theorem Refreshes.mem_iff (refreshes : Refreshes cfg r listing)
    (described : r.dbInstance.describeByTag "Broker Name" r.brokerName = .ok dbs)
    (id : WorkerID) :
    id ∈ desiredWorkerIDs listing ↔ id ∈ expectedIDs r dbs := by
  rw [mem_desiredWorkerIDs refreshes.ranges, refreshes.listed described,
    mem_expectedIDs, Desires]
  constructor
  · intro desires
    rcases desires with ⟨listed, member, wants⟩
    rcases List.mem_map.mp member with ⟨db, dbMember, equal⟩
    subst equal
    rcases List.mem_filter.mp dbMember with ⟨described, monitored⟩
    have monitored : Monitored db := of_decide_eq_true monitored
    exact ⟨db, described, monitored, (wants_instanceInfo_iff monitored).mp wants⟩
  · intro expected
    rcases expected with ⟨db, described, monitored, member⟩
    have listed : db ∈ dbs.filter (Monitored ·) :=
      List.mem_filter.mpr ⟨described, decide_eq_true monitored⟩
    exact ⟨instanceInfo r db, List.mem_map_of_mem listed,
      (wants_instanceInfo_iff monitored).mpr member⟩

/-- Among the desired ids, those of a listed database are its own. -/
theorem Refreshes.filter_keys (refreshes : Refreshes cfg r listing)
    (described : r.dbInstance.describeByTag "Broker Name" r.brokerName = .ok dbs)
    (named : WellNamed r dbs) {db : DBInstance} (member : db ∈ dbs) (id : WorkerID) :
    id ∈ (desiredWorkerIDs listing).keys.filter (·.instanceGUID = guid r db) ↔
      Monitored db ∧ id ∈ workerIDs r db := by
  rw [Finset.mem_filter, Finmap.mem_keys, refreshes.mem_iff described, mem_expectedIDs]
  constructor
  · intro desired
    rcases desired with ⟨⟨owner, ownerMember, monitored, ids⟩, sameGUID⟩
    have same : owner = db := by
      apply named.eq_of_guid ownerMember member
      rw [← guid_of_mem_workerIDs ids, sameGUID]
    subst same
    exact ⟨monitored, ids⟩
  · intro own
    exact ⟨⟨db, member, own⟩, guid_of_mem_workerIDs own.2⟩

private theorem Refreshes.keys_eq (refreshes : Refreshes cfg r listing)
    (described : r.dbInstance.describeByTag "Broker Name" r.brokerName = .ok dbs) :
    (desiredWorkerIDs listing).keys = (expectedIDs r dbs).toFinset := by
  ext id
  rw [Finmap.mem_keys, List.mem_toFinset, refreshes.mem_iff described]

private theorem Refreshes.accepted (refreshes : Refreshes cfg r listing)
    (described : r.dbInstance.describeByTag "Broker Name" r.brokerName = .ok dbs)
    {id : WorkerID} {info : InstanceInfo}
    (found : (desiredWorkerIDs listing).lookup id = some info)
    (sql : id.driver ≠ "cloudwatch") :
    info.type = id.driver ∧ AcceptsInstance r info := by
  rcases wants_of_lookup refreshes.ranges found with ⟨member, wants⟩
  rw [refreshes.listed described] at member
  rcases List.mem_map.mp member with ⟨db, dbMember, equal⟩
  subst equal
  have monitored : Monitored db := of_decide_eq_true (List.mem_filter.mp dbMember).2
  have member := (wants_instanceInfo_iff monitored).mp wants
  have driver := (mem_workerIDs_iff.mp member).2.resolve_right sql
  exact ⟨driver.symm, acceptsInstance monitored⟩

private theorem Refreshes.monitorsOnce (refreshes : Refreshes cfg r listing)
    (described : r.dbInstance.describeByTag "Broker Name" r.brokerName = .ok dbs)
    (named : WellNamed r dbs) :
    MonitorsOnce r dbs (desiredWorkerIDs listing) where
  two := by
    intro db member monitored
    have ids : (desiredWorkerIDs listing).keys.filter
        (·.instanceGUID = guid r db) = (workerIDs r db).toFinset := by
      ext id
      rw [refreshes.filter_keys described named member, List.mem_toFinset]
      exact and_iff_right monitored
    rw [ids, List.toFinset_card_of_nodup (nodup_workerIDs monitored)]
    exact ⟨by simp [workerIDs], rfl⟩
  others := by
    intro db member unmonitored
    apply Finset.eq_empty_of_forall_notMem
    intro id desired
    rw [refreshes.filter_keys described named member] at desired
    exact unmonitored desired.1
  listed := by
    intro id desired
    rw [refreshes.mem_iff described, mem_expectedIDs] at desired
    rcases desired with ⟨db, member, _, ids⟩
    exact ⟨db, member, guid_of_mem_workerIDs ids⟩
  different := named.pairwise_guid
  total := by
    rw [refreshes.keys_eq described,
      List.toFinset_card_of_nodup named.nodup_expectedIDs, length_expectedIDs]
  accepted := fun _ _ found sql => refreshes.accepted described found sql

private theorem exists_refreshes (cfg : SchedulerConfig)
    (described : r.dbInstance.describeByTag "Broker Name" r.brokerName = .ok dbs) :
    ∃ listing, Refreshes cfg r listing := by
  rcases exists_rangeOrder (scheduler cfg).metricsCollectorDrivers with ⟨order, ranges⟩
  refine ⟨((dbs.filter (Monitored ·)).map (instanceInfo r)).map (·, order), ?_, ?_⟩
  · rw [listInstances_eq described, List.map_map]
    simp
  · intro listed member
    rcases List.mem_map.mp member with ⟨_, _, equal⟩
    rw [← equal]
    exact ranges

/-- The deployed scheduler can list the databases, and however it ranges over
the listing, it desires each database that can be monitored exactly once per
driver that applies to it. -/
theorem databases_monitored_once (cfg : SchedulerConfig) (r : RDSBrokerInfo)
    (dbs : List DBInstance)
    (described : r.dbInstance.describeByTag "Broker Name" r.brokerName = .ok dbs)
    (named : WellNamed r dbs) :
    (∃ listing, Refreshes cfg r listing) ∧
      ∀ listing, Refreshes cfg r listing →
        MonitorsOnce r dbs (desiredWorkerIDs listing) :=
  ⟨exists_refreshes cfg described,
    fun _ refreshes => refreshes.monitorsOnce described named⟩

/-! A broker with a database of each kind. -/

def sampleDB (identifier engine : String) : DBInstance where
  dbInstanceIdentifier := some identifier
  engine := some engine
  endpoint := none
  masterUsername := none
  dbName := none

def sampleDBs : List DBInstance :=
  [sampleDB "rds-broker-1" "postgres", sampleDB "rds-broker-rds-broker-1" "mysql",
    sampleDB "rds-broker-2" "aurora"]

def sampleBroker : RDSBrokerInfo where
  brokerName := "broker"
  dbPrefix := "rds_broker"
  masterPasswordSeed := "seed"
  dbInstance := {
    describe := fun _ => .error "not found"
    describeByTag := fun _ _ => .ok sampleDBs }

def sampleConfig : SchedulerConfig where
  instanceRefreshInterval := 120
  collectorTimeoutMs := none
  collectorRetryIntervalMs := none
  collectorMaxRetries := none
  sqlMetricCollectorInterval := 60
  cwMetricCollectorInterval := 300

theorem databases_monitored_once_sample :
    WellNamed sampleBroker sampleDBs ∧
      ∃ listing, Refreshes sampleConfig sampleBroker listing ∧
        MonitorsOnce sampleBroker sampleDBs (desiredWorkerIDs listing) := by
  have named : WellNamed sampleBroker sampleDBs := by decide
  rcases databases_monitored_once sampleConfig sampleBroker sampleDBs rfl named with
    ⟨⟨listing, refreshes⟩, monitors⟩
  exact ⟨named, listing, refreshes, monitors listing refreshes⟩

end Refresh

/-! ## A sample database

The workers of one Postgres database. -/

def sampleInfo : InstanceInfo where
  guid := "1"
  type := "postgres"

def samplePostgresID : WorkerID where
  driver := "postgres"
  instanceGUID := "1"

def sampleCloudwatchID : WorkerID where
  driver := "cloudwatch"
  instanceGUID := "1"

def sampleDriverOrder (cfg : SchedulerConfig) : List DriverEntry :=
  [⟨"postgres", newPostgresMetricsCollectorDriver cfg.sqlMetricCollectorInterval⟩,
    ⟨"mysql", newMysqlMetricsCollectorDriver cfg.sqlMetricCollectorInterval⟩,
    ⟨"cloudwatch", newCloudWatchCollectorDriver cfg.cwMetricCollectorInterval⟩]

end RdsMetricCollector.Deployment
