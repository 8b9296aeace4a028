import RdsMetricCollector.Collector.CloudWatchMetrics
import RdsMetricCollector.Collector.SqlDriver
import RdsMetricCollector.Identifiers
import RdsMetricCollector.PqTimeouts.Dialer

/-! # Connections to the monitored databases

The drivers as `main` makes them: which database a collector connects to or asks
about, and how long a connection to Postgres waits for its peer.
-/

namespace RdsMetricCollector.Deployment

open RdsMetricCollector.BrokerInfo
open RdsMetricCollector.Collector
open RdsMetricCollector.Execution
open RdsMetricCollector.PqTimeouts
open RdsMetricCollector.Runtime
open RdsMetricCollector.Scheduler

def connectionTimeout : Int64 := 10

def mysqlTLS : String := "skip-verify"

def postgresSSLMode : String := "require"

section Drivers

variable (generateHash : String → Nat → String) (r : RDSBrokerInfo) (cfg : SchedulerConfig)

def postgresDriver : SqlMetricsCollectorDriver :=
  .newPostgresMetricsCollectorDriver (r.getInstanceConnectionDetails generateHash)
    cfg.sqlMetricCollectorInterval connectionTimeout postgresSSLMode

def mysqlDriver : SqlMetricsCollectorDriver :=
  .newMysqlMetricsCollectorDriver (r.getInstanceConnectionDetails generateHash)
    cfg.sqlMetricCollectorInterval connectionTimeout mysqlTLS

/-- The driver for one of the engines that are monitored. -/
def sqlDriver (engine : String) : SqlMetricsCollectorDriver :=
  if engine = "mysql" then mysqlDriver generateHash r cfg else postgresDriver generateHash r cfg

/-- The connection details of a database, from its description. -/
def detailsOf (db described : DBInstance) : InstanceConnectionDetails where
  dbAddress := getEndpointAddress described.endpoint
  dbPort := getEndpointPort described.endpoint
  masterUsername := stringValue described.masterUsername
  masterPassword := r.generateMasterPassword generateHash (instanceInfo r db).guid
  dbName := stringValue described.dbName

variable {generateHash r cfg}

private theorem sqlDriver_registered {engine : String}
    (supported : engine = "postgres" ∨ engine = "mysql") :
    (scheduler cfg).metricsCollectorDrivers.lookup engine =
      some (sqlDriver generateHash r cfg engine).registered := by
  rw [lookup_drivers]
  rcases supported with rfl | rfl <;> rfl

private theorem sqlDriver_getInstanceConnectionDetails (engine : String) :
    (sqlDriver generateHash r cfg engine).getInstanceConnectionDetails =
      r.getInstanceConnectionDetails generateHash := by
  unfold sqlDriver
  split_ifs <;> rfl

private theorem sqlDriver_connectionString_inj {engine : String}
    {details other : InstanceConnectionDetails} (delimited : Delimited details)
    (otherDelimited : Delimited other)
    (equal : (sqlDriver generateHash r cfg engine).connectionString details =
      (sqlDriver generateHash r cfg engine).connectionString other) : details = other := by
  unfold sqlDriver at equal
  split_ifs at equal
  · exact MysqlConnectionStringBuilder.connectionString_inj _ delimited otherDelimited equal
  · exact PostgresConnectionStringBuilder.connectionString_inj _ delimited otherDelimited equal

private theorem newCollector_eq {DB : Type} (sqlOpen : String → String → Except String DB)
    {db : DBInstance} (monitored : Monitored db)
    (wellFormed : WellFormedIdentifier r (identifier db)) (engine : String) :
    (sqlDriver generateHash r cfg engine).newCollector sqlOpen (instanceInfo r db) =
      (r.dbInstance.describe (identifier db)).bind fun described =>
        (sqlOpen (sqlDriver generateHash r cfg engine).driver
          ((sqlDriver generateHash r cfg engine).connectionString
            (detailsOf generateHash r db described))).map
          (OpenCollector.mk ⟨(sqlDriver generateHash r cfg engine).queries⟩) := by
  have details : r.getInstanceConnectionDetails generateHash (instanceInfo r db) =
      (r.dbInstance.describe (identifier db)).map (detailsOf generateHash r db) :=
    (identifies_instanceInfo monitored wellFormed).details generateHash
  rw [SqlMetricsCollectorDriver.newCollector_eq, sqlDriver_getInstanceConnectionDetails, details]
  cases r.dbInstance.describe (identifier db) with
  | error err => rfl
  | ok described => rfl

/-- The SQL driver that the scheduler has for the engine of a listed database
takes the details of that database and no other. It opens one data source with
them, which can be read in one way only; if AWS cannot describe the database,
its error is returned. -/
theorem collectors_address_databases {DB : Type}
    (sqlOpen : String → String → Except String DB) {db : DBInstance}
    (monitored : Monitored db) (wellFormed : WellFormedIdentifier r (identifier db))
    {d : SqlMetricsCollectorDriver}
    (chosen : d = sqlDriver generateHash r cfg (stringValue db.engine)) :
    (scheduler cfg).metricsCollectorDrivers.lookup (stringValue db.engine) =
      some d.registered ∧
    (∀ err, r.dbInstance.describe (identifier db) = .error err →
      d.newCollector sqlOpen (instanceInfo r db) = .error err) ∧
    (∀ described, r.dbInstance.describe (identifier db) = .ok described →
      d.newCollector sqlOpen (instanceInfo r db) =
        (sqlOpen d.driver (d.connectionString (detailsOf generateHash r db described))).map
          (OpenCollector.mk ⟨d.queries⟩)) ∧
    ∀ details other, Delimited details → Delimited other →
      d.connectionString details = d.connectionString other → details = other := by
  subst chosen
  refine ⟨sqlDriver_registered monitored, ?_, ?_, ?_⟩
  · intro err failed
    rw [newCollector_eq sqlOpen monitored wellFormed, failed]
    rfl
  · intro described answered
    rw [newCollector_eq sqlOpen monitored wellFormed, answered]
    rfl
  · intro details other delimited otherDelimited equal
    exact sqlDriver_connectionString_inj delimited otherDelimited equal

def connectedDB (engine : String) : DBInstance where
  dbInstanceIdentifier := some "rds-broker-1"
  engine := some engine
  endpoint := some { address := some "db.example.com", port := some 3306 }
  masterUsername := some "master"
  dbName := some "main"

/-- The sample broker, when AWS describes the database. -/
def connectedBroker (engine : String) : RDSBrokerInfo :=
  { sampleBroker with
    dbInstance := {
      describe := fun _ => .ok (connectedDB engine)
      describeByTag := fun _ _ => .ok [connectedDB engine] } }

theorem collectors_address_databases_sample :
    (sqlDriver (fun _ _ => "secret") (connectedBroker "mysql") sampleConfig "mysql").newCollector
        (fun driver url => .ok (driver, url))
        (instanceInfo (connectedBroker "mysql") (connectedDB "mysql")) =
      .ok ⟨⟨mysqlMetricQueries⟩, "mysql",
        "master:secret@tcp(db.example.com:3306)/main" ++
          "?tls=skip-verify&timeout=10s&readTimeout=10s&writeTimeout=10s"⟩ := by
  have opens := (@collectors_address_databases (fun _ _ => "secret") (connectedBroker "mysql")
    sampleConfig _ (fun driver url => .ok (driver, url)) (connectedDB "mysql") (.inr rfl)
    ⟨"1", by decide, by decide⟩ _ rfl).2.2.1 (connectedDB "mysql") rfl
  have url : (mysqlDriver (fun _ _ => "secret") (connectedBroker "mysql")
      sampleConfig).connectionString
        (detailsOf (fun _ _ => "secret") (connectedBroker "mysql") (connectedDB "mysql")
          (connectedDB "mysql")) =
      "master:secret@tcp(db.example.com:3306)/main" ++
        "?tls=skip-verify&timeout=10s&readTimeout=10s&writeTimeout=10s" := by
    decide
  rw [← url]
  exact opens

end Drivers

/-! ## Waiting for Postgres -/

/-- The builder of the Postgres driver. -/
def postgresBuilder : PostgresConnectionStringBuilder where
  connectionTimeout := connectionTimeout
  readTimeout := connectionTimeout
  writeTimeout := connectionTimeout
  sslMode := postgresSSLMode

section Postgres

variable {generateHash : String → Nat → String} {r : RDSBrokerInfo} {cfg : SchedulerConfig}

/-- Whatever connection is opened for the collector of a listed Postgres database
has the address and the credentials of that database, and each read and each write
on it is given ten seconds. -/
theorem postgres_connections_time_out {packages : PqTimeouts.Packages}
    (parses : ParsesURLs packages.parseURL) {db described : DBInstance}
    (engine : stringValue db.engine = "postgres")
    (wellFormed : WellFormedIdentifier r (identifier db))
    (answered : r.dbInstance.describe (identifier db) = .ok described)
    (plain : postgresBuilder.PlainDetails (detailsOf generateHash r db described)) :
    ∃ (url : String) (dialer : TimeoutDialer) (settings : List (String × String)),
      (∀ {DB : Type} (sqlOpen : String → String → Except String DB),
        (postgresDriver generateHash r cfg).newCollector sqlOpen (instanceInfo r db) =
          (sqlOpen "pq-timeouts" url).map (OpenCollector.mk ⟨postgresMetricQueries⟩)) ∧
      (∀ {Conn : Type} (t : TimeoutDriver Conn),
        t.open packages url =
          (t.dialOpen dialer (" ".intercalate (settings.map settingText))).mapError .err) ∧
      settings.Perm (postgresBuilder.settings (detailsOf generateHash r db described)) ∧
      ∀ {Conn : Type} (net : Net Conn) (conn : NetConn Conn), dialer.Connects net conn →
        TimeoutDialer.HasDeadlines (10 * 10 ^ 9) conn := by
  have nanoseconds : (connectionTimeout * 1000 * millisecond).toInt = 10 * 10 ^ 9 := by
    decide
  have collector := @newCollector_eq generateHash r cfg
  rcases postgresBuilder.exists_open_eq parses plain with ⟨settings, order, opens⟩
  refine ⟨_, _, settings, ?_, opens, order, ?_⟩
  · intro DB sqlOpen
    have made := collector sqlOpen (.inl engine) wellFormed "postgres"
    rw [answered] at made
    exact made
  · intro Conn net conn connects
    exact connects.hasDeadlines (by decide) nanoseconds nanoseconds

/-- A network on which every address can be dialed. -/
def sampleNet : Net Unit where
  netDial _ _ := (some (), none)
  netDialTimeout _ _ _ := (some (), none)

theorem postgres_connections_time_out_sample :
    ∃ (dialer : TimeoutDialer) (conn : NetConn Unit),
      dialer.Connects sampleNet conn ∧ TimeoutDialer.HasDeadlines (10 * 10 ^ 9) conn := by
  rcases @postgres_connections_time_out (fun _ _ => "secret") (connectedBroker "postgres")
    sampleConfig { parseURL := parsePlainURL, goSyntax := String.quote }
    parsesURLs_parsePlainURL (connectedDB "postgres") (connectedDB "postgres") rfl
    ⟨"1", by decide, by decide⟩ rfl ⟨by decide, by decide, .inr (by decide)⟩ with
    ⟨url, dialer, settings, _, _, _, deadlines⟩
  have connects : dialer.Connects sampleNet
      ((dialer.wrap (some (), none)).1.getD (.direct ())) := by
    apply TimeoutDialer.Connects.dial "tcp" "db.example.com:5432"
    unfold TimeoutDialer.dial TimeoutDialer.wrap
    split_ifs <;> rfl
  exact ⟨dialer, _, connects, deadlines _ _ connects⟩

end Postgres

/-! ## Asking CloudWatch -/

section CloudWatch

variable {r : RDSBrokerInfo} {aws : AWS} {toLower : String → String}
  {sortSlice : String → List Datapoint → List Datapoint}

private theorem collectMetrics_congr {left right : CloudWatchCollector}
    (answers : ∀ metricName,
      left.client (left.input metricName) = right.client (right.input metricName))
    (order : List (Sigma fun _ : String => String)) (m : List Metric) :
    left.collectMetrics aws toLower sortSlice m order =
      right.collectMetrics aws toLower sortSlice m order := by
  induction order generalizing m with
  | nil => rfl
  | cons entry order induction =>
      have round : left.metricOf aws toLower sortSlice entry =
          right.metricOf aws toLower sortSlice entry := by
        unfold CloudWatchCollector.metricOf
        rw [answers]
      rw [CloudWatchCollector.collectMetrics_cons, CloudWatchCollector.collectMetrics_cons, round]
      congr 1
      funext metric
      exact induction (m ++ metric.toList)

/-- The input is about one database. -/
def AsksAbout (name : String) (input : GetMetricStatisticsInput) : Prop :=
  input.dimensions = [{ name := "DBInstanceIdentifier", value := name }]

/-- A CloudWatch collector of a listed database depends on nothing but what the
service answers about that database, whatever it has for the others. -/
theorem newCloudWatchCollector_reads_own_database {db : DBInstance}
    (wellFormed : WellFormedIdentifier r (identifier db)) {client other : CloudWatchAPI}
    (agree : ∀ input, AsksAbout (identifier db) input → client input = other input)
    (order : List (Sigma fun _ : String => String)) :
    (newCloudWatchCollector r client (instanceInfo r db)).collect aws toLower sortSlice order =
      (newCloudWatchCollector r other (instanceInfo r db)).collect aws toLower sortSlice
        order := by
  have name : r.getInstanceName (instanceInfo r db) = identifier db := encode_guid wellFormed
  unfold CloudWatchCollector.collect
  rw [collectMetrics_congr]
  intro metricName
  apply agree
  rw [AsksAbout, ← name]
  rfl

end CloudWatch

end RdsMetricCollector.Deployment
