import RdsMetricCollector.Collector.Driver
import RdsMetricCollector.Collector.MetricQueries
import RdsMetricCollector.Collector.Postgres

/-! # The SQL drivers

The driver that both SQL collectors share makes a connection string from the
connection details of an instance and opens a database with it. `sql.Open` is a
parameter; it need not connect to anything yet.
-/

namespace RdsMetricCollector.Collector

open RdsMetricCollector.BrokerInfo
open RdsMetricCollector.PqTimeouts
open RdsMetricCollector.Strings

/-- The timeouts in seconds. -/
structure MysqlConnectionStringBuilder where
  connectionTimeout : Int64
  readTimeout : Int64
  writeTimeout : Int64
  tls : String
  deriving DecidableEq, Repr

namespace MysqlConnectionStringBuilder

/-- The `tls` parameter: an empty value means that TLS is not used. -/
def tlsValue (m : MysqlConnectionStringBuilder) : String :=
  if m.tls ≠ "" then m.tls else "false"

def connectionString (m : MysqlConnectionStringBuilder)
    (details : InstanceConnectionDetails) : String :=
  details.masterUsername ++ ":" ++ details.masterPassword ++
    "@tcp(" ++ details.dbAddress ++ ":" ++ formatInt details.dbPort ++
    ")/" ++ details.dbName ++
    "?tls=" ++ m.tlsValue ++
    "&timeout=" ++ formatInt m.connectionTimeout ++
    "s&readTimeout=" ++ formatInt m.readTimeout ++
    "s&writeTimeout=" ++ formatInt m.writeTimeout ++ "s"

end MysqlConnectionStringBuilder

/-! ## Drivers -/

/-- The driver, with the one function of the broker information that it calls. -/
structure SqlMetricsCollectorDriver where
  collectInterval : Int64
  getInstanceConnectionDetails : InstanceInfo → Except String InstanceConnectionDetails
  queries : List MetricQuery
  driver : String
  name : String
  connectionString : InstanceConnectionDetails → String

/-- A collector and the database that it queries. -/
structure OpenCollector (DB : Type) where
  collector : SqlMetricsCollector
  dbConn : DB

namespace SqlMetricsCollectorDriver

def newCollector {DB : Type} (d : SqlMetricsCollectorDriver)
    (sqlOpen : String → String → Except String DB) (instanceInfo : InstanceInfo) :
    Except String (OpenCollector DB) := do
  let details ← d.getInstanceConnectionDetails instanceInfo
  let url := d.connectionString details
  let dbConn ← sqlOpen d.driver url
  return { collector := { queries := d.queries }, dbConn }

theorem newCollector_eq {DB : Type} (d : SqlMetricsCollectorDriver)
    (sqlOpen : String → String → Except String DB) (instanceInfo : InstanceInfo) :
    d.newCollector sqlOpen instanceInfo =
      (d.getInstanceConnectionDetails instanceInfo).bind fun details =>
        (sqlOpen d.driver (d.connectionString details)).map (OpenCollector.mk ⟨d.queries⟩) := by
  unfold newCollector
  apply bind_congr
  intro details
  dsimp only
  cases sqlOpen d.driver (d.connectionString details) with
  | error err => rfl
  | ok dbConn => rfl

/-- What the scheduler reads of the driver. -/
def registered (d : SqlMetricsCollectorDriver) : MetricsCollectorDriver :=
  sqlMetricsCollectorDriver d.name d.collectInterval

def newPostgresMetricsCollectorDriver
    (brokerInfo : InstanceInfo → Except String InstanceConnectionDetails)
    (intervalSeconds timeout : Int64) (sslMode : String) : SqlMetricsCollectorDriver where
  collectInterval := intervalSeconds
  queries := postgresMetricQueries
  driver := "pq-timeouts"
  getInstanceConnectionDetails := brokerInfo
  name := "postgres"
  connectionString := PostgresConnectionStringBuilder.connectionString {
    connectionTimeout := timeout
    readTimeout := timeout
    writeTimeout := timeout
    sslMode := sslMode }

def newMysqlMetricsCollectorDriver
    (brokerInfo : InstanceInfo → Except String InstanceConnectionDetails)
    (intervalSeconds timeout : Int64) (tls : String) : SqlMetricsCollectorDriver where
  collectInterval := intervalSeconds
  queries := mysqlMetricQueries
  driver := "mysql"
  getInstanceConnectionDetails := brokerInfo
  name := "mysql"
  connectionString := MysqlConnectionStringBuilder.connectionString {
    connectionTimeout := timeout
    readTimeout := timeout
    writeTimeout := timeout
    tls := tls }

end SqlMetricsCollectorDriver

/-! ## What a connection string says -/

/-- Details whose values do not contain the character that ends them. -/
structure Delimited (details : InstanceConnectionDetails) : Prop where
  masterUsername : ':' ∉ details.masterUsername.toList
  masterPassword : '@' ∉ details.masterPassword.toList
  dbAddress : ':' ∉ details.dbAddress.toList
  dbName : '?' ∉ details.dbName.toList

instance (details : InstanceConnectionDetails) : Decidable (Delimited details) :=
  decidable_of_iff
    (':' ∉ details.masterUsername.toList ∧ '@' ∉ details.masterPassword.toList ∧
      ':' ∉ details.dbAddress.toList ∧ '?' ∉ details.dbName.toList)
    ⟨fun ⟨user, password, address, name⟩ => ⟨user, password, address, name⟩,
      fun delimited => ⟨delimited.1, delimited.2, delimited.3, delimited.4⟩⟩

private theorem formatInt_inj {value other : Int64} (equal : formatInt value = formatInt other) :
    value = other := by
  have parsed := atoi_formatInt value
  rw [equal, atoi_formatInt] at parsed
  exact (Option.some.inj parsed).symm

variable {details other : InstanceConnectionDetails}

/-- The part that the strings of both builders have in common can be read in one
way only, whatever stands between its values. -/
theorem details_inj (delimited : Delimited details) (otherDelimited : Delimited other)
    {beforeAddress closing afterPort query : String} {close : Char}
    (isClosing : closing.toList = [close]) (special : isPlain close = false)
    (equal : details.masterUsername ++ (":" ++ (details.masterPassword ++ ("@" ++
        (beforeAddress ++ (details.dbAddress ++ (":" ++ (formatInt details.dbPort ++
          (closing ++ (afterPort ++ (details.dbName ++ ("?" ++ query))))))))))) =
      other.masterUsername ++ (":" ++ (other.masterPassword ++ ("@" ++
        (beforeAddress ++ (other.dbAddress ++ (":" ++ (formatInt other.dbPort ++
          (closing ++ (afterPort ++ (other.dbName ++ ("?" ++ query)))))))))))) :
    details = other := by
  rcases append_separator_inj rfl delimited.masterUsername otherDelimited.masterUsername
    equal with ⟨usernames, equal⟩
  rcases append_separator_inj rfl delimited.masterPassword otherDelimited.masterPassword
    equal with ⟨passwords, equal⟩
  have equal := (String.append_right_inj beforeAddress).mp equal
  rcases append_separator_inj rfl delimited.dbAddress otherDelimited.dbAddress equal with
    ⟨addresses, equal⟩
  have free : ∀ value : Int64, close ∉ (formatInt value).toList := by
    intro value
    exact (plainWord_formatInt value).notMem special
  rcases append_separator_inj isClosing (free _) (free _) equal with ⟨ports, equal⟩
  have equal := (String.append_right_inj afterPort).mp equal
  rcases append_separator_inj rfl delimited.dbName otherDelimited.dbName equal with
    ⟨names, _⟩
  rcases details with ⟨address, port, name, username, password⟩
  simp only at usernames passwords addresses ports names
  subst usernames passwords addresses names
  rw [formatInt_inj ports]

theorem PostgresConnectionStringBuilder.connectionString_inj
    (m : PostgresConnectionStringBuilder) (delimited : Delimited details)
    (otherDelimited : Delimited other)
    (equal : m.connectionString details = m.connectionString other) : details = other := by
  have sslmode : "?sslmode=" = "?" ++ "sslmode=" := by decide
  unfold connectionString at equal
  simp only [sslmode, String.append_assoc] at equal
  have equal := (String.append_right_inj "postgresql://").mp equal
  -- nothing stands between the values where the other builder has `tcp(` and `/`
  rw [← @String.empty_append (details.dbAddress ++ _),
    ← @String.empty_append (other.dbAddress ++ _),
    ← @String.empty_append (details.dbName ++ _),
    ← @String.empty_append (other.dbName ++ _)] at equal
  exact details_inj delimited otherDelimited (by rfl) (by rfl) equal

theorem MysqlConnectionStringBuilder.connectionString_inj
    (m : MysqlConnectionStringBuilder) (delimited : Delimited details)
    (otherDelimited : Delimited other)
    (equal : m.connectionString details = m.connectionString other) : details = other := by
  have address : "@tcp(" = "@" ++ "tcp(" := by decide
  have name : ")/" = ")" ++ "/" := by decide
  have tls : "?tls=" = "?" ++ "tls=" := by decide
  unfold connectionString at equal
  simp only [address, name, tls, String.append_assoc] at equal
  exact details_inj delimited otherDelimited (by rfl) (by rfl) equal

end RdsMetricCollector.Collector
