import RdsMetricCollector.BrokerInfo
import RdsMetricCollector.Foundation.Integers
import RdsMetricCollector.PqTimeouts.URLs

/-! # Connecting to Postgres

The connection string builder of the Postgres collector, and what the
pq-timeouts driver makes of the strings it builds.
-/

namespace RdsMetricCollector.Collector

open RdsMetricCollector.BrokerInfo
open RdsMetricCollector.Integers
open RdsMetricCollector.PqTimeouts
open RdsMetricCollector.Runtime
open RdsMetricCollector.Strings

/-- The timeouts in seconds. -/
structure PostgresConnectionStringBuilder where
  connectionTimeout : Int64
  readTimeout : Int64
  writeTimeout : Int64
  sslMode : String
  deriving DecidableEq, Repr

namespace PostgresConnectionStringBuilder

/-- The `sslmode` parameter: an empty mode means that SSL is disabled. -/
def sslModeValue (m : PostgresConnectionStringBuilder) : String :=
  if m.sslMode ≠ "" then m.sslMode else "disable"

def connectionString (m : PostgresConnectionStringBuilder)
    (details : InstanceConnectionDetails) : String :=
  "postgresql://" ++ details.masterUsername ++ ":" ++ details.masterPassword ++
    "@" ++ details.dbAddress ++ ":" ++ formatInt details.dbPort ++
    "/" ++ details.dbName ++
    "?sslmode=" ++ m.sslModeValue ++
    "&connect_timeout=" ++ formatInt m.connectionTimeout ++
    "&read_timeout=" ++ formatInt (m.readTimeout * 1000) ++
    "&write_timeout=" ++ formatInt (m.writeTimeout * 1000)

/-! ## The URL that is built -/

/-- The parameters of the URL besides the timeouts of the driver. -/
def parameters (m : PostgresConnectionStringBuilder) : List (String × String) :=
  [("sslmode", m.sslModeValue), ("connect_timeout", formatInt m.connectionTimeout)]

/-- The settings that `lib/pq` is to receive. -/
def settings (m : PostgresConnectionStringBuilder)
    (details : InstanceConnectionDetails) : List (String × String) :=
  [("user", details.masterUsername), ("password", details.masterPassword),
    ("host", details.dbAddress), ("port", formatInt details.dbPort),
    ("dbname", details.dbName),
    ("sslmode", if m.sslMode = "" then "disable" else m.sslMode),
    ("connect_timeout", formatInt m.connectionTimeout)]

/-- Values that need no escapes in a URL. -/
structure PlainDetails (m : PostgresConnectionStringBuilder)
    (details : InstanceConnectionDetails) : Prop where
  words : ∀ part ∈ [details.masterUsername, details.masterPassword,
    details.dbAddress, details.dbName], PlainWord part
  port : 0 ≤ details.dbPort.toInt ∧ details.dbPort.toInt ≤ 65535
  sslMode : m.sslMode = "" ∨ PlainWord m.sslMode

/-- A number of seconds whose nanoseconds fit into a `Duration`. -/
def FitsDuration (seconds : Int64) : Prop :=
  0 ≤ seconds.toInt ∧ seconds.toInt * 10 ^ 9 < 2 ^ 63

instance (seconds : Int64) : Decidable (FitsDuration seconds) :=
  inferInstanceAs (Decidable (_ ∧ _))

variable {m : PostgresConnectionStringBuilder} {details : InstanceConnectionDetails}

private theorem PlainDetails.plainWord_sslModeValue (plain : PlainDetails m details) :
    PlainWord m.sslModeValue := by
  rw [sslModeValue]
  split_ifs with given
  · exact plain.sslMode.resolve_left given
  · decide

def url (plain : PlainDetails m details) : PlainURL where
  user := details.masterUsername
  password := details.masterPassword
  host := details.dbAddress
  port := details.dbPort.toInt.toNat
  dbname := details.dbName
  query := m.parameters ++
    [("read_timeout", formatInt (m.readTimeout * 1000)),
      ("write_timeout", formatInt (m.writeTimeout * 1000))]
  words := plain.words
  validPort := by
    have port := plain.port
    omega
  plainQuery := by
    simp only [parameters, List.cons_append, List.nil_append, List.forall_mem_cons]
    exact ⟨plainSetting (by decide) plain.plainWord_sslModeValue,
      plainSetting (by decide) (plainWord_formatInt m.connectionTimeout),
      plainSetting (by decide) (plainWord_formatInt (m.readTimeout * 1000)),
      plainSetting (by decide) (plainWord_formatInt (m.writeTimeout * 1000)), by simp⟩
  someQuery := by simp [parameters]
  distinctKeys :=
    show ["sslmode", "connect_timeout", "read_timeout", "write_timeout"].Nodup by decide

private theorem toString_port (plain : PlainDetails m details) :
    toString details.dbPort.toInt.toNat = formatInt details.dbPort := by
  have nonneg := plain.port.1
  rw [formatInt]
  cases port : details.dbPort.toInt with
  | ofNat magnitude => rfl
  | negSucc magnitude => omega

private theorem text_url (plain : PlainDetails m details) :
    (url plain).text = m.connectionString details := by
  have sslmode : "?sslmode=" = "?" ++ ("sslmode" ++ "=") := by decide
  have connect : "&connect_timeout=" = "&" ++ ("connect_timeout" ++ "=") := by decide
  have read : "&read_timeout=" = "&" ++ ("read_timeout" ++ "=") := by decide
  have write : "&write_timeout=" = "&" ++ ("write_timeout" ++ "=") := by decide
  unfold connectionString
  simp only [sslmode, connect, read, write, PlainURL.text, PlainURL.address,
    PlainURL.userinfo, PlainURL.hostport, PlainURL.path, PlainURL.rawQuery]
  simp only [url, parameters, List.cons_append, List.nil_append, List.map_cons,
    List.map_nil, PlainURL.queryText, String.intercalate_cons_cons,
    String.intercalate_singleton, toString_port plain]
  simp only [String.append_assoc]

private theorem toInt_nanoseconds {seconds : Int64} (fits : FitsDuration seconds) :
    (seconds * 1000 * millisecond).toInt = seconds.toInt * 10 ^ 9 := by
  have thousand : (1000 : Int64).toInt = 1000 := by decide
  have million : millisecond.toInt = 1000000 := by decide
  rcases fits with ⟨nonneg, bound⟩
  have milliseconds : (seconds * 1000).toInt = seconds.toInt * 1000 := by
    have product := @toInt_mul_eq seconds 1000
    rw [thousand] at product
    exact product (by omega) (by omega)
  have product := @toInt_mul_eq (seconds * 1000) millisecond
  rw [milliseconds, million] at product
  rw [product (by omega) (by omega)]
  omega

private theorem sslModeValue_eq :
    m.sslModeValue = if m.sslMode = "" then "disable" else m.sslMode :=
  ite_not _ _ _

private theorem settings_url (plain : PlainDetails m details) :
    (url plain).settings = m.settings details ++
      [("read_timeout", formatInt (m.readTimeout * 1000)),
        ("write_timeout", formatInt (m.writeTimeout * 1000))] := by
  simp only [PlainURL.settings, settings, url, parameters, toString_port plain,
    sslModeValue_eq, List.cons_append, List.nil_append]

theorem exists_open_eq {packages : Packages} (parses : ParsesURLs packages.parseURL)
    (plain : PlainDetails m details) :
    ∃ settings : List (String × String), settings.Perm (m.settings details) ∧
      ∀ {Conn : Type} (t : TimeoutDriver Conn),
        t.open packages (m.connectionString details) =
          (t.dialOpen
            { readTimeout := m.readTimeout * 1000 * millisecond
              writeTimeout := m.writeTimeout * 1000 * millisecond }
            (" ".intercalate (settings.map settingText))).mapError .err := by
  have unrelated : ∀ setting ∈ m.settings details, passedOn setting := by
    simp [settings, passedOn]
  have arrangement : (url plain).settings.Perm _ := .of_eq (settings_url plain)
  rcases open_plainURL parses (url plain) arrangement unrelated with
    ⟨settings, order, -, opens⟩
  rw [text_url] at opens
  exact ⟨settings, order, opens⟩

/-- Opening what the builder builds dials with the two timeouts of the builder
and hands on the other settings, with the values of the builder. -/
theorem open_connectionString {packages : Packages}
    (parses : ParsesURLs packages.parseURL) (plain : PlainDetails m details)
    (fitsRead : FitsDuration m.readTimeout) (fitsWrite : FitsDuration m.writeTimeout) :
    ∃ (dialer : TimeoutDialer) (settings : List (String × String)),
      dialer.readTimeout.toInt = m.readTimeout.toInt * 10 ^ 9 ∧
      dialer.writeTimeout.toInt = m.writeTimeout.toInt * 10 ^ 9 ∧
      settings.Perm (m.settings details) ∧
      ∀ {Conn : Type} (t : TimeoutDriver Conn),
        t.open packages (m.connectionString details) =
          (t.dialOpen dialer (" ".intercalate (settings.map settingText))).mapError
            .err := by
  rcases exists_open_eq parses plain with ⟨settings, order, opens⟩
  refine ⟨_, settings, ?_, ?_, order, opens⟩
  · exact toInt_nanoseconds fitsRead
  · exact toInt_nanoseconds fitsWrite

def sampleBuilder : PostgresConnectionStringBuilder where
  connectionTimeout := 5
  readTimeout := 30
  writeTimeout := 15
  sslMode := ""

def sampleDetails : InstanceConnectionDetails where
  dbAddress := "endpoint-address.example.com"
  dbPort := 5432
  dbName := "mydb"
  masterUsername := "master-username"
  masterPassword := "9Fs6CWnuwf0BAY3rDFAels3OXANSo0-M"

/-- A driver that reports what it is called with. -/
def reportingDriver : TimeoutDriver (TimeoutDialer × String) where
  dialOpen dialer connection := .ok (dialer, connection)

theorem open_connectionString_sample :
    ∃ (dialer : TimeoutDialer) (settings : List (String × String)),
      dialer.readTimeout.toInt = 30 * 10 ^ 9 ∧
      dialer.writeTimeout.toInt = 15 * 10 ^ 9 ∧
      settings.Perm [("user", "master-username"),
        ("password", "9Fs6CWnuwf0BAY3rDFAels3OXANSo0-M"),
        ("host", "endpoint-address.example.com"), ("port", "5432"),
        ("dbname", "mydb"), ("sslmode", "disable"), ("connect_timeout", "5")] ∧
      reportingDriver.open { parseURL := parsePlainURL, goSyntax := String.quote }
          (sampleBuilder.connectionString sampleDetails) =
        .ok (dialer, " ".intercalate (settings.map settingText)) := by
  have plain : PlainDetails sampleBuilder sampleDetails :=
    ⟨by decide, by decide, .inl rfl⟩
  rcases @open_connectionString sampleBuilder sampleDetails
      { parseURL := parsePlainURL, goSyntax := String.quote } parsesURLs_parsePlainURL
      plain (by decide) (by decide) with ⟨dialer, settings, read, write, order, opens⟩
  have expected : sampleBuilder.settings sampleDetails =
      [("user", "master-username"), ("password", "9Fs6CWnuwf0BAY3rDFAels3OXANSo0-M"),
        ("host", "endpoint-address.example.com"), ("port", "5432"),
        ("dbname", "mydb"), ("sslmode", "disable"), ("connect_timeout", "5")] := by
    decide
  rw [expected] at order
  exact ⟨dialer, settings, read, write, order, opens reportingDriver⟩

end PostgresConnectionStringBuilder

end RdsMetricCollector.Collector
