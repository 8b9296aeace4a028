import RdsMetricCollector.Foundation.Strings

/-! # The broker's view of its RDS instances

`RDSBrokerInfo` lists the databases the service broker created and derives the
connection details of each. The AWS calls and the password hash come from other
packages and are parameters.
-/

namespace RdsMetricCollector.BrokerInfo

open RdsMetricCollector.Strings

structure InstanceInfo where
  guid : String
  type : String
  deriving DecidableEq, Repr

structure InstanceConnectionDetails where
  dbAddress : String
  dbPort : Int64
  dbName : String
  masterUsername : String
  masterPassword : String
  deriving DecidableEq, Repr

/-! ## The AWS description of a database -/

structure Endpoint where
  address : Option String
  port : Option Int64
  deriving DecidableEq, Repr

/-- The fields of an RDS description that the broker information reads. Every
one of them is an optional pointer of the AWS client. -/
structure DBInstance where
  dbInstanceIdentifier : Option String
  engine : Option String
  endpoint : Option Endpoint
  masterUsername : Option String
  dbName : Option String
  deriving DecidableEq, Repr

/-- The two calls made to AWS. -/
structure RDSInstance where
  describe : String → Except String DBInstance
  describeByTag : String → String → Except String (List DBInstance)

def stringValue : Option String → String
  | none => ""
  | some value => value

def int64Value : Option Int64 → Int64
  | none => 0
  | some value => value

def getEndpointPort : Option Endpoint → Int64
  | some endpoint => int64Value endpoint.port
  | none => 0

def getEndpointAddress : Option Endpoint → String
  | some endpoint => stringValue endpoint.address
  | none => ""

/-! ## Broker information -/

structure RDSBrokerInfo where
  brokerName : String
  dbPrefix : String
  masterPasswordSeed : String
  dbInstance : RDSInstance

def masterPasswordLength : Nat := 32

namespace RDSBrokerInfo

def dbInstanceIdentifier (r : RDSBrokerInfo) (instanceGUID : String) : String :=
  replaceAll r.dbPrefix '_' '-' ++ "-" ++ replaceAll instanceGUID '_' '-'

def dbInstanceIdentifierToServiceInstanceID (r : RDSBrokerInfo)
    (serviceInstanceID : String) : String :=
  trimPrefix serviceInstanceID (replaceAll r.dbPrefix '_' '-' ++ "-")

def generateMasterPassword (generateHash : String → Nat → String)
    (r : RDSBrokerInfo) (instanceGUID : String) : String :=
  generateHash (r.masterPasswordSeed ++ instanceGUID) masterPasswordLength

/-- The engines for which there is an SQL driver. -/
def supportedEngine (engine : String) : Bool :=
  engine == "postgres" || engine == "mysql"

theorem supportedEngine_iff (engine : String) :
    supportedEngine engine = true ↔ engine = "postgres" ∨ engine = "mysql" := by
  simp [supportedEngine]

/-- One round of the listing loop: other engines are skipped. -/
def listedInstance (r : RDSBrokerInfo) (dbDetails : DBInstance) :
    Option InstanceInfo :=
  let engine := stringValue dbDetails.engine
  if supportedEngine engine then
    some {
      guid := r.dbInstanceIdentifierToServiceInstanceID
        (stringValue dbDetails.dbInstanceIdentifier)
      type := engine }
  else
    none

def listInstances (r : RDSBrokerInfo) : Except String (List InstanceInfo) :=
  match r.dbInstance.describeByTag "Broker Name" r.brokerName with
  | .error err => .error err
  | .ok dbInstanceDetailsList =>
      .ok (dbInstanceDetailsList.filterMap r.listedInstance)

def getInstanceConnectionDetails (generateHash : String → Nat → String)
    (r : RDSBrokerInfo) (instanceInfo : InstanceInfo) :
    Except String InstanceConnectionDetails :=
  if supportedEngine instanceInfo.type then
    match r.dbInstance.describe (r.dbInstanceIdentifier instanceInfo.guid) with
    | .error err => .error err
    | .ok dbInstanceDetails =>
        .ok {
          dbAddress := getEndpointAddress dbInstanceDetails.endpoint
          dbPort := getEndpointPort dbInstanceDetails.endpoint
          masterUsername := stringValue dbInstanceDetails.masterUsername
          masterPassword := r.generateMasterPassword generateHash instanceInfo.guid
          dbName := stringValue dbInstanceDetails.dbName }
  else
    .error ("invalid instance type: " ++ instanceInfo.type)

def getInstanceName (r : RDSBrokerInfo) (instanceInfo : InstanceInfo) : String :=
  r.dbInstanceIdentifier instanceInfo.guid

end RDSBrokerInfo

end RdsMetricCollector.BrokerInfo
