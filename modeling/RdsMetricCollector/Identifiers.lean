import RdsMetricCollector.Deployment

/-! # Database identifiers

The broker names a database after its prefix and the GUID of the service
instance. Reading the GUID back from the name, and naming an instance by the
GUID read from a listing, invert this up to the characters that AWS forbids.
-/

namespace RdsMetricCollector.Deployment

open RdsMetricCollector.BrokerInfo
open RdsMetricCollector.Strings

variable {r : RDSBrokerInfo}

/-- `identifier` is the prefix of the broker followed by a name that has only
characters AWS accepts. -/
def WellFormedIdentifier (r : RDSBrokerInfo) (identifier : String) : Prop :=
  ∃ rest, identifier = normalisedPrefix r ++ rest ∧ '_' ∉ rest.toList

private theorem dbInstanceIdentifier_eq (r : RDSBrokerInfo) (instanceGUID : String) :
    r.dbInstanceIdentifier instanceGUID =
      normalisedPrefix r ++ replaceAll instanceGUID '_' '-' :=
  rfl

theorem toServiceInstanceID_append (r : RDSBrokerInfo) (rest : String) :
    r.dbInstanceIdentifierToServiceInstanceID (normalisedPrefix r ++ rest) = rest :=
  trimPrefix_append (normalisedPrefix r) rest

/-! ## Encoding and decoding -/

private theorem decode_encode (r : RDSBrokerInfo) (instanceGUID : String) :
    r.dbInstanceIdentifierToServiceInstanceID (r.dbInstanceIdentifier instanceGUID) =
      replaceAll instanceGUID '_' '-' := by
  rw [dbInstanceIdentifier_eq, toServiceInstanceID_append]

theorem decode_encode_eq_self_iff (r : RDSBrokerInfo) (instanceGUID : String) :
    r.dbInstanceIdentifierToServiceInstanceID (r.dbInstanceIdentifier instanceGUID) =
        instanceGUID ↔
      '_' ∉ instanceGUID.toList := by
  rw [decode_encode]
  exact replaceAll_eq_self_iff (by decide)

/-- What is encoded is longer than what it encodes. -/
theorem encode_ne_self (r : RDSBrokerInfo) (identifier : String) :
    r.dbInstanceIdentifier identifier ≠ identifier := by
  intro equal
  have lengths := congrArg (fun text => text.toList.length) equal
  simp only [dbInstanceIdentifier_eq, normalisedPrefix, String.toList_append,
    List.length_append, length_replaceAll] at lengths
  have dash : "-".toList.length = 1 := rfl
  omega

theorem encode_decode_eq_self_iff (r : RDSBrokerInfo) (identifier : String) :
    r.dbInstanceIdentifier (r.dbInstanceIdentifierToServiceInstanceID identifier) =
        identifier ↔
      WellFormedIdentifier r identifier := by
  constructor
  · intro inverted
    by_cases leads : HasPrefix identifier (normalisedPrefix r)
    · have split := append_trimPrefix leads
      refine ⟨trimPrefix identifier (normalisedPrefix r), split.symm, ?_⟩
      rw [dbInstanceIdentifier_eq] at inverted
      nth_rewrite 2 [← split] at inverted
      exact (replaceAll_eq_self_iff (by decide)).mp (String.append_right_inj _ |>.mp inverted)
    · -- An identifier without the prefix is not shortened by decoding.
      have kept : r.dbInstanceIdentifierToServiceInstanceID identifier = identifier :=
        trimPrefix_of_not_hasPrefix leads
      rw [kept] at inverted
      exact absurd inverted (encode_ne_self r identifier)
  · intro wellFormed
    rcases wellFormed with ⟨rest, equal, allowed⟩
    rw [equal, toServiceInstanceID_append, dbInstanceIdentifier_eq,
      (replaceAll_eq_self_iff (by decide)).mpr allowed]

/-! ## Listed instances -/

theorem encode_guid {db : DBInstance}
    (wellFormed : WellFormedIdentifier r (identifier db)) :
    r.dbInstanceIdentifier (instanceInfo r db).guid = identifier db := by
  rw [instanceInfo_guid]
  exact (encode_decode_eq_self_iff r (identifier db)).mpr wellFormed

/-- The GUID that the broker made the identifier from is the listed one. -/
theorem guid_of_encoded {db : DBInstance} {instanceGUID : String}
    (encoded : identifier db = r.dbInstanceIdentifier instanceGUID)
    (allowed : '_' ∉ instanceGUID.toList) :
    (instanceInfo r db).guid = instanceGUID := by
  rw [instanceInfo_guid, guid, encoded]
  exact (decode_encode_eq_self_iff r instanceGUID).mpr allowed

/-- What is known of the instance listed for `db`: its name and its connection
details are those of `db`, and its password is that of the service instance
that `db` was made for. -/
structure Identifies (r : RDSBrokerInfo) (db : DBInstance)
    (instanceInfo : InstanceInfo) : Prop where
  name : r.getInstanceName instanceInfo = identifier db
  details : ∀ generateHash,
    r.getInstanceConnectionDetails generateHash instanceInfo =
      (r.dbInstance.describe (identifier db)).map fun described =>
        { dbAddress := getEndpointAddress described.endpoint
          dbPort := getEndpointPort described.endpoint
          masterUsername := stringValue described.masterUsername
          masterPassword := r.generateMasterPassword generateHash instanceInfo.guid
          dbName := stringValue described.dbName }
  password : ∀ generateHash instanceGUID,
    identifier db = r.dbInstanceIdentifier instanceGUID →
    '_' ∉ instanceGUID.toList →
    r.generateMasterPassword generateHash instanceInfo.guid =
      generateHash (r.masterPasswordSeed ++ instanceGUID) masterPasswordLength

theorem identifies_instanceInfo {db : DBInstance} (monitored : Monitored db)
    (wellFormed : WellFormedIdentifier r (identifier db)) :
    Identifies r db (instanceInfo r db) where
  name := encode_guid wellFormed
  details := by
    intro generateHash
    have supported : RDSBrokerInfo.supportedEngine (instanceInfo r db).type = true :=
      (RDSBrokerInfo.supportedEngine_iff _).mpr monitored
    rw [RDSBrokerInfo.getInstanceConnectionDetails, if_pos supported,
      encode_guid wellFormed]
    cases r.dbInstance.describe (identifier db) with
    | error err => rfl
    | ok described => rfl
  password := by
    intro generateHash instanceGUID encoded allowed
    rw [RDSBrokerInfo.generateMasterPassword, guid_of_encoded encoded allowed]

/-- Decoding inverts encoding up to underscores in the GUID, encoding inverts
decoding exactly on well-formed identifiers, and so every instance that is
listed from such identifiers stands for the database it was listed from. -/
theorem identifier_codec (r : RDSBrokerInfo) :
    (∀ instanceGUID,
      r.dbInstanceIdentifierToServiceInstanceID
          (r.dbInstanceIdentifier instanceGUID) =
        replaceAll instanceGUID '_' '-' ∧
      (r.dbInstanceIdentifierToServiceInstanceID
          (r.dbInstanceIdentifier instanceGUID) = instanceGUID ↔
        '_' ∉ instanceGUID.toList)) ∧
    (∀ identifier,
      r.dbInstanceIdentifier
          (r.dbInstanceIdentifierToServiceInstanceID identifier) = identifier ↔
        WellFormedIdentifier r identifier) ∧
    ∀ dbs, r.dbInstance.describeByTag "Broker Name" r.brokerName = .ok dbs →
      (∀ db ∈ dbs, WellFormedIdentifier r (identifier db)) →
      ∃ instanceInfos, r.listInstances = .ok instanceInfos ∧
        List.Forall₂ (Identifies r) (dbs.filter (Monitored ·)) instanceInfos := by
  refine ⟨?_, encode_decode_eq_self_iff r, ?_⟩
  · intro instanceGUID
    exact ⟨decode_encode r instanceGUID, decode_encode_eq_self_iff r instanceGUID⟩
  · intro dbs described wellFormed
    refine ⟨_, listInstances_eq described, ?_⟩
    rw [List.forall₂_map_right_iff, List.forall₂_same]
    intro db member
    rcases List.mem_filter.mp member with ⟨listed, monitored⟩
    exact identifies_instanceInfo (of_decide_eq_true monitored) (wellFormed db listed)

/-- The sample databases, one of which has a GUID that begins with the prefix. -/
theorem identifier_codec_sample :
    ∃ instanceInfos, sampleBroker.listInstances = .ok instanceInfos ∧
      List.Forall₂ (Identifies sampleBroker)
        (sampleDBs.filter (Monitored ·)) instanceInfos := by
  apply (identifier_codec sampleBroker).2.2 sampleDBs rfl
  intro db member
  simp only [sampleDBs, List.mem_cons, List.not_mem_nil, or_false] at member
  rcases member with rfl | rfl | rfl
  · exact ⟨"1", by decide, by decide⟩
  · exact ⟨"rds-broker-1", by decide, by decide⟩
  · exact ⟨"2", by decide, by decide⟩

end RdsMetricCollector.Deployment
