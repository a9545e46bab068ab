import Kaya.Assets.Model

/-!
# DNS clients

The rows that DNS collection keeps: `DNSRecognisedDevice` with its histories and observations, as
far as the modelled functions read or write them.
-/

namespace Kaya.Dns

open Kaya.HA (DateTime)

/-- The identity types of `observe_client`. -/
inductive IdentityType
  | mac
  | providerClient
  | hostnameIp
  | ip
  | hostname
  deriving DecidableEq

/-- `DNSRecognisedDevice`. -/
structure DNSRecognisedDevice where
  providerId : ℕ
  logicalProviderKey : String
  identityKey : Option String
  identityType : IdentityType
  identityValue : String
  hostname : Option String := none
  previousHostname : Option String := none
  normalisedHostname : Option String := none
  currentIp : Option String := none
  previousIp : Option String := none
  macAddress : Option String := none
  normalisedMac : Option String := none
  providerClientId : Option String := none
  friendlyName : Option String := none
  notes : Option String := none
  isKnown : Bool := false
  isIgnored : Bool := false
  linkedIpRecordId : Option ℕ := none
  suggestedIpRecordId : Option ℕ := none
  hardwareAssetId : Option ℕ := none
  observationSource : Option String := none
  observationCount : ℕ := 0
  firstSeenAt : DateTime
  lastSeenAt : DateTime

/-- `DNSClientObservation`. -/
structure DNSClientObservation where
  dnsClientId : ℕ
  ipAddress : Option String
  observedAt : DateTime

end Kaya.Dns
