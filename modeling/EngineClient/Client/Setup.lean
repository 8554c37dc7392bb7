import EngineClient.Client.Basic
import EngineClient.Cluster.Basic
import EngineClient.Counters

/-!
# Setting up clients

A client is set up from parts. Configuration, record codec and query codec have to be given. The
cluster is that of the configuration, and counters start at zero, unless a transport or counters are
given too. Of several faults the first in this order is reported: a missing part, an invalid
configuration, a cluster that cannot be reached.
-/

namespace EngineClient

/-- The parts of a client, with a transport of type `T` if one is given. -/
structure ClientParts (S Q T : Type) where
  configuration : Option Configuration := none
  records : Option (RecordCodec S) := none
  queries : Option (QueryCodec Q) := none
  /-- The transport, in place of the cluster of the configuration. -/
  transport : Option T := none
  /-- The counts to go on with. -/
  counts : Option Counts := none

/-- Where a client sends its requests. -/
inductive Destination (T : Type) where
  | given (transport : T)
  | cluster (cluster : Cluster)

/-- A client with all it needs to run. -/
structure ClientSetup (S Q T : Type) where
  client : Client S Q
  /-- Where it sends its requests. -/
  destination : Destination T
  counts : Counts

namespace ClientParts

variable {S Q T α : Type}

/-- A part that has to be given. -/
def required (name : String) (part : Option α) : Except CallError α :=
  match part with
  | some part => .ok part
  | none => .error (.setup s!"{name} not set")

/-- The transport that was given, or the cluster of the configuration. -/
def destination (parts : ClientParts S Q T) (configuration : Configuration) :
    Except CallError (Destination T) :=
  match parts.transport with
  | some transport => .ok (.given transport)
  | none =>
    match Cluster.ofOptions configuration.clusterOptions with
    | .ok cluster => .ok (.cluster cluster)
    | .error error => .error (.setup s!"cannot create transport: {error.message}")

/-- Sets up a client. -/
def setUp (parts : ClientParts S Q T) : Except CallError (ClientSetup S Q T) := do
  let configuration ← required "client configuration" parts.configuration
  let records ← required "model context" parts.records
  let queries ← required "query converter" parts.queries
  configuration.validate
  let destination ← parts.destination configuration
  return ⟨⟨configuration, records, queries⟩, destination, parts.counts.getD .zero⟩

end ClientParts

end EngineClient
