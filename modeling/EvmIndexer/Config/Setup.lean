import EvmIndexer.Config.Settings
import EvmIndexer.Repair.Phase
import EvmIndexer.Signature.Service
import EvmIndexer.Text.Quoted

/-!
# Setting the parts of the program up

The decoder, the repair and the listener are set up from the settings. The first
two are for a backend that keeps the tables. There is one backend; any other name
is refused, before the settings are looked at, with a message that quotes it.

Signatures are asked for only where that is enabled, and a node is asked about
tokens only where one is named.
-/

namespace EvmIndexer

def backend : String := "sqlalchemy"

inductive Setup.Fault where
  | unsupportedDecoder (backend : String)
  | unsupportedRepair (backend : String)
deriving DecidableEq, Repr

/-- The message about a part that cannot be set up. -/
def Setup.Fault.message : Setup.Fault → String
  | .unsupportedDecoder backend =>
    "Unsupported decoder backend: " ++ Text.quoted backend
  | .unsupportedRepair backend =>
    "Unsupported backfill backend: " ++ Text.quoted backend

structure LookupSetup where
  baseUrl : String
  timeout : Binary
  capacity : Nat
deriving DecidableEq, Repr

structure DecoderSetup where
  lookup : Option LookupSetup
deriving DecidableEq, Repr

structure RepairSetup where
  batchSize : Nat
  transferLimit : Nat
  /-- The node that is asked about tokens. -/
  node : Option String
deriving DecidableEq, Repr

structure ListenerSetup where
  dsn : String
  channel : String
  delay : Binary
deriving DecidableEq, Repr

namespace Setup

/-- Whether transactions can be decoded with a backend. -/
def checkDecoder (name : String) : Except Fault Unit :=
  if name = backend then .ok () else .error (.unsupportedDecoder name)

/-- Whether the tables can be repaired with a backend. -/
def checkRepair (name : String) : Except Fault Unit :=
  if name = backend then .ok () else .error (.unsupportedRepair name)

end Setup

namespace Settings

def decoder (settings : Settings) : DecoderSetup where
  lookup := if settings.lookupEnabled then some {
      baseUrl := settings.lookupUrl
      timeout := settings.lookupTimeout
      capacity := settings.cacheSize }
    else none

def repair (settings : Settings) : RepairSetup where
  batchSize := settings.batchSize
  transferLimit := settings.transferLimit
  node := settings.rpcUrl.filter (· != "")

def listener (settings : Settings) : ListenerSetup where
  dsn := settings.listenerDsn
  channel := settings.channel
  delay := settings.reconnectDelay

end Settings

/-- A source of signatures that asks a service with an empty cache of its own to
begin with. -/
def LookupSetup.client (setup : LookupSetup) : SignatureClient where
  cache := { capacity := setup.capacity, entries := [] }

/-- A repair as it is set up, given what the node says about tokens. -/
def RepairSetup.toRepair (setup : RepairSetup) (node : MetadataSource) : Repair where
  size := setup.batchSize
  transferLimit := setup.transferLimit
  metadata := setup.node.map fun _ => node

end EvmIndexer
