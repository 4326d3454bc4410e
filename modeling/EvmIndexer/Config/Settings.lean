import EvmIndexer.Config.Field
import EvmIndexer.Config.Url
import EvmIndexer.Listener.Basic

/-!
# Settings

Settings come from the surroundings of the program and from whoever calls it, who
has the last word. A setting that nobody gives has its default, except for the
address of the database, which must be given.

There are two users of that address. The tables are reached through a driver that
names the encryption of the connection differently from everybody else, so the
option is renamed for it; the listener reads the address as it is, unless it is
given one of its own.
-/

namespace EvmIndexer

structure Settings where
  databaseUrl : String
  listenerDsn : String
  /-- The wait between polls, in thousandths of a second. -/
  pollIntervalMs : Nat
  batchSize : Nat
  channel : String
  reconnectDelay : Binary
  lookupEnabled : Bool
  lookupUrl : String
  lookupTimeout : Binary
  cacheSize : Nat
  /-- The node that is asked about tokens. -/
  rpcUrl : Option String
  transferLimit : Nat
deriving DecidableEq, Repr

namespace Settings

/-- Why there are no settings. -/
inductive Failure where
  /-- Values were refused. -/
  | invalid (faults : List (String × FieldFault))
  /-- The address of the database does not look like one. -/
  | notAnAddress
  /-- The socket in the address of the database is missing after its colon. -/
  | emptySocket
deriving DecidableEq, Repr

structure Sources where
  /-- From whoever calls the program. -/
  arguments : List (String × Given) := []
  /-- From its surroundings. -/
  environment : List (String × String) := []
deriving DecidableEq, Repr

/-- The value of a setting. Case matters in no name, but a name spelled as it is
here goes first, and of several others the last. -/
def Sources.find? (sources : Sources) (name : String) : Option Given :=
  let isName := fun other => Text.lower other == Text.lower name
  let exact := sources.arguments.lookup name
  let any := (sources.arguments.reverse.find? fun a => isName a.1).map (·.2)
  let outside := (sources.environment.reverse.find? fun e => isName e.1).map
    fun e => .text e.2
  exact.or (any.or outside)

def Sources.read {α : Type} (sources : Sources) (name : String) (default : α)
    (parse : Given → Except FieldFault α) : Checked α :=
  match sources.find? name with
  | none => .ok default
  | some given => (parse given).mapError fun fault => [(name, fault)]

def Sources.require {α : Type} (sources : Sources) (name : String)
    (parse : Given → Except FieldFault α) : Checked α :=
  match sources.find? name with
  | none => .error [(name, .missing)]
  | some given => (parse given).mapError fun fault => [(name, fault)]

/-- The names of the settings, as they are spelled in the surroundings. -/
def names : List String :=
  ["DATABASE_URL", "LISTENER_DSN", "POLL_INTERVAL_MS", "BATCH_SIZE",
    "NOTIFY_CHANNEL", "RECONNECT_DELAY_S", "SIGNATURE_LOOKUP_ENABLED",
    "SIGNATURE_LOOKUP_URL", "SIGNATURE_LOOKUP_TIMEOUT_S", "SIGNATURE_CACHE_SIZE",
    "EVM_RPC_URL", "BACKFILL_TRANSFER_LIMIT"]

/-- The address of the service for signatures, unless another one is named. -/
def defaultLookupUrl : String :=
  "https://www.4byte.directory/api/v1/signatures/"

/-- Reads all settings. The address for the listener may be missing or empty. -/
def readFields (sources : Sources) :
    Checked (String × Option String × (String → String → Settings)) :=
  let build := fun url dsn interval size channel delay enabled lookup timeout cache
      rpc limit =>
    ((url, dsn, fun databaseUrl listenerDsn => {
      databaseUrl := databaseUrl
      listenerDsn := listenerDsn
      pollIntervalMs := interval
      batchSize := size
      channel := channel
      reconnectDelay := delay
      lookupEnabled := enabled
      lookupUrl := lookup
      lookupTimeout := timeout
      cacheSize := cache
      rpcUrl := rpc
      transferLimit := limit }) :
      String × Option String × (String → String → Settings))
  let s := sources
  Checked.app (Checked.app (Checked.app (Checked.app (Checked.app (Checked.app
    (Checked.app (Checked.app (Checked.app (Checked.app (Checked.app (Checked.app
      (.ok build)
      (s.require "DATABASE_URL" Given.toText))
      (s.read "listener_dsn" none Given.toText?))
      (s.read "POLL_INTERVAL_MS" 5000 Given.toPositive))
      (s.read "BATCH_SIZE" 100 Given.toPositive))
      (s.read "NOTIFY_CHANNEL" Listener.defaultChannel Given.toText))
      (s.read "RECONNECT_DELAY_S" (.ofRatio 5 1) Given.toDuration))
      (s.read "SIGNATURE_LOOKUP_ENABLED" true Given.toFlag))
      (s.read "SIGNATURE_LOOKUP_URL" defaultLookupUrl Given.toText))
      (s.read "SIGNATURE_LOOKUP_TIMEOUT_S" (.ofRatio 2 1) Given.toDuration))
      (s.read "SIGNATURE_CACHE_SIZE" 4096 Given.toPositive))
      (s.read "EVM_RPC_URL" none Given.toText?))
      (s.read "BACKFILL_TRANSFER_LIMIT" 10000 Given.toPositive)

/-- The family of drivers that the tables are kept with. -/
def family : String := "postgresql"

/-- The driver of that family through which the tables are reached. -/
def tableDriver : String := "postgresql+asyncpg"

def shortFamily : String := "postgres"

/-- Reads the address of the database, which must be of the right family. -/
def readUrl (s : String) : Except Failure DatabaseUrl :=
  match DatabaseUrl.parse s with
  | .error .notAnAddress => .error .notAnAddress
  | .error .emptySocket => .error .emptySocket
  | .error .badSocket => .error (.invalid [("", .badAddress)])
  | .ok url =>
    if url.driver = shortFamily then .ok { url with driver := family }
    else if url.family = family then .ok url
    else .error (.invalid [("", .badAddress)])

/-- The address through which the tables are reached. -/
def tableUrl (url : DatabaseUrl) : String :=
  let url := url.renameOption "sslmode" "ssl"
  { url with driver := tableDriver }.text .shown

def listenerUrl (url : DatabaseUrl) : String :=
  { url with driver := family }.text .shown

/-- Reads the settings. The address of the database is looked at only if no
value was refused. -/
def load (sources : Sources) : Except Failure Settings :=
  match readFields sources with
  | .error faults => .error (.invalid faults)
  | .ok (given, dsn, build) => do
    let url ← readUrl given
    let dsn := match dsn with
      | none | some "" => listenerUrl url
      | some dsn => dsn
    return build (tableUrl url) dsn

def pollInterval (settings : Settings) : Binary :=
  .ofRatio settings.pollIntervalMs 1000

/-- The address of the tables without the password. -/
def redactedUrl (settings : Settings) : String :=
  match DatabaseUrl.parse settings.databaseUrl with
  | .ok url => url.text .hidden
  | .error _ => ""

end Settings

end EvmIndexer
