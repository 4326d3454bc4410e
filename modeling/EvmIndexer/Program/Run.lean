import EvmIndexer.Config.Setup
import EvmIndexer.Intake.OnDemand
import EvmIndexer.Intake.Polling
import EvmIndexer.Program.Command
import EvmIndexer.Store.FaultPlan

/-!
# Running the program

A run is a function of everything around it: the words and settings it is given,
the store, the services it asks, what is notified while it listens, and when it
is told to stop. It ends with a status and has written lines.

Everything but a mistake in the words ends with one of two statuses. The program
fails if its settings are refused, if work fails that nothing catches, or if
the transaction that somebody asked for is not decoded. A watch and a listener
catch what fails in them, so they end well.

A program that both listens and drains polls once before it hears anything.
-/

namespace EvmIndexer

structure Occasion where
  words : List String
  environment : List (String × String)
  store : Store := {}
  plan : FaultPlan := {}
  service : SignatureService := fun _ _ => .unreachable
  /-- What the searches of a repair find. -/
  found : Repair.Candidates := {}
  /-- What is notified, each with its channel. -/
  notifications : List (String × String) := []
  /-- The number of polls before the program is told to stop. -/
  polls : Nat := 1
  /-- What the program is told to do if it asks. -/
  choice : String := ""
  /-- The transaction it is told to decode if it asks. -/
  chosenTx : String := ""

/-- The pool of connections through which the tables are reached. -/
structure Pool where
  url : String
  size : Nat := 10
  /-- The seconds after which a connection is not used again. -/
  recycling : Nat := 1800
  /-- Whether a connection is tried before it is used. -/
  tries : Bool := true
  /-- Whether statements are written down. -/
  echoes : Bool := false
  /-- Whether the pool was given up in the end. -/
  disposed : Bool := true
deriving DecidableEq, Repr

structure Report where
  status : Nat
  /-- What was written, if the words were a command. -/
  lines : Option (List String) := some []
  /-- The first fault of the settings. -/
  fault : Option FieldFault := none
  pool : Option Pool := none
  /-- The addresses that were listened at. -/
  dsns : List String := []
  /-- The number of requests for signatures. -/
  requests : Nat := 0
  store : Store
deriving DecidableEq, Repr

namespace Program

/-! ## What is written -/

def flagText (flag : Bool) : String := if flag then "True" else "False"

def cellText : Cell → String
  | .missing => "None"
  | .text content => content
  | .number n | .quantity n => toString n
  | .texts contents =>
    "[" ++ String.intercalate ", " (contents.map Text.quoted) ++ "]"

def line (name value : String) : String := name ++ ": " ++ value

def replyLines (reply : Reply) : List String :=
  line "success" (flagText reply.success) :: line "message" reply.message
    :: reply.details.map fun (name, cell) => line name (cellText cell)

def countLines (counts : List (Repair.Phase × Nat)) : List String :=
  counts.map fun (phase, count) => line phase.name (toString count)

/-! ## Tasks -/

/-- What a task leaves: a status, lines, addresses and the store. -/
structure Result where
  status : Nat := 0
  lines : List String := []
  dsns : List String := []
  store : Store

def decode (txId : String) (around : Surroundings) (store : Store) : Result :=
  let (reply, store) := decodeOnDemand txId around store
  { status := if reply.success then 0 else 1, lines := replyLines reply, store }

def poll (around : Surroundings) : Nat → Drain → Store → Drain × Store
  | 0, drain, store => (drain, store)
  | n + 1, drain, store =>
    let (_, drain, store) := drain.poll around store
    poll around n drain store

def hear (setup : ListenerSetup) (around : Surroundings)
    (notifications : List (String × String)) (store : Store) : Store :=
  let heard := notifications.filter fun (channel, payload) =>
    Listener.isHeard setup.channel channel payload
  heard.foldl (fun store (_, txId) => (decodeOnDemand txId around store).2) store

/-- What the node that is asked about tokens answers if it cannot be reached:
nothing, for an address that is one. -/
def silentNode : MetadataSource := fun address =>
  (Metadata.fetch? (fun _ _ => none) address).map (·.1)

def perform (task : Task) (settings : Settings) (around : Surroundings)
    (occasion : Occasion) : Result :=
  let store := occasion.store
  let drain : Drain := { size := settings.batchSize }
  let listener := settings.listener
  let endless := settings.pollInterval = .infinite
  match task with
  | .decode txId => decode txId around store
  | .drain =>
    if endless then { status := 1, store }
    else { store := (poll around occasion.polls drain store).2 }
  | .listen => {
    dsns := [listener.dsn]
    store := hear listener around occasion.notifications store }
  | .serve =>
    if endless then { status := 1, store }
    else
      let (drain, store) := poll around 1 drain store
      let store := hear listener around occasion.notifications store
      { dsns := [listener.dsn]
        store := (poll around (occasion.polls - 1) drain store).2 }
  | .backfill =>
    let repair := settings.repair.toRepair silentNode
    match (repair.all occasion.found).run around store with
    | (.ok counts, store) => { lines := countLines counts, store }
    | (.error _, store) => { status := 1, store }

/-! ## The program -/

/-- The task of a command, if there is one. -/
def taskOf? (occasion : Occasion) : Command → Option Task
  | .perform task => some task
  | .choose => Task.ofName? occasion.choice occasion.chosenTx

def runTask (task : Task) (settings : Settings) (occasion : Occasion) : Report :=
  let client := settings.decoder.lookup.map LookupSetup.client
  let around : Surroundings := {
    faults := occasion.plan.faults
    signatures := client.map (SignatureClient.answerAfter occasion.service) }
  let result := perform task settings around occasion
  let requests := (client.map fun client =>
    (client.lookupAll occasion.service result.store.asked).requests.length).getD 0
  { status := result.status
    lines := some result.lines
    pool := some { url := settings.databaseUrl }
    dsns := result.dsns
    requests
    store := result.store }

/-- The first fault of settings that were refused. -/
def firstFault? : Settings.Failure → Option FieldFault
  | .invalid faults => faults.head?.map (·.2)
  | .notAnAddress | .emptySocket => none

def run (occasion : Occasion) : Report :=
  let store := occasion.store
  match Command.ofWords occasion.words with
  | .error .mistake => { status := 2, lines := none, store }
  | .error .help => { status := 0, store }
  | .ok command =>
    match Settings.load { environment := occasion.environment } with
    | .error failure => { status := 1, fault := firstFault? failure, store }
    | .ok settings =>
      match taskOf? occasion command with
      | none => { status := 1, store }
      | some task =>
        let report := runTask task settings occasion
        match command, task with
        | .choose, .backfill => { report with lines := some [] }
        | _, _ => report

end Program

end EvmIndexer
