/-!
# Commands

The words after the program's name are those of a group, then of a command in it,
then the command's own. Words that begin with a dash are options, up to a word of
two dashes, which is left out and after which there are none. The only option
there is asks for help, and help comes before every complaint about words that
are missing or too many.
-/

namespace EvmIndexer

inductive Task where
  /-- Listens and drains the queue. -/
  | serve
  | drain
  | listen
  | decode (txId : String)
  | backfill
deriving DecidableEq, Repr

inductive Command where
  /-- It asks what to do. -/
  | choose
  | perform (task : Task)
deriving DecidableEq, Repr

/-- Why the words are no command. -/
inductive Usage where
  | help
  | mistake
deriving DecidableEq, Repr

/-- The task of a name, for a transaction if the task needs one. -/
def Task.ofName? (name txId : String) : Option Task :=
  match name with
  | "serve_task" => some .serve
  | "drain_task" => some .drain
  | "listen_task" => some .listen
  | "decode_task" => some (.decode txId)
  | "backfill_task" => some .backfill
  | _ => none

namespace Command

def isOption (word : String) : Bool :=
  match word.toList with
  | '-' :: _ :: _ => true
  | _ => false

/-- Takes the options out of words; where they must be in front, only from
there. Tells whether one of them asks for help. -/
def takeOptions (inFront : Bool) : List String → Except Usage (Bool × List String)
  | [] => .ok (false, [])
  | word :: rest =>
    if word = "--" then .ok (false, rest)
    else if word = "--help" then do
      let (_, words) ← takeOptions inFront rest
      return (true, words)
    else if isOption word then .error .mistake
    else if inFront then .ok (false, word :: rest)
    else do
      let (help, words) ← takeOptions inFront rest
      return (help, word :: words)

def takeName (words : List String) : Except Usage (String × List String) := do
  match ← takeOptions true words with
  | (true, _) => .error .help
  | (false, []) => .error .mistake
  | (false, name :: rest) => return (name, rest)

def takeWords (words : List String) : Except Usage (List String) := do
  match ← takeOptions false words with
  | (true, _) => .error .help
  | (false, words) => return words

/-- A command that has no words of its own. -/
def alone (command : Command) (words : List String) : Except Usage Command := do
  match ← takeWords words with
  | [] => return command
  | _ => .error .mistake

/-- The command with a name and words of its own. -/
def ofName (name : String) (words : List String) : Except Usage Command :=
  match name with
  | "run" => choose.alone words
  | "serve" => (perform .serve).alone words
  | "drain" => (perform .drain).alone words
  | "listen" => (perform .listen).alone words
  | "backfill" => (perform .backfill).alone words
  | "decode" => do
    match ← takeWords words with
    | [txId] => return perform (.decode txId)
    | _ => .error .mistake
  | _ => .error .mistake

/-- The name of the group that the commands are in. -/
def group : String := "decoder"

def ofWords (words : List String) : Except Usage Command := do
  let (first, rest) ← takeName words
  if first = group then
    let (name, rest) ← takeName rest
    ofName name rest
  else .error .mistake

end Command

end EvmIndexer
