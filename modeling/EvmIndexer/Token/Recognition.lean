import EvmIndexer.Hash.Keccak
import EvmIndexer.Log
import EvmIndexer.Text.LowerCase
import EvmIndexer.Text.Quoted
import EvmIndexer.Token.Basic

/-!
# Recognizing transfers in logs

A log announces a transfer when its first topic is that of the transfer event
and its second and third topics are words, which hold the two addresses in their
last forty digits. Transfers of single items share the event and have one topic
more; they are recognized too.

Every emitter of a recognized log is a token. Recognition of a list of logs
collects the transfers in order, and of the emitters those not met before, in
the order of their first log. Emitters that the caller has met already are
handed in, so lists can be recognized piece by piece.
-/

namespace EvmIndexer

/-- The topic of the event `Transfer(address,address,uint256)`. -/
def transferTopic : String :=
  Bytes.Hex.marked (keccak256 (Bytes.ofText "Transfer(address,address,uint256)"))

namespace Topic

def wordSize : Nat := 64

/-- The address in a topic: the mark and the last forty characters of a word. A
topic that is not of a word's length holds none. -/
def toAddress? (topic : String) : Option String :=
  let word := Bytes.Hex.dropMark topic.toList
  if word.length = wordSize then
    some ("0x" ++ Text.lower (String.ofList (word.drop (wordSize - 40))))
  else none

/-- The message about a topic without an address. -/
def lengthMessage (topic : String) : String :=
  "Expected a 32-byte topic, got " ++ Text.quoted topic

end Topic

structure Announcement where
  sender : String
  recipient : String
  value : String
deriving DecidableEq, Repr

/-- The transfer that a log announces. The event's topic is in lower case. -/
def Log.announcement? (event : String) (log : Log) : Option Announcement :=
  match log.topics with
  | first :: second :: third :: _ =>
    if Text.lower first = event then do
      let sender ← Topic.toAddress? second
      let recipient ← Topic.toAddress? third
      return ⟨sender, recipient, if log.data = "" then "0x0" else log.data⟩
    else none
  | _ => none

structure Recognition where
  tokens : List Token := []
  transfers : List Transfer := []
deriving DecidableEq, Repr

namespace Recognition

/-- Takes one log into account. `known` holds the emitters met already. -/
def addLog (event txId : String) (height : Option Int)
    (state : List String × Recognition) (log : Log) :
    List String × Recognition :=
  match log.announcement? event with
  | none => state
  | some announced =>
    let address := Text.lower log.address
    let transfer : Transfer := {
      txId := txId
      logIndex := log.index
      tokenAddress := address
      sender := announced.sender
      recipient := announced.recipient
      value := announced.value }
    let (known, found) := state
    let transfers := found.transfers ++ [transfer]
    if known.contains address then (known, { found with transfers })
    else
      let token : Token := {
        address := address
        firstSeenTx := some txId
        firstSeenHeight := height }
      (address :: known, ⟨found.tokens ++ [token], transfers⟩)

/-- Recognizes the transfers and the new tokens in the logs of a transaction. -/
def ofLogs (event txId : String) (height : Option Int) (known : List String)
    (logs : List Log) : Recognition :=
  (logs.foldl (addLog event txId height) (known.map Text.lower, {})).2

end Recognition

end EvmIndexer
