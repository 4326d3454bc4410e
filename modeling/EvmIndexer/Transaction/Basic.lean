import EvmIndexer.Text.Blank
import EvmIndexer.Text.LowerCase

/-!
# Transactions as they are stored

One row per transaction of the ledger. Addresses are checksummed, byte strings
are marked hexadecimal text, and amounts are whole numbers of the smallest unit.

A transaction that cannot be decoded is stored too, as a placeholder: its status
says so, and its row keeps it from being tried again.
-/

namespace EvmIndexer

inductive Status where
  | decodeFailed
  | failure
  | success
deriving DecidableEq, Repr

/-- The number that stands for a status in its column. -/
def Status.code : Status → Int
  | .decodeFailed => -1
  | .failure => 0
  | .success => 1

def Status.ofCode? : Int → Option Status
  | -1 => some .decodeFailed
  | 0 => some .failure
  | 1 => some .success
  | _ => none

structure Transaction where
  txId : String
  hash : String
  sender : String
  recipient : Option String
  nonce : Int
  gasLimit : Int
  gasPrice : Int
  maxFeePerGas : Option Int
  maxPriorityFeePerGas : Option Int
  value : Int
  data : Option String
  type : Int
  chainId : Option Int
  gasUsed : Option Int
  status : Status
  functionName : Option String
  functionSignature : Option String
deriving DecidableEq, Repr

namespace Transaction

/-- The row of a transaction that cannot be decoded. -/
def placeholder (txId : String) : Transaction where
  txId := txId
  hash := "decode_failed_" ++ Text.take 16 txId
  sender := ""
  recipient := none
  nonce := 0
  gasLimit := 0
  gasPrice := 0
  maxFeePerGas := none
  maxPriorityFeePerGas := none
  value := 0
  data := none
  type := 0
  chainId := none
  gasUsed := none
  status := .decodeFailed
  functionName := none
  functionSignature := none

/-- Whether the row stands for a transaction that was not decoded. -/
def isPlaceholder (tx : Transaction) : Bool := tx.status = .decodeFailed

/-- Whether the transaction creates a contract: it has no recipient. -/
def createsContract (tx : Transaction) : Bool := tx.recipient.isNone

/-- The selector of the called function, if the data is long enough to hold
one: the mark and eight digits. -/
def selector? (tx : Transaction) : Option String :=
  match tx.data with
  | some data =>
    if 10 ≤ data.length then some (Text.lower (Text.take 10 data)) else none
  | none => none

end Transaction

end EvmIndexer
