import EvmIndexer.Address
import EvmIndexer.Rlp.Item
import EvmIndexer.Transaction.Basic

/-!
# Contracts and where they are

A transaction without a recipient creates a contract. Its address is not
recorded anywhere; it is the end of the hash of the creator's address and the
creator's count of transactions. Only a successful creation leaves a contract.
-/

namespace EvmIndexer

structure Contract where
  address : String
  creator : String
  creationTx : String
  creationHeight : Option Int
  codeHash : Option String
deriving DecidableEq, Repr

namespace Contract

/-- Why no contract can be derived. -/
inductive Fault where
  | negativeNonce
  /-- The creator is not an address. -/
  | badCreator
  /-- The code is not hexadecimal text. -/
  | badDigits
  /-- The code is not even made of the first 128 characters. -/
  | notAscii
deriving DecidableEq, Repr

/-- The message about a fault, where it has one of its own. -/
def Fault.message? : Fault → Option String
  | .negativeNonce => some "nonce must be non-negative"
  | _ => none

/-- What is hashed for the address of a contract. -/
def preimage (creator : Bytes) (nonce : Nat) : Bytes :=
  (Rlp.Item.list [.bytes creator, .ofNat nonce]).encode

/-- The address of the contract that a creator's transaction creates. -/
def addressOf (creator : Bytes) (nonce : Nat) : Bytes :=
  (keccak256 (preimage creator nonce)).drop 12

/-- The address of a contract as it is stored, from the text of the creator's. -/
def derive (creator : String) (nonce : Int) : Except Fault String :=
  if nonce < 0 then .error .negativeNonce
  else match Address.ofText? creator with
    | some address => .ok (Bytes.Hex.marked (addressOf address nonce.toNat))
    | none => .error .badCreator

def codeBytes (code : String) : Except Fault Bytes :=
  if code.toList.any fun c => 128 ≤ c.toNat then .error .notAscii
  else match Bytes.Hex.readPadded code.toList with
    | some bs => .ok bs
    | none => .error .badDigits

/-- The hash of a contract's code; there is none if there is no code. -/
def codeHash? (code : Option String) : Except Fault (Option String) :=
  match code with
  | none | some "" | some "0x" | some "0X" => .ok none
  | some code => do
    let bs ← codeBytes code
    return some (Bytes.Hex.marked (keccak256 bs))

/-- The contract of a creation that is known to have succeeded. -/
def ofCreation (txId creator : String) (nonce : Int) (code : Option String)
    (height : Option Int) : Except Fault Contract := do
  let address ← derive creator nonce
  let codeHash ← codeHash? code
  return {
    address := address
    creator := Text.lower creator
    creationTx := txId
    creationHeight := height
    codeHash := codeHash }

/-- The contract that a transaction created, if it created one. -/
def ofTransaction? (tx : Transaction) (height : Option Int) :
    Except Fault (Option Contract) :=
  if tx.createsContract && tx.status = .success && tx.sender != "" then
    some <$> ofCreation tx.txId tx.sender tx.nonce tx.data height
  else return none

end Contract

end EvmIndexer
