import EvmIndexer.Address
import EvmIndexer.Text.Blank
import EvmIndexer.Token.Abi

/-!
# The name, symbol and decimals of a token

A token is asked for each of the three once in the standard form, and once more
in the form of early tokens for what is still missing. Every call may fail, by
itself or by an answer that cannot be read, and a failure means that the
property stays unknown. So asking never fails as a whole, except for an address
that is none.

The node that is asked is a function of the calls made before, so it may answer
the same call differently each time.
-/

namespace EvmIndexer

inductive Property where
  | symbol
  | name
  | decimals
deriving DecidableEq, Repr

/-- The function of the contract that tells a property. -/
def Property.function : Property → String
  | .symbol => "symbol"
  | .name => "name"
  | .decimals => "decimals"

structure Metadata where
  name : Option String := none
  symbol : Option String := none
  decimals : Option Int := none
deriving DecidableEq, Repr

def Metadata.isSome (known : Metadata) : Bool :=
  known.name.isSome || known.symbol.isSome || known.decimals.isSome

/-- A node of the network: its answer to a call, given the calls before it. A
call that fails has no answer. -/
abbrev Node := List Property → Property → Option Bytes

namespace Metadata

inductive Value where
  | text (content : String)
  | bytes (content : Bytes)
  | number (n : Int)
  | other
deriving DecidableEq, Repr

/-- A text that is there, without its blanks. -/
def nonEmpty (s : String) : Option String :=
  let trimmed := Text.trim s
  if trimmed = "" then none else some trimmed

/-- A name or symbol: text loses its zero characters and its blanks, bytes lose
the zeros at their end before they are read as text. -/
def normalizeText : Value → Option String
  | .text content => nonEmpty (String.ofList (content.toList.filter (· != '\x00')))
  | .bytes content => do
    nonEmpty (← Bytes.toText? (content.reverse.dropWhile (· == 0)).reverse)
  | _ => none

def normalizeDecimals : Value → Option Int
  | .number n => if 0 ≤ n ∧ n ≤ 255 then some n else none
  | _ => none

/-- Makes a call: the answer, and the calls made so far. -/
def call (node : Node) (property : Property) :
    StateM (List Property) (Option Bytes) := fun calls =>
  (node calls property, calls ++ [property])

def askText (node : Node) (property : Property) :
    StateM (List Property) (Option String) := do
  let answer ← call node property
  return ((answer.bind Abi.readText).map .text).bind normalizeText

/-- Asks for a text in the form of early tokens. -/
def askFixedText (node : Node) (property : Property) :
    StateM (List Property) (Option String) := do
  let answer ← call node property
  return ((answer.bind Abi.readFixed).map .bytes).bind normalizeText

/-- Asks for the decimals, whose word is read by `read`. -/
def askDecimals (node : Node) (read : Bytes → Option Nat) :
    StateM (List Property) (Option Int) := do
  let answer ← call node .decimals
  return ((answer.bind read).map fun n => .number n).bind normalizeDecimals

/-- Keeps what is known and asks only for what is not. -/
def orAsk {α : Type} (known : Option α) (ask : StateM (List Property) (Option α)) :
    StateM (List Property) (Option α) :=
  match known with
  | some a => pure (some a)
  | none => ask

def askAll (node : Node) : StateM (List Property) Metadata := do
  let symbol ← askText node .symbol
  let name ← askText node .name
  let decimals ← askDecimals node Abi.readByte
  let symbol ← orAsk symbol (askFixedText node .symbol)
  let name ← orAsk name (askFixedText node .name)
  let decimals ← orAsk decimals (askDecimals node Abi.readNumber)
  return { name, symbol, decimals }

/-- Asks the token at an address: what is known afterwards and the calls that
were made. There is no answer for an address that is none. -/
def fetch? (node : Node) (address : String) :
    Option (Metadata × List Property) := do
  let _ ← Address.ofText? address
  return askAll node []

end Metadata

end EvmIndexer
