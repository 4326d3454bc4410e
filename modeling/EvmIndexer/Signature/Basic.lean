import EvmIndexer.Hash.Keccak

/-!
# Function selectors and signatures

The first four bytes of a call's data select the function. They are the first
four bytes of the hash of its signature, the name followed by the types of the
parameters, such as `transfer(address,uint256)`. The hash cannot be undone, so
a signature is found either in the short table of this module or by asking a
signature service.
-/

namespace EvmIndexer

namespace Signature

/-- The selector of a signature, marked and in lower case. -/
def selector (signature : String) : String :=
  Bytes.Hex.marked ((keccak256 (Bytes.ofText signature)).take 4)

/-- The name in a signature: what stands before the first parenthesis. -/
def name (signature : String) : String :=
  String.ofList (signature.toList.takeWhile (· != '('))

/-- The signatures that are known without asking. -/
def wellKnown : List String := [
  "transfer(address,uint256)",
  "transferFrom(address,address,uint256)",
  "approve(address,uint256)",
  "safeTransferFrom(address,address,uint256)",
  "balanceOf(address)",
  "allowance(address,address)",
  "totalSupply()",
  "deposit()",
  "withdraw(uint256)",
  "multicall(bytes[])"]

def table : List (String × String) := wellKnown.map fun s => (selector s, s)

def ofSelector? (selector : String) : Option String := table.lookup selector

end Signature

end EvmIndexer
