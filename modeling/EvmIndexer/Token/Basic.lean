/-!
# Tokens and their transfers

A token is a contract that was seen to emit a transfer. Its name, symbol and
decimals are unknown at first and may be filled in later. A transfer is a view
of the log that announced it and shares the log's key; its value is the log's
data, left as it is.
-/

namespace EvmIndexer

structure Token where
  address : String
  type : String := "ERC20"
  name : Option String := none
  symbol : Option String := none
  decimals : Option Int := none
  firstSeenTx : Option String
  firstSeenHeight : Option Int
deriving DecidableEq, Repr

structure Transfer where
  txId : String
  logIndex : Int
  tokenAddress : String
  sender : String
  recipient : String
  value : String
deriving DecidableEq, Repr

end EvmIndexer
