/-!
# Execution logs

A log is what a contract left behind while a transaction ran: its address, a
list of topics and data. It is identified by its transaction and its index. The
topics keep their order, for the first of them names the event.

Addresses and topics are text. They are meant to be hexadecimal, but nothing
that produces them promises it.
-/

namespace EvmIndexer

structure Log where
  txId : String
  index : Int
  address : String
  topics : List String
  data : String
deriving DecidableEq, Repr

/-- The first topic. -/
def Log.event? (log : Log) : Option String := log.topics.head?

end EvmIndexer
