import EvmIndexer.Store.Session

/-!
# From an item to its rows

Deriving an outcome reads the recorded response, but only of an item that
decodes, and asks about the signature, but only if the table of known ones has
none. Neither can make it fail: a response that cannot be read counts as none,
and so does an answer that does not come.

An outcome that the database refuses is replaced by a placeholder, since it
would be refused again. The tokens that the outcome was to add are then not
known after all, and a later item has to add them.
-/

namespace EvmIndexer.Outcome

open Work

/-- The transaction with its signature, if somebody knows it. -/
def enrich (tx : Transaction) : Work Transaction :=
  match tx.unresolved? with
  | none => pure tx
  | some selector => do
    match ← askSignature selector with
    | .signature text => return tx.withSignature text
    | .unknown | .failed => return tx

/-- Derives the outcome of an item. The known tokens, if they are kept, grow by
those of the outcome. -/
def build (item : PendingItem) (known : Option (List String)) :
    Work (Outcome × Option (List String)) :=
  match Transaction.decode (.text item.raw) item.txId item.gasUsed with
  | .error _ => pure (placeholder item.txId, known)
  | .ok tx => do
    let recorded ← response item.txId
    let execution := (Execution.decode (recorded.map .text)).map
      (Execution.bind item.txId)
    let found := recognize item (known.getD []) execution
    let tx ← enrich (tx.withExecution execution)
    match assemble item tx execution found with
    | .error fault => throw (.contract fault)
    | .ok outcome => return (outcome, known.map (addKnown · outcome))

/-- Derives and stores the outcome of an item, or a placeholder in its place if
it is refused. -/
def process (item : PendingItem) (known : Option (List String)) :
    Work (Outcome × Option (List String)) := do
  let (outcome, known) ← build item known
  tryCatch (do save outcome; return (outcome, known)) fun failure =>
    match failure with
    | .rejected _ => do
      let replacement := placeholder item.txId
      save replacement
      return (replacement, known.map (removeKnown · outcome))
    | failure => throw failure

end EvmIndexer.Outcome
