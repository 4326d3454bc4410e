/-!
# JSON documents

The values of a document, as far as a reader of signatures looks at them. A
number is kept without its value. The members of an object stand in the order of
the text, and the last of equal keys counts.
-/

namespace EvmIndexer.Json

inductive Value where
  | null
  | bool (b : Bool)
  | number
  | text (content : List Char)
  | list (members : List Value)
  | object (members : List (List Char × Value))
deriving Repr

def Value.member? (key : String) : Value → Option Value
  | .object members => members.reverse.lookup key.toList
  | _ => none

/-- The first member of a list. -/
def Value.first? : Value → Option Value
  | .list members => members.head?
  | _ => none

def Value.text? : Value → Option String
  | .text content => some (String.ofList content)
  | _ => none

end EvmIndexer.Json
