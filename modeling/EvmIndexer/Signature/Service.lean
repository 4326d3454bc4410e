import EvmIndexer.Json.Reader
import EvmIndexer.Signature.Cache
import EvmIndexer.Text.Blank

/-!
# Asking a service for signatures

A signature service knows text signatures by their selectors. One request asks
for one selector, and the answer is a document with a list of results, of which
the first counts. Whatever a successful answer says is kept, also that it names
no signature; after a failure nothing is kept, so that the selector is asked for
again.

The service is a function of the requests made before, so it may answer
differently each time, or not at all.
-/

namespace EvmIndexer

inductive ServiceReply where
  | response (status : Nat) (body : Bytes)
  /-- The request failed on its way. -/
  | unreachable
  /-- The request broke down for a reason that is not the network's. A document that
  is nested more deeply than the reader can follow is such a reason: reading it ends
  in an error that nobody expects, not in the finding that it is no document. -/
  | breakdown
deriving DecidableEq, Repr

/-- A signature service: its reply to a request for a selector, given the
selectors requested before. -/
abbrev SignatureService := List String → String → ServiceReply

inductive LookupAnswer where
  | signature (text : String)
  | unknown
  /-- The lookup broke down. -/
  | failed
deriving DecidableEq, Repr

/-- A client of a signature service: its cache and the selectors that it has
requested. -/
structure SignatureClient where
  cache : SignatureCache
  requests : List String := []
deriving DecidableEq, Repr

namespace SignatureClient

/-- Whether a text can be asked for: a mark and eight lower-case digits, with at
most one line end behind them. -/
def isSelector (selector : String) : Bool :=
  match selector.toList with
  | '0' :: 'x' :: cs =>
    (cs.take 8).length == 8 && (cs.take 8).all Bytes.Hex.isLowerDigit
      && (cs.drop 8 == [] || cs.drop 8 == ['\n'])
  | _ => false

/-- The address that is requested for a selector. -/
def requestUrl (baseUrl selector : String) : String :=
  baseUrl ++ "?hex_signature=" ++ String.ofList (selector.toList.flatMap fun c =>
    if c == '\n' then ['%', '0', 'A'] else [c])

/-- The signature in a document, if it names one. -/
def firstSignature? (document : Json.Value) : Option String := do
  let results ← document.member? "results"
  let first ← results.first?
  let text ← (← first.member? "text_signature").text?
  let trimmed := Text.trim text
  if trimmed = "" then none else some trimmed

/-- The document in a reply, if the reply is a success and holds one. -/
def document? : ServiceReply → Option Json.Value
  | .response status body =>
    if 200 ≤ status && status < 300 then Json.ofBytes? body else none
  | _ => none

/-- A signature that may be absent, as an answer. -/
def answerOf : Option String → LookupAnswer
  | some text => .signature text
  | none => .unknown

def lookup (service : SignatureService) (selector : String)
    (client : SignatureClient) : LookupAnswer × SignatureClient :=
  let key := Text.lower selector
  if !isSelector key then (.unknown, client)
  else if client.cache.contains key then
    let (signature, cache) := client.cache.get key
    (answerOf signature, { client with cache })
  else
    let reply := service client.requests key
    let asked := { client with requests := client.requests ++ [key] }
    match reply, document? reply with
    | .breakdown, _ => (.failed, asked)
    | _, none => (.unknown, asked)
    | _, some document =>
      let signature := firstSignature? document
      (answerOf signature, { asked with cache := asked.cache.put key signature })

def lookupAll (service : SignatureService) (selectors : List String)
    (client : SignatureClient) : SignatureClient :=
  selectors.foldl (fun client selector => (client.lookup service selector).2) client

def answerAfter (service : SignatureService) (client : SignatureClient)
    (before : List String) (selector : String) : LookupAnswer :=
  ((client.lookupAll service before).lookup service selector).1

end SignatureClient

end EvmIndexer
