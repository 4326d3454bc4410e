import EvmIndexer.Outcome.Basic
import EvmIndexer.Proofs.Repair.Phases

/-!
# Recognition piece by piece

What is recognized in a list of logs can be told without the emitters that were met
on the way: the transfers are those of the logs that announce one, and the tokens are
their emitters, those known before left out, every other one where it occurs first.

So the list may be cut anywhere. What the first part brings is known to the second,
and both together find what is found in the whole. It takes that addresses do not
change when they are lowered again: the emitters found in the first part are lowered
when they are handed on.

A batch hands the tokens of an item on to the next one, and a repair those of a row to
the next row of its chunk. Each of them finds every emitter of its transfers once.
-/

namespace EvmIndexer

/-! ## First occurrences -/

section Lists

variable {α : Type} [BEq α]

theorem removeAll_filter (p : α → Bool) (xs ys : List α) :
    (xs.filter p).removeAll ys = (xs.removeAll ys).filter p :=
  List.filter_comm _ _ _

theorem append_removeAll (xs ys zs : List α) :
    (xs ++ ys).removeAll zs = xs.removeAll zs ++ ys.removeAll zs :=
  List.filter_append _ _

variable [LawfulBEq α]

/-- Only which elements are removed matters. -/
theorem removeAll_congr {ys zs : List α} (h : ∀ x, x ∈ ys ↔ x ∈ zs) (xs : List α) :
    xs.removeAll ys = xs.removeAll zs := by
  simp only [List.removeAll, List.elem_eq_mem, h]

theorem removeAll_removeAll (xs ys zs : List α) :
    (xs.removeAll ys).removeAll zs = xs.removeAll (ys ++ zs) := by
  simp only [List.removeAll, List.filter_filter, List.elem_eq_mem, List.mem_append]
  refine List.filter_congr fun x _ => ?_
  by_cases hy : x ∈ ys <;> by_cases hz : x ∈ zs <;> simp [hy, hz]

/-- The first occurrences in two lists, some elements left out, are those in the first
list and what they leave of the second. -/
theorem eraseDups_removeAll_append (xs ys known : List α) :
    ((xs ++ ys).removeAll known).eraseDups = (xs.removeAll known).eraseDups ++
      (ys.removeAll (known ++ (xs.removeAll known).eraseDups)).eraseDups := by
  rw [append_removeAll, List.eraseDups_append, removeAll_removeAll]
  congr 2
  exact removeAll_congr (fun x => by simp only [List.mem_append, List.mem_eraseDups]) ys

end Lists

namespace Recognition

variable {event txId : String} {height : Option Int} {known : List String}
  {logs : List Log}

/-- What was found in two parts. -/
def followedBy (first second : Recognition) : Recognition :=
  ⟨first.tokens ++ second.tokens, first.transfers ++ second.transfers⟩

def tokenAddresses (found : Recognition) : List String := found.tokens.map (·.address)

/-- The emitters of the transfers, one for each. -/
def emitters (found : Recognition) : List String := found.transfers.map (·.tokenAddress)

/-! ## The tokens -/

/-- The emitter of a log that announces a transfer. -/
def emitter? (event : String) (log : Log) : Option String :=
  (log.announcement? event).map fun _ => Text.lower log.address

theorem emitters_ofLogs (event txId : String) (height : Option Int)
    (known : List String) (logs : List Log) :
    (ofLogs event txId height known logs).emitters = logs.filterMap (emitter? event) := by
  rw [emitters, transfers_ofLogs_eq, List.map_filterMap]
  refine List.filterMap_congr fun log _ => ?_
  rw [Log.transferIn?, Log.transfer?, emitter?, Option.map_map, Option.map_map]
  rfl

theorem tokens_foldl (seen : List String) (found : Recognition) :
    (logs.foldl (addLog event txId height) (seen, found)).2.tokens =
      found.tokens ++ ((logs.filterMap (emitter? event)).removeAll seen).eraseDups.map
        (Token.firstSeen txId height) := by
  induction logs generalizing seen found with
  | nil => exact (List.append_nil _).symm
  | cons log rest ih =>
      rw [List.foldl_cons, List.filterMap_cons, addLog, emitter?]
      cases log.announcement? event with
      | none => exact ih seen found
      | some announced =>
          simp only [Option.map_some]
          split
          · next hmet =>
              rw [ih, List.cons_removeAll, if_neg (by simpa using hmet)]
          · next hnew =>
              have hnew : seen.contains (Text.lower log.address) = false := by
                simpa using hnew
              rw [ih, List.cons_removeAll, if_pos hnew, List.eraseDups_cons,
                List.map_cons, List.removeAll_cons, removeAll_filter, List.append_assoc]
              rfl

/-- The tokens that are found are the emitters of the transfers, each where it occurs
first, without those known before. -/
theorem tokens_ofLogs (event txId : String) (height : Option Int)
    (known : List String) (logs : List Log) :
    (ofLogs event txId height known logs).tokens =
      ((ofLogs event txId height known logs).emitters.removeAll
        (known.map Text.lower)).eraseDups.map (Token.firstSeen txId height) := by
  rw [emitters_ofLogs, ofLogs, tokens_foldl]
  rfl

theorem tokenAddresses_ofLogs (event txId : String) (height : Option Int)
    (known : List String) (logs : List Log) :
    (ofLogs event txId height known logs).tokenAddresses =
      ((logs.filterMap (emitter? event)).removeAll (known.map Text.lower)).eraseDups := by
  rw [tokenAddresses, tokens_ofLogs, emitters_ofLogs, List.map_map]
  exact List.map_id _

/-- The addresses that are found are in lower case. -/
theorem map_lower_tokenAddresses (event txId : String) (height : Option Int)
    (known : List String) (logs : List Log) :
    (ofLogs event txId height known logs).tokenAddresses.map Text.lower =
      (ofLogs event txId height known logs).tokenAddresses := by
  rw [tokenAddresses, List.map_map]
  exact List.map_congr_left fun token htoken =>
    ((sound_ofLogs event txId height known logs).tokens token htoken).2

/-! ## Cutting the list of logs -/

theorem ofLogs_append (event txId : String) (height : Option Int) (known : List String)
    (before after : List Log) :
    ofLogs event txId height known (before ++ after) =
      (ofLogs event txId height known before).followedBy
        (ofLogs event txId height
          (known ++ (ofLogs event txId height known before).tokenAddresses) after) := by
  have htokens : (ofLogs event txId height known (before ++ after)).tokens =
      (ofLogs event txId height known before).tokens ++ (ofLogs event txId height
        (known ++ (ofLogs event txId height known before).tokenAddresses) after).tokens := by
    rw [tokens_ofLogs, tokens_ofLogs, tokens_ofLogs, emitters_ofLogs, emitters_ofLogs,
      emitters_ofLogs, List.filterMap_append, eraseDups_removeAll_append, List.map_append,
      List.map_append, map_lower_tokenAddresses, tokenAddresses_ofLogs]
  have htransfers : (ofLogs event txId height known (before ++ after)).transfers =
      (ofLogs event txId height known before).transfers ++ (ofLogs event txId height
        (known ++ (ofLogs event txId height known before).tokenAddresses) after).transfers := by
    rw [transfers_ofLogs_eq, transfers_ofLogs_eq, transfers_ofLogs_eq, List.filterMap_append]
  rw [followedBy, ← htokens, ← htransfers]

/-- Of the known tokens only the set matters, in lower case. -/
theorem ofLogs_congr {known' : List String}
    (h : ∀ address, address ∈ known.map Text.lower ↔ address ∈ known'.map Text.lower) :
    ofLogs event txId height known logs = ofLogs event txId height known' logs := by
  have htokens : (ofLogs event txId height known logs).tokens =
      (ofLogs event txId height known' logs).tokens := by
    rw [tokens_ofLogs, tokens_ofLogs, emitters_ofLogs, emitters_ofLogs, removeAll_congr h]
  have htransfers : (ofLogs event txId height known logs).transfers =
      (ofLogs event txId height known' logs).transfers := by
    rw [transfers_ofLogs_eq, transfers_ofLogs_eq]
  exact congrArg₂ Recognition.mk htokens htransfers

/-- It does not matter whether a token is handed on once more. -/
theorem ofLogs_addKnown (event txId : String) (height : Option Int) (known : List String)
    (outcome : Outcome) (logs : List Log) :
    ofLogs event txId height (Outcome.addKnown known outcome) logs =
      ofLogs event txId height (known ++ outcome.tokenAddresses) logs := by
  have hsame : ∀ address, address ∈ Outcome.addKnown known outcome ↔
      address ∈ known ++ outcome.tokenAddresses := by
    intro address
    rw [Outcome.addKnown, List.mem_append, List.mem_append, List.mem_filter]
    by_cases hknown : address ∈ known
    · simp only [hknown, true_or]
    · simp [hknown]
  exact ofLogs_congr fun address => by simp only [List.mem_map, hsame]

/-! ## Rows of a chunk -/

theorem emitters_recognizeChunk (repair : Repair) (chunk : List Candidate.Unmoved) :
    (repair.recognizeChunk chunk).emitters =
      chunk.filterMap fun row => emitter? repair.event row.log := by
  rw [emitters, Repair.transfers_recognizeChunk, List.map_filterMap]
  refine List.filterMap_congr fun row _ => ?_
  rw [Log.transfer?, emitter?, Option.map_map]
  rfl

/-- A chunk has one token for every emitter, whatever transactions its rows are of. -/
theorem tokenAddresses_recognizeChunk (repair : Repair) (chunk : List Candidate.Unmoved) :
    (repair.recognizeChunk chunk).tokenAddresses =
      (repair.recognizeChunk chunk).emitters.eraseDups := by
  have hfolded : ∀ found : Recognition,
      found.tokenAddresses.map Text.lower = found.tokenAddresses →
      (chunk.foldl repair.addUnmoved found).tokenAddresses = found.tokenAddresses ++
        ((chunk.filterMap fun row => emitter? repair.event row.log).removeAll
          found.tokenAddresses).eraseDups := by
    induction chunk with
    | nil => exact fun found _ => (List.append_nil _).symm
    | cons row rest ih =>
        intro found hlower
        let more := ofLogs repair.event row.txId row.height found.tokenAddresses [row.log]
        have hmore : more.tokenAddresses = (([row.log].filterMap
            (emitter? repair.event)).removeAll found.tokenAddresses).eraseDups := by
          rw [tokenAddresses_ofLogs, hlower]
        have hadded : (repair.addUnmoved found row).tokenAddresses =
            found.tokenAddresses ++ more.tokenAddresses := List.map_append
        have hrow : (row :: rest).filterMap (fun row => emitter? repair.event row.log) =
            [row.log].filterMap (emitter? repair.event) ++
              rest.filterMap fun row => emitter? repair.event row.log := by
          rw [List.filterMap_cons, List.filterMap_cons]
          cases emitter? repair.event row.log <;> rfl
        rw [List.foldl_cons, ih, hadded, hrow, eraseDups_removeAll_append, ← hmore,
          List.append_assoc]
        rw [hadded, List.map_append, hlower, map_lower_tokenAddresses]
  have hall := hfolded {} rfl
  rwa [show ({} : Recognition).tokenAddresses = [] from rfl, List.nil_append,
    List.removeAll_nil, ← emitters_recognizeChunk] at hall

/-! ## What is found -/

/-- What is recognized in a list of logs. The transfers are those that the logs
announce, in the order of the logs; the tokens are the emitters of the transfers that
were not known, each once, in the order in which they occur first. If the list is cut
in two, the second part finds what the whole finds behind the first, once the tokens
of the first are known. So it does not matter how a batch hands on the tokens of an
item, and a chunk of a repair has one token for each emitter of its transfers. -/
theorem recognized_in_order (event txId : String) (height : Option Int)
    (known : List String) (logs : List Log) :
    let found := ofLogs event txId height known logs
    found.transfers = logs.filterMap (Log.transferIn? event txId) ∧
    found.tokens = (found.emitters.removeAll (known.map Text.lower)).eraseDups.map
      (Token.firstSeen txId height) ∧
    (∀ more, ofLogs event txId height known (logs ++ more) =
      found.followedBy
        (ofLogs event txId height (known ++ found.tokenAddresses) more)) ∧
    (∀ outcome txId' height' more,
      ofLogs event txId' height' (Outcome.addKnown known outcome) more =
        ofLogs event txId' height' (known ++ outcome.tokenAddresses) more) ∧
    ∀ repair chunk, (Repair.recognizeChunk repair chunk).tokenAddresses =
      (repair.recognizeChunk chunk).emitters.eraseDups := by
  intro found
  refine ⟨transfers_ofLogs_eq _ _ _ _ _, tokens_ofLogs _ _ _ _ _, fun more => ?_, ?_, ?_⟩
  · exact ofLogs_append event txId height known logs more
  · exact fun outcome txId' height' more => ofLogs_addKnown event txId' height' known outcome more
  · exact tokenAddresses_recognizeChunk

end Recognition

end EvmIndexer
