import EvmIndexer.Proofs.Intake.History
import EvmIndexer.Proofs.Intake.Settling
import Mathlib.Algebra.BigOperators.Group.List.Basic
import Mathlib.Algebra.Order.Floor.Div

/-!
# Draining the queue and asking for its items

The queue can be emptied in two ways: by polls that take a batch at a time, or by
requests for its items one after the other. They leave the same tables.

What ties the two together is the list of waiting items, those without a
transaction row. An outcome that is added takes the first of them off, so a poll
takes as many from the front as its batch holds, and a request for the first item
takes that one; both add the same outcomes in the same order. How the polls end
follows from lengths alone: the poll after `i` others finds `n - i * b` items and
takes at most `b`.
-/

namespace EvmIndexer

namespace Database

/-- The waiting items: those without a transaction row. -/
def waiting (db : Database) : List PendingItem :=
  db.pending.filter fun item => !db.isDecoded item.txId

/-- No two items of the queue share an identifier: the primary key of the
table. -/
def UniquePending (db : Database) : Prop :=
  (db.pending.map (·.txId)).Nodup

variable {db : Database} {item : PendingItem} {rest : List PendingItem}

theorem undecoded_eq_take (db : Database) (limit : Nat) :
    db.undecoded limit = db.waiting.take limit := rfl

theorem UniquePending.addOutcome (h : db.UniquePending) (outcome : Outcome) :
    (db.addOutcome outcome).UniquePending := by
  have hsub : (db.addOutcome outcome).pending.Sublist db.pending :=
    List.filter_sublist
  exact h.sublist (hsub.map _)

theorem UniquePending.pendingItem?_eq (h : db.UniquePending)
    (hmem : item ∈ db.pending) : db.pendingItem? item.txId = some item := by
  cases hfound : db.pendingItem? item.txId with
  | none =>
      have hnot := List.find?_eq_none.1 hfound item hmem
      simp at hnot
  | some other =>
      have hother : other ∈ db.pending := List.mem_of_find?_eq_some hfound
      have hsame := List.inj_on_of_nodup_map h hother hmem
        (pendingItem?_txId hfound)
      rw [hsame]

theorem waiting_addOutcome (db : Database) (outcome : Outcome) :
    (db.addOutcome outcome).waiting =
      db.waiting.filter (·.txId != outcome.transaction.txId) := by
  show (db.pending.filter (·.txId != outcome.transaction.txId)).filter
    (fun item => !(db.addOutcome outcome).isDecoded item.txId) = _
  unfold waiting
  rw [List.filter_filter, List.filter_filter]
  refine List.filter_congr fun item _ => ?_
  by_cases heq : item.txId = outcome.transaction.txId
  · simp [heq]
  · rw [isDecoded_addOutcome_of_ne heq, Bool.and_comm]

theorem UniquePending.waiting_addOutcome_head (h : db.UniquePending)
    (hwaiting : db.waiting = item :: rest) {outcome : Outcome}
    (hid : outcome.transaction.txId = item.txId) :
    (db.addOutcome outcome).waiting = rest := by
  have hnodup : (db.waiting.map (·.txId)).Nodup :=
    h.sublist (List.filter_sublist.map _)
  rw [hwaiting, List.map_cons, List.nodup_cons] at hnodup
  rw [waiting_addOutcome, hwaiting, hid, List.filter_cons_of_neg (by simp)]
  rw [List.filter_eq_self]
  intro other hother
  have hne : other.txId ≠ item.txId := fun heq =>
    hnodup.1 (List.mem_map.2 ⟨other, hother, heq⟩)
  simpa using hne

theorem UniquePending.waiting_addOutcomes (c : Circumstances)
    (h : db.UniquePending) (n : Nat) :
    (db.addOutcomes ((db.waiting.take n).map (c.outcome []))).waiting =
        db.waiting.drop n ∧
      (db.addOutcomes
        ((db.waiting.take n).map (c.outcome []))).UniquePending := by
  induction n generalizing db with
  | zero => exact ⟨rfl, h⟩
  | succ n ih =>
      cases hwaiting : db.waiting with
      | nil => exact ⟨hwaiting, h⟩
      | cons item rest =>
          have hnext := ih (h.addOutcome (c.outcome [] item))
          rw [h.waiting_addOutcome_head hwaiting Circumstances.outcome_txId]
            at hnext
          exact hnext

end Database

/-! ## Polls -/

/-- Polls a number of times: how each poll ended, and the drain and the store
afterwards. -/
def Drain.pollTimes (around : Surroundings) : Nat → Drain → Store →
    List (Except Failure Nat) × Drain × Store
  | 0, drain, store => ([], drain, store)
  | calls + 1, drain, store =>
    let (result, drain, store) := drain.poll around store
    let (results, drain, store) := pollTimes around calls drain store
    (result :: results, drain, store)

variable {around : Surroundings} {store : Store} {c : Circumstances}

theorem Drain.size_after (drain : Drain) (result : Except Failure Nat) :
    (drain.after result).size = drain.size := by
  unfold after
  split <;> rfl

/-- Polls take batches from the front until nothing waits. -/
theorem Drain.pollTimes_settled (h : around.Follows c)
    (hresponses : store.responses = c.responses)
    (hunique : store.tables.UniquePending) {drain : Drain}
    (hsize : 0 < drain.size) (calls : Nat) :
    (pollTimes around calls drain store).1 =
        (List.range calls).map (fun i => .ok
          (min drain.size.toNat
            (store.tables.waiting.length - i * drain.size.toNat))) ∧
      (pollTimes around calls drain store).2.2.tables =
        store.tables.addOutcomes ((store.tables.waiting.take
          (calls * drain.size.toNat)).map (c.outcome [])) := by
  -- the first poll leaves a store of the same kind, with fewer items waiting
  induction calls generalizing drain store with
  | zero =>
      rw [Nat.zero_mul]
      exact ⟨rfl, rfl⟩
  | succ calls ih =>
      obtain ⟨after, hpoll, htables, hkept, -⟩ := Drain.exists_poll h.orderly
        hresponses hsize (Database.undecoded_eq_take _ _) (h.judgesAll [] _)
      obtain ⟨hwaiting, hunique'⟩ :=
        hunique.waiting_addOutcomes c drain.size.toNat
      rw [← htables] at hwaiting hunique'
      have hsize' := (drain.size_after (.ok
        (store.tables.waiting.take drain.size.toNat).length)).symm
      obtain ⟨hresults, hlast⟩ := ih (hkept.trans hresponses) hunique'
        (hsize' ▸ hsize)
      rw [← hsize', hwaiting] at hresults hlast
      unfold pollTimes
      rw [hpoll]
      constructor
      · show Except.ok _ :: _ = _
        rw [hresults, List.range_succ_eq_map, List.map_cons, List.map_map]
        rw [List.length_take, List.length_drop, Nat.zero_mul, Nat.sub_zero]
        congr 1
        refine List.map_congr_left fun i _ => ?_
        show Except.ok _ = Except.ok _
        rw [Nat.succ_mul, Nat.sub_sub, Nat.add_comm]
      · show (pollTimes around calls _ after).2.2.tables = _
        rw [hlast, htables, ← Database.addOutcomes_append, ← List.map_append,
          ← List.take_add, Nat.succ_mul, Nat.add_comm]

/-! ## Requests -/

theorem Intake.play_requests (h : around.Follows c)
    (hresponses : store.responses = c.responses)
    (hunique : store.tables.UniquePending) {items : List PendingItem}
    (hwaiting : store.tables.waiting = items)
    (hids : ∀ item ∈ items, item.txId ≠ "" ∧ Text.trim item.txId = item.txId) :
    (play store (items.map fun item => .request item.txId around)).tables =
      store.tables.addOutcomes (items.map (c.outcome [])) := by
  -- the first request takes the first item, and the others wait as before
  induction items generalizing store with
  | nil => rfl
  | cons item rest ih =>
      obtain ⟨hne, htrim⟩ := hids item (by simp)
      have hmem : item ∈ store.tables.waiting := by simp [hwaiting]
      have hid : Text.trim item.txId ≠ "" := by
        rw [htrim]
        exact hne
      have hpending :
          store.tables.pendingItem? (Text.trim item.txId) = some item := by
        rw [htrim]
        exact hunique.pendingItem?_eq (List.mem_filter.1 hmem).1
      obtain ⟨after, hrequest, htables, hkept⟩ := exists_decodeOnDemand_found
        h.orderly hresponses hid hpending (h.judges [] item)
      have hunique' : after.tables.UniquePending := by
        rw [htables]
        exact hunique.addOutcome _
      have hwaiting' : after.tables.waiting = rest := by
        rw [htables]
        exact hunique.waiting_addOutcome_head hwaiting
          Circumstances.outcome_txId
      have hrest := ih (hkept.trans hresponses) hunique' hwaiting'
        fun other hother => hids other (by simp [hother])
      have htake : Step.take store (.request item.txId around) = after :=
        congrArg Prod.snd hrequest
      rw [play, List.map_cons, List.foldl_cons, htake]
      rw [play, htables] at hrest
      exact hrest

/-! ## Both ways together -/

theorem sum_range_min (n b calls : Nat) :
    ((List.range calls).map fun i => min b (n - i * b)).sum =
      min n (calls * b) := by
  induction calls with
  | zero => simp
  | succ calls ih =>
      rw [List.sum_range_succ, ih, Nat.succ_mul]
      omega

/-- Draining the queue batch by batch and asking for its waiting items in their
order come to the same. With `n` items waiting and batches of at most `b`, the
first `n / b` polls, rounded up, take all of them in positive numbers; every poll
after them takes none. The tables are then those that the requests leave. -/
theorem drained_as_requested (store : Store) (drain : Drain)
    (answer : String → LookupAnswer) (refused : String → Bool)
    (hsize : 0 < drain.size) (hunique : store.tables.UniquePending)
    (hids : ∀ item ∈ store.tables.waiting,
      item.txId ≠ "" ∧ Text.trim item.txId = item.txId)
    (h : around.Follows ⟨answer, store.responses, refused⟩) :
    ∃ counts : List Nat,
      counts.length = store.tables.waiting.length ⌈/⌉ drain.size.toNat ∧
      counts.sum = store.tables.waiting.length ∧
      (∀ count ∈ counts, 0 < count ∧ count ≤ drain.size) ∧
      ∀ more : Nat,
        (drain.pollTimes around (counts.length + more) store).1 =
            counts.map .ok ++ List.replicate more (.ok 0) ∧
        (drain.pollTimes around (counts.length + more) store).2.2.tables =
          (Intake.play store (store.tables.waiting.map fun item =>
            .request item.txId around)).tables := by
  have hpositive : 0 < drain.size.toNat := by omega
  generalize hn : store.tables.waiting.length = n
  generalize hb : drain.size.toNat = b at hpositive
  -- the calls that find something are those before the quotient
  have hcalls : ∀ i, n ⌈/⌉ b ≤ i ↔ n ≤ i * b := fun i => by
    rw [ceilDiv_le_iff_le_mul hpositive, Nat.mul_comm]
  have hall : n ≤ (n ⌈/⌉ b) * b := (hcalls _).1 le_rfl
  refine ⟨(List.range (n ⌈/⌉ b)).map fun i => min b (n - i * b), by simp, ?_, ?_,
    fun more => ?_⟩
  · rw [sum_range_min]
    exact Nat.min_eq_left hall
  · intro count hcount
    obtain ⟨i, hi, rfl⟩ := List.mem_map.1 hcount
    have hfewer : ¬ n ≤ i * b := by
      rw [← hcalls]
      exact Nat.not_le.2 (List.mem_range.1 hi)
    constructor <;> omega
  · rw [List.length_map, List.length_range]
    obtain ⟨hresults, htables⟩ := Drain.pollTimes_settled h rfl hunique hsize
      (n ⌈/⌉ b + more)
    rw [hn, hb] at hresults
    rw [hb] at htables
    constructor
    · rw [hresults, List.range_add, List.map_append, List.map_map, List.map_map]
      congr 1
      refine List.eq_replicate_iff.2 ⟨by simp, fun result hresult => ?_⟩
      obtain ⟨i, -, rfl⟩ := List.mem_map.1 hresult
      have hnothing : min b (n - (n ⌈/⌉ b + i) * b) = 0 := by
        rw [Nat.add_mul]
        omega
      exact congrArg Except.ok hnothing
    · rw [htables, Intake.play_requests h rfl hunique rfl hids]
      rw [List.take_of_length_le]
      rw [hn, Nat.add_mul]
      omega

/-- Three creations with a transfer of the same token, of which the database refuses the
second, in batches of two. The token comes with the first, and the refused one leaves no
transfer. -/
theorem drained_as_requested_three :
    let store : Store := {
      tables := { pending := ["a", "b", "c"].map Outcome.creationAs }
      responses := ["a", "b", "c"].map fun txId => (txId, Outcome.announcing) }
    let around := Surroundings.refusing ["b"] none
    0 < (Drain.mk 2 0).size ∧ store.tables.UniquePending ∧
      (∀ item ∈ store.tables.waiting,
        item.txId ≠ "" ∧ Text.trim item.txId = item.txId) ∧
      around.Follows (.refusing ["b"] none store.responses) ∧
      ∃ (counts : List Nat) (drain : Drain) (after : Store),
        (Drain.mk 2 0).pollTimes around 2 store = (counts.map .ok, drain, after) ∧
        counts.length = 2 ∧ counts.sum = 3 ∧
        after.tables = (Intake.play store (store.tables.waiting.map fun item =>
          .request item.txId around)).tables ∧
        after.tables.transactions.map (·.txId) = ["a", "b", "c"] ∧
        after.tables.tokens.map (·.firstSeenTx) = [some "a"] ∧
        after.tables.transfers.map (·.txId) = ["a", "c"] := by
  intro store around
  let c := Circumstances.refusing ["b"] none store.responses
  have hsize : 0 < (Drain.mk 2 0).size := by decide
  have hunique : store.tables.UniquePending := by
    unfold Database.UniquePending
    decide
  have hids : ∀ item ∈ store.tables.waiting,
      item.txId ≠ "" ∧ Text.trim item.txId = item.txId := by
    have hall : (store.tables.waiting.all fun item =>
        item.txId != "" && Text.trim item.txId == item.txId) = true := by
      decide +kernel
    intro item hitem
    simpa using List.all_eq_true.1 hall item hitem
  have hfollows : around.Follows c := Surroundings.follows_refusing store.responses
  obtain ⟨counts, hlength, hsum, -, hpolls⟩ := drained_as_requested store
    (Drain.mk 2 0) _ _ hsize hunique hids hfollows
  have hthree : store.tables.waiting.length = 3 := rfl
  rw [hthree] at hlength hsum
  have htwice : counts.length = 2 := hlength
  obtain ⟨hresults, hrequested⟩ := hpolls 0
  have htables := (Drain.pollTimes_settled hfollows rfl hunique hsize 2).2
  rw [Nat.add_zero, htwice] at hresults hrequested
  rw [List.replicate_zero, List.append_nil] at hresults
  generalize (Drain.mk 2 0).pollTimes around 2 store = polled at hresults hrequested htables ⊢
  obtain ⟨results, drain, after⟩ := polled
  have hwaiting : (store.tables.waiting.take (2 * (Drain.mk 2 0).size.toNat)).map
      (c.outcome []) = ["a", "b", "c"].map fun txId =>
        c.outcome [] (Outcome.creationAs txId) := rfl
  -- the second is refused, so it comes to its placeholder
  have hresponse : ∀ txId ∈ ["a", "c"],
      c.responses.lookup txId = some Outcome.announcing := by
    simp [c, store, Circumstances.refusing, List.lookup_cons]
  obtain ⟨first, ha, hfirst⟩ :=
    Circumstances.exists_announces (c := c) (by decide) (hresponse "a" (by simp))
  have hsecond : c.outcome [] (Outcome.creationAs "b") = .placeholder "b" :=
    if_pos (by decide)
  have hb : (Outcome.placeholder "b").transaction.txId = "b" := rfl
  obtain ⟨third, hc, hthird⟩ :=
    Circumstances.exists_announces (c := c) (by decide) (hresponse "c" (by simp))
  rw [hwaiting, List.map_cons, List.map_cons, List.map_cons, List.map_nil, ha, hsecond, hc]
    at htables
  obtain rfl : results = counts.map .ok := hresults
  replace htables : after.tables =
      store.tables.addOutcomes [first, .placeholder "b", third] := htables
  refine ⟨hsize, hunique, hids, hfollows, counts, drain, after, rfl, htwice, hsum,
    hrequested, ?_, ?_, ?_⟩
  · rw [htables, Database.inserts_transactions.addOutcomes]
    simp [Database.insertNew, hfirst.transaction, hb, hthird.transaction, store]
  · rw [htables, Database.inserts_tokens.addOutcomes, List.flatMap_cons, List.flatMap_cons,
      List.flatMap_cons, List.flatMap_nil, hfirst.tokens, hthird.tokens]
    rfl
  · rw [htables, Database.inserts_transfers.addOutcomes, List.flatMap_cons,
      List.flatMap_cons, List.flatMap_cons, List.flatMap_nil, hfirst.transfers,
      hthird.transfers]
    rfl

end EvmIndexer
