import EvmIndexer.Proofs.Intake.Runs
import EvmIndexer.Proofs.Outcome.Settling
import EvmIndexer.Proofs.Store.Strikes

/-!
# A unit of work happens as a whole or not at all

A run is followed from strike to strike. An item survives the refusal of its rows
and nothing else, so a batch reaches its end if every strike was absorbed, and
otherwise dies at the first that was not; no statement is sent after that. What a
transaction wrote before it died is put back by its end, however many items had
been stored and however many savepoints let go.

That a first attempt is never taken for a second one is an invariant of the
batch: between two items the last thing in the journal is not that a savepoint
was rolled back.
-/

namespace EvmIndexer

variable {around : Surroundings} {store : Store}

namespace Outcome

open Work

variable {item : PendingItem} {known : Option (List String)}

/-- Building an outcome dies of its one reading or not at all. -/
theorem ends_build_strikes (hset : store.isSetBack = false) :
    (build item known).Ends around store
      (fun _ after => store.Survives around after ∧ after.isSetBack = false)
      (fun failure after => store.Dies around after failure) := by
  refine (ends_build_built item known).mono ?_ ?_
  · rintro _ _ ⟨-, -, hconsulted⟩
    cases hconsulted with
    | nobody => exact ⟨(Store.Meets.refl around store).survives, hset⟩
    | read asked haccepted =>
        -- a question about a signature is not in the journal
        have hmeets := (Store.Meets.read haccepted).trans
          (Store.Meets.of_journal_eq rfl)
        exact ⟨hmeets.survives, Store.isSetBack_enter _ _⟩
  · rintro _ _ ⟨fault, hstruck, rfl, rfl⟩
    exact Store.Dies.read rfl hstruck

/-- Processing an item goes on after a refusal of its rows and dies of anything
else. -/
theorem ends_process_strikes (hset : store.isSetBack = false) :
    (process item known).Ends around store
      (fun _ after => store.Survives around after ∧ after.isSetBack = false)
      (fun failure after => store.Dies around after failure) := by
  refine Ends.bind ((ends_build_strikes hset).mono ?_ fun _ _ hdies => hdies)
  rintro ⟨outcome, met⟩ built ⟨hbuilt, hset'⟩
  refine Ends.tryCatch (Ends.bind ((ends_save_meets outcome).mono ?_ ?_))
  · rintro _ saved ⟨hsaved, hset''⟩
    exact Ends.pure ⟨hbuilt.trans hsaved.survives, hset''⟩
  · rintro _ saved ⟨strike, hsaved, hmem, rfl, hattempt, hback⟩
    have hread := isRead_of_mem_statements hmem
    cases hrefuses : strike.fault.refusesRow with
    | false =>
        rw [saveFailure_foreign _ hrefuses]
        exact Ends.throw (hbuilt.trans_dies
          ⟨[], strike, hsaved, by simp, .foreign hrefuses⟩)
    | true =>
        have habsorbed : strike.Absorbed :=
          Strike.absorbed_of_firstAttempt hrefuses hread (hattempt.trans hset')
        have hgone : store.Survives around saved :=
          hbuilt.trans ⟨[strike], hsaved, by simpa using habsorbed⟩
        rw [saveFailure_refused _ hrefuses]
        refine Ends.bind ((ends_save_meets _).mono ?_ ?_)
        · rintro _ after ⟨hagain, hset''⟩
          exact Ends.pure ⟨hgone.trans hagain.survives, hset''⟩
        · rintro _ after ⟨last, hagain, hmem', rfl, hattempt', -⟩
          refine hgone.trans_dies ⟨[], last, hagain, by simp, ?_⟩
          cases hrefuses' : last.fault.refusesRow with
          | false =>
              rw [saveFailure_foreign _ hrefuses']
              exact .foreign hrefuses'
          | true =>
              rw [saveFailure_refused _ hrefuses']
              exact .again hrefuses' hmem' (hattempt'.trans hback)

end Outcome

namespace Work

variable {α : Type}

/-- A transaction dies with its work, and then leaves the tables as they were. -/
theorem ends_transaction_strikes {work : Work α} (ok : α → Prop)
    (h : work.Ends around (store.enter .begin)
      (fun a last => (store.enter .begin).Survives around last ∧ ok a)
      (fun failure last => (store.enter .begin).Dies around last failure)) :
    (transaction work).Ends around store
      (fun a after => store.Survives around after ∧ ok a)
      (fun failure after => store.Dies around after failure ∧
        after.tables = store.tables) := by
  have hbegun : store.Survives around (store.enter .begin) :=
    ((Store.Meets.refl around store).enter rfl).survives
  refine Ends.bracket (h.mono ?_ ?_)
  · rintro a last ⟨hlast, hok⟩
    exact Ends.record ⟨(hbegun.trans hlast).enter rfl, hok⟩
  · intro failure last hlast
    exact ⟨(hbegun.trans_dies hlast).leave _ rfl, rfl⟩

/-- A batch survives every item, or dies of one. -/
theorem ends_processAll_strikes {items : List PendingItem} {known : List String}
    (hset : store.isSetBack = false) :
    (items.foldlM Outcome.processNext known).Ends around store
      (fun _ after => store.Survives around after)
      (fun failure after => store.Dies around after failure) := by
  refine (Ends.foldlM (fun _ after => store.Survives around after ∧
    after.isSetBack = false) ?_ ⟨(Store.Meets.refl around store).survives, hset⟩).mono
    (fun _ _ h => h.1) fun _ _ h => h
  rintro item - met before ⟨hbefore, hset'⟩
  refine Ends.bind ((Outcome.ends_process_strikes hset').mono ?_ ?_)
  · rintro ⟨outcome, met'⟩ after ⟨hafter, hset''⟩
    exact Ends.pure ⟨hbefore.trans hafter, hset''⟩
  · exact fun failure after hdies => hbefore.trans_dies hdies

theorem ends_drain_strikes {size : Int} (hsize : 0 < size) :
    (drain size).Ends around store
      (fun _ after => store.Survives around after)
      (fun failure after => store.Dies around after failure ∧
        after.tables = store.tables) := by
  rw [drain_eq]
  refine (ends_transaction_strikes (fun _ => True) (Ends.bind ?_)).mono
    (fun _ _ h => h.1) fun _ _ h => h
  unfold pendingItems
  rw [if_neg (by omega)]
  refine (ends_read_struck rfl).mono ?_ fun _ _ hdies => hdies
  rintro items read ⟨-, hread, rfl⟩
  refine Ends.bind ((ends_processAll_strikes (Store.isSetBack_enter _ _)).mono ?_ ?_)
  · exact fun _ after hafter => Ends.pure ⟨hread.trans hafter, trivial⟩
  · exact fun failure after hdies => hread.trans_dies hdies

/-- A batch without a size ends before anything is sent. -/
theorem ends_drain_of_nonpos {size : Int} (hsize : size ≤ 0) :
    (drain size).Ends around store (fun _ _ => False)
      (fun failure after => failure = .limitNotPositive ∧
        store.Survives around after ∧ after.tables = store.tables) := by
  rw [drain_eq]
  refine Ends.bracket (Ends.bind ?_)
  unfold pendingItems
  rw [if_pos hsize]
  refine Ends.throw ⟨rfl, ?_, rfl⟩
  have hbegun : store.Meets around (store.enter .begin) [] :=
    (Store.Meets.refl around store).enter rfl
  exact ((hbegun.withTables store.tables).enter rfl).survives

theorem ends_decodeNow_strikes (txId : String) :
    (decodeNow txId).Ends around store
      (fun reply after => store.Survives around after ∧
        ∀ reason, reply ≠ .broken reason)
      (fun failure after => store.Dies around after failure ∧
        after.tables = store.tables) := by
  refine ends_transaction_strikes (fun reply : Reply => ∀ reason, reply ≠ .broken reason) (Ends.bind ?_)
  refine (ends_read_struck rfl).mono ?_ fun _ _ hdies => hdies
  rintro found read ⟨-, hread, rfl⟩
  have hset := Store.isSetBack_enter (store.enter .begin)
    (.statement (.selectPendingItem txId))
  cases found with
  | none =>
      refine Ends.bind ((ends_read_struck rfl).mono ?_ ?_)
      · rintro hash after ⟨-, hafter, -⟩
        refine Ends.pure ⟨hread.trans hafter, ?_⟩
        cases hash <;> exact nofun
      · exact fun failure after hdies => hread.trans_dies hdies
  | some item =>
      refine Ends.bind ((Outcome.ends_process_strikes hset).mono ?_ ?_)
      · rintro ⟨outcome, known⟩ after ⟨hafter, -⟩
        refine Ends.pure ⟨hread.trans hafter, ?_⟩
        unfold Reply.ofOutcome
        split <;> exact nofun
      · exact fun failure after hdies => hread.trans_dies hdies

end Work

/-! ## Both ways off the queue -/

theorem Drain.poll_fails_iff (drain : Drain) (around : Surroundings) (store : Store) :
    (∀ failure, (drain.poll around store).1 = .error failure ↔
      (drain.size ≤ 0 ∧ failure = .limitNotPositive) ∨
      ∃ strike, store.StruckBy around (drain.poll around store).2.2 strike ∧
        strike.Fatal failure) ∧
    (∀ failure, (drain.poll around store).1 = .error failure →
      (drain.poll around store).2.1 = drain ∧
      (drain.poll around store).2.2.tables = store.tables) := by
  unfold Drain.poll
  by_cases hsize : drain.size ≤ 0
  · rcases (@Work.ends_drain_of_nonpos around store _ hsize).run with ⟨_, _, -, hfalse⟩ | ⟨_, after, hrun, rfl, hsurvives, htables⟩
    · exact hfalse.elim
    · rw [hrun]
      refine ⟨fun failure => ⟨?_, ?_⟩, fun failure _ => ⟨rfl, htables⟩⟩
      · rintro hfails
        exact Or.inl ⟨hsize, (Except.error.inj hfails).symm⟩
      · rintro (⟨-, rfl⟩ | ⟨strike, hstruck, hfatal⟩)
        · rfl
        · exact absurd hfatal (hsurvives.not_fatal hstruck failure)
  · have hpos : 0 < drain.size := by omega
    rcases (@Work.ends_drain_strikes around store drain.size hpos).run with
      ⟨n, after, hrun, hsurvives⟩ | ⟨failed, after, hrun, hdies, htables⟩
    · rw [hrun]
      refine ⟨fun failure => ⟨nofun, ?_⟩, nofun⟩
      rintro (⟨hnone, -⟩ | ⟨strike, hstruck, hfatal⟩)
      · exact absurd hnone hsize
      · exact absurd hfatal (hsurvives.not_fatal hstruck failure)
    · rw [hrun]
      refine ⟨fun failure => ?_, fun failure _ => ⟨rfl, htables⟩⟩
      rw [hdies.exists_fatal_iff]
      constructor
      · rintro hfails
        exact Or.inr (Except.error.inj hfails)
      · rintro (⟨hnone, -⟩ | rfl)
        · exact absurd hnone hsize
        · rfl

theorem decodeOnDemand_fails_iff (txId : String) (around : Surroundings)
    (store : Store) :
    (∀ reason, (decodeOnDemand txId around store).1 = .broken reason ↔
      ∃ strike failure,
        store.StruckBy around (decodeOnDemand txId around store).2 strike ∧
        strike.Fatal failure ∧ reason = failure.message) ∧
    (∀ reason, (decodeOnDemand txId around store).1 = .broken reason →
      (decodeOnDemand txId around store).1.success = false ∧
      (decodeOnDemand txId around store).2.tables = store.tables) := by
  unfold decodeOnDemand
  by_cases hid : Text.trim txId = ""
  · simp only [if_pos hid]
    have hsurvives := (Store.Meets.refl around store).survives
    refine ⟨fun reason => ⟨nofun, ?_⟩, nofun⟩
    rintro ⟨strike, failure, hstruck, hfatal, -⟩
    exact absurd hfatal (hsurvives.not_fatal hstruck failure)
  · simp only [if_neg hid]
    rcases (@Work.ends_decodeNow_strikes around store (Text.trim txId)).run with
      ⟨reply, after, hrun, hsurvives, hreply⟩ | ⟨failed, after, hrun, hdies, htables⟩
    · simp only [hrun]
      refine ⟨fun reason => ⟨fun h => absurd h (hreply reason), ?_⟩,
        fun reason h => absurd h (hreply reason)⟩
      rintro ⟨strike, failure, hstruck, hfatal, -⟩
      exact absurd hfatal (hsurvives.not_fatal hstruck failure)
    · simp only [hrun]
      refine ⟨fun reason => ⟨?_, ?_⟩, fun reason _ => ⟨rfl, htables⟩⟩
      · intro hbroken
        obtain ⟨strike, hstruck, hfatal⟩ := hdies.exists_fatal_iff.2 rfl
        exact ⟨strike, failed, hstruck, hfatal, (Reply.broken.inj hbroken).symm⟩
      · rintro ⟨strike, failure, hstruck, hfatal, rfl⟩
        rw [hdies.exists_fatal_iff.1 ⟨strike, hstruck, hfatal⟩]

/-- Both ways off the queue are atomic whatever strikes them. A poll fails exactly
if its batch has no size or a strike was fatal, at whichever statement of
whichever item; a request gives the message of a failure exactly if a strike was
fatal. All tables are then those before, whatever had been stored in between, and
the drain has not counted. -/
theorem Intake.atomic_under_faults (around : Surroundings) (store : Store)
    (drain : Drain) (txId : String) :
    ((∀ failure, (drain.poll around store).1 = .error failure ↔
        (drain.size ≤ 0 ∧ failure = .limitNotPositive) ∨
        ∃ strike, store.StruckBy around (drain.poll around store).2.2 strike ∧
          strike.Fatal failure) ∧
      (∀ failure, (drain.poll around store).1 = .error failure →
        (drain.poll around store).2.1 = drain ∧
        (drain.poll around store).2.2.tables = store.tables)) ∧
    (∀ reason, (decodeOnDemand txId around store).1 = .broken reason ↔
      ∃ strike failure,
        store.StruckBy around (decodeOnDemand txId around store).2 strike ∧
        strike.Fatal failure ∧ reason = failure.message) ∧
    (∀ reason, (decodeOnDemand txId around store).1 = .broken reason →
      (decodeOnDemand txId around store).1.success = false ∧
      (decodeOnDemand txId around store).2.tables = store.tables) :=
  ⟨drain.poll_fails_iff around store, decodeOnDemand_fails_iff txId around store⟩

/-- Surroundings in which every row of one transaction is refused, that of its
placeholder too. -/
def Surroundings.refusingEvery (txId : String) : Surroundings where
  faults _ s := match s with
    | .insertTransaction rows =>
      if rows.any (·.txId == txId) then some ⟨.data, false, "value out of range"⟩
      else none
    | _ => none

/-- The second of two items is refused and refused again as a placeholder. The
poll dies of that, and nothing of the first is left. -/
theorem Intake.atomic_under_faults_second :
    let start : Store := { tables := { pending :=
      [⟨"a", "@@", 1, none, none⟩, ⟨"b", "@@", 2, none, none⟩] } }
    let polled := (Drain.mk 2 5).poll (.refusingEvery "b") start
    (∃ strike, start.StruckBy (.refusingEvery "b") polled.2.2 strike ∧
      strike.Fatal (.rejected "b: value out of range")) ∧
    polled.2.1 = ⟨2, 5⟩ ∧ polled.2.2.tables = start.tables := by
  intro start polled
  have hfails : polled.1 = .error (.rejected "b: value out of range") := by
    decide +kernel
  obtain ⟨⟨hiff, hleft⟩, -⟩ :=
    atomic_under_faults (.refusingEvery "b") start ⟨2, 5⟩ "b"
  refine ⟨?_, hleft _ hfails⟩
  rcases (hiff _).1 hfails with ⟨hsize, -⟩ | hstruck
  · exact absurd hsize (by decide)
  · exact hstruck

end EvmIndexer
