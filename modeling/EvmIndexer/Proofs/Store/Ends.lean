import EvmIndexer.Store.Session

/-!
# How a unit of work ends

A unit of work ends with a value or with a failure, and leaves a store in both
cases. `Ends` says of a run what holds in either case. There is one rule for
every way in which work is put together, so a statement about a run is proved by
walking over the text of the work once, with both endings in sight at every
statement; no proof opens the monad.

The faults are those of arbitrary surroundings. A rule for a statement therefore
always asks for the store after a fault too, and whoever proves something about
a run has proved it for a fault at any position.
-/

namespace EvmIndexer

/-- Enters an event into the journal. -/
def Store.enter (store : Store) (event : Event) : Store :=
  { store with journal := store.journal ++ [⟨event, store.tables⟩] }

/-- The store with other tables. -/
def Store.withTables (store : Store) (tables : Database) : Store :=
  { store with tables := tables }

namespace Work

variable {α β : Type} {around : Surroundings} {store : Store}

/-- What holds of how a run ends: `ok` of a value and the store left with it,
`bad` of a failure and the store left with it. -/
def Ends (work : Work α) (around : Surroundings) (store : Store)
    (ok : α → Store → Prop) (bad : Failure → Store → Prop) : Prop :=
  match work around store with
  | .ok a after => ok a after
  | .error failure after => bad failure after

section Rules

variable {ok : α → Store → Prop} {bad : Failure → Store → Prop}

theorem Ends.mono {work : Work α} {ok' : α → Store → Prop}
    {bad' : Failure → Store → Prop} (h : work.Ends around store ok bad)
    (hok : ∀ a after, ok a after → ok' a after)
    (hbad : ∀ failure after, bad failure after → bad' failure after) :
    work.Ends around store ok' bad' := by
  unfold Ends at h ⊢
  cases hrun : work around store with
  | ok a after => rw [hrun] at h; exact hok a after h
  | error failure after => rw [hrun] at h; exact hbad failure after h

theorem Ends.pure {a : α} (h : ok a store) :
    (pure a : Work α).Ends around store ok bad := h

theorem Ends.throw {failure : Failure} (h : bad failure store) :
    (throw failure : Work α).Ends around store ok bad := h

theorem Ends.bind {work : Work β} {next : β → Work α}
    (h : work.Ends around store
      (fun b after => (next b).Ends around after ok bad) bad) :
    (work >>= next).Ends around store ok bad := by
  unfold Ends at h ⊢
  show match (EStateM.bind (work around) fun b => next b around) store with
    | .ok a after => ok a after
    | .error failure after => bad failure after
  unfold EStateM.bind
  cases hrun : work around store <;> rw [hrun] at h <;> exact h

theorem Ends.tryCatch {work : Work α} {handler : Failure → Work α}
    (h : work.Ends around store ok
      (fun failure after => (handler failure).Ends around after ok bad)) :
    (tryCatch work handler).Ends around store ok bad := by
  unfold Ends at h ⊢
  show match (EStateM.tryCatch (work around) fun failure =>
      handler failure around) store with
    | .ok a after => ok a after
    | .error failure after => bad failure after
  unfold EStateM.tryCatch
  cases hrun : work around store <;> rw [hrun] at h <;> exact h

end Rules

/-! ## Events and statements -/

section Statements

variable {ok : Unit → Store → Prop} {bad : Failure → Store → Prop}

theorem Ends.record {event : Event} (h : ok () (store.enter event)) :
    (record event).Ends around store ok bad := h

theorem Ends.restore {tables : Database} (h : ok () (store.withTables tables)) :
    (restore tables).Ends around store ok bad := h

/-- A statement is entered into the journal whether it took effect or not. -/
theorem Ends.send {s : Statement}
    (hok : ok ()
      ((store.withTables (s.apply store.tables)).enter (.statement s)))
    (hbad : ∀ fault, bad (.database fault) (store.enter (.statement s))) :
    (send s).Ends around store ok bad := by
  unfold Ends Work.send
  split
  · next after hrun =>
      split at hrun
      · cases hrun
      · cases hrun; exact hok
  · next failure after hrun =>
      split at hrun
      · cases hrun; exact hbad _
      · cases hrun

end Statements

theorem Ends.query {s : Statement} {read : Store → α} {ok : α → Store → Prop}
    {bad : Failure → Store → Prop}
    (hok : ok (read ((store.withTables (s.apply store.tables)).enter
        (.statement s)))
      ((store.withTables (s.apply store.tables)).enter (.statement s)))
    (hbad : ∀ fault, bad (.database fault) (store.enter (.statement s))) :
    (query s read).Ends around store ok bad :=
  Ends.bind (Ends.send (Ends.bind hok) hbad)

/-- A bracket whose work fails leaves the tables that it found. -/
theorem Ends.bracket {opening undone : Event} {closing : Work Unit}
    {work : Work α} {ok : α → Store → Prop} {bad : Failure → Store → Prop}
    (h : work.Ends around (store.enter opening)
      (fun a after => closing.Ends around after (fun _ => ok a)
        (fun failure after =>
          bad failure ((after.withTables store.tables).enter undone)))
      (fun failure after =>
        bad failure ((after.withTables store.tables).enter undone))) :
    (bracket opening closing undone work).Ends around store ok bad := by
  refine Ends.bind ?_
  show Ends _ around store ok bad
  refine Ends.bind (Ends.record (Ends.tryCatch (Ends.bind ?_)))
  refine h.mono (fun a after hclose => Ends.bind ?_)
    (fun failure after hbad => ?_)
  · exact hclose.mono (fun _ _ hok => hok)
      (fun _ _ hbad => Ends.bind (Ends.restore (Ends.bind (Ends.record hbad))))
  · exact Ends.bind (Ends.restore (Ends.bind (Ends.record hbad)))

/-- A loop keeps what each of its rounds keeps; a round that fails ends it. -/
theorem Ends.foldlM {σ : Type} {step : σ → β → Work σ}
    {bad : Failure → Store → Prop} (inv : σ → Store → Prop) {rounds : List β}
    (hstep : ∀ b ∈ rounds, ∀ state store, inv state store →
      (step state b).Ends around store inv bad)
    {state : σ} (h : inv state store) :
    (rounds.foldlM step state).Ends around store inv bad := by
  induction rounds generalizing state store with
  | nil => exact h
  | cons b rest ih =>
      rw [List.foldlM_cons]
      refine Ends.bind ((hstep b (by simp) state store h).mono
        (fun state' after hinv => ?_) (fun _ _ hbad => hbad))
      exact ih (fun b' hb' => hstep b' (by simp [hb'])) hinv

/-- The same for a loop that collects what its rounds give. -/
theorem Ends.mapM {work : β → Work α} {bad : Failure → Store → Prop}
    (inv : Store → Prop) {rounds : List β}
    (hstep : ∀ b ∈ rounds, ∀ store, inv store →
      (work b).Ends around store (fun _ => inv) bad)
    (h : inv store) :
    (rounds.mapM work).Ends around store (fun _ => inv) bad := by
  induction rounds generalizing store with
  | nil => exact h
  | cons b rest ih =>
      rw [List.mapM_cons]
      refine Ends.bind ((hstep b (by simp) store h).mono
        (fun a after hinv => ?_) (fun _ _ hbad => hbad))
      exact Ends.bind ((ih (fun b' hb' => hstep b' (by simp [hb'])) hinv).mono
        (fun _ _ hinv' => Ends.pure hinv') (fun _ _ hbad => hbad))

/-- How a run ended, as the caller sees it. -/
theorem Ends.run {work : Work α} {ok : α → Store → Prop}
    {bad : Failure → Store → Prop} (h : work.Ends around store ok bad) :
    (∃ a after, work.run around store = (.ok a, after) ∧ ok a after) ∨
      ∃ failure after, work.run around store = (.error failure, after) ∧
        bad failure after := by
  unfold Ends at h
  unfold Work.run
  cases hrun : work around store with
  | ok a after =>
      rw [hrun] at h
      exact Or.inl ⟨a, after, rfl, h⟩
  | error failure after =>
      rw [hrun] at h
      exact Or.inr ⟨failure, after, rfl, h⟩

theorem Ends.of_run_ok {work : Work α} {ok : α → Store → Prop}
    {bad : Failure → Store → Prop} (h : work.Ends around store ok bad) {a : α}
    {after : Store} (hrun : work.run around store = (.ok a, after)) :
    ok a after := by
  rcases h.run with ⟨a', after', hrun', hok⟩ | ⟨failure, after', hrun', -⟩
  · rw [hrun] at hrun'
    cases hrun'
    exact hok
  · rw [hrun] at hrun'
    cases hrun'

end Work

end EvmIndexer
