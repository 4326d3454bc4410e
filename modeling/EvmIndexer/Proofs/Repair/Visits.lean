import EvmIndexer.Proofs.Repair.Phases
import EvmIndexer.Proofs.Store.Events
import EvmIndexer.Store.FaultPlan

/-!
# Every candidate has its turn

The phase of the logs takes the candidates of a page in turn and then asks for the page
behind the last of them. A turn has one of three courses. A candidate without logs is
passed over. The unit of work of one with logs is committed, or it is rolled back where
its statements meet the first fault; in either case the next candidate has its turn. So
the place where the next page begins does not depend on what became of the rows, and
there is nothing that a fault in one unit takes from another: the tables in the end are
those of the units that were committed, and these could have been the only candidates.

`Visits` is such a run, with every turn of it and the stores that the turn was between.
What can be said of the tables, of the count and of the order of statements is read off
it by induction.
-/

namespace EvmIndexer

/-- Whether an event is a question for a page or the start of writing a candidate. -/
def Event.isMilestone : Event → Bool
  | .statement (.selectWithoutLogs ..) | .statement (.insertLog _) => true
  | _ => false

/-- The milestones that were entered into the journal between two stores, in order. -/
def Store.Marks (before after : Store) (marks : List Event) : Prop :=
  ∃ events, before.Adds after events ∧ events.filter Event.isMilestone = marks

namespace Store

variable {before middle after : Store} {marks more : List Event}

theorem Marks.trans (h : before.Marks middle marks) (h' : middle.Marks after more) :
    before.Marks after (marks ++ more) := by
  obtain ⟨events, hadds, hmarks⟩ := h
  obtain ⟨events', hadds', hmore⟩ := h'
  refine ⟨events ++ events', hadds.trans hadds', ?_⟩
  rw [List.filter_append, hmarks, hmore]

theorem Marks.map_news (h : before.Marks after marks) :
    ((before.news after).map Entry.event).filter Event.isMilestone = marks := by
  obtain ⟨events, hadds, hmarks⟩ := h
  rw [hadds.map_news, hmarks]

end Store

namespace Repair

open Work

/-- The statements of the unit of work of a candidate. -/
def unitOf (repair : Repair) (row : Candidate.Unlogged) : List Statement :=
  [.insertLog (repair.logged row).1] ++
    (Statement.ofRows .insertToken (repair.logged row).2.tokens ++
      Statement.ofRows .insertTransfer (repair.logged row).2.transfers)

/-- The tables with the logs of a candidate and what they announce. -/
def insertRow (repair : Repair) (db : Database) (row : Candidate.Unlogged) : Database :=
  db.insertAnnounced (repair.logged row).1 (repair.logged row).2

/-- The turn of a candidate: the stores before and after it, and the logs that were
written in between. -/
structure Turn where
  row : Candidate.Unlogged
  before : Store
  count : Nat
  after : Store

/-- The course that a turn takes. -/
inductive Turn.Goes (repair : Repair) (around : Surroundings) (row : Candidate.Unlogged)
    (before : Store) : Nat → Store → Prop
  | bare (hnone : (repair.logged row).1 = []) : Goes repair around row before 0 before
  | stored {after : Store} (hlogs : (repair.logged row).1 ≠ [])
      (haccepted : around.firstFault? (before.journal.length + 1) (repair.unitOf row) = none)
      (htables : after.tables = repair.insertRow before.tables row)
      (hadds : before.Adds after
        (.begin :: (repair.unitOf row).map Event.statement ++ [.commit])) :
      Goes repair around row before (repair.logged row).1.length after
  | failed {after : Store} {fault : EvmIndexer.Fault} {sent : List Statement}
      (hlogs : (repair.logged row).1 ≠ [])
      (hstruck : around.firstFault? (before.journal.length + 1) (repair.unitOf row) =
        some fault)
      (htables : after.tables = before.tables) (hnonempty : sent ≠ [])
      (hfront : sent <+: repair.unitOf row)
      (hadds : before.Adds after (.begin :: sent.map Event.statement ++ [.rollback])) :
      Goes repair around row before 0 after

/-- The turns of candidates, one after the other. -/
inductive Turns (repair : Repair) (around : Surroundings) :
    List Candidate.Unlogged → Store → List Turn → Store → Prop
  | nil {store : Store} : Turns repair around [] store [] store
  | cons {row : Candidate.Unlogged} {rest : List Candidate.Unlogged}
      {before middle after : Store} {count : Nat} {turns : List Turn}
      (hgoes : Turn.Goes repair around row before count middle)
      (hrest : Turns repair around rest middle turns after) :
      Turns repair around (row :: rest) before (⟨row, before, count, middle⟩ :: turns) after

/-- The question for the page behind a place. -/
def query (repair : Repair) (place : Int × String) : Event :=
  .statement (.selectWithoutLogs place.1 place.2 repair.size)

/-- The place of the last candidate of a page. -/
def placeAfter (page : List Candidate.Unlogged) : Int × String :=
  (page.getLast?.map fun last => (last.height, last.txId)).getD firstPlace

/-- A run of the phase from a place on, with all the turns in it. -/
inductive Visits (repair : Repair) (around : Surroundings) :
    Int × String → List (List Candidate.Unlogged) → Store → List Turn → Store → Prop
  | exhausted {place : Int × String} {store : Store} :
      Visits repair around place [] store [] (store.enter (repair.query place))
  | empty {place : Int × String} {pages : List (List Candidate.Unlogged)} {store : Store} :
      Visits repair around place ([] :: pages) store []
        (store.enter (repair.query place))
  | page {place : Int × String} {page : List Candidate.Unlogged}
      {pages : List (List Candidate.Unlogged)} {before middle after : Store}
      {turns more : List Turn} (hpage : page ≠ [])
      (hturns : Turns repair around page (before.enter (repair.query place)) turns middle)
      (hrest : Visits repair around (placeAfter page) pages middle more after) :
      Visits repair around place (page :: pages) before (turns ++ more) after

/-- Whether the logs of a turn are kept: there are some, and its unit meets no fault. -/
def Turn.Keeps (repair : Repair) (around : Surroundings) (turn : Turn) : Prop :=
  (repair.logged turn.row).1 ≠ [] ∧
    around.firstFault? (turn.before.journal.length + 1) (repair.unitOf turn.row) = none

instance decidableKeeps (repair : Repair) (around : Surroundings) (turn : Turn) :
    Decidable (turn.Keeps repair around) :=
  inferInstanceAs (Decidable (_ ∧ _))

/-- The candidates whose logs are kept. -/
def kept (repair : Repair) (around : Surroundings) (turns : List Turn) :
    List Candidate.Unlogged :=
  (turns.filter fun turn => turn.Keeps repair around).map Turn.row

/-- The pages before the first empty one. -/
def visited (pages : List (List Candidate.Unlogged)) : List (List Candidate.Unlogged) :=
  pages.takeWhile fun page => !page.isEmpty

/-- The start of writing a candidate, if it has logs. -/
def startOf (repair : Repair) (row : Candidate.Unlogged) : List Event :=
  if (repair.logged row).1 = [] then [] else [.statement (.insertLog (repair.logged row).1)]

/-- The milestones of the phase: the question for the first page, and for each page that
is visited the start of each of its candidates and the question for the page behind. -/
def milestones (repair : Repair) (pages : List (List Candidate.Unlogged)) : List Event :=
  repair.query firstPlace :: (visited pages).flatMap fun page =>
    page.flatMap repair.startOf ++ [repair.query (placeAfter page)]

variable {repair : Repair} {around : Surroundings} {store before after : Store}
  {row : Candidate.Unlogged} {count : Nat} {turns : List Turn}
  {rows : List Candidate.Unlogged} {place : Int × String}
  {pages : List (List Candidate.Unlogged)}

/-! ## Turns -/

theorem applyAll_unitOf (repair : Repair) (row : Candidate.Unlogged) (db : Database) :
    Statement.applyAll (repair.unitOf row) db = repair.insertRow db row := by
  rw [unitOf, Statement.applyAll_append, Statement.applyAll_append,
    Statement.applyAll_ofRows rfl, Statement.applyAll_ofRows rfl]
  rfl

theorem ends_logRow (row : Candidate.Unlogged) :
    (repair.logRow row).Ends around store
      (fun count after => Turn.Goes repair around row store count after)
      (fun _ _ => False) := by
  unfold logRow
  cases hexecution : row.execution? with
  | none =>
      have hnone : (repair.logged row).1 = [] := by rw [logged, hexecution]
      exact Ends.pure (.bare hnone)
  | some execution =>
      have hlogged : repair.logged row = (execution.logs, Recognition.ofLogs repair.event
          row.txId (some row.height) [] execution.logs) := by rw [logged, hexecution]
      have hlogs : (repair.logged row).1 ≠ [] := by
        obtain ⟨read, -, hread, rfl⟩ := exists_of_execution? hexecution
        rw [hlogged]
        exact fun hnone => hread (List.map_eq_nil_iff.1 hnone)
      have hunit : writeLogs execution.logs (Recognition.ofLogs repair.event row.txId
          (some row.height) [] execution.logs) = transaction (sendAll (repair.unitOf row)) := by
        rw [writeLogs_eq, unitOf, hlogged]
      have hcount : execution.logs.length = (repair.logged row).1.length := by rw [hlogged]
      simp only [hunit, hcount]
      refine Ends.tryCatch (Ends.bind ((ends_transaction_events _).mono ?_ ?_))
      · intro _ after hended
        obtain ⟨haccepted, htables, hadds⟩ := hended
        rw [applyAll_unitOf] at htables
        exact Ends.pure (.stored hlogs haccepted htables hadds)
      · intro _ after hended
        obtain ⟨fault, sent, hstruck, hnonempty, hfront, htables, hadds⟩ := hended
        exact Ends.pure (.failed hlogs hstruck htables hnonempty hfront hadds)

/-- What a turn leaves, told by whether it keeps its logs. -/
theorem Turn.Goes.cases_keeps (h : Turn.Goes repair around row before count after) :
    (Turn.Keeps repair around ⟨row, before, count, after⟩ ∧
      count = (repair.logged row).1.length ∧
      after.tables = repair.insertRow before.tables row) ∨
    (¬ Turn.Keeps repair around ⟨row, before, count, after⟩ ∧ count = 0 ∧
      after.tables = before.tables) := by
  cases h with
  | bare hnone => exact Or.inr ⟨fun hkeeps => hkeeps.1 hnone, rfl, rfl⟩
  | stored hlogs haccepted htables => exact Or.inl ⟨⟨hlogs, haccepted⟩, rfl, htables⟩
  | failed hlogs hstruck htables =>
      refine Or.inr ⟨fun hkeeps => ?_, rfl, htables⟩
      cases hstruck.symm.trans hkeeps.2

/-- No statement behind the first of a unit is a milestone. -/
theorem filter_isMilestone_unitOf {sent : List Statement} (hnonempty : sent ≠ [])
    (hfront : sent <+: repair.unitOf row) :
    (sent.map Event.statement).filter Event.isMilestone =
      [.statement (.insertLog (repair.logged row).1)] := by
  cases sent with
  | nil => exact absurd rfl hnonempty
  | cons s rest =>
      obtain ⟨rfl, hrest⟩ := List.cons_prefix_cons.1 hfront
      have hquiet : (rest.map Event.statement).filter Event.isMilestone = [] := by
        rw [List.filter_eq_nil_iff]
        intro event hevent
        obtain ⟨s, hs, rfl⟩ := List.mem_map.1 hevent
        have hbehind : s ∈ Statement.ofRows .insertToken (repair.logged row).2.tokens ++
            Statement.ofRows .insertTransfer (repair.logged row).2.transfers :=
          hrest.subset hs
        rcases List.mem_append.1 hbehind with htoken | htransfer
        · rw [Statement.mem_ofRows htoken]
          exact Bool.false_ne_true
        · rw [Statement.mem_ofRows htransfer]
          exact Bool.false_ne_true
      rw [List.map_cons, List.filter_cons_of_pos rfl, hquiet]

theorem Turn.Goes.marks (h : Turn.Goes repair around row before count after) :
    before.Marks after (repair.startOf row) := by
  have hunit {sent : List Statement} (closing : Event) (hnonempty : sent ≠ [])
      (hclosing : closing.isMilestone = false) (hfront : sent <+: repair.unitOf row) :
      (.begin :: sent.map Event.statement ++ [closing]).filter Event.isMilestone =
        [.statement (.insertLog (repair.logged row).1)] := by
    rw [List.cons_append, List.filter_cons_of_neg Bool.false_ne_true, List.filter_append,
      filter_isMilestone_unitOf hnonempty hfront,
      List.filter_cons_of_neg (ne_true_of_eq_false hclosing)]
    rfl
  unfold startOf
  cases h with
  | bare hnone =>
      rw [if_pos hnone]
      exact ⟨[], .refl before, rfl⟩
  | stored hlogs haccepted htables hadds =>
      rw [if_neg hlogs]
      exact ⟨_, hadds, hunit .commit (List.cons_ne_nil _ _) rfl (List.prefix_refl _)⟩
  | failed hlogs hstruck htables hnonempty hfront hadds =>
      rw [if_neg hlogs]
      exact ⟨_, hadds, hunit .rollback hnonempty rfl hfront⟩

/-! ## The turns of a page -/

theorem ends_mapM_logRow (rows : List Candidate.Unlogged) :
    (rows.mapM repair.logRow).Ends around store
      (fun counts after => ∃ turns, Turns repair around rows store turns after ∧
        counts = turns.map Turn.count)
      (fun _ _ => False) := by
  induction rows generalizing store with
  | nil => exact Ends.pure ⟨[], .nil, rfl⟩
  | cons row rest ih =>
      rw [List.mapM_cons]
      refine Ends.bind ((ends_logRow row).mono ?_ fun _ _ hfalse => hfalse)
      intro count middle hgoes
      refine Ends.bind (ih.mono ?_ fun _ _ hfalse => hfalse)
      intro counts after hended
      obtain ⟨turns, hturns, hcounts⟩ := hended
      exact Ends.pure ⟨_, .cons hgoes hturns, by rw [hcounts]; rfl⟩

theorem kept_append (repair : Repair) (around : Surroundings) (turns more : List Turn) :
    repair.kept around (turns ++ more) =
      repair.kept around turns ++ repair.kept around more := by
  rw [kept, List.filter_append, List.map_append]
  rfl

/-- The number of logs of candidates. -/
def countOf (repair : Repair) (rows : List Candidate.Unlogged) : Nat :=
  total (rows.map fun row => (repair.logged row).1.length)

theorem total_append (counts more : List Nat) :
    total (counts ++ more) = total counts + total more := by
  induction counts with
  | nil => exact (Nat.zero_add _).symm
  | cons count rest ih =>
      show count + total (rest ++ more) = count + total rest + total more
      rw [ih, Nat.add_assoc]

theorem countOf_append (repair : Repair) (rows more : List Candidate.Unlogged) :
    repair.countOf (rows ++ more) = repair.countOf rows + repair.countOf more := by
  rw [countOf, List.map_append, total_append]
  rfl

/-- What a list of turns leaves, and how many logs it counts: those of the candidates
that are kept. -/
structure Tallies (repair : Repair) (around : Surroundings) (before : Store)
    (turns : List Turn) (after : Store) : Prop where
  tables : after.tables = (repair.kept around turns).foldl repair.insertRow before.tables
  count : total (turns.map Turn.count) = repair.countOf (repair.kept around turns)

theorem Tallies.append {middle : Store} {more : List Turn}
    (h : Tallies repair around before turns middle)
    (h' : Tallies repair around middle more after) :
    Tallies repair around before (turns ++ more) after where
  tables := by rw [h'.tables, h.tables, kept_append, List.foldl_append]
  count := by
    rw [List.map_append, total_append, h.count, h'.count, kept_append, countOf_append]

theorem Turn.Goes.tallies (h : Turn.Goes repair around row before count after) :
    Tallies repair around before [⟨row, before, count, after⟩] after := by
  rcases h.cases_keeps with ⟨hkeeps, hcount, htables⟩ | ⟨hnot, hcount, htables⟩
  · have hkept : repair.kept around [⟨row, before, count, after⟩] = [row] := by
      simp [kept, hkeeps]
    constructor
    · rw [hkept, htables]
      rfl
    · rw [hkept, hcount]
      rfl
  · have hkept : repair.kept around [⟨row, before, count, after⟩] = [] := by
      simp [kept, hnot]
    constructor
    · rw [hkept, htables]
      rfl
    · rw [hkept, hcount]
      rfl

theorem Turns.tallies (h : Turns repair around rows before turns after) :
    Tallies repair around before turns after := by
  induction h with
  | nil => exact ⟨rfl, rfl⟩
  | cons hgoes hrest ih => exact hgoes.tallies.append ih

theorem Turns.map_row (h : Turns repair around rows before turns after) :
    turns.map Turn.row = rows := by
  induction h with
  | nil => rfl
  | cons hgoes hrest ih => rw [List.map_cons, ih]

theorem Turns.marks (h : Turns repair around rows before turns after) :
    before.Marks after (rows.flatMap repair.startOf) := by
  induction h with
  | nil => exact ⟨[], .refl _, rfl⟩
  | cons hgoes hrest ih => exact hgoes.marks.trans ih

/-! ## The pages -/

theorem placeAfter_eq {page : List Candidate.Unlogged} {last : Candidate.Unlogged}
    (h : page.getLast? = some last) : placeAfter page = (last.height, last.txId) := by
  rw [placeAfter, h]
  rfl

theorem marks_query (repair : Repair) (store : Store) (place : Int × String) :
    store.Marks (store.enter (repair.query place)) [repair.query place] :=
  ⟨_, (Store.Adds.refl store).enter _, rfl⟩

section Queries

variable (hquery : ∀ position height txId,
  around.faults position (.selectWithoutLogs height txId repair.size) = none)

include hquery

theorem ends_query_page (place : Int × String) :
    (send (.selectWithoutLogs place.1 place.2 repair.size)).Ends around store
      (fun _ after => after = store.enter (repair.query place)) (fun _ _ => False) :=
  Ends.send_accepted (hquery _ _ _) rfl

/-- Where the questions for pages meet no fault, the phase ends with its count, whatever
else meets one. -/
theorem ends_logsFrom (pages : List (List Candidate.Unlogged)) :
    (repair.logsFrom place pages).Ends around store
      (fun count after => ∃ turns, Visits repair around place pages store turns after ∧
        count = total (turns.map Turn.count))
      (fun _ _ => False) := by
  induction pages generalizing place store with
  | nil =>
      refine Ends.bind ((ends_query_page hquery place).mono ?_ fun _ _ hfalse => hfalse)
      intro _ asked hasked
      rw [hasked]
      exact Ends.pure ⟨[], .exhausted, rfl⟩
  | cons page rest ih =>
      refine Ends.bind ((ends_query_page hquery place).mono ?_ fun _ _ hfalse => hfalse)
      intro _ asked hasked
      rw [hasked]
      cases hlast : page.getLast? with
      | none =>
          rw [List.getLast?_eq_none_iff.1 hlast]
          exact Ends.pure ⟨[], .empty, rfl⟩
      | some last =>
          have hpage : page ≠ [] := by
            rintro rfl
            cases hlast
          refine Ends.bind ((ends_mapM_logRow page).mono ?_ fun _ _ hfalse => hfalse)
          intro counts middle hended
          obtain ⟨turns, hturns, hcounts⟩ := hended
          refine Ends.bind (ih.mono ?_ fun _ _ hfalse => hfalse)
          intro later after hended
          obtain ⟨more, hmore, hlater⟩ := hended
          rw [← placeAfter_eq hlast] at hmore
          refine Ends.pure ⟨turns ++ more, .page hpage hturns hmore, ?_⟩
          rw [hcounts, hlater, List.map_append, total_append]

end Queries

theorem visited_cons {page : List Candidate.Unlogged} (hpage : page ≠ []) :
    visited (page :: pages) = page :: visited pages := by
  rw [visited, List.takeWhile_cons_of_pos]
  · rfl
  · simpa using hpage

theorem Visits.map_row (h : Visits repair around place pages before turns after) :
    turns.map Turn.row = (visited pages).flatten := by
  induction h with
  | exhausted => rfl
  | empty => rfl
  | page hpage hturns hrest ih =>
      rw [visited_cons hpage, List.flatten_cons, List.map_append, hturns.map_row, ih]

theorem Visits.tallies (h : Visits repair around place pages before turns after) :
    Tallies repair around before turns after := by
  induction h with
  | exhausted => exact ⟨rfl, rfl⟩
  | empty => exact ⟨rfl, rfl⟩
  | page hpage hturns hrest ih =>
      have hpaged := hturns.tallies
      exact Tallies.append ⟨hpaged.tables, hpaged.count⟩ ih

theorem Visits.marks (h : Visits repair around place pages before turns after) :
    before.Marks after (repair.query place :: (visited pages).flatMap fun page =>
      page.flatMap repair.startOf ++ [repair.query (placeAfter page)]) := by
  induction h with
  | exhausted => exact marks_query repair _ _
  | empty => exact marks_query repair _ _
  | page hpage hturns hrest ih =>
      have hall := ((marks_query repair _ _).trans hturns.marks).trans ih
      rw [visited_cons hpage, List.flatMap_cons]
      simpa using hall

/-- Every candidate of every page that is visited has its turn, in order, whatever meets
a fault, as long as the questions for pages do not. The first question is for the page
behind the first place, each other one for the page behind the last candidate of the
page before, and the first page without candidates is the last. A candidate whose unit
meets a fault leaves the tables as they were. In the end the tables are those with the
logs of the candidates whose units met none, and what these announce, and the count is
the number of these logs: what the phase leaves that has nothing but these candidates
and meets no fault. -/
theorem logs_isolates_failures (repair : Repair) (around : Surroundings) (store : Store)
    (pages : List (List Candidate.Unlogged))
    (hquery : ∀ position height txId,
      around.faults position (.selectWithoutLogs height txId repair.size) = none) :
    ∃ turns after,
      (repair.logs pages).run around store =
        (.ok (repair.countOf (repair.kept around turns)), after) ∧
      Visits repair around firstPlace pages store turns after ∧
      turns.map Turn.row = (visited pages).flatten ∧
      ((store.news after).map Entry.event).filter Event.isMilestone =
        repair.milestones pages ∧
      after.tables = (repair.kept around turns).foldl repair.insertRow store.tables ∧
      ∀ (clean : Surroundings) (other : Store), clean.Faultless →
        other.tables = store.tables →
        ∃ last, (repair.logs [repair.kept around turns]).run clean other =
            (.ok (repair.countOf (repair.kept around turns)), last) ∧
          last.tables = after.tables := by
  have hends : (repair.logs pages).Ends around store
      (fun count after => ∃ turns, Visits repair around firstPlace pages store turns after ∧
        count = total (turns.map Turn.count))
      (fun _ _ => False) := ends_logsFrom hquery pages
  rcases hends.run with
    ⟨count, after, hrun, turns, hvisits, hcount⟩ | ⟨_, _, -, hfalse⟩
  · have htallies := hvisits.tallies
    rw [hcount, htallies.count] at hrun
    refine ⟨turns, after, hrun, hvisits, hvisits.map_row, hvisits.marks.map_news,
      htallies.tables, fun clean other hclean hsame => ?_⟩
    obtain ⟨last, hlast, htables, -⟩ :=
      (@yields_logs_page clean other repair hclean (repair.kept around turns)).run
    refine ⟨last, hlast, ?_⟩
    rw [htables, htallies.tables, hsame]
    rfl
  · exact hfalse.elim

/-- A candidate with one log, which announces nothing. -/
def oneLog (txId : String) (height : Int) : Candidate.Unlogged :=
  ⟨txId, height,
    some "0x12250a154d7367457468657265756d5478526573706f6e7365120c12060a04307841422888a401"⟩

/-- Three candidates on two pages: the first cannot be written and the second has no
logs. The third is written all the same, and the places of the pages are those of the
last candidates. -/
theorem logs_isolates_failures_third :
    let around : Surroundings := { faults := FaultPlan.faults { failingLogs := ["failing"] } }
    let pages := [[oneLog "failing" 1, ⟨"bare", 1, none⟩], [oneLog "third" 2], []]
    (∀ position height txId,
      around.faults position (.selectWithoutLogs height txId ({} : Repair).size) = none) ∧
    ∃ after, (Repair.logs {} pages).run around {} = (.ok 1, after) ∧
      after.tables.logs = [⟨"third", 0, "0xab", [], "0x"⟩] ∧
      ((Store.news {} after).map Entry.event).filter Event.isMilestone =
        [.statement (.selectWithoutLogs (-1) "" 100),
          .statement (.insertLog [⟨"failing", 0, "0xab", [], "0x"⟩]),
          .statement (.selectWithoutLogs 1 "bare" 100),
          .statement (.insertLog [⟨"third", 0, "0xab", [], "0x"⟩]),
          .statement (.selectWithoutLogs 2 "third" 100)] := by
  intro around pages
  obtain ⟨turns, after, hrun, -, hrows, hmarks, htables, -⟩ :=
    logs_isolates_failures {} around {} pages fun _ _ _ => rfl
  have hfailing : Repair.logged {} (oneLog "failing" 1) =
      ([⟨"failing", 0, "0xab", [], "0x"⟩], {}) := by
    decide +kernel
  have hthird : Repair.logged {} (oneLog "third" 2) =
      ([⟨"third", 0, "0xab", [], "0x"⟩], {}) := by
    decide +kernel
  have hbare : Repair.logged {} ⟨"bare", 1, none⟩ = ([], {}) := rfl
  have hkept : Repair.kept {} around turns = [oneLog "third" 2] := by
    obtain ⟨first, rest, rfl, hfirst, hrest⟩ := List.map_eq_cons_iff.1 hrows
    obtain ⟨second, rest, rfl, hsecond, hrest⟩ := List.map_eq_cons_iff.1 hrest
    obtain ⟨third, rest, rfl, hlast, hrest⟩ := List.map_eq_cons_iff.1 hrest
    rw [List.map_eq_nil_iff.1 hrest]
    have hnot : ¬ first.Keeps {} around := by
      rw [Turn.Keeps, unitOf, hfirst, hfailing]
      intro hkeeps
      cases hkeeps.2
    have hnone : ¬ second.Keeps {} around := by
      rw [Turn.Keeps, hsecond, hbare]
      exact fun hkeeps => hkeeps.1 rfl
    have hkeeps : third.Keeps {} around := by
      rw [Turn.Keeps, unitOf, hlast, hthird]
      exact ⟨List.cons_ne_nil _ _, rfl⟩
    simp [kept, hnot, hnone, hkeeps, hlast]
  rw [hkept] at hrun htables
  refine ⟨fun _ _ _ => rfl, after, ?_, ?_, ?_⟩
  · rw [hrun, countOf, List.map_singleton, hthird]
    rfl
  · rw [htables, List.foldl_cons, List.foldl_nil, insertRow, hthird]
    rfl
  · have hplace : placeAfter [oneLog "failing" 1, ⟨"bare", 1, none⟩] = (1, "bare") := rfl
    have hlast : placeAfter [oneLog "third" 2] = (2, "third") := rfl
    rw [hmarks]
    simp [milestones, visited, pages, startOf, hfailing, hthird, hbare, query, hplace, hlast,
      firstPlace]

end Repair

end EvmIndexer
