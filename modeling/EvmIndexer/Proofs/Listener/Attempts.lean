import EvmIndexer.Proofs.Listener.History
import Mathlib.Data.List.Basic

/-!
# Attempts and the connections they hold

An attempt holds a connection from the moment the connector gave it until it is
in use or closed. Here stand the facts about stages and connections that every
account of a listener's moves needs: a stage that was set is the stage of that
attempt and of no other, and a connection that is closed stays closed.
-/

namespace EvmIndexer.Listener

/-- The connection that an attempt holds in a stage. -/
def Stage.conn? : Stage → Option Nat
  | .subscribing conn | .discarding conn | .retiring conn => some conn
  | .spawned | .dialing _ | .over | .cancelled => none

/-- Whether some attempt holds a connection. -/
def Holds (l : Listener) (conn : Nat) : Prop :=
  ∃ attempt stage, l.stage? attempt = some stage ∧ stage.conn? = some conn

variable {l : Listener} {attempt other conn : Nat} {stage old new : Stage}

/-- An attempt that holds a connection goes on. -/
theorem Stage.isLive_of_conn? (h : stage.conn? = some conn) : stage.isLive = true := by
  cases stage <;> first | rfl | cases h

/-! ## Stages -/

theorem stage?_setStage_self (h : l.stage? attempt = some old) :
    (l.setStage attempt new).stage? attempt = some new := by
  obtain ⟨found, hfound, -⟩ := Option.map_eq_some_iff.1 h
  show ((l.attempts.modify attempt _)[attempt]?).map _ = _
  rw [List.getElem?_modify_eq, hfound]
  rfl

theorem stage?_setStage_of_ne (h : attempt ≠ other) :
    (l.setStage attempt new).stage? other = l.stage? other := by
  show ((l.attempts.modify attempt _)[other]?).map _ = _
  rw [List.getElem?_modify_ne _ _ h, stage?]

theorem stage?_addAttempt_self (l : Listener) (byTimer : Bool) :
    (l.addAttempt byTimer).stage? l.attempts.length = some .spawned := by
  show ((l.attempts ++ [_])[l.attempts.length]?).map _ = _
  rw [List.getElem?_concat_length]
  rfl

theorem stage?_addAttempt_of_some (h : l.stage? attempt = some stage) (byTimer : Bool) :
    (l.addAttempt byTimer).stage? attempt = some stage := by
  obtain ⟨found, hfound, hstage⟩ := Option.map_eq_some_iff.1 h
  show ((l.attempts ++ [_])[attempt]?).map _ = _
  rw [List.getElem?_append_left (List.getElem?_eq_some_iff.1 hfound).1, hfound, ← hstage]
  rfl

/-- A stage that is found after one was set is the one set or an old one. -/
theorem stage?_of_setStage (h : (l.setStage attempt new).stage? other = some stage) :
    stage = new ∨ l.stage? other = some stage := by
  by_cases hother : attempt = other
  · subst hother
    obtain ⟨found, hfound, -⟩ := Option.map_eq_some_iff.1 h
    obtain ⟨old, hold⟩ : ∃ old, l.attempts[attempt]? = some old := by
      have hlt := (List.getElem?_eq_some_iff.1 hfound).1
      rw [setStage, List.length_modify] at hlt
      exact ⟨_, List.getElem?_eq_getElem hlt⟩
    have hwas : l.stage? attempt = some old.stage := by
      rw [stage?, hold]
      rfl
    rw [stage?_setStage_self hwas] at h
    exact Or.inl (Option.some.inj h).symm
  · rw [stage?_setStage_of_ne hother] at h
    exact Or.inr h

theorem stage?_of_addAttempt {byTimer : Bool}
    (h : (l.addAttempt byTimer).stage? attempt = some stage) :
    stage = .spawned ∨ l.stage? attempt = some stage := by
  obtain ⟨found, hfound, rfl⟩ := Option.map_eq_some_iff.1 h
  rw [addAttempt] at hfound
  by_cases hlt : attempt < l.attempts.length
  · rw [List.getElem?_append_left hlt] at hfound
    exact Or.inr (by rw [stage?, hfound]; rfl)
  · rw [List.getElem?_append_right (Nat.le_of_not_lt hlt),
      List.getElem?_singleton] at hfound
    split at hfound
    · cases hfound
      exact Or.inl rfl
    · cases hfound

/-! ## Connections that are held -/

theorem holds_setStage (h : l.stage? attempt = some old) (hconn : new.conn? = some conn) :
    (l.setStage attempt new).Holds conn :=
  ⟨attempt, new, stage?_setStage_self h, hconn⟩

/-- A connection is held as long as the attempt that holds it does not move. -/
theorem Holds.setStage (h : l.Holds conn) (hold : l.stage? attempt = some old)
    (hne : old.conn? ≠ some conn) : (l.setStage attempt new).Holds conn := by
  obtain ⟨holder, stage, hstage, hconn⟩ := h
  have hother : attempt ≠ holder := by
    rintro rfl
    rw [hold] at hstage
    exact hne ((Option.some.inj hstage) ▸ hconn)
  exact ⟨holder, stage, (stage?_setStage_of_ne hother).trans hstage, hconn⟩

theorem Holds.addAttempt (h : l.Holds conn) (byTimer : Bool) :
    (l.addAttempt byTimer).Holds conn := by
  obtain ⟨holder, stage, hstage, hconn⟩ := h
  exact ⟨holder, stage, stage?_addAttempt_of_some hstage byTimer, hconn⟩

/-! ## Connections that change -/

section Change

variable {change : Connection → Connection}

theorem getElem?_modifyConnection (l : Listener) (other conn : Nat)
    (change : Connection → Connection) :
    (l.modifyConnection other change).connections[conn]? =
      l.connections[conn]?.map fun c => if other = conn then change c else c :=
  List.getElem?_modify change other l.connections conn

theorem isClosed_modifyConnection
    (h : (l.modifyConnection other change).isClosed conn = false)
    (hchange : ∀ c, c.closed = true → (change c).closed = true) :
    l.isClosed conn = false := by
  rw [isClosed, getElem?_modifyConnection] at h
  rw [isClosed]
  cases hc : l.connections[conn]? with
  | none => rwa [hc] at h
  | some c =>
      rw [hc] at h
      cases hclosed : c.closed with
      | false => simpa using hclosed
      | true =>
          by_cases hother : other = conn
          · simp [hother, hchange c hclosed] at h
          · simp [hother, hclosed] at h

/-- A connection that is open after one was closed is another one. -/
theorem ne_of_isClosed_modifyConnection
    (h : (l.modifyConnection other change).isClosed conn = false)
    (hchange : ∀ c, (change c).closed = true) : other ≠ conn := by
  rintro rfl
  rw [isClosed, getElem?_modifyConnection] at h
  cases hc : l.connections[other]? <;> simp [hc, hchange] at h

theorem ne_of_isClosed_markClosed (h : (l.markClosed other true).isClosed conn = false) :
    other ≠ conn ∧ l.isClosed conn = false :=
  ⟨ne_of_isClosed_modifyConnection h fun _ => rfl,
    isClosed_modifyConnection h fun _ _ => rfl⟩

end Change

end EvmIndexer.Listener
