import EvmIndexer.Proofs.Listener.Attempts
import EvmIndexer.Proofs.Listener.Steps

/-!
# Open connections and their owners

Every connection that the connector gave and that is open has an owner: it is in
use, or an attempt holds it. What an attempt holds it closes itself, or puts into
use when it ends. The connection in use has no such protection: an attempt that
another start made may put its own in the place, or fail and forget it. `Spares`
asks of a move that it does no such thing, and where closing a connection succeeds
this is all there is to ask for.
-/

namespace EvmIndexer.Listener

variable {l l' : Listener} {move : Move} {attempt conn : Nat} {old : Stage}

/-- Whether a move is not the failure to close a connection. -/
def Move.closes : Move → Bool
  | .released _ closed | .connectionEnded closed => closed
  | _ => true

/-- A move that does not make the listener forget an open connection in use. -/
def Spares (l : Listener) (move : Move) : Prop :=
  ∀ conn ∈ l.installed, ∀ l' ∈ l.step? move,
    l'.isClosed conn = false → l'.installed = some conn

instance decidableSpares (l : Listener) (move : Move) : Decidable (Spares l move) :=
  inferInstanceAs (Decidable (∀ conn ∈ l.installed, ∀ l' ∈ l.step? move,
    l'.isClosed conn = false → l'.installed = some conn))

/-! ## What is left alone -/

theorem attempts_connectionLost (l : Listener) :
    l.connectionLost.attempts = l.attempts := by
  unfold connectionLost
  split <;> rfl

theorem connections_connectionLost (l : Listener) :
    l.connectionLost.connections = l.connections := by
  unfold connectionLost
  split <;> rfl

theorem connections_dial (l : Listener) (attempt : Nat) :
    (l.dial attempt).connections = l.connections := by
  unfold dial
  split <;> rfl

theorem connections_endFailed (l : Listener) (attempt : Nat) :
    (l.endFailed attempt).connections = l.connections :=
  connections_connectionLost _

theorem connections_failWith (l : Listener) (attempt conn : Nat) :
    (l.failWith attempt conn).connections = l.connections := by
  unfold failWith
  simp only
  split
  · exact connections_connectionLost _
  · rfl

theorem isClosed_of_connections_eq (h : l'.connections = l.connections) :
    l'.isClosed conn = l.isClosed conn := by
  rw [isClosed, isClosed, h]

theorem Holds.of_attempts_eq (h : l.Holds conn) (hattempts : l'.attempts = l.attempts) :
    l'.Holds conn := by
  obtain ⟨attempt, stage, hstage, hconn⟩ := h
  exact ⟨attempt, stage, by rw [stage?, hattempts]; exact hstage, hconn⟩

section Owners

variable {mine : Nat} (hstage : l.stage? attempt = some old)

include hstage

theorem Holds.dial (h : l.Holds conn) (hold : old.conn? = none) :
    (l.dial attempt).Holds conn := by
  have hne : old.conn? ≠ some conn := by simp [hold]
  unfold Listener.dial
  split
  · exact h.setStage hstage hne
  · have hset : (l.setStage attempt (.dialing l.calls)).Holds conn :=
      h.setStage hstage hne
    exact hset.of_attempts_eq rfl

theorem Holds.endFailed (h : l.Holds conn) (hne : old.conn? ≠ some conn) :
    (l.endFailed attempt).Holds conn := by
  have hset : (l.setStage attempt .over).Holds conn := h.setStage hstage hne
  exact hset.of_attempts_eq (attempts_connectionLost _)

/-- An attempt that fails holds its connection until this is closed. -/
theorem holds_failWith (hmine : ∀ other, old.conn? = some other → other = mine)
    (hheld : l.isClosed conn = false → conn = mine ∨ l.Holds conn)
    (hopen : (l.failWith attempt mine).isClosed conn = false) :
    (l.failWith attempt mine).Holds conn := by
  have hwas : l.isClosed conn = false := by
    rw [← hopen]
    exact (isClosed_of_connections_eq (connections_failWith _ _ _)).symm
  by_cases hconn : conn = mine
  · subst hconn
    have hnoticed : (l.notice .error).isClosed conn = false := hwas
    unfold failWith
    simp only
    rw [if_neg (by rw [hnoticed]; decide)]
    exact holds_setStage hstage rfl
  · have hheld := (hheld hwas).resolve_left hconn
    have hne : old.conn? ≠ some conn := fun heq => hconn (hmine conn heq)
    have hnoticed : (l.notice .error).Holds conn := hheld.of_attempts_eq rfl
    unfold failWith
    simp only
    split
    · exact hnoticed.endFailed hstage hne
    · exact hnoticed.setStage hstage hne

/-- A new connection is held by the attempt that it was given to. -/
theorem holds_connect (hold : old.conn? = none) {call : Nat} {watchable : Bool}
    (hheld : l.isClosed conn = false → l.Holds conn)
    (hopen : (l.connect attempt call watchable).isClosed conn = false) :
    (l.connect attempt call watchable).Holds conn := by
  let grown : Listener := { l with
    connections := l.connections ++ [{ call, watched := watchable }] }
  have hgrown : grown.isClosed conn = false →
      conn = l.connections.length ∨ grown.Holds conn := by
    intro hconn
    by_cases hlt : conn < l.connections.length
    · refine Or.inr ((hheld ?_).of_attempts_eq rfl)
      rwa [isClosed, List.getElem?_append_left hlt] at hconn
    · have hle : conn ≤ l.connections.length := by
        by_contra hgt
        rw [isClosed, List.getElem?_eq_none (by simp [grown]; omega)] at hconn
        cases hconn
      exact Or.inl (Nat.le_antisymm hle (Nat.le_of_not_lt hlt))
  have hne : old.conn? ≠ some conn := by simp [hold]
  unfold Listener.connect at hopen ⊢
  simp only at hopen ⊢
  split at hopen
  · next hwatchable =>
      rw [if_pos hwatchable]
      rcases hgrown hopen with rfl | hholds
      · exact holds_setStage (l := grown) hstage rfl
      · exact hholds.setStage hstage hne
  · next hwatchable =>
      rw [if_neg hwatchable]
      exact holds_failWith (l := grown) hstage (by simp [hold]) hgrown hopen

/-- A connection whose channel is subscribed is in use, or held until it is closed. -/
theorem holds_install (hold : old = .subscribing mine)
    (hheld : l.isClosed conn = false → l.Holds conn)
    (hopen : (l.install attempt mine).isClosed conn = false) :
    (l.install attempt mine).Holds conn ∨
      (l.install attempt mine).installed = some conn := by
  subst hold
  let subscribed := l.modifyConnection mine fun c => { c with subscribed := true }
  have hheld : subscribed.isClosed conn = false → subscribed.Holds conn := fun hwas =>
    (hheld (isClosed_modifyConnection hwas fun _ h => h)).of_attempts_eq rfl
  have hne : mine ≠ conn → (Stage.subscribing mine).conn? ≠ some conn :=
    fun hother heq => hother (Option.some.inj heq)
  unfold Listener.install at hopen ⊢
  simp only at hopen ⊢
  by_cases hconn : mine = conn
  · subst hconn
    split
    · exact Or.inl (holds_setStage (l := subscribed) hstage rfl)
    · exact Or.inr rfl
  · split at hopen
    · next hclosing =>
        rw [if_pos hclosing]
        exact Or.inl ((hheld hopen).setStage hstage (hne hconn))
    · next hclosing =>
        rw [if_neg hclosing]
        have hset : (subscribed.setStage attempt .over).Holds conn :=
          (hheld hopen).setStage hstage (hne hconn)
        exact Or.inl (hset.of_attempts_eq rfl)

end Owners

/-! ## The moves -/

theorem attempts_giveUpConnection (l : Listener) :
    l.giveUpConnection.attempts = l.attempts := by
  unfold giveUpConnection
  simp only
  split
  · rfl
  · split <;> rfl

theorem connections_giveUpConnection (l : Listener) :
    l.giveUpConnection.connections = l.connections := by
  unfold giveUpConnection
  simp only
  split
  · rfl
  · split <;> rfl

/-- What the shutdown does opens no connection and moves no attempt. -/
theorem Concludes.keeps_open {waits : Shutdown} (h : Concludes l waits move l')
    (hcloses : move.closes = true) (hopen : l'.isClosed conn = false) :
    l'.attempts = l.attempts ∧ l.isClosed conn = false := by
  cases h with
  | attemptEnded =>
      rw [isClosed_of_connections_eq (connections_giveUpConnection l)] at hopen
      exact ⟨attempts_giveUpConnection l, hopen⟩
  | closed => exact ⟨rfl, (ne_of_isClosed_markClosed (l := l) hopen).2⟩
  | stuck => cases hcloses
  | tasksEnded => exact ⟨rfl, hopen⟩

theorem holds_proceeds (hstage : l.stage? attempt = some old)
    (hgoes : Proceeds l attempt old move l') (hcloses : move.closes = true)
    (hheld : l.isClosed conn = false → l.Holds conn) (hopen : l'.isClosed conn = false) :
    l'.Holds conn ∨ l'.installed = some conn := by
  cases hgoes with
  | begin =>
      rw [isClosed_of_connections_eq (connections_dial _ _)] at hopen
      exact Or.inl ((hheld hopen).dial hstage rfl)
  | connected => exact Or.inl (holds_connect hstage rfl hheld hopen)
  | refused =>
      rw [isClosed_of_connections_eq (connections_endFailed _ _)] at hopen
      have hnoticed : (l.notice .error).Holds conn := (hheld hopen).of_attempts_eq rfl
      exact Or.inl (hnoticed.endFailed hstage fun h => by cases h)
  | subscribed => exact holds_install hstage rfl hheld hopen
  | unsubscribed =>
      exact Or.inl (holds_failWith hstage (fun _ heq => (Option.some.inj heq).symm)
        (fun hwas => Or.inr (hheld hwas)) hopen)
  | @discarded mine closed =>
      obtain rfl : closed = true := hcloses
      rw [isClosed_of_connections_eq (connections_endFailed _ _)] at hopen
      obtain ⟨hne, hwas⟩ := ne_of_isClosed_markClosed hopen
      have hmarked : (l.markClosed mine true).Holds conn :=
        (hheld hwas).of_attempts_eq rfl
      exact Or.inl (hmarked.endFailed hstage fun heq => hne (Option.some.inj heq))
  | @retired mine closed =>
      obtain rfl : closed = true := hcloses
      obtain ⟨hne, hwas⟩ := ne_of_isClosed_markClosed (l := l) hopen
      have hmarked : (l.markClosed mine true).Holds conn :=
        (hheld hwas).of_attempts_eq rfl
      exact Or.inl (hmarked.setStage hstage fun heq => hne (Option.some.inj heq))

/-- A connection that is held is held until it is in use or closed. -/
theorem holds_step (hstep : l.step? move = some l') (hcloses : move.closes = true)
    (hshutdown : move ≠ .shutdown) (hheld : l.isClosed conn = false → l.Holds conn)
    (hopen : l'.isClosed conn = false) : l'.Holds conn ∨ l'.installed = some conn := by
  cases steps_of_step? hstep with
  | aside _ halike =>
      rw [isClosed_of_connections_eq halike.connections] at hopen
      exact Or.inl ((hheld hopen).of_attempts_eq halike.attempts)
  | start =>
      rw [isClosed_of_connections_eq (connections_dial _ _)] at hopen
      have hadded := (hheld hopen).addAttempt false
      exact Or.inl (hadded.dial (stage?_addAttempt_self l false) rfl)
  | fire =>
      have hadded := (hheld hopen).addAttempt true
      exact Or.inl (hadded.of_attempts_eq rfl)
  | proceeds hstage hgoes => exact holds_proceeds hstage hgoes hcloses hheld hopen
  | drop other =>
      exact Or.inl ((hheld (ne_of_isClosed_markClosed hopen).2).of_attempts_eq rfl)
  | unheeded =>
      have hwas := isClosed_modifyConnection hopen fun _ _ => rfl
      exact Or.inl ((hheld hwas).of_attempts_eq rfl)
  | lost =>
      rw [isClosed_of_connections_eq (connections_connectionLost _)] at hopen
      have hwas := isClosed_modifyConnection (l := l) hopen fun _ _ => rfl
      exact Or.inl ((hheld hwas).of_attempts_eq (attempts_connectionLost _))
  | shutdown => exact absurd rfl hshutdown
  | concludes hends =>
      obtain ⟨hattempts, hwas⟩ := hends.keeps_open hcloses hopen
      exact Or.inl ((hheld hwas).of_attempts_eq hattempts)

/-! ## Every open connection has an owner -/

/-- Every open connection is in use or held by an attempt. -/
def Owned (l : Listener) : Prop :=
  ∀ conn, l.isClosed conn = false → l.installed = some conn ∨ l.Holds conn

theorem Owned.step (h : Owned l) (hstep : l.step? move = some l')
    (hcloses : move.closes = true) (hshutdown : move ≠ .shutdown)
    (hspares : Spares l move) : Owned l' := by
  intro conn hopen
  by_cases hinstalled : l.installed = some conn
  · exact Or.inl (hspares conn hinstalled l' hstep hopen)
  · exact (holds_step hstep hcloses hshutdown
      (fun hwas => (h conn hwas).resolve_left hinstalled) hopen).symm

end EvmIndexer.Listener
