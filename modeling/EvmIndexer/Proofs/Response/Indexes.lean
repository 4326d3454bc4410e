import EvmIndexer.Response.Execution
import Mathlib.Data.List.Nodup

/-!
# The indexes of the logs of a result

Whatever the ledger recorded, a result that is read from it has distinct indexes:
those of the messages are taken only if they are distinct, and places are. Both
fit the column, the indexes of the messages because it is asked of them, the
places as long as there are no more logs than the column can count. So the two
cases of `logIndexes` are told apart here and nowhere else; later proofs go by
the message that a result was made of.
-/

namespace EvmIndexer.Execution

open Response (LogMessage ExecutionMessage)

theorem length_logIndexes (logs : List LogMessage) :
    (logIndexes logs).length = logs.length := by
  simp only [logIndexes]
  split
  · exact List.length_map _
  · exact List.length_range

theorem nodup_logIndexes (logs : List LogMessage) : (logIndexes logs).Nodup := by
  simp only [logIndexes]
  split
  · next h => exact h.1
  · exact List.nodup_range

theorem le_of_mem_logIndexes {logs : List LogMessage}
    (hlength : logs.length ≤ maxIndex + 1) {i : Nat} (hi : i ∈ logIndexes logs) :
    i ≤ maxIndex := by
  simp only [logIndexes] at hi
  split at hi
  · next h => exact h.2 i hi
  · have hlt := List.mem_range.1 hi
    omega

/-- The logs of a result, each as it is stored at its index or at its place. -/
theorem zipWith_storedLog (logs : List LogMessage) :
    List.zipWith storedLog (logIndexes logs) logs =
      logs.mapIdx fun i log =>
        storedLog (if (logs.map (·.index)).Nodup ∧
          ∀ j ∈ logs.map (·.index), j ≤ maxIndex then log.index else i) log := by
  have hlength := length_logIndexes logs
  refine List.ext_getElem (by simp [hlength]) fun i hi hi' => ?_
  rw [List.getElem_zipWith, List.getElem_mapIdx]
  simp only [logIndexes]
  split
  · rw [List.getElem_map]
  · rw [List.getElem_range]

theorem map_index_zipWith (logs : List LogMessage) :
    (List.zipWith storedLog (logIndexes logs) logs).map (·.index) =
      (logIndexes logs).map Int.ofNat := by
  have hlength := length_logIndexes logs
  refine List.ext_getElem (by simp [hlength]) fun i hi hi' => ?_
  rw [List.getElem_map, List.getElem_zipWith, List.getElem_map]
  rfl

/-- A result was made of a message. -/
theorem exists_message_of_decode {raw : Option RawResponse} {execution : Execution}
    (h : decode raw = some execution) :
    ∃ message : ExecutionMessage, ofMessage? message = some execution := by
  simp only [decode, ofBytes?, Option.bind_eq_bind, Option.bind_eq_some_iff] at h
  obtain ⟨_, -, _, -, _, -, _, -, hread⟩ := h
  split at hread
  · obtain ⟨message, -, hmessage⟩ := Option.bind_eq_some_iff.1 hread
    exact ⟨message, hmessage⟩
  · cases hread

/-- The gas in the message fits its column. -/
theorem exists_of_decode {raw : Option RawResponse} {execution : Execution}
    (h : decode raw = some execution) :
    ∃ message : ExecutionMessage, message.gasUsed ≤ maxGas ∧
      execution.gasUsed = message.gasUsed ∧
      execution.logs =
        List.zipWith storedLog (logIndexes message.logs) message.logs := by
  obtain ⟨message, hmessage⟩ := exists_message_of_decode h
  unfold ofMessage? at hmessage
  split at hmessage
  · cases hmessage
  · next hgas =>
      cases hmessage
      exact ⟨message, Nat.not_lt.1 hgas, rfl, rfl⟩

/-- An error that a result tells is not empty. -/
theorem vmError_ne_empty_of_decode {raw : Option RawResponse} {execution : Execution}
    (h : decode raw = some execution) {text : String}
    (htext : execution.vmError = some text) : text ≠ "" := by
  obtain ⟨message, hmessage⟩ := exists_message_of_decode h
  unfold ofMessage? at hmessage
  split at hmessage
  · cases hmessage
  · cases hmessage
    simp only at htext
    split at htext
    · cases htext
    · next hnonempty =>
        cases htext
        exact hnonempty

/-- No two logs of a result share an index. -/
theorem nodup_of_decode {raw : Option RawResponse} {execution : Execution}
    (h : decode raw = some execution) :
    (execution.logs.map (·.index)).Nodup := by
  obtain ⟨message, -, -, hlogs⟩ := exists_of_decode h
  rw [hlogs, map_index_zipWith]
  exact List.Nodup.map (fun _ _ heq => Int.ofNat.inj heq)
    (nodup_logIndexes message.logs)

theorem gasUsed_le_of_decode {raw : Option RawResponse} {execution : Execution}
    (h : decode raw = some execution) : execution.gasUsed ≤ maxGas := by
  obtain ⟨message, hgas, hused, -⟩ := exists_of_decode h
  rwa [hused]

theorem index_of_decode {raw : Option RawResponse} {execution : Execution}
    (h : decode raw = some execution)
    (hlength : execution.logs.length ≤ maxIndex + 1) {log : Log}
    (hlog : log ∈ execution.logs) : 0 ≤ log.index ∧ log.index ≤ maxIndex := by
  obtain ⟨message, -, -, hlogs⟩ := exists_of_decode h
  have hmem : log.index ∈ (logIndexes message.logs).map Int.ofNat := by
    rw [← map_index_zipWith, ← hlogs]
    exact List.mem_map_of_mem hlog
  obtain ⟨i, hi, hindex⟩ := List.mem_map.1 hmem
  have hcount : message.logs.length ≤ maxIndex + 1 := by
    rwa [hlogs, List.length_zipWith, length_logIndexes, Nat.min_self] at hlength
  have hle := le_of_mem_logIndexes hcount hi
  rw [← hindex]
  exact ⟨Int.natCast_nonneg i, Int.ofNat_le.2 hle⟩

end EvmIndexer.Execution
