import AgentSync.Proofs.Beside
import AgentSync.Proofs.Degradation.Calls

namespace AgentSync.RowWriter

open AgentSync.Action

/-- The writer with its calls and their answers written down. -/
def recorded {σ : Type} (writer : RowWriter σ) : RowWriter (Beside (List SaveRecord) σ) where
  saveBatch table rows := Beside.noting (⟨.batch table rows, ·⟩) (writer.saveBatch table rows)
  saveOne table row := Beside.noting (⟨.one table row, ·⟩) (writer.saveOne table row)

end AgentSync.RowWriter
