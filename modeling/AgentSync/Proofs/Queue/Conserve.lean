import AgentSync.Proofs.PushQueue.Order
import AgentSync.Proofs.PushQueue.Report
import AgentSync.Proofs.Queue.Batch

namespace AgentSync

open AgentSync.Action

variable {ω : Type}

namespace BatchConsumer

end BatchConsumer

end AgentSync
