import AgentSync.Store.Rows
import AgentSync.Sync.Push

namespace AgentSync.RowStore

/-- The stored rows as a sync needs them. -/
def source {ω : Type} (store : RowStore ω) : LocalSource ω where
  digest request := World.inside (store.digest request)
  rowsInWindow request := World.inside (store.rowsInWindow request)
  rowsByKeys table keys := World.inside (store.rowsByKeys table keys)
  unpushedRows table limit := World.inside (store.unpushedRows table limit)
  markPushed table keys := World.inside (store.markPushed table keys)
  markUnpushed table keys := World.inside (store.markUnpushed table keys)
  syncAfterCursor table window := World.inside (store.syncAfterCursor table window)

end AgentSync.RowStore
