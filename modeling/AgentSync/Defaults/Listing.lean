import AgentSync.Defaults
import AgentSync.Json.Basic

namespace AgentSync.Defaults

/-- All default values under the names by which they are reported. -/
def listing : Dict Json := Dict.ofList [
  ("EVENT_MAX_ATTEMPTS", .ofInt eventMaxAttempts),
  ("EVENT_BASE_DELAY_SECS", .ofNat eventBaseDelaySeconds),
  ("EVENT_BACKOFF_EXPONENT", .ofInt eventBackoffExponent),
  ("EVENT_BATCH_SIZE", .ofNat eventBatchSize),
  ("EVENT_NOTIFY_CHANNEL", .str eventNotifyChannel),
  ("NUM_CONSUMERS", .ofNat numConsumers),
  ("NOTIFY_TIMEOUT_SECS", .ofNat notifyTimeoutSeconds),
  ("CONSUMER_ERROR_DELAY_MS", .ofNat consumerErrorDelayMillis),
  ("PUSH_QUEUE_BATCH_SIZE", .ofNat pushQueueBatchSize),
  ("LISTENER_MAX_RECONNECT_SECS", .ofNat listenerMaxReconnectSeconds),
  ("EVENT_RING_SIZE", .ofNat eventRingSize),
  ("JOB_HISTORY_RING_SIZE", .ofNat jobHistoryRingSize),
  ("UPSTREAM_TIMEOUT_SECS", .ofNat hubTimeoutSeconds),
  ("RECONCILE_PAGE_SIZE", .ofInt reconcilePageSize),
  ("RECONCILE_INTERVAL_SECS", .ofNat reconcileIntervalSeconds),
  ("RECONCILE_RECENT_WINDOW_SECS", .ofNat reconcileRecentWindowSeconds),
  ("PUSH_UNPUSHED_BATCH_SIZE", .ofInt pushUnpushedBatchSize),
  ("FK_MAX_RETRIES", .ofNat conflictMaxRetries),
  ("SERVER_PORT", .ofNat serverEndpoint),
  ("MAX_BODY_SIZE_BYTES", .ofNat maxBodyBytes)]

end AgentSync.Defaults
