import AgentSync.Queue.Workers
import AgentSync.Retry
import AgentSync.Settings.Variables

namespace AgentSync

namespace RetryPolicy

/-- The default policy, with the parts that the environment sets. -/
def ofVariables (vars : Variables) : RetryPolicy where
  maxAttempts := vars.int32 "EVENT_MAX_ATTEMPTS" (default : RetryPolicy).maxAttempts
  baseDelay := vars.seconds "EVENT_BASE_DELAY_SECS" (default : RetryPolicy).baseDelay
  exponent := vars.int32 "EVENT_BACKOFF_EXPONENT" (default : RetryPolicy).exponent

end RetryPolicy

namespace ConsumerSettings

/-- The default settings, with the parts that the environment sets. A timeout of zero counts as
not set. -/
def ofVariables (vars : Variables) : ConsumerSettings where
  numConsumers :=
    max ((vars.word64? "NUM_CONSUMERS").getD (default : ConsumerSettings).numConsumers) 1
  notifyTimeout :=
    match vars.word64? "NOTIFY_TIMEOUT_SECS" with
    | none | some 0 => (default : ConsumerSettings).notifyTimeout
    | some n => .ofSeconds n

end ConsumerSettings

end AgentSync
