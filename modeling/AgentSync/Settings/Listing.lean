import AgentSync.Json.Basic
import AgentSync.Settings.Hub
import AgentSync.Settings.Pool
import AgentSync.Settings.Queue

namespace AgentSync

/-- A duration as whole seconds, in decimal digits since they may be many, and the nanoseconds left
over. -/
def Duration.toJson (duration : Duration) : Json :=
  .object [("secs", .str (toString duration.seconds)), ("nanos", .ofNat duration.subsecond)]

def RetryPolicy.toJson (policy : RetryPolicy) : Json :=
  .object [
    ("max_attempts", .ofInt policy.maxAttempts),
    ("base_delay", policy.baseDelay.toJson),
    ("exponent", .ofInt policy.exponent)]

def ConsumerSettings.toJson (settings : ConsumerSettings) : Json :=
  .object [
    ("num_consumers", .ofNat settings.numConsumers),
    ("notify_timeout", settings.notifyTimeout.toJson)]

def PoolSettings.toJson (settings : PoolSettings) : Json :=
  .object [
    ("max_connections", .ofNat settings.maxConnections),
    ("min_connections", .ofNat settings.minConnections),
    ("connect_timeout", settings.connectTimeout.toJson),
    ("idle_timeout", settings.idleTimeout.toJson),
    ("max_lifetime", (settings.maxLifetime.map Duration.toJson).getD .null)]

def HubSettings.toJson (settings : HubSettings) : Json :=
  .object [
    ("host", .str settings.host),
    ("username", .ofOption settings.username),
    ("password", .ofOption settings.password),
    ("agent_name", .str settings.agentName),
    ("labels", .ofTexts settings.labels),
    ("timeout", settings.timeout.toJson)]

end AgentSync
