import AgentSync.Settings.Variables
import AgentSync.Word

namespace AgentSync

/-- How many connections a pool keeps and for how long. -/
structure PoolSettings where
  maxConnections : Nat
  minConnections : Nat
  connectTimeout : Duration
  idleTimeout : Duration
  /-- The age at which a connection is closed, if there is one. -/
  maxLifetime : Option Duration
  deriving DecidableEq, Repr

namespace PoolSettings

instance : Inhabited PoolSettings :=
  ⟨⟨10, 1, .ofSeconds 30, .ofSeconds 600, some (.ofSeconds 1800)⟩⟩

/-- The default settings, with the parts that the environment sets. There is at least one
connection, and no more are kept than there may be. -/
def ofVariables (vars : Variables) : PoolSettings :=
  let defaults : PoolSettings := default
  let maxConnections := max (vars.word32 "DB_MAX_CONNECTIONS" defaults.maxConnections) 1
  { defaults with
    maxConnections
    minConnections :=
      min (vars.word32 "DB_MIN_CONNECTIONS" defaults.minConnections) maxConnections
    connectTimeout := vars.seconds "DB_CONNECT_TIMEOUT_SECS" defaults.connectTimeout }

/-- Leaves room for a connection of each consumer and two more. The number is a 32-bit word. -/
def forConsumers (settings : PoolSettings) (numConsumers : Nat) : PoolSettings :=
  let needed := Word.low32 (numConsumers + 2)
  if settings.maxConnections < needed then { settings with maxConnections := needed }
  else settings

def withMaxConnections (settings : PoolSettings) (n : Nat) : PoolSettings :=
  { settings with maxConnections := n }

def withMinConnections (settings : PoolSettings) (n : Nat) : PoolSettings :=
  { settings with minConnections := n }

def withConnectTimeout (settings : PoolSettings) (timeout : Duration) : PoolSettings :=
  { settings with connectTimeout := timeout }

def withIdleTimeout (settings : PoolSettings) (timeout : Duration) : PoolSettings :=
  { settings with idleTimeout := timeout }

def withMaxLifetime (settings : PoolSettings) (lifetime : Option Duration) : PoolSettings :=
  { settings with maxLifetime := lifetime }

end PoolSettings

end AgentSync
