namespace AgentSync.Defaults

/-- An event with more failed attempts is left alone. -/
def eventMaxAttempts : Int := 3

/-- The waiting time after the first failed attempt, in seconds. -/
def eventBaseDelaySeconds : Nat := 60

/-- The power with which waiting times grow. -/
def eventBackoffExponent : Int := 5

/-- The size of a batch where zero events are asked for. -/
def eventBatchSize : Nat := 1

/-- The channel on which those that enqueue events notify those that handle them. -/
def eventNotifyChannel : String := "event_queue_updates"

def numConsumers : Nat := 1

/-- The time after which a worker looks at the queue without a notification, in seconds. -/
def notifyTimeoutSeconds : Nat := 60

/-- The pause after a failure, in milliseconds. -/
def consumerErrorDelayMillis : Nat := 1000

/-- The size of the batches in which changed rows are forwarded. -/
def pushQueueBatchSize : Nat := 50

/-- The longest pause before another attempt to listen, in seconds. -/
def listenerMaxReconnectSeconds : Nat := 60

/-- The size of the ring of claimed events; zero keeps none. -/
def eventRingSize : Nat := 0

/-- The size of each ring of records of runs. -/
def jobHistoryRingSize : Nat := 10

/-- The time a request to the hub may take, in seconds. -/
def hubTimeoutSeconds : Nat := 60

/-- The size of the pages that are compared. -/
def reconcilePageSize : Int := 500

/-- The time between sweeps over all tables, in seconds. -/
def reconcileIntervalSeconds : Nat := 3600

/-- The window of time that the sweeps in between cover, in seconds. -/
def reconcileRecentWindowSeconds : Nat := 6 * 3600

/-- The number of rows pushed at a time when all rows that the hub lacks are pushed. -/
def pushUnpushedBatchSize : Int := 200

/-- The number of cycles in which rows that refer to missing ones are tried. -/
def conflictMaxRetries : Nat := 3

/-- The number of the endpoint that the server listens on. -/
def serverEndpoint : Nat := 8080

/-- The size of the largest body that the server reads, in bytes. -/
def maxBodyBytes : Nat := 64 * 1024 * 1024

end AgentSync.Defaults
