import CallGateway.Json.Print
import CallGateway.Procedure.Coercion
import CallGateway.ServiceName

/-! The configuration of one replica of a pool of workers. -/

namespace CallGateway

structure WorkerConfig where
  /-- The name of the pool, in any spelling. -/
  service : String
  /-- Topics to consume besides the request topic of the pool. -/
  extraTopics : List String := []
  group : Option String := none
  /-- How many calls may be executed at the same time. -/
  concurrency : UInt64 := 3
  /-- The budget of one execution in milliseconds. -/
  executionTimeout : Option UInt64 := none
  topicSuffix : String := defaultTopicSuffix
  /-- Refuse `null` as parameters. -/
  strict : Bool := false
  deriving DecidableEq

namespace WorkerConfig

open Json Fields

/-- The items in the order of their first appearance. -/
def distinct (seen : List String) : List String → List String
  | [] => []
  | x :: xs => if seen.contains x then distinct seen xs else x :: distinct (seen ++ [x]) xs

/-- The topics that the pool consumes, the one that gateways send to first. -/
def topics (c : WorkerConfig) : List String :=
  distinct [] (requestTopic c.service c.topicSuffix :: c.extraTopics)

def consumerGroup (c : WorkerConfig) : String :=
  c.group.getD ("worker-" ++ serviceName c.service)

def coercer (c : WorkerConfig) : Coercer := if c.strict then .strict else .lenient

def decoder : Decoder WorkerConfig :=
  Fields.decoder "WorkerConfig" <|
    WorkerConfig.mk <$> required "service" .string
      <*> optional "topics" (.list .string) []
      <*> optional "consumer_group" (.option .string) none
      <*> optional "concurrency" (.uint64 "usize") 3
      <*> optional "execution_timeout_ms" (.option (.uint64 "u64")) none
      <*> optional "topic_suffix" .string defaultTopicSuffix
      <*> optional "strict_parameters" .bool false

def toJson (c : WorkerConfig) : Value :=
  .object [("service", .string c.service), ("topics", .strings c.extraTopics),
    ("consumer_group", .ofOption .string c.group), ("concurrency", .ofUInt64 c.concurrency),
    ("execution_timeout_ms", .ofOption .ofUInt64 c.executionTimeout),
    ("topic_suffix", .string c.topicSuffix), ("strict_parameters", .bool c.strict)]

end WorkerConfig

end CallGateway
