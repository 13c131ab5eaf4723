import CallGateway.Gateway.Config
import CallGateway.Json.Record
import CallGateway.Procedure.Builtin
import CallGateway.SocketAddress
import CallGateway.Worker.Config

/-! The settings of a server: where it listens, its gateway, the pools of workers that it runs, and
what it logs. Every setting has a default but the name of a pool. -/

namespace CallGateway

open Json Fields

structure ListenSettings where
  address : SocketAddress := .localhost 8080
  /-- Allow requests from pages of any origin. -/
  enableCors : Bool := true
  deriving DecidableEq

structure GatewaySettings where
  /-- A fresh one is made up where none is given. -/
  instanceId : Option String := none
  /-- How long a call may take, in milliseconds. -/
  requestTimeout : UInt64 := 30000
  topicSuffix : String := defaultTopicSuffix
  /-- How long to wait at the start for services to show, in milliseconds. -/
  readinessWait : UInt64 := 2000
  deriving DecidableEq

structure PoolSettings where
  /-- The name of the pool, in any spelling. -/
  service : String
  /-- The built-in procedures that it hosts. -/
  procedures : List String := Procedure.builtinNames
  replicas : UInt64 := 1
  /-- How many calls a replica may execute at the same time. -/
  concurrency : UInt64 := 3
  executionTimeout : Option UInt64 := none
  strict : Bool := false
  deriving DecidableEq

structure LogSettings where
  level : String := "info"
  json : Bool := false
  deriving DecidableEq

structure Settings where
  listen : ListenSettings := {}
  gateway : GatewaySettings := {}
  pools : List PoolSettings := [{ service := "client-1" }]
  log : LogSettings := {}
  deriving DecidableEq

namespace ListenSettings

def decoder : Decoder ListenSettings :=
  Fields.decoder "ServerConfig" <|
    ListenSettings.mk <$> optional "listen_addr" SocketAddress.decoder (.localhost 8080)
      <*> optional "enable_cors" .bool true

def toJson (s : ListenSettings) : Value :=
  .object [("listen_addr", s.address.toJson), ("enable_cors", .bool s.enableCors)]

end ListenSettings

namespace GatewaySettings

def decoder : Decoder GatewaySettings :=
  Fields.decoder "GatewaySettings" <|
    GatewaySettings.mk <$> optional "instance_id" (.option .string) none
      <*> optional "request_timeout_ms" (.uint64 "u64") 30000
      <*> optional "topic_suffix" .string defaultTopicSuffix
      <*> optional "readiness_wait_ms" (.uint64 "u64") 2000

def toJson (s : GatewaySettings) : Value :=
  .object [("instance_id", .ofOption .string s.instanceId),
    ("request_timeout_ms", .ofUInt64 s.requestTimeout), ("topic_suffix", .string s.topicSuffix),
    ("readiness_wait_ms", .ofUInt64 s.readinessWait)]

/-- The name of a gateway that has been given none. -/
def generatedId (fresh : Uuid) : String := "gateway-" ++ fresh.simple

/-- The configuration of the gateway, where `fresh` has not been used before. -/
def config (s : GatewaySettings) (fresh : Uuid) : GatewayConfig where
  instanceId := s.instanceId.getD (generatedId fresh)
  requestTimeout := s.requestTimeout
  topicSuffix := s.topicSuffix

end GatewaySettings

namespace PoolSettings

def decoder : Decoder PoolSettings :=
  Fields.decoder "WorkerPoolConfig" <|
    PoolSettings.mk <$> required "service" .string
      <*> optional "procedures" (.list .string) Procedure.builtinNames
      <*> optional "replicas" (.uint64 "usize") 1
      <*> optional "concurrency" (.uint64 "usize") 3
      <*> optional "execution_timeout_ms" (.option (.uint64 "u64")) none
      <*> optional "strict_parameters" .bool false

def toJson (s : PoolSettings) : Value :=
  .object [("service", .string s.service), ("procedures", .strings s.procedures),
    ("replicas", .ofUInt64 s.replicas), ("concurrency", .ofUInt64 s.concurrency),
    ("execution_timeout_ms", .ofOption .ofUInt64 s.executionTimeout),
    ("strict_parameters", .bool s.strict)]

/-- The configuration that all replicas of the pool share. -/
def worker (s : PoolSettings) (topicSuffix : String) : WorkerConfig where
  service := s.service
  concurrency := s.concurrency
  executionTimeout := s.executionTimeout
  topicSuffix
  strict := s.strict

end PoolSettings

namespace LogSettings

def decoder : Decoder LogSettings :=
  Fields.decoder "LoggingConfig" <|
    LogSettings.mk <$> optional "level" .string "info" <*> optional "json" .bool false

def toJson (s : LogSettings) : Value :=
  .object [("level", .string s.level), ("json", .bool s.json)]

end LogSettings

namespace Settings

def decoder : Decoder Settings :=
  Fields.decoder "DaemonConfig" <|
    Settings.mk <$> optional "server" ListenSettings.decoder {}
      <*> optional "gateway" GatewaySettings.decoder {}
      <*> optional "workers" (.list PoolSettings.decoder) [{ service := "client-1" }]
      <*> optional "logging" LogSettings.decoder {}

def toJson (s : Settings) : Value :=
  .object [("server", s.listen.toJson), ("gateway", s.gateway.toJson),
    ("workers", .array (s.pools.map PoolSettings.toJson)), ("logging", s.log.toJson)]

end Settings

end CallGateway
