import CallGateway.Deployment
import CallGateway.Directory.Readiness
import CallGateway.Procedure.Builtin
import CallGateway.Server.Error
import CallGateway.Settings

/-! A server: one gateway with its listener, and the pools of workers that the settings ask for,
all on one deployment. -/

namespace CallGateway

/-- A pool as it is listed for callers. -/
structure PoolInfo where
  service : String
  topics : List String
  replicas : Nat
  concurrency : UInt64
  procedures : Json.Value

def PoolInfo.toJson (p : PoolInfo) : Json.Value :=
  .object [("service", .string p.service), ("topics", .strings p.topics),
    ("replicas", .ofUInt64 (UInt64.ofNat p.replicas)), ("concurrency", .ofUInt64 p.concurrency),
    ("procedures", p.procedures)]

/-- A worker that the server has registered. -/
structure Replica where
  service : String
  instanceId : Uuid
  /-- Its position among the workers of the deployment. -/
  worker : Nat

structure Server where
  settings : Settings
  deployment : Deployment
  listener : Subscription
  replicas : List Replica := []
  pools : List PoolInfo := []
  /-- Identifiers that nobody else uses. -/
  fresh : Nat → Uuid
  /-- How many of them have been used. -/
  used : Nat
  /-- The calendar time of the start. -/
  startedAt : Instant

namespace Server

def version : String := "0.1.0"

/-- Milliseconds between two looks at the directory at the start. -/
def readinessInterval : Nat := 50

/-- The greatest number of replicas for which there is an address space. -/
def replicaLimit : Nat := (2 ^ 63 - 1) / 88

/-- Register the built-in procedures of a pool, in order. -/
def register (service : String) (clock : Nat) (b : Catalog.Builder) :
    List String → Except CatalogError Catalog.Builder
  | [] => .ok b
  | name :: names => do register service clock (← b.registerBuiltin service clock name) names

/-- The catalog of a pool. -/
def catalog (p : PoolSettings) (clock : Nat) : Except CatalogError Catalog := do
  (← register p.service clock {} p.procedures).build

/-- Start a replica and register it. -/
def startReplica (s : Server) (p : PoolSettings) (c : Catalog) :
    Except (Obstacle ServerError) Server := do
  let (started, d) := s.deployment.startWorker (p.worker s.settings.gateway.topicSuffix) c
  started.mapError (·.map .worker)
  let id := s.fresh s.used
  match d.directory.register p.service id with
  | .error e => .error (.error (.directory e))
  | .ok directory =>
    return { s with
      deployment := { d with directory }
      replicas := s.replicas ++ [⟨p.service, id, s.deployment.workers.length⟩]
      used := s.used + 1 }

def startReplicas (p : PoolSettings) (c : Catalog) :
    Nat → Server → Except (Obstacle ServerError) Server
  | 0, s => .ok s
  | n + 1, s => do startReplicas p c n (← s.startReplica p c)

/-- How a pool is listed. -/
def listing (p : PoolSettings) (topicSuffix : String) (c : Catalog) : PoolInfo where
  service := serviceName p.service
  topics := (p.worker topicSuffix).topics
  replicas := p.replicas.toNat
  concurrency := p.concurrency
  procedures := c.descriptorsJson

def startPool (s : Server) (p : PoolSettings) : Except (Obstacle ServerError) Server := do
  let c ← (catalog p s.deployment.clock).mapError fun e => .error (.catalog e)
  if replicaLimit < p.replicas.toNat then .error .breakdown
  else
    let s ← startReplicas p c p.replicas.toNat s
    return { s with pools := s.pools ++ [listing p s.settings.gateway.topicSuffix c] }

def startPools (s : Server) : List PoolSettings → Except (Obstacle ServerError) Server
  | [] => .ok s
  | p :: ps => do startPools (← s.startPool p) ps

/-- Wait until the directory has something to show, or until the time for it is over. -/
def awaitReadiness (s : Server) : Server :=
  let d := s.deployment
  let w : Readiness.Wait :=
    { answers := fun _ => d.directory.list
      start := d.clock
      maxWait := s.settings.gateway.readinessWait.toNat
      interval := readinessInterval }
  { s with deployment := d.moveTo w.verdict.time }

/-- Start the gateway with its listener, then the pools in order. -/
def start (settings : Settings) (fresh : Nat → Uuid) (calendar : Nat → Instant) :
    Except (Obstacle ServerError) Server := do
  let gateway : Gateway := { config := settings.gateway.config (fresh 0) }
  let (listener, gateway, broker) ←
    (gateway.startListener {}).mapError fun e => .error (.broker e)
  let d : Deployment := { broker, gateways := [gateway], calendar }
  let s : Server :=
    { settings, deployment := d, listener, fresh, used := 1, startedAt := d.now }
  let s ← s.startPools settings.pools
  let s := if settings.pools.isEmpty then s else s.awaitReadiness
  return { s with startedAt := s.deployment.now }

/-- Deregister and stop the replicas, then the listener. Instances that others have registered
stay. -/
def shutdown (s : Server) : Server :=
  let d := s.replicas.foldl (fun (d : Deployment) r =>
    let directory := match d.directory.deregister r.service r.instanceId with
      | .ok directory => directory
      | .error _ => d.directory
    { d with directory }.stopWorker r.worker) s.deployment
  { s with deployment := d.stopListener 0 s.listener, replicas := [] }

def gatewayConfig (s : Server) : GatewayConfig :=
  match s.deployment.gateways.head? with
  | some g => g.config
  | none => s.settings.gateway.config (s.fresh 0)

def pendingStats (s : Server) : PendingStats :=
  match s.deployment.gateways.head? with
  | some g => g.pending.stats
  | none => ({} : PendingTable).stats

end Server

end CallGateway
