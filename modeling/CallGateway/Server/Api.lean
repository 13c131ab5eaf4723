import CallGateway.Http.MediaType
import CallGateway.Http.Message
import CallGateway.Server
import CallGateway.Server.Identity

/-! The interface of a server for callers over HTTP: its health, its procedures, and their calls. -/

namespace CallGateway

/-- Why a request is not answered with the reply to a call. -/
inductive ApiError
  | gateway (e : GatewayError)
  | badRequest (what : String)

namespace ApiError

def message : ApiError → String
  | .gateway e => e.message
  | .badRequest what => s!"Bad request: {what}"

def code : ApiError → String
  | .gateway e => e.code
  | .badRequest _ => "BAD_REQUEST"

def status : ApiError → Nat
  | .gateway (.serviceNotFound ..) | .gateway (.brokerPublish ..) => 503
  | .gateway (.timeout ..) => 408
  | .gateway .blankProcedureName | .gateway (.unnamedService _)
  | .gateway (.invalidRequest _) => 400
  | .gateway (.duplicateRequest _) => 409
  | .gateway (.interrupted _) | .gateway (.encoding _) => 500
  | .badRequest _ => 400

def requestId? : ApiError → Option Uuid
  | .gateway e => e.requestId?
  | .badRequest _ => none

def toJson (e : ApiError) : Json.Value :=
  .object <| (e.requestId?.toList.map fun id => ("requestId", id.toJson))
    ++ [("success", .bool false), ("errorMessage", .string e.message), ("code", .string e.code)]

end ApiError

def PendingStats.toJson (s : PendingStats) : Json.Value :=
  .object [("inFlight", .ofUInt64 s.inFlight), ("completed", .ofUInt64 s.completed),
    ("timedOut", .ofUInt64 s.timedOut), ("failed", .ofUInt64 s.failed),
    ("interrupted", .ofUInt64 s.interrupted), ("droppedReplies", .ofUInt64 s.droppedReplies)]

namespace Server

open Http (Request Response)

def jsonResponse (status : Nat) (v : Json.Value) : Response :=
  ⟨status, [("content-type", "application/json")], v.print⟩

def emptyResponse (status : Nat) : Response := { status }

def errorResponse (e : ApiError) : Response := jsonResponse e.status e.toJson

/-! ## Routes -/

inductive Route
  | health
  | procedures
  /-- Calls are answered when they end, on both of the paths for them. -/
  | execute
  deriving DecidableEq

def Route.ofPath? (path : String) : Option Route :=
  match path with
  | "/api/v1/health" => some .health
  | "/api/v1/procedures" => some .procedures
  | "/api/v1/procedures/execute" | "/api/v1/procedures/execute-async" => some .execute
  | _ => none

def Route.methods : Route → List String
  | .health | .procedures => ["GET", "HEAD"]
  | .execute => ["POST"]

/-! ## Answers -/

/-- How long a server has been up, in the two largest units that fit. -/
def uptimeText (seconds : Int) : String :=
  if seconds < 60 then s!"{seconds}s"
  else
    let n := seconds.toNat
    let (minutes, hours, days) := (n / 60, n / 3600, n / 86400)
    if n < 3600 then
      let left := n % 60
      s!"{minutes}m {left}s"
    else if n < 86400 then
      let left := n % 3600 / 60
      s!"{hours}h {left}m"
    else
      let left := n % 86400 / 3600
      s!"{days}d {left}h"

def health (s : Server) : Json.Value :=
  let seconds := (s.deployment.now.epochMillis - s.startedAt.epochMillis).tdiv 1000
  .object [("status", .string "healthy"), ("version", .string version),
    ("uptime", .string (uptimeText seconds)), ("startedAt", s.startedAt.toJson),
    ("instanceId", .string s.gatewayConfig.instanceId),
    ("replyTopic", .string s.gatewayConfig.replyTopic),
    ("pending", s.pendingStats.toJson),
    ("services", .strings s.deployment.directory.known)]

def procedures (s : Server) : Json.Value := .array (s.pools.map PoolInfo.toJson)

/-- The body of a request says that it is JSON. -/
def hasJsonBody (r : Request) : Bool :=
  match (Http.text? r.headers "content-type").bind Http.MediaType.parse? with
  | some m => m.isJson
  | none => false

/-- The most bytes that the body of a request may have. -/
def bodyLimit : Nat := 2 * 1024 * 1024

/-- The call in the body of a request. What follows it in the body does not matter. -/
def callOf (r : Request) : Except ApiError Call :=
  if !hasJsonBody r then
    .error (.badRequest "Expected request with `Content-Type: application/json`")
  else if bodyLimit < r.body.length then
    .error (.badRequest "Failed to buffer the request body: length limit exceeded")
  else
    (Json.decodeFront Call.decoder r.body).mapError fun p =>
      match p.fault with
      | .malformed => .badRequest s!"Failed to parse the request body as JSON: {p.message}"
      | _ =>
        .badRequest
          s!"Failed to deserialize the JSON body into the target type: {p.locatedMessage}"

/-- Enter a call. -/
def enter (s : Server) (c : Call) (caller : Metadata) : Except GatewayError Handle × Server :=
  let id := s.fresh s.used
  let s := { s with used := s.used + 1 }
  let e := Envelope.ofCall id c s.gatewayConfig.replyTopic caller s.deployment.now
  match s.deployment.submit 0 e with
  | none => (.error (.interrupted id), s)
  | some (.error e) => (.error e, s)
  | some (.ok (h, d)) => (.ok h, { s with deployment := d })

/-- Enter a call and wait for its end. -/
def call (s : Server) (c : Call) (caller : Metadata) : CallResult × Server :=
  match s.enter c caller with
  | (.error e, s) => (.error e, s)
  | (.ok h, s) =>
    let (result, d) := s.deployment.await 0 h
    (result, { s with deployment := d })

def callResponse : CallResult → Response
  | .ok reply => jsonResponse 200 reply.toJson
  | .error e => errorResponse (.gateway e)

def execute (s : Server) (r : Request) : Response × Server :=
  match callOf r with
  | .error e => (errorResponse e, s)
  | .ok c =>
    let (result, s) := s.call c (identity r.headers)
    (callResponse result, s)

/-- Answer a request on a route, if the method is one of the route. -/
def serve (s : Server) (route : Route) (r : Request) : Response × Server :=
  if route.methods.contains r.method then
    match route with
    | .health => (jsonResponse 200 s.health, s)
    | .procedures => (jsonResponse 200 s.procedures, s)
    | .execute => s.execute r
  else (emptyResponse 405, s)

/-- The methods of a route, told to those who have used another one. -/
def allowHeader (route : Route) : String × String := ("allow", ",".intercalate route.methods)

/-! ## Requests from pages of other origins -/

def corsOrigin : String × String := ("access-control-allow-origin", "*")

def corsHeaders : List (String × String) :=
  [("access-control-allow-headers", "*"), ("access-control-allow-methods", "*"), corsOrigin]

/-- Put headers in front of those of a response. -/
def withHeaders (headers : List (String × String)) (r : Response) : Response :=
  { r with headers := headers ++ r.headers }

/-- A page asks what it may do; it is told without regard to the path. -/
def isPreflight (s : Server) (r : Request) : Bool :=
  s.settings.listen.enableCors && r.method == "OPTIONS"

/-- The response as it is sent: with what other origins and callers with another method are told,
and without a body where only the head is wanted. -/
def finish (s : Server) (r : Request) (response : Response) : Response :=
  let allow := match Route.ofPath? r.path with
    | some route => if route.methods.contains r.method then [] else [allowHeader route]
    | none => []
  let cors :=
    if s.isPreflight r then corsHeaders
    else if s.settings.listen.enableCors then [corsOrigin]
    else []
  let response := withHeaders (cors ++ allow) response
  if r.method = "HEAD" then { response with body := [] } else response

/-- Answer a request. -/
def handle (s : Server) (r : Request) : Response × Server :=
  let (response, s) :=
    if s.isPreflight r then (emptyResponse 200, s)
    else match Route.ofPath? r.path with
      | none => (emptyResponse 404, s)
      | some route => s.serve route r
  (s.finish r response, s)

end Server

end CallGateway
