import PromiseHttp.Rehearsal.Network
import PromiseHttp.Rehearsal.PeerReading
import PromiseHttp.Rehearsal.Routes
import PromiseHttp.Rehearsal.ServerScript
import PromiseHttp.Rehearsal.Service

namespace PromiseHttp

/-!
# Rehearsing a server

A server can be tried against named peers that follow a script.  A peer writes octets, each time in
one chunk, and reads what the server has written, response by response or up to the end.  Between
two steps the server does all that is possible without the passing of time.  Time passes only where
a step waits for something, and then from one wake-up of a sleeping handler to the next, so what a
step shows depends on the order of the wake-ups and on no other timing.
-/

/-- A named peer and how much it has read. -/
structure PeerLink where
  peer : PeerId
  seen : Nat

/-- A service, its peers and what is remembered between steps. -/
structure ServerScene where
  service : Service
  handler : TrialHandler
  files : Files
  /-- The most octets that a connection holds. -/
  limit : Nat
  gateOpen : Bool
  links : List (String × PeerLink)
  freePeer : PeerId
  /-- The calls of the handler, in order: the peer, and which of its requests. -/
  calls : List (PeerId × Nat)
  /-- What serving on a thread has come to. -/
  served : Except ServerFault Unit

namespace ServerScene

/-- What the connections depend on. -/
def surroundings (scene : ServerScene) : ServiceSurroundings :=
  ⟨scene.handler.call, scene.files,
    fun request => scene.gateOpen || !scene.handler.waits request⟩

/-- Notes the calls of the handler that have not been noted yet. -/
def noteCalls (scene : ServerScene) : ServerScene :=
  let fresh := scene.service.connections.flatMap fun connection =>
    let known := (scene.calls.filter fun call => call.1 == connection.peer).length
    (List.range (connection.handled.length - known)).map fun place =>
      (connection.peer, known + place)
  { scene with calls := scene.calls ++ fresh }

/-- Changes the service. -/
def withService (scene : ServerScene) (service : Service) : ServerScene :=
  noteCalls { scene with service := service }

/-- Lets the service do all that is possible. -/
def run (scene : ServerScene) : ServerScene :=
  scene.withService (scene.service.run scene.surroundings)

/-- Changes the connection of a peer and lets the service act on it. -/
def touch (scene : ServerScene) (peer : PeerId) (change : Connection → Connection) :
    ServerScene :=
  run { scene with service := scene.service.modify peer change }

/-! ## Time -/

/-- How long it takes until the next sleeping handler wakes up, if one sleeps. -/
def pause? (scene : ServerScene) : Option Nat :=
  (scene.service.connections.filterMap Connection.sleep?).min?

/-- Lets time pass, in milliseconds. -/
def elapse (scene : ServerScene) (time : Nat) : ServerScene :=
  run { scene with service := scene.service.elapse time }

/-- Lets handlers wake up until enough has happened or none sleeps, at most as often as the fuel
allows. -/
def wakeUntil (enough : ServerScene → Bool) : Nat → ServerScene → ServerScene
  | 0, scene => scene
  | fuel + 1, scene =>
    match scene.pause? with
    | none => scene
    | some time => if enough scene then scene else wakeUntil enough fuel (scene.elapse time)

/-- Waits until enough has happened or no handler sleeps.  Every wake-up makes a step of some
connection possible, so there are no more of them than such steps. -/
def waitUntil (scene : ServerScene) (enough : ServerScene → Bool) : ServerScene :=
  scene.wakeUntil enough (tally Connection.stepBound scene.service.connections)

/-- Waits until the workers that have been told to stop have come to their end. -/
def joinWorkers (scene : ServerScene) : ServerScene :=
  let scene := scene.waitUntil fun _ => false
  scene.withService (scene.service.endShutDown scene.surroundings)

/-! ## Peers -/

/-- The link of a name; a name that was never opened has none. -/
def link (scene : ServerScene) (name : String) : PeerLink :=
  (scene.links.lookup name).getD ⟨scene.freePeer, 0⟩

/-- Gives a link to a name. -/
def setLink (scene : ServerScene) (name : String) (link : PeerLink) : ServerScene :=
  { scene with links := (name, link) :: scene.links.filter fun entry => entry.1 != name }

/-- What a peer can still read, and whether there is nothing behind it. -/
def readable (scene : ServerScene) (link : PeerLink) : Octets × Bool :=
  match scene.service.find? link.peer with
  | none => ([], true)
  | some connection =>
    (connection.outbound.written.drop link.seen, connection.ending?.isSome)

/-- Reads up to the end. -/
def readRest (scene : ServerScene) (name : String) : ServerScene × ServerNote :=
  let link := scene.link name
  let scene := scene.waitUntil fun scene => (scene.readable link).2
  let octets := (scene.readable link).1
  (scene.setLink name { link with seen := link.seen + octets.length }, .rest octets)

/-- Reads a number of responses. -/
def readResponses (scene : ServerScene) (name : String) (count : Nat) :
    ServerScene × ServerNote :=
  let link := scene.link name
  let scene := scene.waitUntil fun scene =>
    let (octets, closed) := scene.readable link
    closed || (takeResponses count octets).length = count
  let (octets, closed) := scene.readable link
  let responses := takeResponses count octets
  let size := responses.flatten.length
  if responses.length < count && closed then
    (scene.setLink name { link with seen := link.seen + octets.length },
      .responses responses (some (octets.drop size)))
  else
    (scene.setLink name { link with seen := link.seen + size }, .responses responses none)

/-- Writes a chunk. -/
def feed (connection : Connection) (octets : Octets) : Connection :=
  { connection with inbound := connection.inbound.feed octets }

/-- Closes the way to the server. -/
def closeInbound (connection : Connection) : Connection :=
  { connection with inbound := connection.inbound.close }

/-- Closes both ways. -/
def hangUp (connection : Connection) : Connection :=
  { closeInbound connection with outbound := connection.outbound.deafen }

/-- Connects a new peer to the endpoint, if there is one that listens. -/
def connect? (scene : ServerScene) : Option (ServerScene × PeerId) :=
  match scene.service with
  | .pool _ => none
  | .endpoint endpoint =>
    match endpoint.arrive? scene.freePeer with
    | none => none
    | some endpoint =>
      some (run { scene with service := .endpoint endpoint, freePeer := scene.freePeer + 1 },
        scene.freePeer)

/-- Opens a connection under a name: at the address of an endpoint, or at once in a pool. -/
def openPeer (scene : ServerScene) (name : String) : ServerScene × ServerNote :=
  let named := (setLink scene name ⟨scene.freePeer, 0⟩)
  match scene.service with
  | .endpoint _ =>
    match named.connect? with
    | some (scene, _) => (scene, .nothing)
    | none => (scene, .nothing)
  | .pool pool =>
    let (chosen, pool) := pool.dispatch (.new scene.freePeer scene.limit)
    let after := run { named with service := .pool pool, freePeer := scene.freePeer + 1 }
    match chosen with
    | .ok worker => (after, .dispatched worker pool.loads)
    | .error fault => (after, .fault fault)

/-! ## Clients -/

/-- Lets a client send a draft; the connection it was sent on, if one was made. -/
def post (scene : ServerScene) (client : Client) (draft : RequestDraft) :
    ServerScene × Option PeerId :=
  match scene.connect? with
  | none => (scene, none)
  | some (scene, peer) =>
    (scene.touch peer fun connection => feed connection (draft.wire client.target), some peer)

/-- What a client has come to with a draft that was sent on a connection. -/
def outcome? (scene : ServerScene) (client : Client) (draft : RequestDraft)
    (peer : Option PeerId) : Option (Outcome Response) :=
  match peer with
  | none => (client.send draft (.error .refused) .empty).outcome
  | some peer =>
    let answer : Inbound := match scene.service.find? peer with
      | none => ⟨[], true⟩
      | some connection =>
        ⟨connection.outbound.chunks.map .octets, connection.ending?.isSome⟩
    (client.send draft (.ok .empty) answer).outcome

/-- Lets a client close its connections. -/
def leave (scene : ServerScene) (peers : List (Option PeerId)) : ServerScene :=
  (peers.filterMap id).foldl (fun scene peer => scene.touch peer hangUp) scene

/-- Sends drafts one after another. -/
def sendEach (scene : ServerScene) (client : Client) :
    List RequestDraft → ServerScene × List (Option (Outcome Response))
  | [] => (scene, [])
  | draft :: rest =>
    let (scene, peer) := scene.post client draft
    let scene := scene.waitUntil fun scene => (scene.outcome? client draft peer).isSome
    let outcome := scene.outcome? client draft peer
    let (scene, outcomes) := (scene.leave [peer]).sendEach client rest
    (scene, outcome :: outcomes)

/-- Sends drafts at once; the connections they were sent on. -/
def postAll (scene : ServerScene) (client : Client) :
    List RequestDraft → ServerScene × List (Option PeerId)
  | [] => (scene, [])
  | draft :: rest =>
    let (scene, peer) := scene.post client draft
    let (scene, peers) := scene.postAll client rest
    (scene, peer :: peers)

/-- Sends drafts at once and waits until what they have come to is enough. -/
def sendAll (scene : ServerScene) (client : Client) (drafts : List RequestDraft)
    (enough : List (Option (Outcome Response)) → Bool) :
    ServerScene × List (Option (Outcome Response)) :=
  let (scene, peers) := scene.postAll client drafts
  let outcomes (scene : ServerScene) : List (Option (Outcome Response)) :=
    List.zipWith (scene.outcome? client) drafts peers
  let scene := scene.waitUntil fun scene => enough (outcomes scene)
  (scene.leave peers, outcomes scene)

/-- Whether an outcome is a failure. -/
def isFailure : Option (Outcome Response) → Bool
  | some (.error _) => true
  | _ => false

/-- All responses, or the first failure. -/
def gatherAll (outcomes : List (Option (Outcome Response))) : ServerNote :=
  let failures := outcomes.filterMap fun
    | some (.error failure) => some failure
    | _ => none
  let responses := outcomes.filterMap fun
    | some (.ok response) => some response
    | _ => none
  match failures with
  | failure :: _ => .failed failure
  | [] => if responses.length = outcomes.length then .gathered responses else .timedOut

/-- The first response or failure, with its place. -/
def gatherAny (outcomes : List (Option (Outcome Response))) : ServerNote :=
  if outcomes.isEmpty then .failed .nothingToAwait
  else match outcomes.findIdx? Option.isSome with
    | none => .timedOut
    | some place =>
      match (outcomes[place]?).join with
      | some (.ok response) => .first place response
      | some (.error failure) => .failed failure
      | none => .timedOut

/-- Tries a client against the endpoint. -/
def tryClient (scene : ServerScene) (gathering : Gathering)
    (settings : Except ClientFault ClientSettings) (drafts : List RequestDraft) :
    ServerScene × ServerNote :=
  match scene.service with
  | .pool _ => (scene, .nothing)
  | .endpoint endpoint =>
    match settings.bind (Client.new ("http://" ++ endpoint.address.text)) with
    | .error fault => (scene, .clientFault fault)
    | .ok client =>
      match gathering with
      | .each =>
        let (scene, outcomes) := scene.sendEach client drafts
        (scene, .outcomes outcomes)
      | .all =>
        let (scene, outcomes) := scene.sendAll client drafts fun outcomes =>
          outcomes.any isFailure || outcomes.all Option.isSome
        (scene, gatherAll outcomes)
      | .any =>
        let (scene, outcomes) := scene.sendAll client drafts fun outcomes =>
          outcomes.any Option.isSome
        (scene, gatherAny outcomes)

/-! ## Steps -/

/-- What has become of the promises that the handler keeps, in the order of the calls. -/
def keptPromises (scene : ServerScene) : List (Option (Outcome Nat)) :=
  scene.calls.filterMap fun (peer, place) =>
    match scene.service.find? peer with
    | none => none
    | some connection =>
      match connection.handled[place]? with
      | none => none
      | some (request, _) =>
        scene.handler.kept? request (connection.completions[place]?).join

/-- Begins to serve, on a thread of its own or on that of the caller. -/
def start (scene : ServerScene) (threaded : Bool) : Except ServerFault Unit × ServerScene :=
  match scene.service with
  | .pool _ => (.error .notBound, scene)
  | .endpoint endpoint =>
    let (result, endpoint) :=
      if threaded then endpoint.serveThreaded .smooth else endpoint.start .smooth
    (result, run { scene with service := .endpoint endpoint })

/-- What a call that serves has come to. -/
def noteOfServing : Except ServerFault Unit → ServerNote
  | .ok () => .done
  | .error fault => .fault fault

/-- Does something with the endpoint. -/
def withEndpoint (scene : ServerScene) (next : Endpoint → ServerScene × ServerNote) :
    ServerScene × ServerNote :=
  match scene.service with
  | .endpoint endpoint => next endpoint
  | .pool _ => (scene, .nothing)

/-- Performs a step. -/
def perform (scene : ServerScene) : ServerStep → ServerScene × ServerNote
  | .serveThreaded =>
    let (result, scene) := scene.start true
    (scene, noteOfServing result)
  | .serve =>
    let (result, scene) := scene.start false
    ({ scene with served := result }, .nothing)
  | .join => (scene, noteOfServing scene.served)
  | .serveHere =>
    let (result, scene) := scene.start false
    (scene, noteOfServing result)
  | .shutDown => ((scene.withService scene.service.beginShutDown).joinWorkers, .nothing)
  | .portMatches =>
    scene.withEndpoint fun endpoint => (scene, .flag (endpoint.address.port != 0))
  | .threads => scene.withEndpoint fun endpoint => (scene, .count endpoint.settings.threads)
  | .bindAgain =>
    scene.withEndpoint fun endpoint =>
      match Endpoint.bind (Rehearsal.siteBeside endpoint) endpoint.address.text
          endpoint.settings with
      | .ok _ => (scene, .done)
      | .error fault => (scene, .fault fault)
  | .connectFails =>
    match scene.connect? with
    | some (scene, peer) => (scene.touch peer hangUp, .flag false)
    | none => (scene, .flag true)
  | .openPeer name => scene.openPeer name
  | .send name octets count =>
    (scene.touch (scene.link name).peer fun connection => feed connection octets).readResponses
      name count
  | .halfClose name => (scene.touch (scene.link name).peer closeInbound).readRest name
  | .drain name => scene.readRest name
  | .closePeer name => (scene.touch (scene.link name).peer hangUp, .nothing)
  | .reset name =>
    (scene.touch (scene.link name).peer fun connection =>
      { connection with inbound := connection.inbound.disturb .reset }, .nothing)
  | .deafenAfter name count =>
    (scene.touch (scene.link name).peer fun connection =>
      { connection with outbound := connection.outbound.deafenAfter count }, .nothing)
  | .client gathering settings drafts => scene.tryClient gathering settings drafts
  | .completions => (scene, .completions scene.keptPromises)
  | .shutDownDuring name first second =>
    let peer := (scene.link name).peer
    let scene := scene.touch peer fun connection => feed connection first
    let scene := scene.touch peer fun connection => feed connection second
    let scene := { scene with service := scene.service.beginShutDown, gateOpen := true }
    scene.joinWorkers.readRest name
  | .interrupt =>
    scene.withEndpoint fun endpoint =>
      ((scene.withService (.endpoint (endpoint.interrupt scene.surroundings))).joinWorkers,
        .flag true)
  | .acceptFault => (scene, .nothing)
  | .loads total =>
    let scene := scene.waitUntil fun scene => tally id scene.service.loads = total
    (scene, .loads scene.service.loads)
  | .size => (scene, .count ((scene.service.pool?.map WorkerPool.size).getD 0))

/-- Performs steps one after another. -/
def performAll (scene : ServerScene) : List ServerStep → List ServerNote
  | [] => []
  | step :: rest =>
    let (scene, note) := scene.perform step
    note :: scene.performAll rest

/-- A scene before its first step. -/
def of (service : Service) (settings : ServerSettings) (handler : TrialHandler)
    (files : Files) : ServerScene :=
  ⟨service, handler, files, settings.maxRequestSize, false, [], 0, [], .ok ()⟩

end ServerScene

/-- What the steps of a script show of an endpoint. -/
def rehearseEndpoint (address : String) (settings : ServerSettings) (hearsInterrupts : Bool)
    (handler : TrialHandler) (files : Files) (script : List ServerStep) :
    Except ServerFault (Address × List ServerNote) :=
  (Endpoint.bind (Rehearsal.site hearsInterrupts) address settings).map fun endpoint =>
    (endpoint.address,
      (ServerScene.of (.endpoint endpoint) settings handler files).performAll script)

/-- What the steps of a script show of a pool. -/
def rehearsePool (settings : ServerSettings) (handler : TrialHandler) (files : Files)
    (script : List ServerStep) : Except ServerFault (List ServerNote) :=
  (WorkerPool.spawn settings .smooth).map fun pool =>
    (ServerScene.of (.pool pool) settings handler files).performAll script

end PromiseHttp
