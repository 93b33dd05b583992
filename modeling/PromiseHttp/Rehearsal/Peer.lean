import PromiseHttp.Client.Sending
import PromiseHttp.Rehearsal.Network

namespace PromiseHttp

/-!
# Rehearsing a client

A client can be tried against a peer that follows a script: for every connection it reads the
whole request, sends what the script says and closes.  The peer may also stop listening, or accept
connections without receiving anything.
-/

/-- A step of a script. -/
inductive PeerStep where
  /-- Sends a draft, or the one before again, and lets the peer answer. -/
  | send (draft : Option RequestDraft) (answer : List Arrival)
  | target
  | shutDown
  | isShutDown
  /-- Whether the peer receives nothing from now on. -/
  | deafness (deaf : Bool)
  /-- The peer listens no more. -/
  | stopListening

/-- What a step shows. -/
inductive PeerNote where
  | sent (sending : Sending)
  | target (text : String)
  | flag (value : Bool)
  | nothing

/-- A client and its peer. -/
structure PeerScene where
  client : Client
  /-- The draft that was sent last. -/
  draft : RequestDraft
  listening : Bool
  deaf : Bool

namespace PeerScene

/-- The address at which the peer listens. -/
def address : Address := ⟨.loopbackV4, Rehearsal.freePort⟩

/-- The connection that the client makes. -/
def connect (scene : PeerScene) : Except IoFault Outbound :=
  (Address.reach Rehearsal.names scene.client.target fun named =>
      scene.listening && named == address).map fun _ =>
    if scene.deaf then Outbound.empty.deafen else .empty

/-- Performs a step. -/
def perform (scene : PeerScene) : PeerStep → PeerScene × PeerNote
  | .send draft answer =>
    let scene := { scene with draft := draft.getD scene.draft }
    (scene, .sent (scene.client.send scene.draft scene.connect (.ofArrivals answer)))
  | .target => (scene, .target scene.client.target)
  | .shutDown => ({ scene with client := scene.client.shutDown }, .nothing)
  | .isShutDown => (scene, .flag scene.client.isShutDown)
  | .deafness deaf => ({ scene with deaf := deaf }, .nothing)
  | .stopListening => ({ scene with listening := false }, .nothing)

/-- Performs steps one after another. -/
def performAll (scene : PeerScene) : List PeerStep → List PeerNote
  | [] => []
  | step :: rest =>
    let (scene, note) := scene.perform step
    note :: scene.performAll rest

/-- A client for the peer, whose target is the peer's address behind a text. -/
def start (front : String) (settings : ClientSettings) : Except ClientFault PeerScene :=
  (Client.new (front ++ address.text) settings).map fun client =>
    ⟨client, .new .get "", true, false⟩

end PeerScene

/-- What the steps of a script show. -/
def rehearseClient (front : String) (settings : ClientSettings) (script : List PeerStep) :
    Except ClientFault (List PeerNote) :=
  (PeerScene.start front settings).map fun scene => scene.performAll script

end PromiseHttp
