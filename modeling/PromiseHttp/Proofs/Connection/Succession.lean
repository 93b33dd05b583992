import PromiseHttp.Proofs.Connection.Synchrony
import PromiseHttp.Proofs.Connection.Transcript
import PromiseHttp.Proofs.Connection.Visit

namespace PromiseHttp

/-!
# One request behind another

A peer that sends complete requests one behind another gets all of them served, however they are cut,
if no read brings octets of two of them and the server always replies: every reply comes to an answer,
and no continuation panics when it is told of the transfer.  Every read belongs to one request then, so the connection
holds nothing but a beginning of the request that it reads, and nothing at all when it has taken the
request.  From there on the next request lies before it as the first one lay before it when it was
new: that is the invariant, and what has been served before stands in front.
-/

/-- A request and the pieces in which it is read. -/
structure Parcel where
  request : Request
  pieces : List Octets

namespace Parcel

/-- The octets of the request. -/
def wire (parcel : Parcel) : Octets := parcel.pieces.flatten

/-- The pieces are those of one complete request that a connection can hold. -/
structure IsSound (limit : Nat) (parcel : Parcel) : Prop where
  whole : parcel.request.IsWhole limit parcel.wire
  nonempty : ∀ piece ∈ parcel.pieces, piece ≠ []

/-- What lies before a connection that holds the beginning of a request: the rest of the request, and
other requests behind it. -/
def Follow (limit : Nat) (held : Octets) : List Parcel → Prop
  | [] => held = []
  | parcel :: later =>
    parcel.request.IsWhole limit (held ++ parcel.wire) ∧ parcel.wire ≠ [] ∧
      (∀ piece ∈ parcel.pieces, piece ≠ []) ∧ ∀ other ∈ later, other.IsSound limit

variable {limit : Nat}

theorem IsSound.wire_ne_nil {parcel : Parcel} (sound : parcel.IsSound limit) : parcel.wire ≠ [] := by
  intro nothing
  rcases sound.whole.parsed with ⟨offset, parsed, _⟩
  rw [nothing] at parsed
  cases parsed

/-- Whole requests lie before a connection that holds nothing. -/
theorem follow_of_sound {parcels : List Parcel} (sound : ∀ parcel ∈ parcels, parcel.IsSound limit) :
    Follow limit [] parcels := by
  cases parcels with
  | nil => rfl
  | cons parcel later =>
      have first := sound parcel List.mem_cons_self
      exact ⟨first.whole, first.wire_ne_nil, first.nonempty,
        fun other member => sound other (List.mem_cons_of_mem parcel member)⟩

end Parcel

namespace Connection

open Parcel (Follow)

/-! ## Reads -/

/-- The piece that a read brings, if it brings one. -/
def brought : ReadResult → List Octets
  | .octets piece => [piece]
  | .ended => []
  | .failed _ => []

/-- The piece that is read in an event, if one is. -/
def piecesIn (connection : Connection) : Event → List Octets
  | .step _ =>
    match connection.phase, connection.inbound.read? connection.buffer.room with
    | .reading, some (result, _) => brought result
    | _, _ => []
  | _ => []

/-- What the reads of a history bring, read by read. -/
def pieces (connection : Connection) : List Event → List Octets
  | [] => []
  | event :: events => connection.piecesIn event ++ (connection.occur event).pieces events

/-- A connection that can make no step reads nothing. -/
theorem piecesIn_of_stuck {connection : Connection} {surroundings : Surroundings}
    (stuck : connection.advance? surroundings = none) :
    connection.piecesIn (.step surroundings) = [] := by
  unfold advance? at stuck
  unfold piecesIn
  cases phase : connection.phase with
  | reading =>
      simp only [phase] at stuck
      cases answer : connection.inbound.read? connection.buffer.room with
      | none => rfl
      | some pair => simp only [answer, reduceCtorEq] at stuck
  | cleared request => rfl
  | calling request call asleep => rfl
  | replying request call => rfl
  | ended ending => rfl

/-! ## A server that replies -/

/-- Surroundings in which the server is not stopping and its handler always replies: every call comes
to an answer, whichever of the surroundings there are when it is delivered, and settling the promise
of the transfer does not panic. -/
structure Replies (around : Surroundings → Prop) : Prop where
  running : ∀ surroundings, around surroundings → surroundings.stopping = false
  settles : ∀ surroundings, around surroundings →
    ∀ request, (surroundings.handler request).settlingPanics = false
  answers : ∀ calling, around calling → ∀ delivering, around delivering → ∀ request,
    ∃ answer, Reply.Gives delivering.files request.isKeepAlive
      ((calling.handler request).reply request.isKeepAlive) answer

/-- A calm event in which no read is made to fail. -/
def Event.IsSmooth (around : Surroundings → Prop) (event : Event) : Prop :=
  event.IsCalm around ∧ ∀ fault, event ≠ .disturb fault

/-- The peer sends nothing behind its close. -/
def ClosesLast : List Event → Prop
  | [] => True
  | event :: events => (event = .close → stream events = []) ∧ ClosesLast events

/-- Nothing is held while a request is in work, and others are left only if it keeps the connection. -/
def HasTaken (connection : Connection) (request : Request) (left : List Parcel) : Prop :=
  connection.buffer.held = [] ∧ (left ≠ [] → request.isKeepAlive = true)

/-- The call that the handler makes for a request in some of the surroundings. -/
def IsCallOf (around : Surroundings → Prop) (request : Request) (call : HandlerCall) : Prop :=
  ∃ surroundings, around surroundings ∧ surroundings.handler request = call

/-- What is true of a connection by its phase.  It has ended only when no request is left. -/
def Keeps (around : Surroundings → Prop) (connection : Connection) (left : List Parcel) : Prop :=
  match connection.phase with
  | .reading => True
  | .cleared request => connection.HasTaken request left
  | .calling request call _ =>
    connection.HasTaken request left ∧ connection.IsAtWork (IsCallOf around) request call
  | .replying request call =>
    connection.HasTaken request left ∧ connection.IsAtWork (IsCallOf around) request call
  | .ended ending => left = [] ∧ ending ≠ .refused

/-- A connection in the course of its requests: some have been taken, the others are left, and
something of them may not have been sent yet. -/
structure Serves (around : Surroundings → Prop) (limit : Nat) (requests : List Request)
    (connection : Connection) (left : List Parcel) (unsent : Octets) : Prop where
  bound : connection.limit = limit
  fits : connection.buffer.Fits
  free : connection.outbound.budget = none
  brings : ∃ unread, connection.inbound.Brings unread ∧ unread ++ unsent = left.flatMap Parcel.wire
  closes : connection.inbound.closed = true → unsent = []
  follow : Follow limit connection.buffer.held left
  kept : ∀ request ∈ (left.map Parcel.request).dropLast, request.isKeepAlive = true
  taken : connection.owed ++ left.map Parcel.request = requests
  keeps : Keeps around connection left
  answers : ∃ answers, List.Forall₂ (IsAnswer around) connection.answered answers ∧
    connection.outbound.written = answers.flatMap Answer.wire

variable {around : Surroundings → Prop} {limit : Nat} {requests : List Request}
  {connection : Connection} {left : List Parcel} {unsent : Octets}

/-- A new connection has all requests before it. -/
theorem serves_new (peer : PeerId) {parcels : List Parcel}
    (sound : ∀ parcel ∈ parcels, parcel.IsSound limit)
    (kept : ∀ request ∈ (parcels.map Parcel.request).dropLast, request.isKeepAlive = true) :
    Serves around limit (parcels.map Parcel.request) (Connection.new peer limit) parcels
      (parcels.flatMap Parcel.wire) :=
  ⟨rfl, ReadBuffer.fits_empty, rfl, ⟨[], Inbound.brings_empty, rfl⟩, Bool.noConfusion,
    Parcel.follow_of_sound sound, kept, rfl, trivial, ⟨[], .nil, rfl⟩⟩

/-! ## What the peer does -/

/-- What is true by the phase does not depend on what is on the way. -/
theorem Keeps.of_same {other : Connection} (keeps : Keeps around connection left)
    (phase : other.phase = connection.phase) (buffer : other.buffer = connection.buffer)
    (handled : other.handled = connection.handled) : Keeps around other left := by
  unfold Keeps HasTaken IsAtWork
  rw [phase, buffer, handled]
  exact keeps

/-- A chunk that is sent has not been sent any more. -/
theorem Serves.send {chunk : Octets}
    (serves : Serves around limit requests connection left (chunk ++ unsent)) :
    Serves around limit requests
      { connection with inbound := connection.inbound.feed chunk } left unsent := by
  rcases serves.brings with ⟨unread, brings, whole⟩
  refine ⟨serves.bound, serves.fits, serves.free, ⟨unread ++ chunk, brings.feed chunk, ?_⟩, ?_,
    serves.follow, serves.kept, serves.taken, serves.keeps.of_same rfl rfl rfl, serves.answers⟩
  · rw [List.append_assoc]
    exact whole
  · intro closed
    have before : connection.inbound.closed = true := by
      dsimp only at closed
      unfold Inbound.feed at closed
      split at closed
      · exact closed
      · exact closed
    exact (List.append_eq_nil_iff.mp (serves.closes before)).2

/-- A peer that has sent everything may close. -/
theorem Serves.close (serves : Serves around limit requests connection left []) :
    Serves around limit requests
      { connection with inbound := connection.inbound.close } left [] :=
  ⟨serves.bound, serves.fits, serves.free, serves.brings, fun _ => rfl, serves.follow, serves.kept,
    serves.taken, serves.keeps.of_same rfl rfl rfl, serves.answers⟩

theorem Serves.takeWrites (serves : Serves around limit requests connection left unsent) :
    Serves around limit requests
      { connection with outbound := { connection.outbound with budget := none } } left unsent :=
  ⟨serves.bound, serves.fits, rfl, serves.brings, serves.closes, serves.follow, serves.kept,
    serves.taken, serves.keeps.of_same rfl rfl rfl, serves.answers⟩

/-- The passing of time changes nothing but the sleep of a handler. -/
theorem Serves.elapse (serves : Serves around limit requests connection left unsent) (time : Nat) :
    Serves around limit requests (connection.elapse time) left unsent := by
  unfold Connection.elapse
  cases phase : connection.phase with
  | calling request call asleep =>
      have taken := serves.taken
      have keeps := serves.keeps
      have answers := serves.answers
      simp only [owed, phase] at taken
      simp only [Keeps, phase] at keeps
      simp only [answered, phase] at answers
      exact ⟨serves.bound, serves.fits, serves.free, serves.brings, serves.closes, serves.follow,
        serves.kept, taken, keeps, answers⟩
  | reading => exact serves
  | cleared request => exact serves
  | replying request call => exact serves
  | ended ending => exact serves

/-! ## What the connection does -/

/-- If all requests but the last keep the connection, the first does if it is not the last. -/
theorem kept_cons {request : Request} {later : List Request}
    (kept : ∀ other ∈ (request :: later).dropLast, other.isKeepAlive = true) :
    (later ≠ [] → request.isKeepAlive = true) ∧
      ∀ other ∈ later.dropLast, other.isKeepAlive = true := by
  cases later with
  | nil => exact ⟨fun others => absurd rfl others, fun other member => absurd member List.not_mem_nil⟩
  | cons next later =>
      rw [List.dropLast_cons_cons] at kept
      exact ⟨fun _ => kept request List.mem_cons_self,
        fun other member => kept other (List.mem_cons_of_mem request member)⟩

/-- A connection that has read everything has no request left. -/
theorem Serves.left_eq_nil (serves : Serves around limit requests connection left [])
    (nothing : connection.inbound.octets = []) : left = [] := by
  rcases serves.brings with ⟨unread, brings, whole⟩
  rw [← brings.2, nothing, List.append_nil] at whole
  have follow := serves.follow
  cases left with
  | nil => rfl
  | cons parcel later =>
      rw [List.flatMap_cons] at whole
      exact absurd (List.append_eq_nil_iff.mp whole.symm).1 follow.2.1

/-- The pieces behind the one that is read are those of the rest of the request. -/
theorem Serves.next_piece (serves : Serves around limit requests connection left unsent)
    {parcel : Parcel} {later : List Parcel} {piece : Octets} {others : List Octets}
    (divided : left = parcel :: later) (pieces : parcel.pieces = piece :: others) :
    parcel.request.IsWhole limit (connection.buffer.held ++ piece ++ others.flatten) ∧
      (∀ other ∈ others, other ≠ []) ∧ ∀ other ∈ later, other.IsSound limit := by
  have follow := serves.follow
  rw [divided] at follow
  rcases follow with ⟨complete, _, nonempty, sound⟩
  rw [Parcel.wire, pieces, List.flatten_cons, ← List.append_assoc] at complete
  rw [pieces] at nonempty
  exact ⟨complete, fun other member => nonempty other (List.mem_cons_of_mem piece member), sound⟩

/-- A piece that is not the last of its request leaves the request incomplete. -/
theorem Serves.part (serves : Serves around limit requests connection left unsent)
    (reading : connection.phase = .reading) {parcel : Parcel} {later : List Parcel}
    {piece other : Octets} {others : List Octets} (divided : left = parcel :: later)
    (pieces : parcel.pieces = piece :: other :: others) {inbound : Inbound} {unread : Octets}
    (brings : inbound.Brings unread) (closed : inbound.closed = connection.inbound.closed)
    (whole : unread ++ unsent = (other :: others).flatten ++ later.flatMap Parcel.wire)
    (fits : (connection.buffer.append piece).Fits) :
    Serves around limit requests
      (onRead { connection with inbound := inbound } false (.octets piece))
      (⟨parcel.request, other :: others⟩ :: later) unsent := by
  rcases serves.next_piece divided pieces with ⟨complete, nonempty, sound⟩
  have more : (other :: others).flatten ≠ [] := by
    intro nothing
    rw [List.flatten_cons] at nothing
    exact nonempty other List.mem_cons_self (List.append_eq_nil_iff.mp nothing).1
  have waits : Verdict.judge connection.limit (connection.buffer.append piece).held = .wait := by
    rw [serves.bound, ReadBuffer.held_append]
    exact Verdict.judge_part complete rfl more
  have stays : onRead { connection with inbound := inbound } false (.octets piece) =
      { connection with inbound := inbound, buffer := connection.buffer.append piece } := by
    simp only [onRead, consider, waits]
  have kept := serves.kept
  have taken := serves.taken
  have answers := serves.answers
  rw [divided] at kept taken
  simp only [owed, reading] at taken
  simp only [answered, reading] at answers
  rw [stays]
  refine ⟨serves.bound, fits, serves.free, ⟨unread, brings, whole⟩, ?_, ?_, kept, ?_, ?_, ?_⟩
  · exact fun ends => serves.closes (closed ▸ ends)
  · rw [ReadBuffer.held_append]
    exact ⟨complete, more, nonempty, sound⟩
  · simp only [owed, reading]
    exact taken
  · simp only [Keeps, reading]
  · simp only [answered, reading]
    exact answers

/-- The last piece of a request completes it, and nothing is held behind it. -/
theorem Serves.last (serves : Serves around limit requests connection left unsent)
    (reading : connection.phase = .reading) {parcel : Parcel} {later : List Parcel}
    {piece : Octets} (divided : left = parcel :: later) (pieces : parcel.pieces = [piece])
    {inbound : Inbound} {unread : Octets} (brings : inbound.Brings unread)
    (closed : inbound.closed = connection.inbound.closed)
    (whole : unread ++ unsent = later.flatMap Parcel.wire)
    (fits : (connection.buffer.append piece).Fits) :
    Serves around limit requests
      (onRead { connection with inbound := inbound } false (.octets piece)) later unsent := by
  rcases serves.next_piece divided pieces with ⟨complete, _, sound⟩
  rw [List.flatten_nil, List.append_nil, ← ReadBuffer.held_append] at complete
  have accepts : Verdict.judge connection.limit (connection.buffer.append piece).held =
      .accept parcel.request (connection.buffer.append piece).held.length := by
    rw [serves.bound]
    exact Verdict.judge_whole complete
  have takes : onRead { connection with inbound := inbound } false (.octets piece) =
      { connection with
        inbound := inbound
        buffer := (connection.buffer.append piece).consume
          (connection.buffer.append piece).held.length
        phase := .cleared parcel.request } := by
    simp only [onRead, consider, accepts, Bool.false_eq_true, if_false]
  have nothing : ((connection.buffer.append piece).consume
      (connection.buffer.append piece).held.length).held = [] := by
    rw [ReadBuffer.held_consume, List.drop_length]
  have kept := serves.kept
  have taken := serves.taken
  have answers := serves.answers
  rw [divided, List.map_cons] at kept taken
  simp only [owed, reading] at taken
  simp only [answered, reading] at answers
  rw [takes]
  refine ⟨serves.bound, fits.consume (Nat.le_refl _), serves.free, ⟨unread, brings, whole⟩, ?_, ?_,
    ?_, ?_, ⟨nothing, ?_⟩, answers⟩
  · exact fun ends => serves.closes (closed ▸ ends)
  · rw [nothing]
    exact Parcel.follow_of_sound sound
  · exact (kept_cons kept).2
  · simp only [owed, handed, List.append_assoc, List.singleton_append]
    exact taken
  · intro others
    exact (kept_cons kept).1 (fun none => others (List.map_eq_nil_iff.mp none))

/-- A connection that finds the end of what its peer sends has no request left. -/
theorem Serves.ended (serves : Serves around limit requests connection left [])
    (reading : connection.phase = .reading) (nothing : connection.inbound.octets = []) :
    Serves around limit requests (connection.finish .peerClosed) left [] := by
  have taken := serves.taken
  have answers := serves.answers
  simp only [owed, reading] at taken
  simp only [answered, reading] at answers
  exact ⟨serves.bound, serves.fits, serves.free, serves.brings, serves.closes, serves.follow,
    serves.kept, taken, ⟨serves.left_eq_nil nothing, ConnectionEnd.noConfusion⟩, answers⟩

/-- A piece belongs to the next request. -/
theorem Serves.piece (serves : Serves around limit requests connection left unsent)
    (reading : connection.phase = .reading) {inbound : Inbound} {unread : Octets} {piece : Octets}
    (brings : inbound.Brings unread) (closed : inbound.closed = connection.inbound.closed)
    (whole : piece ++ (unread ++ unsent) = left.flatMap Parcel.wire)
    (fits : (connection.buffer.append piece).Fits) {more : List Octets}
    (apart : piece :: more <+: left.flatMap Parcel.pieces) :
    ∃ left', more <+: left'.flatMap Parcel.pieces ∧ Serves around limit requests
      (onRead { connection with inbound := inbound } false (.octets piece)) left' unsent := by
  cases divided : left with
  | nil =>
      rw [divided] at apart
      exact absurd (List.prefix_nil.mp apart) (List.cons_ne_nil _ _)
  | cons parcel later =>
      have follow := serves.follow
      rw [divided] at apart whole follow
      rw [List.flatMap_cons] at apart whole
      cases pieces : parcel.pieces with
      | nil =>
          have none_left : parcel.wire = [] := by rw [Parcel.wire, pieces, List.flatten_nil]
          exact absurd none_left follow.2.1
      | cons first others =>
          rw [pieces, List.cons_append] at apart
          rcases List.cons_prefix_cons.mp apart with ⟨rfl, apart'⟩
          rw [Parcel.wire, pieces, List.flatten_cons, List.append_assoc] at whole
          have rest := List.append_cancel_left whole
          cases others with
          | nil =>
              refine ⟨later, apart', serves.last reading divided pieces brings closed ?_ fits⟩
              exact rest
          | cons other others =>
              refine ⟨⟨parcel.request, other :: others⟩ :: later, apart',
                serves.part reading divided pieces brings closed ?_ fits⟩
              exact rest

/-- A read brings a piece of the next request, or finds the end behind the last one. -/
theorem Serves.read (serves : Serves around limit requests connection left unsent)
    (reading : connection.phase = .reading) {result : ReadResult} {inbound : Inbound}
    (answer : connection.inbound.read? connection.buffer.room = some (result, inbound))
    {more : List Octets} (apart : brought result ++ more <+: left.flatMap Parcel.pieces) :
    ∃ left', more <+: left'.flatMap Parcel.pieces ∧ Serves around limit requests
      (onRead { connection with inbound := inbound } false result) left' unsent := by
  rcases serves.brings with ⟨unread, brings, whole⟩
  by_cases nothing : unread = []
  · subst nothing
    rcases brings.ended_of_read? answer with ⟨closed, rfl, rfl⟩
    have sent := serves.closes closed
    subst sent
    exact ⟨left, apart, serves.ended reading brings.2⟩
  · rcases brings.read nothing serves.fits.room_pos with
      ⟨piece, rest, after, read, parted, _, brings', opened⟩
    rw [answer] at read
    cases read
    rw [parted, List.append_assoc] at whole
    exact serves.piece reading brings' opened whole
      (serves.fits.append (Inbound.length_of_read? answer)) apart

/-- The reply to a request leads to the next one, or ends the connection behind the last one. -/
theorem Serves.reply (replies : Replies around)
    (serves : Serves around limit requests connection left unsent) {request : Request}
    {call : HandlerCall} (replying : connection.phase = .replying request call)
    {surroundings : Surroundings} (among : around surroundings) :
    Serves around limit requests (connection.reply surroundings.files request call) left unsent := by
  have keeps := serves.keeps
  have taken := serves.taken
  simp only [Keeps, replying] at keeps
  simp only [owed, replying] at taken
  rcases keeps with ⟨⟨held, others⟩, ⟨calling, among', rfl⟩, before, handled⟩
  rcases serves.answers with ⟨answers, matched, written⟩
  simp only [answered, replying, handled, List.dropLast_concat] at matched
  rcases replies.answers calling among' surroundings among request with ⟨answer, gives⟩
  have matched' : List.Forall₂ (IsAnswer around) connection.handled (answers ++ [answer]) := by
    rw [handled]
    exact List.rel_append matched (.cons ⟨surroundings, among, gives⟩ .nil)
  rcases reply_of_gives serves.free gives with
    ⟨panics, _⟩ | ⟨outbound, completions, free, written', replied⟩
  · rw [replies.settles calling among' request] at panics
    cases panics
  · have all : outbound.written = (answers ++ [answer]).flatMap Answer.wire := by
      rw [written', written, List.flatMap_append, List.flatMap_singleton]
    rw [replied]
    by_cases kept : request.isKeepAlive = true
    · simp only [if_pos kept]
      exact ⟨serves.bound, serves.fits, free, serves.brings, serves.closes, serves.follow,
        serves.kept, taken, trivial, _, matched', all⟩
    · simp only [if_neg kept]
      refine ⟨serves.bound, serves.fits, free, serves.brings, serves.closes, serves.follow,
        serves.kept, taken, ⟨?_, ConnectionEnd.noConfusion⟩, _, matched', all⟩
      by_contra some_left
      exact kept (others some_left)

/-- A step keeps the connection on its course. -/
theorem Serves.advance (replies : Replies around)
    (serves : Serves around limit requests connection left unsent) {surroundings : Surroundings}
    (among : around surroundings) {next : Connection}
    (step : connection.advance? surroundings = some next) {more : List Octets}
    (apart : connection.piecesIn (.step surroundings) ++ more <+: left.flatMap Parcel.pieces) :
    ∃ left', more <+: left'.flatMap Parcel.pieces ∧
      Serves around limit requests next left' unsent := by
  have taken := serves.taken
  have keeps := serves.keeps
  have answers := serves.answers
  cases moves_of_advance step with
  | @read result inbound reading answer =>
      rw [replies.running surroundings among]
      simp only [piecesIn, reading, answer] at apart
      exact serves.read reading answer apart
  | @call request cleared =>
      simp only [piecesIn, cleared, List.nil_append] at apart
      simp only [owed, cleared] at taken
      simp only [Keeps, cleared] at keeps
      simp only [answered, cleared] at answers
      refine ⟨left, apart, serves.bound, serves.fits, serves.free, serves.brings, serves.closes,
        serves.follow, serves.kept, ?_, ⟨keeps, ⟨surroundings, among, rfl⟩, _, rfl⟩, ?_⟩
      · simp only [owed, callHandler, handed, List.map_append, List.map_cons, List.map_nil]
        exact taken
      · simp only [answered, callHandler, List.dropLast_concat]
        exact answers
  | @comeBack request call calling returns =>
      simp only [piecesIn, calling, List.nil_append] at apart
      simp only [owed, calling] at taken
      simp only [Keeps, calling] at keeps
      simp only [answered, calling] at answers
      exact ⟨left, apart, serves.bound, serves.fits, serves.free, serves.brings, serves.closes,
        serves.follow, serves.kept, taken, keeps, answers⟩
  | @reply request call replying =>
      simp only [piecesIn, replying, List.nil_append] at apart
      exact ⟨left, apart, serves.reply replies replying among⟩

/-! ## Runs -/

/-- A smooth event keeps the connection on its course. -/
theorem Serves.occur (replies : Replies around) {event : Event} (smooth : event.IsSmooth around)
    (serves : Serves around limit requests connection left (event.sent ++ unsent))
    (closes : event = .close → unsent = []) {more : List Octets}
    (apart : connection.piecesIn event ++ more <+: left.flatMap Parcel.pieces) :
    ∃ left', more <+: left'.flatMap Parcel.pieces ∧
      Serves around limit requests (connection.occur event) left' unsent := by
  cases event with
  | send chunk => exact ⟨left, apart, serves.send⟩
  | close =>
      have sent := closes rfl
      subst sent
      exact ⟨left, apart, serves.close⟩
  | elapse time => exact ⟨left, apart, serves.elapse time⟩
  | takeWrites budget =>
      have free : budget = none := smooth.1
      subst free
      exact ⟨left, apart, serves.takeWrites⟩
  | disturb fault => exact absurd rfl (smooth.2 fault)
  | letGo => exact absurd smooth.1 id
  | step surroundings =>
      cases step : connection.advance? surroundings with
      | some next =>
          rw [Connection.occur, step]
          exact serves.advance replies smooth.1 step apart
      | none =>
          rw [Connection.occur, step]
          rw [piecesIn_of_stuck step] at apart
          exact ⟨left, apart, serves⟩

/-- A smooth history keeps the connection on its course, if its reads keep the requests apart. -/
theorem Serves.occurAll (replies : Replies around) {events : List Event}
    (smooth : ∀ event ∈ events, event.IsSmooth around) (closes : ClosesLast events)
    (serves : Serves around limit requests connection left (stream events))
    (apart : connection.pieces events <+: left.flatMap Parcel.pieces) :
    ∃ left', Serves around limit requests (events.foldl Connection.occur connection) left' [] := by
  induction events generalizing connection left with
  | nil => exact ⟨left, serves⟩
  | cons event events inductionHypothesis =>
      rcases serves.occur replies (smooth event List.mem_cons_self) closes.1 apart with
        ⟨left', apart', serves'⟩
      exact inductionHypothesis (fun other member => smooth other (List.mem_cons_of_mem event member))
        closes.2 serves' apart'

/-- A connection at rest that has been sent everything has served everything. -/
theorem Serves.done (serves : Serves around limit requests connection left [])
    (rest : connection.IsAtRest) :
    connection.handled.map Prod.fst = requests ∧
      (∃ answers, List.Forall₂ (IsAnswer around) connection.handled answers ∧
        connection.outbound.written = answers.flatMap Answer.wire) ∧
      connection.ending? ≠ some .refused := by
  have taken := serves.taken
  have answers := serves.answers
  rcases rest.ended_or_waits with ⟨ending, phase⟩ | ⟨phase, waits⟩
  · have keeps := serves.keeps
    simp only [Keeps, phase] at keeps
    rcases keeps with ⟨rfl, served⟩
    simp only [owed, phase, List.map_nil, List.append_nil] at taken
    simp only [answered, phase] at answers
    refine ⟨taken, answers, ?_⟩
    simp only [ending?, phase, ne_eq, Option.some.injEq]
    exact served
  · rcases serves.brings with ⟨unread, brings, _⟩
    have nothing : connection.inbound.octets = [] := brings.2.trans (brings.of_waits waits)
    rw [serves.left_eq_nil nothing] at taken
    simp only [owed, phase, List.map_nil, List.append_nil] at taken
    simp only [answered, phase] at answers
    refine ⟨taken, answers, ?_⟩
    simp only [ending?, phase, ne_eq, reduceCtorEq, not_false_eq_true]

/-! ## Going on -/

theorem Event.IsOwn.isSmooth {event : Event} (own : event.IsOwn around) :
    event.IsSmooth around ∧ event.sent = [] ∧ event ≠ .close := by
  cases event with
  | step surroundings => exact ⟨⟨own, fun _ => Event.noConfusion⟩, rfl, Event.noConfusion⟩
  | elapse time => exact ⟨⟨trivial, fun _ => Event.noConfusion⟩, rfl, Event.noConfusion⟩
  | send chunk => exact absurd own id
  | disturb fault => exact absurd own id
  | close => exact absurd own id
  | takeWrites budget => exact absurd own id
  | letGo => exact absurd own id

theorem stream_append_own (events : List Event) {further : List Event}
    (own : ∀ event ∈ further, event.IsOwn around) : stream (events ++ further) = stream events := by
  have nothing : further.flatMap Event.sent = [] :=
    List.flatMap_eq_nil_iff.mpr fun event member => (own event member).isSmooth.2.1
  rw [stream, List.flatMap_append, nothing, List.append_nil]
  rfl

theorem closesLast_of_open {events : List Event} (opened : ∀ event ∈ events, event ≠ .close) :
    ClosesLast events := by
  induction events with
  | nil => trivial
  | cons event events inductionHypothesis =>
      refine ⟨fun close => absurd close (opened event List.mem_cons_self), ?_⟩
      exact inductionHypothesis fun other member => opened other (List.mem_cons_of_mem event member)

/-- What a connection does of its own accord does not come from its peer. -/
theorem ClosesLast.append {events further : List Event} (closes : ClosesLast events)
    (own : ∀ event ∈ further, event.IsOwn around) : ClosesLast (events ++ further) := by
  induction events with
  | nil => exact closesLast_of_open fun event member => (own event member).isSmooth.2.2
  | cons event events inductionHypothesis =>
      refine ⟨?_, inductionHypothesis closes.2⟩
      intro close
      exact (stream_append_own events own).trans (closes.1 close)

/-- Complete requests that are sent one behind another to a server that always replies are all served, in
their order, however they are cut, if no read brings octets of two of them.  The connection comes to rest, and then the handler has
been called with exactly these requests, their answers are all that has been written, and nothing has
been refused. -/
theorem serves_every_request (replies : Replies around) (peer : PeerId) {parcels : List Parcel}
    (sound : ∀ parcel ∈ parcels, parcel.IsSound limit)
    (kept : ∀ request ∈ (parcels.map Parcel.request).dropLast, request.isKeepAlive = true)
    {events : List Event} (smooth : ∀ event ∈ events, event.IsSmooth around)
    (closes : ClosesLast events) (sent : stream events = parcels.flatMap Parcel.wire) :
    (∀ surroundings, around surroundings → (∀ request, surroundings.returns request = true) →
      ∃ further : List Event, (∀ event ∈ further, event.IsOwn around) ∧
        (after peer limit (events ++ further)).IsAtRest) ∧
    ∀ further : List Event, (∀ event ∈ further, event.IsOwn around) →
      (Connection.new peer limit).pieces (events ++ further) <+: parcels.flatMap Parcel.pieces →
      (after peer limit (events ++ further)).IsAtRest →
        (after peer limit (events ++ further)).handled.map Prod.fst = parcels.map Parcel.request ∧
        (∃ answers,
          List.Forall₂ (IsAnswer around) (after peer limit (events ++ further)).handled answers ∧
          (after peer limit (events ++ further)).outbound.written = answers.flatMap Answer.wire) ∧
        (after peer limit (events ++ further)).ending? ≠ some .refused := by
  constructor
  · intro surroundings among returns
    rcases comes_to_rest among returns (fits_occurAll events
      (show (Connection.new peer limit).buffer.Fits from ReadBuffer.fits_empty)) with
      ⟨further, own, rest⟩
    refine ⟨further, own, ?_⟩
    rw [after_append]
    exact rest
  · intro further own apart rest
    have smooth' : ∀ event ∈ events ++ further, event.IsSmooth around := by
      intro event member
      rcases List.mem_append.mp member with before | behind
      · exact smooth event before
      · exact (own event behind).isSmooth.1
    have serves : Serves around limit (parcels.map Parcel.request) (Connection.new peer limit) parcels
        (stream (events ++ further)) := by
      rw [stream_append_own events own, sent]
      exact serves_new peer sound kept
    rcases serves.occurAll replies smooth' (closes.append own) apart with ⟨left, served⟩
    exact served.done rest

/-! ## Two requests -/

namespace TwoRequests

/-- A request with a body, cut within its head and within its body. -/
def posting : Parcel :=
  ⟨⟨.post, "/a", none, .http11, ⟨[("Content-Length", "2")]⟩, Octets.encode "hi"⟩,
    ["POST /a HTTP/1.1\r\nContent-Le", "ngth: 2\r\n\r\nh", "i"].map Octets.encode⟩

/-- A request that asks for the close, cut before the end of its head. -/
def leaving : Parcel :=
  ⟨⟨.get, "/b", none, .http11, ⟨[("Connection", "close")]⟩, []⟩,
    ["GET /b HTTP/1.1\r\nConnection: close\r\n\r", "\n"].map Octets.encode⟩

/-- The pieces are sent one by one, and time for some steps is left behind each request. -/
def eventsIn (surroundings : Surroundings) : List Event :=
  let steps := List.replicate 6 (.step surroundings)
  posting.pieces.map .send ++ steps ++ leaving.pieces.map .send ++ steps

def events : List Event := eventsIn Conversation.surroundings

theorem isSound : ∀ parcel ∈ [posting, leaving], parcel.IsSound 41 := by
  have first : posting.IsSound 41 :=
    ⟨⟨⟨39, rfl, by decide⟩, rfl, by decide, by decide⟩, by decide⟩
  have second : leaving.IsSound 41 :=
    ⟨⟨⟨38, rfl, by decide⟩, rfl, by decide, by decide⟩, by decide⟩
  exact List.forall_mem_cons.mpr ⟨first, List.forall_mem_singleton.mpr second⟩

theorem replies : Replies (· = Conversation.surroundings) := by
  constructor
  · rintro surroundings rfl
    rfl
  · rintro surroundings rfl request
    rfl
  · rintro calling rfl delivering rfl request
    exact ⟨_, .message _⟩

theorem isSmooth (surroundings : Surroundings) : ∀ event ∈ eventsIn surroundings,
    event.IsSmooth (· = surroundings) ∧ event ≠ .close := by
  intro event member
  simp only [eventsIn, List.mem_append, List.mem_map, List.mem_replicate] at member
  rcases member with ((⟨_, _, rfl⟩ | ⟨_, rfl⟩) | ⟨_, _, rfl⟩) | ⟨_, rfl⟩
  · exact ⟨⟨trivial, fun _ => Event.noConfusion⟩, Event.noConfusion⟩
  · exact ⟨⟨rfl, fun _ => Event.noConfusion⟩, Event.noConfusion⟩
  · exact ⟨⟨trivial, fun _ => Event.noConfusion⟩, Event.noConfusion⟩
  · exact ⟨⟨rfl, fun _ => Event.noConfusion⟩, Event.noConfusion⟩

end TwoRequests

/-- Both requests are served, the second behind the first. -/
theorem two_requests_are_served :
    (after 0 41 TwoRequests.events).handled.map Prod.fst =
        [TwoRequests.posting.request, TwoRequests.leaving.request] ∧
      ∃ answers, List.Forall₂ (IsAnswer (· = Conversation.surroundings))
          (after 0 41 TwoRequests.events).handled answers ∧
        (after 0 41 TwoRequests.events).outbound.written = answers.flatMap Answer.wire := by
  have closes : ClosesLast TwoRequests.events :=
    closesLast_of_open fun event member => (TwoRequests.isSmooth _ event member).2
  have sent : stream TwoRequests.events =
      [TwoRequests.posting, TwoRequests.leaving].flatMap Parcel.wire := rfl
  have kept : ∀ request ∈ ([TwoRequests.posting, TwoRequests.leaving].map Parcel.request).dropLast,
      request.isKeepAlive = true := by
    decide
  have apart : (Connection.new 0 41).pieces (TwoRequests.events ++ []) <+:
      [TwoRequests.posting, TwoRequests.leaving].flatMap Parcel.pieces := by
    decide
  have phase : (after 0 41 (TwoRequests.events ++ [])).phase = .ended .lastResponse := by decide
  have rest : (after 0 41 (TwoRequests.events ++ [])).IsAtRest := by
    refine ⟨?_, fun surroundings => ?_⟩
    · simp only [isBusy, phase]
    · simp only [advance?, phase]
  have smooth : ∀ event ∈ TwoRequests.events, event.IsSmooth (· = Conversation.surroundings) :=
    fun event member => (TwoRequests.isSmooth _ event member).1
  have served := (serves_every_request TwoRequests.replies 0 TwoRequests.isSound kept smooth closes
    sent).2 [] (fun event member => absurd member List.not_mem_nil) apart rest
  rw [List.append_nil] at served
  exact ⟨served.1, served.2.1⟩

namespace TwoRequests

/-- A continuation of the handler panics as soon as the response has been sent. -/
def panicking : Surroundings :=
  { Conversation.surroundings with
    handler := fun _ => { Conversation.call with settlingPanics := true } }

/-- The handler replies with a file that ends before the length it has told. -/
def shrinking : Surroundings :=
  { Conversation.surroundings with
    handler := fun _ => .ofEnding (.serveFile "/f")
    files := fun _ => .ok ⟨.ok 3, [.ok (Octets.encode "hi")]⟩ }

/-- Whether both requests come as they should, one behind the other and with time for each, the handler
replies to every request, and yet the connection ends behind the first. -/
def EndsEarly (surroundings : Surroundings) : Prop :=
  (surroundings.stopping = false ∧ ∀ request, surroundings.returns request = true ∧
    ∃ reply, (surroundings.handler request).reply request.isKeepAlive = .ok reply) ∧
  (∀ event ∈ eventsIn surroundings, event.IsSmooth (· = surroundings) ∧ event ≠ .close) ∧
  stream (eventsIn surroundings) = [posting, leaving].flatMap Parcel.wire ∧
  (Connection.new 0 41).pieces (eventsIn surroundings) <+:
    [posting, leaving].flatMap Parcel.pieces ∧
  (after 0 41 (eventsIn surroundings)).ending?.isSome = true ∧
  (after 0 41 (eventsIn surroundings)).handled.map Prod.fst = [posting.request]

end TwoRequests

/-- It is not enough that the handler always replies: a panic of one of its continuations ends the
connection, and so does a file that is shorter than it has told. -/
theorem a_reply_may_end_the_succession :
    (∀ parcel ∈ [TwoRequests.posting, TwoRequests.leaving], parcel.IsSound 41) ∧
      TwoRequests.posting.request.isKeepAlive = true ∧
      TwoRequests.EndsEarly TwoRequests.panicking ∧ TwoRequests.EndsEarly TwoRequests.shrinking := by
  refine ⟨TwoRequests.isSound, by decide,
    ⟨⟨rfl, fun request => ⟨rfl, _, rfl⟩⟩, TwoRequests.isSmooth _, rfl, ?_, ?_, ?_⟩,
    ⟨⟨rfl, fun request => ⟨rfl, _, rfl⟩⟩, TwoRequests.isSmooth _, rfl, ?_, ?_, ?_⟩⟩
  all_goals decide

end Connection

end PromiseHttp
