import PromiseHttp.Proofs.Connection.Framing
import PromiseHttp.Proofs.Connection.History

namespace PromiseHttp

/-!
# The work that is left for a connection

Between two events from outside a connection makes only finitely many steps.  Every read with room
takes something from what has not been read, and the steps behind a read are at most three.  That
there is always room is an invariant of the buffer, which holds of every connection that has come
about by its own steps.  So a connection comes to rest from everywhere, if the calls of its handler
come back: it has ended then, or waits for its peer.
-/

/-- A bound on the steps that a phase causes without another read. -/
def ConnectionPhase.load : ConnectionPhase → Nat
  | .ended _ => 0
  | .reading => 1
  | .replying _ _ => 2
  | .calling _ _ _ => 3
  | .cleared _ => 4

namespace Connection

/-- A bound on the steps that are left, unless the peer does something. -/
def work (connection : Connection) : Nat :=
  4 * connection.inbound.readBound + connection.phase.load

/-- A connection that does nothing more, whatever surrounds it, unless the peer does something. -/
def IsAtRest (connection : Connection) : Prop :=
  connection.isBusy = false ∧ ∀ surroundings, connection.advance? surroundings = none

/-- What does not come from the peer: a step in some of the surroundings, or the passing of time. -/
def Event.IsOwn (around : Surroundings → Prop) : Event → Prop
  | .step surroundings => around surroundings
  | .elapse _ => True
  | .send _ => False
  | .disturb _ => False
  | .close => False
  | .takeWrites _ => False
  | .letGo => False

/-! ## What the steps leave alone -/

theorem peer_refuse (connection : Connection) (response : Response) :
    (connection.refuse response).peer = connection.peer := by
  unfold refuse
  split <;> rfl

theorem peer_onRead (connection : Connection) (stopping : Bool) (result : ReadResult) :
    (connection.onRead stopping result).peer = connection.peer := by
  cases result with
  | ended => rfl
  | failed fault => rfl
  | octets piece =>
      simp only [onRead, consider]
      split
      · rfl
      · rw [peer_refuse]
      · rfl
      · split <;> rfl

theorem peer_reply (connection : Connection) (files : Files) (request : Request)
    (call : HandlerCall) : (connection.reply files request call).peer = connection.peer := by
  simp only [reply]
  split
  · rfl
  · split
    · rfl
    · split <;> rfl

theorem peer_advance {surroundings : Surroundings} {connection next : Connection}
    (step : connection.advance? surroundings = some next) : next.peer = connection.peer := by
  cases moves_of_advance step with
  | read reading answer => rw [peer_onRead]
  | call cleared => rfl
  | comeBack calling returns => rfl
  | reply replying => rw [peer_reply]

theorem inbound_refuse (connection : Connection) (response : Response) :
    (connection.refuse response).inbound = connection.inbound := by
  unfold refuse
  split <;> rfl

theorem phase_refuse (connection : Connection) (response : Response) :
    ∃ ending, (connection.refuse response).phase = .ended ending := by
  unfold refuse
  split
  · exact ⟨_, rfl⟩
  · exact ⟨_, rfl⟩

/-! ## Reads -/

/-- The work behind a read is at most that of the three steps that it may cause. -/
theorem load_onRead (connection : Connection) (reading : connection.phase = .reading)
    (stopping : Bool) (result : ReadResult) :
    (connection.onRead stopping result).inbound = connection.inbound ∧
      (connection.onRead stopping result).phase.load ≤ 4 ∧
      (result = .ended → (connection.onRead stopping result).phase.load = 0) := by
  cases result with
  | ended => exact ⟨rfl, Nat.zero_le 4, fun _ => rfl⟩
  | failed fault => exact ⟨rfl, Nat.zero_le 4, fun _ => rfl⟩
  | octets piece =>
      have goesOn : ReadResult.octets piece ≠ .ended := by
        intro same
        cases same
      refine ⟨?_, ?_, fun same => absurd same goesOn⟩
      · simp only [onRead, consider]
        split
        · rfl
        · rw [inbound_refuse]
        · rfl
        · split <;> rfl
      · simp only [onRead, consider]
        split
        · rw [reading]
          decide
        · rename_i response _
          rcases phase_refuse { connection with buffer := connection.buffer.append piece } response
            with ⟨ending, ended⟩
          rw [ended]
          exact Nat.zero_le 4
        · exact Nat.zero_le 4
        · split
          · exact Nat.zero_le 4
          · exact Nat.le_refl 4

theorem load_reply (connection : Connection) (files : Files) (request : Request)
    (call : HandlerCall) :
    (connection.reply files request call).inbound = connection.inbound ∧
      (connection.reply files request call).phase.load ≤ 1 := by
  simp only [reply]
  split
  · exact ⟨rfl, Nat.zero_le 1⟩
  · split
    · exact ⟨rfl, Nat.zero_le 1⟩
    · split
      · exact ⟨rfl, Nat.le_refl 1⟩
      · exact ⟨rfl, Nat.zero_le 1⟩

/-- A step leaves less work. -/
theorem work_advance {surroundings : Surroundings} {connection next : Connection}
    (fits : connection.buffer.Fits) (step : connection.advance? surroundings = some next) :
    next.work < connection.work := by
  unfold work
  cases moves_of_advance step with
  | @read result inbound reading answer =>
      rcases load_onRead { connection with inbound := inbound } reading surroundings.stopping result
        with ⟨same, few, none_left⟩
      have load : connection.phase.load = 1 := by rw [reading, ConnectionPhase.load]
      rw [same, load]
      dsimp only
      rcases Inbound.readBound_of_read? answer fits.room_pos with fewer | ended
      · omega
      · have kept : inbound.readBound = connection.inbound.readBound := by
          subst ended
          rw [Inbound.ended_of_read? answer]
        rw [none_left ended, kept]
        omega
  | @call request cleared =>
      rw [cleared]
      exact Nat.add_lt_add_left (Nat.lt_succ_self 3) _
  | @comeBack request call calling returns =>
      rw [calling]
      exact Nat.add_lt_add_left (Nat.lt_succ_self 2) _
  | @reply request call replying =>
      rcases load_reply connection surroundings.files request call with ⟨same, few⟩
      have load : connection.phase.load = 2 := by rw [replying, ConnectionPhase.load]
      rw [same, load]
      omega

/-! ## Room -/

theorem buffer_refuse (connection : Connection) (response : Response) :
    (connection.refuse response).buffer = connection.buffer := by
  unfold refuse
  split <;> rfl

theorem buffer_reply (connection : Connection) (files : Files) (request : Request)
    (call : HandlerCall) :
    (connection.reply files request call).buffer = connection.buffer := by
  simp only [reply]
  split
  · rfl
  · split
    · rfl
    · split <;> rfl

/-- A read keeps the held octets within the storage. -/
theorem fits_onRead {connection : Connection} (fits : connection.buffer.Fits) (stopping : Bool)
    {result : ReadResult}
    (room : ∀ piece, result = .octets piece → piece.length ≤ connection.buffer.room) :
    (connection.onRead stopping result).buffer.Fits := by
  cases result with
  | ended => exact fits
  | failed fault => exact fits
  | octets piece =>
      have fits' := fits.append (room piece rfl)
      simp only [onRead, consider]
      split
      · exact fits'
      · rw [buffer_refuse]
        exact fits'
      · exact fits'
      · rename_i request size accepted
        have there : size ≤ (connection.buffer.append piece).held.length := by
          rcases Verdict.first?_of_accept accepted with ⟨_, framed, found, _, same⟩
          rw [← same]
          exact (FramedRequest.size_of_first? found).2
        split
        · exact fits'.consume there
        · exact fits'.consume there

/-- A step keeps the held octets within the storage. -/
theorem fits_advance {surroundings : Surroundings} {connection next : Connection}
    (fits : connection.buffer.Fits) (step : connection.advance? surroundings = some next) :
    next.buffer.Fits := by
  cases moves_of_advance step with
  | @read result inbound reading answer =>
      have room : ∀ piece, result = .octets piece → piece.length ≤ connection.buffer.room := by
        rintro piece rfl
        exact Inbound.length_of_read? answer
      exact @fits_onRead { connection with inbound := inbound } fits surroundings.stopping result room
  | call cleared => exact fits
  | comeBack calling returns => exact fits
  | reply replying =>
      rw [buffer_reply]
      exact fits

/-- Nothing that happens to a connection spoils its storage. -/
theorem fits_occur {connection : Connection} (fits : connection.buffer.Fits) (event : Event) :
    (connection.occur event).buffer.Fits := by
  cases event with
  | send chunk => exact fits
  | disturb fault => exact fits
  | close => exact fits
  | takeWrites budget => exact fits
  | step surroundings =>
      rw [occur]
      cases step : connection.advance? surroundings with
      | none => exact fits
      | some next => exact fits_advance fits step
  | elapse time =>
      rw [occur, elapse]
      split
      · exact fits
      · exact fits
  | letGo =>
      rw [occur, letGo]
      split
      · exact fits
      · exact fits

theorem fits_occurAll (events : List Event) {connection : Connection}
    (fits : connection.buffer.Fits) : (events.foldl occur connection).buffer.Fits := by
  induction events generalizing connection with
  | nil => exact fits
  | cons event events inductionHypothesis => exact inductionHypothesis (fits_occur fits event)

/-! ## Rest -/

/-- A connection that can make no step although the calls of its handler come back is at rest, or its
handler sleeps. -/
theorem isAtRest_or_sleeps {surroundings : Surroundings} {connection : Connection}
    (returns : ∀ request, surroundings.returns request = true)
    (stuck : connection.advance? surroundings = none) :
    connection.IsAtRest ∨
      ∃ time next, (connection.elapse time).buffer = connection.buffer ∧
        (connection.elapse time).work = connection.work ∧
        (connection.elapse time).advance? surroundings = some next := by
  cases phase : connection.phase with
  | reading =>
      refine Or.inl ⟨by simp only [isBusy, phase], ?_⟩
      intro others
      simp only [advance?, phase] at stuck ⊢
      cases answer : connection.inbound.read? connection.buffer.room with
      | none => rfl
      | some pair => simp only [answer, reduceCtorEq] at stuck
  | cleared request => simp only [advance?, phase, reduceCtorEq] at stuck
  | calling request call asleep =>
      have woken : connection.elapse asleep =
          { connection with phase := .calling request call 0 } := by
        simp only [elapse, phase, Nat.sub_self]
      refine Or.inr ⟨asleep, { connection with phase := .replying request call }, ?_, ?_, ?_⟩
      · rw [woken]
      · simp only [woken, work, phase, ConnectionPhase.load]
      · simp only [woken, advance?, returns request, decide_true, Bool.and_true, if_true]
  | replying request call => simp only [advance?, phase, reduceCtorEq] at stuck
  | ended ending =>
      refine Or.inl ⟨by simp only [isBusy, phase], ?_⟩
      intro others
      simp only [advance?, phase]

/-- A connection at rest has ended, or waits for its peer. -/
theorem IsAtRest.ended_or_waits {connection : Connection} (rest : connection.IsAtRest) :
    (∃ ending, connection.phase = .ended ending) ∨
      connection.phase = .reading ∧ connection.inbound.read? connection.buffer.room = none := by
  rcases rest with ⟨idle, stuck⟩
  have waits := stuck ⟨fun _ => .ofEnding .letGo, fun _ => .error .noSuchFile, false, fun _ => true⟩
  unfold isBusy at idle
  unfold advance? at waits
  cases phase : connection.phase with
  | reading =>
      simp only [phase] at waits
      cases answer : connection.inbound.read? connection.buffer.room with
      | none => exact Or.inr ⟨rfl, rfl⟩
      | some pair => simp only [answer, reduceCtorEq] at waits
  | cleared request => simp only [phase, reduceCtorEq] at idle
  | calling request call asleep => simp only [phase, reduceCtorEq] at idle
  | replying request call => simp only [phase, reduceCtorEq] at waits
  | ended ending => exact Or.inl ⟨ending, rfl⟩

/-- From every point a connection can come to rest by its own steps and the passing of time. -/
theorem comes_to_rest {around : Surroundings → Prop} {surroundings : Surroundings}
    (among : around surroundings) (returns : ∀ request, surroundings.returns request = true)
    {connection : Connection} (fits : connection.buffer.Fits) :
    ∃ further : List Event, (∀ event ∈ further, event.IsOwn around) ∧
      (further.foldl occur connection).IsAtRest := by
  induction bound : connection.work using Nat.strongRecOn generalizing connection with
  | ind load inductionHypothesis =>
      cases step : connection.advance? surroundings with
      | some next =>
          rcases inductionHypothesis next.work (bound ▸ work_advance fits step)
            (fits_advance fits step) rfl with ⟨further, own, rest⟩
          refine ⟨.step surroundings :: further, List.forall_mem_cons.mpr ⟨among, own⟩, ?_⟩
          rw [List.foldl_cons, occur, step]
          exact rest
      | none =>
          rcases isAtRest_or_sleeps returns step with rest | ⟨time, next, same, load, wakes⟩
          · exact ⟨[], fun event member => absurd member List.not_mem_nil, rest⟩
          · have fits' : (connection.elapse time).buffer.Fits := same ▸ fits
            have less := work_advance fits' wakes
            rw [load, bound] at less
            rcases inductionHypothesis next.work less (fits_advance fits' wakes) rfl with
              ⟨further, own, rest⟩
            refine ⟨.elapse time :: .step surroundings :: further,
              List.forall_mem_cons.mpr ⟨trivial, List.forall_mem_cons.mpr ⟨among, own⟩⟩, ?_⟩
            rw [List.foldl_cons, List.foldl_cons, occur, occur, wakes]
            exact rest

end Connection
end PromiseHttp
