import Mathlib.Data.List.Forall2
import PromiseHttp.Proofs.Connection.Answers
import PromiseHttp.Proofs.Connection.History

namespace PromiseHttp
namespace Connection

/-!
# What a connection writes

A connection that nobody disturbs in its writing speaks in whole responses.  Each event of its history
adds nothing to what has been written, or the answer to the request in work, or the refusal with which
the connection ends.  So the octets of a history are the answers to the calls of the handler, in their
order, and then at most one refusal.

What a response says about the connection is true: it announces the close exactly if the connection
has ended with it, and otherwise the connection reads on.
-/

/-! ## Emissions -/

/-- What a connection has written in one event, and the connection right behind it. -/
structure Emission where
  octets : Octets
  behind : Connection

/-- What a connection writes in a history, event by event. -/
def emissions (connection : Connection) : List Event → List Emission
  | [] => []
  | event :: events =>
    let next := connection.occur event
    let fresh := next.outbound.written.drop connection.outbound.written.length
    if fresh.isEmpty then next.emissions events else ⟨fresh, next⟩ :: next.emissions events

/-- The octets are one response, and the connection has ended behind it if the response says so and
reads on if not. -/
def Emission.IsTrue (emission : Emission) : Prop :=
  ∃ head : Response, head.Delimits emission.octets ∧
    (head.keepAlive = false ↔ emission.behind.ending?.isSome = true) ∧
    (head.keepAlive = true → emission.behind.phase = .reading)

/-- The calls that have been answered: all but the one in work. -/
def answered (connection : Connection) : List (Request × HandlerCall) :=
  match connection.phase with
  | .calling _ _ _ => connection.handled.dropLast
  | .replying _ _ => connection.handled.dropLast
  | _ => connection.handled

/-- Whether an answer is the one to a call, delivered in some of the surroundings. -/
def IsAnswer (around : Surroundings → Prop) (handled : Request × HandlerCall) (answer : Answer) :
    Prop :=
  ∃ surroundings, around surroundings ∧ Reply.Gives surroundings.files handled.1.isKeepAlive
    (handled.2.reply handled.1.isKeepAlive) answer

/-- A response to what cannot be read or is too large. -/
def IsRefusal (response : Response) : Prop :=
  response = Verdict.tooLarge ∨ ∃ fault, response = Verdict.badRequest fault

/-! ## Calm histories -/

/-- Surroundings in which the server is not stopping, the handler makes fit calls, and the files keep
what they tell. -/
structure Surroundings.AreCalm (surroundings : Surroundings) : Prop where
  running : surroundings.stopping = false
  fit : ∀ request, (surroundings.handler request).IsFit
  stay : surroundings.files.Stay

/-- An event that does not hinder a connection in its writing; its steps are made in some of the
surroundings. -/
def Event.IsCalm (around : Surroundings → Prop) : Event → Prop
  | .step surroundings => around surroundings
  | .takeWrites budget => budget = none
  | .letGo => False
  | .send _ => True
  | .disturb _ => True
  | .close => True
  | .elapse _ => True

/-- The request in work is the last one handed over, and its call is among some calls. -/
def IsAtWork (calls : Request → HandlerCall → Prop) (connection : Connection) (request : Request)
    (call : HandlerCall) : Prop :=
  calls request call ∧ ∃ before, connection.handled = before ++ [(request, call)]

/-- A connection whose peer takes every write and whose handler has made fit calls. -/
structure IsCalm (connection : Connection) : Prop where
  free : connection.outbound.budget = none
  calling : ∀ request call asleep, connection.phase = .calling request call asleep →
    connection.IsAtWork (fun _ call => call.IsFit) request call
  replying : ∀ request call, connection.phase = .replying request call →
    connection.IsAtWork (fun _ call => call.IsFit) request call

/-- What one event does to what has been written. -/
inductive Speaks (around : Surroundings → Prop) (connection next : Connection) : Prop
  | silence (written : next.outbound.written = connection.outbound.written)
      (answered : next.answered = connection.answered)
  | answer {handled : Request × HandlerCall} {answer : Answer}
      (isAnswer : IsAnswer around handled answer) (sendable : answer.IsSendable)
      (written : next.outbound.written = connection.outbound.written ++ answer.wire)
      (answered : next.answered = connection.answered ++ [handled])
      (fate : answer.received.keepAlive = true ∧ next.phase = .reading ∨
        answer.received.keepAlive = false ∧ next.phase = .ended .lastResponse)
  | refusal {response : Response} (refusal : IsRefusal response)
      (written : next.outbound.written = connection.outbound.written ++ response.wire)
      (answered : next.answered = connection.answered)
      (ended : next.phase = .ended .refused)

/-! ## Refusals -/

theorem isRefusal_of_judge {limit : Nat} {held : Octets} {response : Response}
    (refused : Verdict.judge limit held = .refuse response) : IsRefusal response := by
  unfold Verdict.judge at refused
  split at refused
  · cases refused
    exact Or.inl rfl
  · split at refused
    · rename_i request offset _
      unfold Verdict.ofRequest at refused
      split at refused
      · cases refused
        exact Or.inr ⟨_, rfl⟩
      · split at refused
        · cases refused
        · split at refused <;> cases refused
    · cases refused
    · cases refused
      exact Or.inr ⟨_, rfl⟩

/-- A refusal can be sent, and it announces the close. -/
theorem IsRefusal.sendable {response : Response} (refusal : IsRefusal response) :
    (Answer.ofResponse response).IsSendable ∧
      (Answer.ofResponse response).received.keepAlive = false := by
  rw [Answer.keepAlive_received, Answer.ofResponse, Response.keepAlive_typed]
  rcases refusal with rfl | ⟨fault, rfl⟩
  · exact ⟨(Response.sendable_notice (by decide) (by decide) _ _).answer, rfl⟩
  · exact ⟨(Response.sendable_notice (by decide) (by decide) _ _).answer, rfl⟩

/-! ## Steps -/

variable {around : Surroundings → Prop} {connection : Connection}

/-- A connection without a call in work is calm if its peer takes every write. -/
theorem IsCalm.of_idle (free : connection.outbound.budget = none)
    (noCall : ∀ request call asleep, connection.phase ≠ .calling request call asleep)
    (noReply : ∀ request call, connection.phase ≠ .replying request call) : connection.IsCalm :=
  ⟨free, fun _ _ _ phase => absurd phase (noCall _ _ _), fun _ _ phase => absurd phase (noReply _ _)⟩

theorem isCalm_finish (free : connection.outbound.budget = none) (ending : ConnectionEnd) :
    (connection.finish ending).IsCalm :=
  .of_idle free (fun _ _ _ => ConnectionPhase.noConfusion) (fun _ _ => ConnectionPhase.noConfusion)

theorem isCalm_reading (free : connection.outbound.budget = none)
    (reading : connection.phase = .reading) : connection.IsCalm := by
  apply IsCalm.of_idle free
  · rw [reading]
    exact fun _ _ _ => ConnectionPhase.noConfusion
  · rw [reading]
    exact fun _ _ => ConnectionPhase.noConfusion

theorem answered_reading (reading : connection.phase = .reading) :
    connection.answered = connection.handled := by
  simp only [answered, reading]

/-- Refusing writes the refusal and ends. -/
theorem speaks_refuse (free : connection.outbound.budget = none)
    (reading : connection.phase = .reading) {response : Response} (refusal : IsRefusal response) :
    connection.Speaks around (connection.refuse response) ∧ (connection.refuse response).IsCalm := by
  rcases connection.outbound.write_free free response.wire with ⟨outbound, takes, free', written⟩
  unfold refuse
  simp only [takes]
  exact ⟨.refusal refusal written (answered_reading reading).symm rfl, isCalm_finish free' _⟩

/-- Only what has been written and answered before counts. -/
theorem Speaks.from_same {other next : Connection} (speaks : connection.Speaks around next)
    (written : other.outbound.written = connection.outbound.written)
    (answered : other.answered = connection.answered) : other.Speaks around next := by
  cases speaks with
  | silence written' answered' =>
      exact .silence (written'.trans written.symm) (answered'.trans answered.symm)
  | answer isAnswer sendable written' answered' fate =>
      exact .answer isAnswer sendable (written ▸ written') (answered ▸ answered') fate
  | refusal refusal written' answered' ended =>
      exact .refusal refusal (written ▸ written') (answered'.trans answered.symm) ended

/-- What is made of the held octets is silent, but for a refusal. -/
theorem speaks_consider (free : connection.outbound.budget = none)
    (reading : connection.phase = .reading) :
    connection.Speaks around (connection.consider false) ∧ (connection.consider false).IsCalm := by
  have silent := answered_reading reading
  unfold consider
  split
  · exact ⟨.silence rfl rfl, isCalm_reading free reading⟩
  · rename_i response refused
    exact speaks_refuse free reading (isRefusal_of_judge refused)
  · exact ⟨.silence rfl silent.symm, isCalm_finish free _⟩
  · simp only [Bool.false_eq_true, if_false]
    refine ⟨.silence rfl silent.symm, .of_idle free ?_ ?_⟩
    · exact fun _ _ _ => ConnectionPhase.noConfusion
    · exact fun _ _ => ConnectionPhase.noConfusion

/-- A read is silent, but for a refusal. -/
theorem speaks_onRead (free : connection.outbound.budget = none)
    (reading : connection.phase = .reading) (result : ReadResult) :
    connection.Speaks around (connection.onRead false result) ∧
      (connection.onRead false result).IsCalm := by
  have silent := answered_reading reading
  cases result with
  | ended => exact ⟨.silence rfl silent.symm, isCalm_finish free _⟩
  | failed fault => exact ⟨.silence rfl silent.symm, isCalm_finish free _⟩
  | octets piece =>
      rcases @speaks_consider around { connection with buffer := connection.buffer.append piece }
        free reading with ⟨speaks, calm⟩
      exact ⟨speaks.from_same rfl rfl, calm⟩

/-- The reply to the request in work is its answer, and says what becomes of the connection. -/
theorem speaks_reply (free : connection.outbound.budget = none) {request : Request}
    {call : HandlerCall} (atWork : connection.IsAtWork (fun _ call => call.IsFit) request call)
    (replying : connection.phase = .replying request call) {surroundings : Surroundings}
    (among : around surroundings) (areCalm : surroundings.AreCalm)
    (alive : (connection.reply surroundings.files request call).phase ≠ .ended .crashed) :
    connection.Speaks around (connection.reply surroundings.files request call) ∧
      (connection.reply surroundings.files request call).IsCalm := by
  rcases atWork with ⟨fit, before, handled⟩
  rcases Reply.gives_of_stay areCalm.stay request.isKeepAlive (call.reply request.isKeepAlive) with
    ⟨answer, gives⟩
  rcases gives.sendable (fit.canBeSent request.isKeepAlive) with ⟨sendable, announced⟩
  have isAnswer : IsAnswer around (request, call) answer := ⟨surroundings, among, gives⟩
  have waiting : connection.answered = before := by
    simp only [answered, replying, handled, List.dropLast_concat]
  rcases reply_of_gives free gives with ⟨_, crashed⟩ | ⟨outbound, completions, free', written, replied⟩
  · exact absurd crashed alive
  · rw [replied]
    by_cases kept : request.isKeepAlive = true
    · simp only [if_pos kept]
      refine ⟨.answer isAnswer sendable written ?_ (Or.inl ⟨announced.trans kept, rfl⟩),
        isCalm_reading free' rfl⟩
      rw [waiting]
      exact handled
    · simp only [if_neg kept]
      refine ⟨.answer isAnswer sendable written ?_
        (Or.inr ⟨announced.trans (Bool.eq_false_iff.mpr kept), rfl⟩), .of_idle free' ?_ ?_⟩
      · rw [waiting]
        exact handled
      · exact fun _ _ _ => ConnectionPhase.noConfusion
      · exact fun _ _ => ConnectionPhase.noConfusion

/-- A step in calm surroundings speaks in whole responses. -/
theorem speaks_advance (calm : connection.IsCalm) {surroundings : Surroundings}
    (among : around surroundings) (areCalm : surroundings.AreCalm) {next : Connection}
    (step : connection.advance? surroundings = some next) (alive : next.phase ≠ .ended .crashed) :
    connection.Speaks around next ∧ next.IsCalm := by
  cases moves_of_advance step with
  | @read result inbound reading answer =>
      rw [areCalm.running]
      rcases @speaks_onRead around { connection with inbound := inbound } calm.free reading result with
        ⟨speaks, calm'⟩
      exact ⟨speaks.from_same rfl rfl, calm'⟩
  | @call request cleared =>
      refine ⟨.silence rfl ?_, calm.free, ?_, ?_⟩
      · simp only [answered, callHandler, cleared, List.dropLast_concat]
      · intro asked call asleep same
        cases same
        exact ⟨areCalm.fit request, connection.handled, rfl⟩
      · intro asked call same
        cases same
  | @comeBack request call calling returns =>
      refine ⟨.silence rfl ?_, calm.free, ?_, ?_⟩
      · simp only [answered, calling]
      · intro asked other asleep same
        cases same
      · intro asked other same
        cases same
        exact calm.calling _ _ _ calling
  | @reply request call replying =>
      exact speaks_reply calm.free (calm.replying _ _ replying) replying among areCalm alive

/-- A calm event lets the connection speak in whole responses. -/
theorem speaks_occur (steady : ∀ surroundings, around surroundings → surroundings.AreCalm)
    (calm : connection.IsCalm) {event : Event} (isCalm : event.IsCalm around)
    (alive : (connection.occur event).phase ≠ .ended .crashed) :
    connection.Speaks around (connection.occur event) ∧ (connection.occur event).IsCalm := by
  cases event with
  | send chunk => exact ⟨.silence rfl rfl, calm.free, calm.calling, calm.replying⟩
  | disturb fault => exact ⟨.silence rfl rfl, calm.free, calm.calling, calm.replying⟩
  | close => exact ⟨.silence rfl rfl, calm.free, calm.calling, calm.replying⟩
  | takeWrites budget => exact ⟨.silence rfl rfl, isCalm, calm.calling, calm.replying⟩
  | letGo => exact absurd isCalm id
  | elapse time =>
      simp only [occur, elapse]
      cases phase : connection.phase with
      | calling request call asleep =>
          refine ⟨.silence rfl ?_, calm.free, ?_, ?_⟩
          · simp only [answered, phase]
          · intro asked other asleep' same
            cases same
            exact calm.calling _ _ _ phase
          · intro asked other same
            cases same
      | reading => exact ⟨.silence rfl rfl, calm⟩
      | cleared request => exact ⟨.silence rfl rfl, calm⟩
      | replying request call => exact ⟨.silence rfl rfl, calm⟩
      | ended ending => exact ⟨.silence rfl rfl, calm⟩
  | step surroundings =>
      simp only [occur] at alive ⊢
      cases step : connection.advance? surroundings with
      | none => exact ⟨.silence rfl rfl, calm⟩
      | some next =>
          rw [step] at alive
          exact speaks_advance calm isCalm (steady surroundings isCalm) step alive

/-! ## The end -/

/-- Nothing happens to a connection that has ended. -/
theorem ended_occur {ending : ConnectionEnd} (ended : connection.phase = .ended ending)
    (event : Event) :
    (connection.occur event).phase = .ended ending ∧
      (connection.occur event).outbound.written = connection.outbound.written ∧
      (connection.occur event).handled = connection.handled := by
  cases event with
  | send chunk => exact ⟨ended, rfl, rfl⟩
  | disturb fault => exact ⟨ended, rfl, rfl⟩
  | close => exact ⟨ended, rfl, rfl⟩
  | takeWrites budget => exact ⟨ended, rfl, rfl⟩
  | step surroundings =>
      simp only [occur, advance?, ended, Option.getD_none]
      exact ⟨trivial, trivial, trivial⟩
  | elapse time =>
      simp only [occur, elapse, ended]
      exact ⟨trivial, trivial, trivial⟩
  | letGo =>
      simp only [occur, letGo, ending?, ended, Option.isSome_some, if_true]
      exact ⟨trivial, trivial, trivial⟩

/-- A connection that has ended stays as it is. -/
theorem ended_occurAll {ending : ConnectionEnd} (events : List Event)
    (ended : connection.phase = .ended ending) :
    (events.foldl occur connection).phase = .ended ending ∧
      (events.foldl occur connection).outbound.written = connection.outbound.written ∧
      (events.foldl occur connection).handled = connection.handled ∧
      connection.emissions events = [] := by
  induction events generalizing connection with
  | nil => exact ⟨ended, rfl, rfl, rfl⟩
  | cons event events inductionHypothesis =>
      rcases ended_occur ended event with ⟨ended', written, handled⟩
      rcases inductionHypothesis ended' with ⟨ended'', written', handled', nothing⟩
      refine ⟨ended'', written'.trans written, handled'.trans handled, ?_⟩
      rw [emissions]
      simp only [written, List.drop_length, List.isEmpty_nil, if_true]
      exact nothing

/-! ## Runs -/

/-- What may stand behind the answers: nothing, or the one refusal with which the connection has
ended. -/
def IsFinal (connection : Connection) (final : List Answer) : Prop :=
  final = [] ∨ ∃ response, IsRefusal response ∧ final = [.ofResponse response] ∧
    connection.phase = .ended .refused

/-- What a connection has written in a history: the answers to some calls and at most one refusal. -/
structure Transcript (around : Surroundings → Prop) (connection after : Connection)
    (emissions : List Emission)
    (calls : List (Request × HandlerCall)) (answers final : List Answer) : Prop where
  answered : after.answered = connection.answered ++ calls
  matched : List.Forall₂ (IsAnswer around) calls answers
  isFinal : after.IsFinal final
  written : after.outbound.written =
    connection.outbound.written ++ (answers ++ final).flatMap Answer.wire
  emitted : emissions.map Emission.octets = (answers ++ final).map Answer.wire
  isTrue : ∀ emission ∈ emissions, emission.IsTrue

theorem emissions_silent {event : Event} (events : List Event)
    (written : (connection.occur event).outbound.written = connection.outbound.written) :
    connection.emissions (event :: events) = (connection.occur event).emissions events := by
  rw [emissions]
  simp only [written, List.drop_length, List.isEmpty_nil, if_true]

theorem emissions_spoken {event : Event} (events : List Event) {octets : Octets}
    (written : (connection.occur event).outbound.written = connection.outbound.written ++ octets)
    (nonempty : octets ≠ []) :
    connection.emissions (event :: events) =
      ⟨octets, connection.occur event⟩ :: (connection.occur event).emissions events := by
  have full : octets.isEmpty = false := by
    rw [← Bool.not_eq_true, List.isEmpty_iff]
    exact nonempty
  rw [emissions]
  simp only [written, List.drop_left, full, Bool.false_eq_true, if_false]

/-- What an answer says about the connection is true of the connection behind it. -/
theorem isTrue_answer {next : Connection} {answer : Answer} (sendable : answer.IsSendable)
    {ending : ConnectionEnd}
    (fate : answer.received.keepAlive = true ∧ next.phase = .reading ∨
      answer.received.keepAlive = false ∧ next.phase = .ended ending) :
    Emission.IsTrue ⟨answer.wire, next⟩ := by
  refine ⟨answer.received, sendable.delimits, ?_⟩
  rcases fate with ⟨kept, reading⟩ | ⟨closes, ended⟩
  · simp only [kept, ending?, reading, Option.isSome_none, Bool.true_eq_false, Bool.false_eq_true,
      implies_true, and_self]
  · simp only [closes, ending?, ended, Option.isSome_some, Bool.false_eq_true, false_implies,
      and_self]

theorem answered_ended {ending : ConnectionEnd} (ended : connection.phase = .ended ending) :
    connection.answered = connection.handled := by
  simp only [answered, ended]

/-- An answer stands in front of what is written behind it. -/
theorem Transcript.answer {event : Event} {events : List Event}
    {calls : List (Request × HandlerCall)} {answers final : List Answer}
    (transcript : Transcript around (connection.occur event)
      (events.foldl occur (connection.occur event)) ((connection.occur event).emissions events)
      calls answers final)
    {handled : Request × HandlerCall} {answer : Answer} (isAnswer : IsAnswer around handled answer)
    (sendable : answer.IsSendable)
    (written : (connection.occur event).outbound.written =
      connection.outbound.written ++ answer.wire)
    (answered : (connection.occur event).answered = connection.answered ++ [handled])
    (fate : answer.received.keepAlive = true ∧ (connection.occur event).phase = .reading ∨
      answer.received.keepAlive = false ∧ (connection.occur event).phase = .ended .lastResponse) :
    Transcript around connection ((event :: events).foldl occur connection)
      (connection.emissions (event :: events)) (handled :: calls) (answer :: answers) final := by
  rw [emissions_spoken events written sendable.wire_ne_nil]
  refine ⟨?_, .cons isAnswer transcript.matched, transcript.isFinal, ?_, ?_, ?_⟩
  · rw [List.foldl_cons, transcript.answered, answered, List.append_assoc]
    rfl
  · rw [List.foldl_cons, transcript.written, written, List.append_assoc]
    rfl
  · rw [List.map_cons, transcript.emitted]
    rfl
  · intro emission member
    rcases List.mem_cons.mp member with rfl | later
    · exact isTrue_answer sendable fate
    · exact transcript.isTrue emission later

/-- Nothing stands behind a refusal. -/
theorem transcript_of_refusal {event : Event} {response : Response} (refusal : IsRefusal response)
    (written : (connection.occur event).outbound.written =
      connection.outbound.written ++ response.wire)
    (answered : (connection.occur event).answered = connection.answered)
    (ended : (connection.occur event).phase = .ended .refused) (events : List Event) :
    Transcript around connection ((event :: events).foldl occur connection)
      (connection.emissions (event :: events)) [] [] [.ofResponse response] := by
  rcases refusal.sendable with ⟨sendable, closes⟩
  rcases ended_occurAll events ended with ⟨ended', written', handled', nothing⟩
  rw [← Answer.wire_ofResponse] at written
  rw [emissions_spoken events written sendable.wire_ne_nil, nothing]
  refine ⟨?_, .nil, Or.inr ⟨response, refusal, rfl, ended'⟩, ?_, rfl, ?_⟩
  · rw [List.append_nil, ← answered, List.foldl_cons, answered_ended ended', answered_ended ended]
    exact handled'
  · rw [List.foldl_cons, written', written, List.nil_append, List.flatMap_singleton]
  · intro emission member
    rw [List.mem_singleton.mp member]
    exact isTrue_answer sendable (Or.inr ⟨closes, ended⟩)

/-- In a calm history a connection writes answers and at most one refusal. -/
theorem transcript_of_calm (steady : ∀ surroundings, around surroundings → surroundings.AreCalm)
    (calm : connection.IsCalm) {events : List Event}
    (areCalm : ∀ event ∈ events, event.IsCalm around)
    (alive : (events.foldl occur connection).phase ≠ .ended .crashed) :
    ∃ calls answers final, Transcript around connection (events.foldl occur connection)
      (connection.emissions events) calls answers final := by
  induction events generalizing connection with
  | nil =>
      refine ⟨[], [], [], ?_, .nil, Or.inl rfl, ?_, rfl, ?_⟩
      · rw [List.append_nil]
        rfl
      · rw [List.append_nil]
        exact (List.append_nil _).symm
      · intro emission member
        cases member
  | cons event events inductionHypothesis =>
      have goesOn : (connection.occur event).phase ≠ .ended .crashed := by
        intro crashed
        exact alive (ended_occurAll events crashed).1
      rcases speaks_occur steady calm (areCalm event List.mem_cons_self) goesOn with ⟨speaks, calm'⟩
      have areCalm' : ∀ event ∈ events, event.IsCalm around :=
        fun other member => areCalm other (List.mem_cons_of_mem event member)
      rcases inductionHypothesis calm' areCalm' alive with ⟨calls, answers, final, transcript⟩
      cases speaks with
      | silence written answered =>
          refine ⟨calls, answers, final, ?_⟩
          rw [emissions_silent events written]
          exact ⟨answered ▸ transcript.answered, transcript.matched, transcript.isFinal,
            written ▸ transcript.written, transcript.emitted, transcript.isTrue⟩
      | answer isAnswer sendable written answered fate =>
          exact ⟨_, _, _, transcript.answer isAnswer sendable written answered fate⟩
      | refusal refusal written answered ended =>
          exact ⟨_, _, _, transcript_of_refusal refusal written answered ended events⟩

/-- Whatever the peer sends and however the handler behaves, a connection that nobody disturbs in its
writing writes the answers to the requests it has handled, in their order, and then at most one
refusal.  Each of them is one response, and tells the truth about the connection behind it. -/
theorem writes_whole_responses
    (steady : ∀ surroundings, around surroundings → surroundings.AreCalm) (peer : PeerId)
    (limit : Nat) {events : List Event} (areCalm : ∀ event ∈ events, event.IsCalm around)
    (alive : (after peer limit events).ending? ≠ some .crashed) :
    ∃ answers final,
      List.Forall₂ (IsAnswer around) (after peer limit events).answered answers ∧
      (after peer limit events).IsFinal final ∧
      (after peer limit events).outbound.written = (answers ++ final).flatMap Answer.wire ∧
      ((Connection.new peer limit).emissions events).map Emission.octets =
        (answers ++ final).map Answer.wire ∧
      ∀ emission ∈ (Connection.new peer limit).emissions events, emission.IsTrue := by
  have calm : (Connection.new peer limit).IsCalm := isCalm_reading rfl rfl
  have goesOn : (events.foldl occur (Connection.new peer limit)).phase ≠ .ended .crashed := by
    intro crashed
    apply alive
    simp only [after, ending?, crashed]
  rcases transcript_of_calm steady calm areCalm goesOn with ⟨calls, answers, final, transcript⟩
  have answered : (after peer limit events).answered = calls := transcript.answered
  refine ⟨answers, final, ?_, transcript.isFinal, transcript.written, transcript.emitted,
    transcript.isTrue⟩
  rw [answered]
  exact transcript.matched

/-! ## A short conversation -/

namespace Conversation

/-- A call that greets, with fields of its own that say something else about the connection and the
length. -/
def call : HandlerCall :=
  { HandlerCall.ofEnding (.send .ok StockHandler.greeting) with
    fields := [("Connection", "close"), ("Content-Length", "0")] }

def surroundings : Surroundings := ⟨fun _ => call, fun _ => .error .noSuchFile, false, fun _ => true⟩

/-- A request is sent and answered, and then something that is no request. -/
def events : List Event :=
  [.send (Octets.encode "GET / HTTP/1.1\r\n\r\n"), .step surroundings, .step surroundings,
    .step surroundings, .step surroundings, .send (Octets.encode " \r\n"), .step surroundings]

theorem isFit_call : call.IsFit := by
  constructor
  · intro status chosen
    cases chosen
    decide
  · have fields : ∀ field ∈ call.fields, Head.IsField field := by
      decide
    exact fields
  · intro keepAlive
    have replied : call.reply keepAlive =
        .ok (.message ⟨.ok, ⟨call.fields⟩, Octets.encode StockHandler.greeting, keepAlive⟩) := rfl
    rw [replied, Reply.HasFewLines]
    cases keepAlive <;> decide

end Conversation

/-- The conversation is one answer and one refusal, and both say what becomes of the connection. -/
theorem conversation_is_responses :
    ∃ answers final, (after 0 100 Conversation.events).answered.length = 1 ∧
      List.Forall₂ (IsAnswer (· = Conversation.surroundings))
        (after 0 100 Conversation.events).answered answers ∧
      (after 0 100 Conversation.events).IsFinal final ∧ final ≠ [] ∧
      (after 0 100 Conversation.events).outbound.written = (answers ++ final).flatMap Answer.wire ∧
      ∀ emission ∈ (Connection.new 0 100).emissions Conversation.events, emission.IsTrue := by
  have steady : ∀ surroundings, surroundings = Conversation.surroundings →
      surroundings.AreCalm := by
    rintro surroundings rfl
    refine ⟨rfl, fun _ => Conversation.isFit_call, ?_⟩
    intro path file found
    cases found
  have areCalm : ∀ event ∈ Conversation.events, event.IsCalm (· = Conversation.surroundings) := by
    simp only [Conversation.events, List.forall_mem_cons, Event.IsCalm, true_and,
      List.not_mem_nil, false_implies, implies_true]
  have one : (after 0 100 Conversation.events).answered.length = 1 := by decide
  have alive : (after 0 100 Conversation.events).ending? ≠ some .crashed := by decide
  have two : ((Connection.new 0 100).emissions Conversation.events).length = 2 := by decide +kernel
  rcases writes_whole_responses steady 0 100 areCalm alive with
    ⟨answers, final, matched, isFinal, written, emitted, isTrue⟩
  refine ⟨answers, final, one, matched, isFinal, ?_, written, isTrue⟩
  rintro rfl
  have same := congrArg List.length emitted
  rw [List.length_map, List.length_map, List.append_nil, two, ← matched.length_eq, one] at same
  cases same

end Connection
end PromiseHttp
