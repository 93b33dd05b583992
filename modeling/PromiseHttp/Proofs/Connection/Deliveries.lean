import PromiseHttp.Proofs.Connection.Copying
import PromiseHttp.Proofs.Connection.History

namespace PromiseHttp

/-!
# The promise of a transfer

A handler that replies with a message or a file is given a promise of the transfer.  The connection
settles it when the delivery is over, and what it says is true of the wire: it resolves with the number
of octets if the peer was given the whole response, it is rejected with the fault of opening the file if
there was no file to begin with, and otherwise it is rejected with the failure that ends the
connection.

The deliveries of a history are those of its replies, one for each call of the handler in the order of
the calls.  Only the last call may have none: it may be in work, or the worker may have let the
connection go during it.
-/

/-! ## Whole responses -/

/-- A response is at least a status line. -/
theorem Response.headWire_ne_nil (response : Response) (length : Nat) :
    response.headWire length ≠ [] := by
  intro nothing
  have begins := congrArg List.length nothing
  simp only [headWire, headText, statusLine, Octets.encode_append, List.length_append] at begins
  have some_octet : (Octets.encode "HTTP/1.1 ").length = 9 := by decide
  rw [some_octet, List.length_nil] at begins
  omega

theorem Response.wire_ne_nil (response : Response) : response.wire ≠ [] :=
  List.append_ne_nil_of_left_ne_nil (response.typed.headWire_ne_nil _) _

/-- The octets are the whole response that a reply asks for, and the number is what its promise counts:
all octets of a message, and of a file those behind the head. -/
inductive Reply.Whole (files : Files) : Reply → Octets → Nat → Prop
  | message (response : Response) :
      Whole files (.message response) response.wire response.wire.length
  | file {path : String} {file : StoredFile} {announced : Nat} {content : Octets}
      (response : Response) (there : files path = .ok file) (told : file.length = .ok announced)
      (read : content <+: StoredFile.yields file.reads) (full : content.length = announced) :
      Whole files (.file response path) (response.headWire announced ++ content) announced

namespace Reply.Whole

variable {files : Files} {reply : Reply} {octets other : Octets} {count number : Nat}

theorem ne_nil (whole : reply.Whole files octets count) : octets ≠ [] := by
  cases whole with
  | message response => exact response.wire_ne_nil
  | file response there told read full =>
      exact List.append_ne_nil_of_left_ne_nil (response.headWire_ne_nil _) _

/-- What a promise counts is a matter of the reply and the files. -/
theorem unique (whole : reply.Whole files octets count) (whole' : reply.Whole files other number) :
    count = number := by
  cases whole with
  | message response =>
      cases whole'
      rfl
  | file response there told read full =>
      cases whole' with
      | file response there' told' read' full' =>
          cases there.symm.trans there'
          exact Except.ok.inj (told.symm.trans told')

end Reply.Whole

/-! ## How a delivery ends -/

namespace Delivery

variable {files : Files} {keepAlive settlingPanics : Bool} {outbound : Outbound}
  {delivery : Delivery}

/-- The connection tries to give the peer a response of its own, and goes on if it can. -/
def Attempts (outbound : Outbound) (response : Response) (delivery : Delivery) : Prop :=
  (∃ after, outbound.write response.wire = .ok after ∧ delivery.outbound = after ∧
      delivery.result = .ok ()) ∨
    ∃ fault, outbound.write response.wire = .error fault ∧
      delivery.outbound = outbound.tear response.wire ∧ delivery.result = .error (.io fault)

/-- The three ways in which the delivery of a reply ends whose promise is to be settled. -/
inductive Ends (files : Files) (keepAlive settlingPanics : Bool) (outbound : Outbound)
    (reply : Reply) (delivery : Delivery) : Prop
  /-- The peer is given the whole response, and the promise resolves. -/
  | whole {octets : Octets} {count : Nat} (whole : reply.Whole files octets count)
      (written : delivery.outbound.written = outbound.written ++ octets)
      (resolved : delivery.settled = some (.ok count)) (goesOn : delivery.result = .ok ())
  /-- There is no file, the promise says why, and then the peer is told that there is nothing, unless
  settling the promise panics. -/
  | unopened {response : Response} {path : String} {fault : IoFault}
      (asked : reply = .file response path) (nothing : files path = .error fault)
      (rejected : delivery.settled = some (.error (.io fault)))
      (told : settlingPanics = false → Attempts outbound (notFound keepAlive) delivery)
      (untold : settlingPanics = true → delivery.outbound = outbound)
  /-- Something else is in the way, and the promise and the connection fail of the same. -/
  | broken {failure : Failure} {part : Octets}
      (opened : ∀ response path fault, reply = .file response path → files path ≠ .error fault)
      (written : delivery.outbound.written = outbound.written ++ part)
      (short : ∀ octets count, reply.Whole files octets count → part.length < octets.length)
      (rejected : delivery.settled = some (.error failure))
      (fails : delivery.result = .error failure)

theorem attempts_notice (outbound : Outbound) (response : Response)
    (settled : Option (Outcome Nat)) :
    (notice outbound response settled).settled = settled ∧
      Attempts outbound response (notice outbound response settled) := by
  unfold notice Attempts
  cases outbound.write response.wire with
  | ok after => exact ⟨rfl, Or.inl ⟨after, rfl, rfl, rfl⟩⟩
  | error fault => exact ⟨rfl, Or.inr ⟨fault, rfl, rfl, rfl⟩⟩

/-- A write that fails leaves the peer without a whole response. -/
theorem torn_short {reply : Reply} {octets : Octets} {fault : IoFault}
    (failed : outbound.write octets = .error fault)
    (within : ∀ whole count, reply.Whole files whole count → octets.length ≤ whole.length) :
    ∃ part, (outbound.tear octets).written = outbound.written ++ part ∧
      ∀ whole count, reply.Whole files whole count → part.length < whole.length := by
  rcases Outbound.written_tear failed with ⟨part, written, _, short⟩
  exact ⟨part, written, fun whole count is => Nat.lt_of_lt_of_le short (within whole count is)⟩

/-- A failure takes the promise with it and leaves the peer without the whole response. -/
theorem ends_failed {reply : Reply} {after : Outbound} {part : Octets} (failure : Failure)
    (opened : ∀ response path fault, reply = .file response path → files path ≠ .error fault)
    (written : after.written = outbound.written ++ part)
    (short : ∀ octets count, reply.Whole files octets count → part.length < octets.length) :
    Ends files keepAlive settlingPanics outbound reply (failed after failure) :=
  .broken opened written short rfl rfl

theorem ends_message (files : Files) (keepAlive settlingPanics : Bool) (outbound : Outbound)
    (response : Response) :
    Ends files keepAlive settlingPanics outbound (.message response)
      (message outbound response) := by
  unfold message
  cases took : outbound.write response.wire with
  | ok after => exact .whole (.message response) (Outbound.written_of_write took) rfl rfl
  | error fault =>
      have within : ∀ whole count, Reply.Whole files (.message response) whole count →
          response.wire.length ≤ whole.length := by
        intro whole count is
        cases is
        exact Nat.le_refl _
      rcases torn_short took within with ⟨part, written, short⟩
      refine ends_failed (.io fault) ?_ written short
      intro other path _ impossible
      cases impossible

theorem ends_content {path : String} {file : StoredFile} {announced : Nat}
    (keepAlive settlingPanics : Bool) (outbound : Outbound) (response : Response)
    (there : files path = .ok file) (told : file.length = .ok announced) :
    Ends files keepAlive settlingPanics outbound (.file response path)
      (content outbound response path announced file) := by
  have opened : ∀ other place fault, Reply.file response path = .file other place →
      files place ≠ .error fault := by
    rintro other place fault same absent
    cases same
    cases there.symm.trans absent
  have length_whole : ∀ octets count, Reply.Whole files (.file response path) octets count →
      octets.length = (response.headWire announced).length + announced := by
    intro octets count whole
    cases whole with
    | file response there' told' read full =>
        cases there.symm.trans there'
        cases told.symm.trans told'
        rw [List.length_append, full]
  unfold content
  cases took : outbound.write (response.headWire announced) with
  | error fault =>
      have within : ∀ whole count, Reply.Whole files (.file response path) whole count →
          (response.headWire announced).length ≤ whole.length := by
        intro whole count is
        rw [length_whole whole count is]
        exact Nat.le_add_right _ _
      rcases torn_short took within with ⟨part, written, short⟩
      exact ends_failed (.io fault) opened written short
  | ok between =>
      have written := Outbound.written_of_write took
      have copied := StoredFile.copy_copies file.reads between 0 announced
      dsimp only
      generalize StoredFile.copy between 0 announced file.reads = result at copied ⊢
      cases copied with
      | @part after fault octets written' short =>
          have writes : after.written =
              outbound.written ++ (response.headWire announced ++ octets) := by
            rw [written', written, List.append_assoc]
          refine ends_failed (.io fault) opened writes ?_
          intro other count whole
          rw [length_whole other count whole, List.length_append]
          exact Nat.add_lt_add_left short _
      | @all after count written' counted =>
          have writes : after.written = outbound.written ++
              (response.headWire announced ++ (StoredFile.yields file.reads).take announced) := by
            rw [written', written, List.append_assoc]
          rw [Nat.zero_add] at counted
          dsimp only
          by_cases shrank : count < announced
          · rw [if_pos shrank]
            refine ends_failed _ opened writes ?_
            intro other number whole
            rw [length_whole other number whole, List.length_append, ← counted]
            exact Nat.add_lt_add_left shrank _
          · rw [if_neg shrank]
            have most : count ≤ announced := counted ▸ List.length_take_le _ _
            have exactly : count = announced := by omega
            subst exactly
            exact .whole (.file response there told (List.take_prefix _ _) counted.symm) writes rfl
              rfl

/-- Every delivery of a reply with a promise ends in one of the three ways. -/
theorem ends_deliver (files : Files) (keepAlive settlingPanics : Bool) (outbound : Outbound)
    (reply : Reply) : Ends files keepAlive settlingPanics outbound reply
      (deliver files keepAlive settlingPanics outbound (.ok reply)) := by
  cases reply with
  | message response => exact ends_message files keepAlive settlingPanics outbound response
  | file response path =>
      rw [deliver, file]
      cases there : files path with
      | error fault =>
          dsimp only
          cases settlingPanics with
          | true => exact .unopened rfl there rfl Bool.noConfusion fun _ => rfl
          | false =>
              rcases attempts_notice outbound (notFound keepAlive) (some (.error (.io fault))) with
                ⟨settled, told⟩
              exact .unopened rfl there settled (fun _ => told) Bool.noConfusion
      | ok found =>
          dsimp only
          cases told : found.length with
          | ok announced => exact ends_content keepAlive settlingPanics outbound response there told
          | error fault =>
              refine ends_failed (.io fault) ?_ (List.append_nil _).symm ?_
              · rintro other place fault' same absent
                cases same
                cases there.symm.trans absent
              · exact fun octets count whole => List.length_pos_iff.mpr whole.ne_nil

/-- The promise resolves with a number exactly if the peer was given the whole response and the number
is what it counts. -/
theorem Ends.resolves_iff {reply : Reply}
    (ends : Ends files keepAlive settlingPanics outbound reply delivery) (count : Nat) : delivery.settled = some (.ok count) ↔
      ∃ octets, reply.Whole files octets count ∧
        delivery.outbound.written = outbound.written ++ octets := by
  cases ends with
  | whole whole written resolved goesOn =>
      rw [resolved]
      constructor
      · intro same
        cases same
        exact ⟨_, whole, written⟩
      · rintro ⟨octets, whole', _⟩
        rw [whole.unique whole']
  | unopened asked nothing rejected told untold =>
      rw [rejected]
      constructor
      · intro same
        cases same
      · rintro ⟨octets, whole, _⟩
        subst asked
        cases whole with
        | file response there told' read full => cases there.symm.trans nothing
  | @broken failure part opened written short rejected fails =>
      rw [rejected]
      constructor
      · intro same
        cases same
      · rintro ⟨octets, whole, written'⟩
        have same : part = octets := List.append_cancel_left (written.symm.trans written')
        have shorter := short octets count whole
        rw [same] at shorter
        exact absurd shorter (Nat.lt_irrefl _)

/-- What the peer was given before stays. -/
theorem Attempts.written_extends {response : Response} (attempts : Attempts outbound response delivery) :
    outbound.written <+: delivery.outbound.written := by
  rcases attempts with ⟨after, took, now, _⟩ | ⟨fault, failed, now, _⟩
  · rw [now, Outbound.written_of_write took]
    exact List.prefix_append _ _
  · rcases Outbound.written_tear failed with ⟨part, written, _, _⟩
    rw [now, written]
    exact List.prefix_append _ _

theorem Ends.written_extends {reply : Reply}
    (ends : Ends files keepAlive settlingPanics outbound reply delivery) :
    outbound.written <+: delivery.outbound.written := by
  cases ends with
  | whole whole written resolved goesOn => exact written ▸ List.prefix_append _ _
  | unopened asked nothing rejected told untold =>
      cases panics : settlingPanics with
      | false => exact (told panics).written_extends
      | true => exact untold panics ▸ List.prefix_rfl
  | broken opened written short rejected fails => exact written ▸ List.prefix_append _ _

theorem Ends.promised {reply : Reply}
    (ends : Ends files keepAlive settlingPanics outbound reply delivery) :
    delivery.settled.isSome = true := by
  cases ends with
  | whole whole written resolved goesOn => rw [resolved, Option.isSome_some]
  | unopened asked nothing rejected told untold => rw [rejected, Option.isSome_some]
  | broken opened written short rejected fails => rw [rejected, Option.isSome_some]

end Delivery

/-! ## The deliveries of a history -/

/-- The delivery of a reply, with what it depends on. -/
structure Delivered where
  request : Request
  call : HandlerCall
  files : Files
  /-- The outgoing direction in front of the delivery. -/
  before : Outbound

namespace Delivered

variable (delivered : Delivered)

def handled : Request × HandlerCall := (delivered.request, delivered.call)

def keepAlive : Bool := delivered.request.isKeepAlive

def reply : Outcome Reply := delivered.call.reply delivered.keepAlive

def delivery : Delivery :=
  Delivery.deliver delivered.files delivered.keepAlive delivered.call.settlingPanics
    delivered.before delivered.reply

/-- What the promise of the transfer is settled with, if there is one. -/
def settled : Option (Outcome Nat) := delivered.delivery.settled

/-- Whether settling the promise panics, so that the connection does not come to its end. -/
def panics : Bool := delivered.settled.isSome && delivered.call.settlingPanics

variable {delivered}

/-- A reply with a promise is delivered in one of the three ways. -/
theorem ends {reply : Reply} (given : delivered.reply = .ok reply) :
    delivered.delivery.Ends delivered.files delivered.keepAlive delivered.call.settlingPanics
      delivered.before reply := by
  rw [delivery, given]
  exact Delivery.ends_deliver delivered.files delivered.keepAlive delivered.call.settlingPanics
    delivered.before reply

/-- A failed handler is reported, and there is no promise to settle. -/
theorem excuses {failure : Failure} (given : delivered.reply = .error failure) :
    delivered.settled = none ∧
      Delivery.Attempts delivered.before (Delivery.handlerFailed failure delivered.keepAlive)
        delivered.delivery := by
  rw [settled, delivery, given]
  exact Delivery.attempts_notice delivered.before
    (Delivery.handlerFailed failure delivered.keepAlive) none

variable (delivered)

theorem written_extends : delivered.before.written <+: delivered.delivery.outbound.written := by
  cases given : delivered.reply with
  | ok reply => exact (ends given).written_extends
  | error failure => exact (excuses given).2.written_extends

/-- There is a promise to settle exactly if the handler was given one. -/
theorem promised : delivered.settled.isSome = delivered.call.ending.promises := by
  have replies := delivered.call.reply_eq delivered.keepAlive
  cases ending : delivered.call.ending with
  | send status text =>
      rw [ending] at replies
      exact (ends replies).promised
  | sendResponse response =>
      rw [ending] at replies
      exact (ends replies).promised
  | serveFile path =>
      rw [ending] at replies
      exact (ends replies).promised
  | fail reason =>
      rw [ending] at replies
      rw [(excuses replies).1]
      rfl
  | letGo =>
      rw [ending] at replies
      rw [(excuses replies).1]
      rfl

theorem resolves_iff (count : Nat) : delivered.settled = some (.ok count) ↔
    ∃ reply octets, delivered.reply = .ok reply ∧ reply.Whole delivered.files octets count ∧
      delivered.delivery.outbound.written = delivered.before.written ++ octets := by
  cases given : delivered.reply with
  | ok reply =>
      constructor
      · intro resolved
        rcases ((ends given).resolves_iff count).mp resolved with ⟨octets, whole, written⟩
        exact ⟨reply, octets, rfl, whole, written⟩
      · rintro ⟨other, octets, same, whole, written⟩
        cases same
        exact ((ends given).resolves_iff count).mpr ⟨octets, whole, written⟩
  | error failure =>
      rw [(excuses given).1]
      constructor
      · intro same
        cases same
      · rintro ⟨reply, octets, same, _⟩
        cases same

end Delivered

namespace Connection

/-- The delivery that an event makes, if it makes one. -/
def delivery? (connection : Connection) : Event → Option Delivered
  | .step surroundings =>
    match connection.phase with
    | .replying request call => some ⟨request, call, surroundings.files, connection.outbound⟩
    | _ => none
  | _ => none

/-- The deliveries of a history, in their order. -/
def deliveries (connection : Connection) : List Event → List Delivered
  | [] => []
  | event :: events =>
    (connection.delivery? event).toList ++ (connection.occur event).deliveries events

/-- The calls whose replies are not delivered: the one in work, or the one during which the worker has
let the connection go. -/
def Undelivered (connection : Connection) (calls : List (Request × HandlerCall)) : Prop :=
  match connection.phase with
  | .calling request call _ => calls = [(request, call)]
  | .replying request call => calls = [(request, call)]
  | .ended .dropped => calls.length ≤ 1
  | _ => calls = []

/-- Every call of the handler is in the account of deliveries, but for the undelivered ones. -/
def AccountsFor (connection : Connection) (calls : List (Request × HandlerCall)) : Prop :=
  ∃ undelivered, connection.handled = calls ++ undelivered ∧ connection.Undelivered undelivered

/-- What becomes of a connection with some deliveries. -/
structure Delivers (connection next : Connection) (made : List Delivered) : Prop where
  calls : ∀ calls, connection.AccountsFor calls →
    next.AccountsFor (calls ++ made.map Delivered.handled)
  completions : next.completions = connection.completions ++ made.map Delivered.settled
  written : connection.outbound.written <+: next.outbound.written
  behind : ∀ delivered ∈ made, delivered.delivery.outbound.written <+: next.outbound.written
  fails : ∀ delivered ∈ made, ∀ failure, delivered.delivery.result = .error failure →
    delivered.panics = false → next.phase = .ended (.failed failure)
  stays : ∀ ending, connection.phase = .ended ending → next.phase = .ended ending

variable {connection next last : Connection} {made more : List Delivered}

/-! ## Steps -/

theorem Delivers.trans (delivers : Delivers connection next made) (further : Delivers next last more) :
    Delivers connection last (made ++ more) where
  calls calls accounts := by
    rw [List.map_append, ← List.append_assoc]
    exact further.calls _ (delivers.calls _ accounts)
  completions := by
    rw [further.completions, delivers.completions, List.map_append, List.append_assoc]
  written := delivers.written.trans further.written
  behind delivered member := by
    rcases List.mem_append.mp member with earlier | later
    · exact (delivers.behind delivered earlier).trans further.written
    · exact further.behind delivered later
  fails delivered member failure fails calm := by
    rcases List.mem_append.mp member with earlier | later
    · exact further.stays _ (delivers.fails delivered earlier failure fails calm)
    · exact further.fails delivered later failure fails calm
  stays ending ended := further.stays ending (delivers.stays ending ended)

/-- What a connection does without delivering a reply. -/
theorem Delivers.of_none
    (calls : ∀ calls, connection.AccountsFor calls → next.AccountsFor calls)
    (completions : next.completions = connection.completions)
    (written : connection.outbound.written <+: next.outbound.written)
    (stays : ∀ ending, connection.phase = .ended ending → next.phase = .ended ending) :
    Delivers connection next [] where
  calls done accounts := by
    rw [List.map_nil, List.append_nil]
    exact calls done accounts
  completions := by rw [completions, List.map_nil, List.append_nil]
  written := written
  behind _ member := absurd member List.not_mem_nil
  fails _ member := absurd member List.not_mem_nil
  stays := stays

/-- A connection that keeps its calls as they are, but may go on to another phase. -/
theorem delivers_kept (handled : next.handled = connection.handled)
    (completions : next.completions = connection.completions)
    (written : next.outbound.written = connection.outbound.written)
    (kept : ∀ calls, connection.Undelivered calls → next.Undelivered calls)
    (stays : ∀ ending, connection.phase = .ended ending → next.phase = .ended ending) :
    Delivers connection next [] := by
  apply Delivers.of_none
  · rintro calls ⟨undelivered, all, owed⟩
    exact ⟨undelivered, handled.trans all, kept undelivered owed⟩
  · exact completions
  · exact written ▸ List.prefix_rfl
  · exact stays

theorem delivers_same (phase : next.phase = connection.phase)
    (handled : next.handled = connection.handled)
    (completions : next.completions = connection.completions)
    (written : next.outbound.written = connection.outbound.written) :
    Delivers connection next [] := by
  apply delivers_kept handled completions written
  · intro calls owed
    unfold Undelivered at owed ⊢
    rw [phase]
    exact owed
  · exact fun ending ended => phase.trans ended

/-- A reading connection that goes on without a call. -/
theorem delivers_reading (reading : connection.phase = .reading) (idle : next.Undelivered [])
    (handled : next.handled = connection.handled)
    (completions : next.completions = connection.completions)
    (written : connection.outbound.written <+: next.outbound.written) :
    Delivers connection next [] := by
  apply Delivers.of_none
  · rintro calls ⟨undelivered, all, owed⟩
    simp only [Undelivered, reading] at owed
    subst owed
    exact ⟨[], handled.trans all, idle⟩
  · exact completions
  · exact written
  · intro ending ended
    cases reading.symm.trans ended

theorem delivers_refuse (reading : connection.phase = .reading) (response : Response) :
    Delivers connection (connection.refuse response) [] := by
  unfold refuse
  cases took : connection.outbound.write response.wire with
  | ok outbound =>
      have written := Outbound.written_of_write took
      exact delivers_reading reading rfl rfl rfl (written ▸ List.prefix_append _ _)
  | error fault =>
      rcases Outbound.written_tear took with ⟨part, written, _, _⟩
      exact delivers_reading reading rfl rfl rfl (written ▸ List.prefix_append _ _)

theorem delivers_consider (reading : connection.phase = .reading) (stopping : Bool) :
    Delivers connection (connection.consider stopping) [] := by
  unfold consider
  cases Verdict.judge connection.limit connection.buffer.held with
  | wait => exact delivers_same rfl rfl rfl rfl
  | refuse response => exact delivers_refuse reading response
  | overflow => exact delivers_reading reading rfl rfl rfl List.prefix_rfl
  | accept request size =>
      cases stopping with
      | true => exact delivers_reading reading rfl rfl rfl List.prefix_rfl
      | false => exact delivers_reading reading rfl rfl rfl List.prefix_rfl

theorem delivers_onRead (reading : connection.phase = .reading) (stopping : Bool)
    (result : ReadResult) : Delivers connection (connection.onRead stopping result) [] := by
  cases result with
  | octets piece =>
      have considers := @delivers_consider
        { connection with buffer := connection.buffer.append piece } reading stopping
      have keeps : Delivers connection { connection with buffer := connection.buffer.append piece } [] :=
        delivers_same rfl rfl rfl rfl
      exact keeps.trans considers
  | ended => exact delivers_reading reading rfl rfl rfl List.prefix_rfl
  | failed fault => exact delivers_reading reading rfl rfl rfl List.prefix_rfl

/-- A connection with a reply to give that has delivered it. -/
theorem Delivers.of_one {delivered : Delivered}
    (replying : connection.phase = .replying delivered.request delivered.call)
    (before : delivered.before = connection.outbound) (idle : next.Undelivered [])
    (handled : next.handled = connection.handled)
    (completions : next.completions = connection.completions ++ [delivered.settled])
    (outbound : next.outbound = delivered.delivery.outbound)
    (fails : ∀ failure, delivered.delivery.result = .error failure → delivered.panics = false →
      next.phase = .ended (.failed failure)) :
    Delivers connection next [delivered] where
  calls := by
    rintro calls ⟨undelivered, all, owed⟩
    simp only [Undelivered, replying] at owed
    subst owed
    refine ⟨[], ?_, idle⟩
    rw [handled, all, List.append_nil]
    rfl
  completions := completions
  written := by
    rw [outbound, ← before]
    exact delivered.written_extends
  behind other member := by
    cases List.mem_singleton.mp member
    exact outbound ▸ List.prefix_rfl
  fails other member := by
    cases List.mem_singleton.mp member
    exact fails
  stays ending ended := by cases replying.symm.trans ended

theorem delivers_reply {request : Request} {call : HandlerCall}
    (replying : connection.phase = .replying request call) (files : Files) :
    Delivers connection (connection.reply files request call)
      [⟨request, call, files, connection.outbound⟩] := by
  generalize made : Delivered.mk request call files connection.outbound = delivered
  have asked : delivered.request = request := made ▸ rfl
  have called : delivered.call = call := made ▸ rfl
  have before : delivered.before = connection.outbound := made ▸ rfl
  have delivery : Delivery.deliver files request.isKeepAlive call.settlingPanics
      connection.outbound (call.reply request.isKeepAlive) = delivered.delivery := made ▸ rfl
  have replies : connection.phase = .replying delivered.request delivered.call := by
    rw [asked, called]
    exact replying
  unfold reply
  dsimp only
  rw [delivery]
  split
  · rename_i panics
    refine .of_one replies before rfl rfl rfl rfl ?_
    intro failure _ calm
    rw [Delivered.panics, called, Delivered.settled, panics] at calm
    cases calm
  · cases result : delivered.delivery.result with
    | error failure =>
        refine .of_one replies before rfl rfl rfl rfl ?_
        intro other fails _
        cases result.symm.trans fails
        rfl
    | ok _ =>
        have goesOn : ∀ failure, delivered.delivery.result ≠ .error failure := by
          intro failure fails
          cases result.symm.trans fails
        dsimp only
        split
        · exact .of_one replies before rfl rfl rfl rfl
            (fun failure fails => absurd fails (goesOn failure))
        · exact .of_one replies before rfl rfl rfl rfl
            (fun failure fails => absurd fails (goesOn failure))

theorem delivers_letGo (connection : Connection) : Delivers connection connection.letGo [] := by
  unfold letGo
  split
  · exact delivers_same rfl rfl rfl rfl
  · rename_i goesOn
    refine delivers_kept rfl rfl rfl ?_ ?_
    · intro calls owed
      have few : calls.length ≤ 1 := by
        unfold Undelivered at owed
        split at owed
        · exact owed ▸ Nat.le_refl 1
        · exact owed ▸ Nat.le_refl 1
        · exact owed
        · exact owed ▸ Nat.zero_le 1
      exact few
    · intro ending ended
      rw [ending?, ended, Option.isSome_some] at goesOn
      exact absurd rfl goesOn

theorem delivers_elapse (connection : Connection) (time : Nat) :
    Delivers connection (connection.elapse time) [] := by
  unfold elapse
  cases phase : connection.phase with
  | calling request call asleep =>
      refine delivers_kept rfl rfl rfl ?_ ?_
      · intro calls owed
        simp only [Undelivered, phase] at owed
        exact owed
      · intro ending ended
        cases phase.symm.trans ended
  | reading => exact delivers_same rfl rfl rfl rfl
  | cleared request => exact delivers_same rfl rfl rfl rfl
  | replying request call => exact delivers_same rfl rfl rfl rfl
  | ended ending => exact delivers_same rfl rfl rfl rfl

theorem delivers_callHandler {request : Request} (cleared : connection.phase = .cleared request)
    (call : HandlerCall) : Delivers connection (connection.callHandler request call) [] := by
  apply Delivers.of_none
  · rintro calls ⟨undelivered, all, owed⟩
    simp only [Undelivered, cleared] at owed
    subst owed
    refine ⟨[(request, call)], ?_, rfl⟩
    rw [callHandler, all, List.append_nil]
  · rfl
  · exact List.prefix_rfl
  · intro ending ended
    cases cleared.symm.trans ended

theorem delivers_comeBack {request : Request} {call : HandlerCall}
    (calling : connection.phase = .calling request call 0) :
    Delivers connection { connection with phase := .replying request call } [] := by
  refine delivers_kept rfl rfl rfl ?_ ?_
  · intro calls owed
    simp only [Undelivered, calling] at owed
    exact owed
  · intro ending ended
    cases calling.symm.trans ended

/-- An event makes at most one delivery: that of the reply to the request in work. -/
theorem delivers_occur (connection : Connection) (event : Event) :
    Delivers connection (connection.occur event) (connection.delivery? event).toList := by
  cases event with
  | send chunk => exact delivers_same rfl rfl rfl rfl
  | disturb fault => exact delivers_same rfl rfl rfl rfl
  | close => exact delivers_same rfl rfl rfl rfl
  | takeWrites budget => exact delivers_same rfl rfl rfl rfl
  | elapse time => exact delivers_elapse connection time
  | letGo => exact delivers_letGo connection
  | step surroundings =>
      rw [occur]
      cases step : connection.advance? surroundings with
      | none =>
          have nothing : connection.delivery? (.step surroundings) = none := by
            cases phase : connection.phase with
            | replying request call =>
                rw [advance?, phase] at step
                cases step
            | _ => simp only [delivery?, phase]
          rw [nothing]
          exact delivers_same rfl rfl rfl rfl
      | some next =>
          cases moves_of_advance step with
          | @read result inbound reading answer =>
              have reads := @delivers_onRead { connection with inbound := inbound } reading
                surroundings.stopping result
              have keeps : Delivers connection { connection with inbound := inbound } [] :=
                delivers_same rfl rfl rfl rfl
              simp only [delivery?, reading]
              rw [← reading]
              exact keeps.trans reads
          | @call request cleared =>
              simp only [delivery?, cleared]
              exact delivers_callHandler cleared _
          | @comeBack request call calling returns =>
              simp only [delivery?, calling]
              exact delivers_comeBack calling
          | @reply request call replying =>
              simp only [delivery?, replying]
              exact delivers_reply replying surroundings.files

/-! ## Runs -/

theorem delivers_occurAll (connection : Connection) (events : List Event) :
    Delivers connection (events.foldl occur connection) (connection.deliveries events) := by
  induction events generalizing connection with
  | nil => exact delivers_same rfl rfl rfl rfl
  | cons event events inductionHypothesis =>
      exact (connection.delivers_occur event).trans (inductionHypothesis (connection.occur event))

/-- What the promises of a connection say is true. -/
structure TellsTruth (connection : Connection) (deliveries : List Delivered) : Prop where
  accounts : connection.AccountsFor (deliveries.map Delivered.handled)
  /-- However a handler uses its writer, and though the writer is let go in the end, the reply is settled
  once. -/
  replies : ∀ handled ∈ connection.handled, ∀ keepAlive,
    handled.2.settlements keepAlive = [handled.2.reply keepAlive]
  /-- Each promise is settled once, by the delivery. -/
  completions : connection.completions = deliveries.map Delivered.settled
  promised : ∀ delivered ∈ deliveries,
    delivered.settled.isSome = delivered.call.ending.promises
  written : ∀ delivered ∈ deliveries,
    delivered.before.written <+: delivered.delivery.outbound.written ∧
      delivered.delivery.outbound.written <+: connection.outbound.written
  ends : ∀ delivered ∈ deliveries, ∀ reply, delivered.reply = .ok reply →
    delivered.delivery.Ends delivered.files delivered.keepAlive delivered.call.settlingPanics
      delivered.before reply
  resolves : ∀ delivered ∈ deliveries, ∀ count, delivered.settled = some (.ok count) ↔
    ∃ reply octets, delivered.reply = .ok reply ∧ reply.Whole delivered.files octets count ∧
      delivered.delivery.outbound.written = delivered.before.written ++ octets
  excuses : ∀ delivered ∈ deliveries, ∀ failure, delivered.reply = .error failure →
    Delivery.Attempts delivered.before (Delivery.handlerFailed failure delivered.keepAlive)
      delivered.delivery
  /-- If the connection comes to the end of a delivery that fails, it ends with the failure. -/
  fails : ∀ delivered ∈ deliveries, ∀ failure, delivered.delivery.result = .error failure →
    delivered.panics = false → connection.phase = .ended (.failed failure)

/-- In every history, whatever handlers, files and peers do, the promises tell the truth. -/
theorem promises_tell_truth (peer : PeerId) (limit : Nat) (events : List Event) :
    TellsTruth (after peer limit events) ((Connection.new peer limit).deliveries events) := by
  have delivers := delivers_occurAll (Connection.new peer limit) events
  have accounts := delivers.calls [] ⟨[], rfl, rfl⟩
  rw [List.nil_append] at accounts
  exact {
    accounts := accounts
    replies := fun handled _ keepAlive => handled.2.settlements_eq_reply keepAlive
    completions := delivers.completions
    promised := fun delivered _ => delivered.promised
    written := fun delivered member => ⟨delivered.written_extends, delivers.behind delivered member⟩
    ends := fun delivered _ reply given => Delivered.ends given
    resolves := fun delivered _ count => delivered.resolves_iff count
    excuses := fun delivered _ failure given => (Delivered.excuses given).2
    fails := delivers.fails }

/-- A file that has three octets and not five. -/
example :
    let surroundings : Surroundings :=
      { handler := fun _ => .ofEnding (.serveFile "notes"),
        files := fun _ => .ok ⟨.ok 5, [.ok (Octets.encode "abc")]⟩,
        stopping := false,
        returns := fun _ => true }
    let events := .send (Octets.encode "GET / HTTP/1.1\r\n\r\n") ::
      List.replicate 4 (.step surroundings)
    let failure := Failure.protocol "notes shrank while streaming: sent 3 of 5 bytes"
    (after 0 64 events).completions = [some (.error failure)] ∧
      (after 0 64 events).phase = .ended (.failed failure) :=
  ⟨rfl, rfl⟩

end Connection
end PromiseHttp
