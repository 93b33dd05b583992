import PromiseHttp.Client.Exchange
import PromiseHttp.Proofs.Http.LongerInput
import PromiseHttp.Proofs.Stream.Reading

namespace PromiseHttp
namespace Exchange

/-!
# What an exchange makes of a stream

An exchange looks at what it holds after every read, but what it makes of a stream within its limit
does not depend on where the reads divide the stream.  The reason is that its phase is always the
one that it would have reached if everything that it holds had been there at once.  Once it is over
it stays as it is, and more octets would not have changed it.
-/

/-- An exchange to which all it holds has come at once. -/
def viewing (limit : Nat) (held : Octets) : Exchange := sought ⟨limit, ⟨held, 0, 0⟩, .head⟩

/-- The phase that is reached when all held octets have come at once. -/
def view (limit : Nat) (held : Octets) : ExchangePhase := (viewing limit held).phase

variable {limit : Nat}

/-! ## The phase is decided by what is held -/

theorem buffer_completed (exchange : Exchange) : exchange.completed.buffer = exchange.buffer := by
  unfold completed
  split
  · split <;> rfl
  · rfl

theorem limit_completed (exchange : Exchange) : exchange.completed.limit = exchange.limit := by
  unfold completed
  split
  · split <;> rfl
  · rfl

theorem buffer_sought (exchange : Exchange) : exchange.sought.buffer = exchange.buffer := by
  unfold sought
  split
  · rw [buffer_completed]
  · split <;> rfl
  · rfl

theorem limit_sought (exchange : Exchange) : exchange.sought.limit = exchange.limit := by
  unfold sought
  split
  · rw [limit_completed]
  · split <;> rfl
  · rfl

/-- Completing asks only for what is held. -/
theorem phase_completed {first second : Exchange} (phase : first.phase = second.phase)
    (held : first.buffer.held = second.buffer.held) :
    first.completed.phase = second.completed.phase := by
  unfold completed
  rw [← phase, ← held]
  split
  · split
    · exact phase
    · rfl
  · exact phase

theorem phase_sought {exchange : Exchange} (phase : exchange.phase = .head) :
    exchange.sought.phase = view exchange.limit exchange.buffer.held := by
  unfold view viewing sought
  dsimp only
  cases Response.parse exchange.buffer.held with
  | ok pair => exact phase_completed rfl rfl
  | error fault =>
      cases fault with
      | incomplete =>
          dsimp only
          split
          · rfl
          · exact phase
      | malformed fault => rfl
      | missingStatus => rfl

/-! ## More octets -/

/-- The view of a stream that begins no head. -/
theorem view_incomplete {held : Octets} (short : held.length ≤ limit)
    (parsed : Response.parse held = .error .incomplete) : view limit held = .head := by
  unfold view viewing sought
  rw [parsed]
  dsimp only
  rw [if_neg (Nat.not_lt_of_le short)]

/-- The view of a stream that begins with a head. -/
theorem view_parsed {held : Octets} {head : Response} {offset : Nat}
    (parsed : Response.parse held = .ok (head, offset)) :
    view limit held = (completed ⟨limit, ⟨held, 0, 0⟩, framing limit head offset⟩).phase := by
  unfold view viewing sought
  rw [parsed]

theorem view_refused {held : Octets} {fault : ResponseFault}
    (parsed : Response.parse held = .error fault) (decided : fault ≠ .incomplete) :
    view limit held = refusal fault.message := by
  unfold view viewing sought
  rw [parsed]
  cases fault with
  | incomplete => exact absurd rfl decided
  | malformed fault => rfl
  | missingStatus => rfl

/-- A framing leaves the head behind. -/
theorem framing_ne_head (head : Response) (offset : Nat) : framing limit head offset ≠ .head := by
  unfold framing refusal
  split
  · exact ExchangePhase.noConfusion
  · split
    · exact ExchangePhase.noConfusion
    · split
      · exact ExchangePhase.noConfusion
      · split
        · exact ExchangePhase.noConfusion
        · split <;> exact ExchangePhase.noConfusion

theorem onOctets_head {exchange : Exchange} (phase : exchange.phase = .head) (piece : Octets) :
    exchange.onOctets piece = sought { exchange with buffer := exchange.buffer.append piece } := by
  rcases exchange with ⟨limit, buffer, reached⟩
  cases phase
  rfl

theorem onOctets_sized {exchange : Exchange} {head : Response} {offset length : Nat}
    (phase : exchange.phase = .sized head offset length) (piece : Octets) :
    exchange.onOctets piece = completed { exchange with buffer := exchange.buffer.append piece } := by
  rcases exchange with ⟨limit, buffer, reached⟩
  cases phase
  rfl

theorem onOctets_unsized {exchange : Exchange} {head : Response} {offset : Nat}
    (phase : exchange.phase = .unsized head offset) {piece : Octets}
    (short : (exchange.buffer.held ++ piece).length ≤ exchange.limit) :
    exchange.onOctets piece = { exchange with buffer := exchange.buffer.append piece } := by
  rcases exchange with ⟨limit, buffer, reached⟩
  cases phase
  rw [onOctets]
  dsimp only
  rw [ReadBuffer.held_append, if_neg (Nat.not_lt_of_le short)]

/-- An exchange that is in the view of what it holds stays so when more octets arrive.  Only a body
without a length is compared with the limit then. -/
theorem view_onOctets {exchange : Exchange} {piece : Octets}
    (viewed : exchange.phase = view exchange.limit exchange.buffer.held)
    (goesOn : exchange.isOver = false) (before : exchange.buffer.held.length ≤ exchange.limit)
    (short : ∀ head offset, exchange.phase = .unsized head offset →
      (exchange.buffer.held ++ piece).length ≤ exchange.limit) :
    (exchange.onOctets piece).phase = view exchange.limit (exchange.buffer.held ++ piece) := by
  cases parsed : Response.parse exchange.buffer.held with
  | error fault =>
      by_cases undecided : fault = .incomplete
      · subst undecided
        have phase := viewed.trans (view_incomplete before parsed)
        have looked := @phase_sought { exchange with buffer := exchange.buffer.append piece } phase
        rw [ReadBuffer.held_append] at looked
        rw [onOctets_head phase]
        exact looked
      · rw [isOver, viewed, view_refused parsed undecided] at goesOn
        cases goesOn
  | ok pair =>
      rcases pair with ⟨head, offset⟩
      have again := Response.parse_append_ok parsed piece
      have phase := viewed.trans (view_parsed parsed)
      rw [view_parsed again]
      cases framed : framing exchange.limit head offset with
      | head => exact absurd framed (framing_ne_head head offset)
      | settled outcome =>
          rw [framed] at phase
          rw [isOver, phase] at goesOn
          cases goesOn
      | crashed =>
          rw [framed] at phase
          rw [isOver, phase] at goesOn
          cases goesOn
      | unsized whole start =>
          rw [framed] at phase
          have same : exchange.phase = .unsized whole start := phase
          rw [onOctets_unsized same (short whole start same)]
          exact same
      | sized whole start length =>
          rw [framed] at phase
          by_cases incomplete : exchange.buffer.held.length < start + length
          · have same : exchange.phase = .sized whole start length := by
              rw [phase, completed]
              dsimp only
              rw [if_pos incomplete]
            rw [onOctets_sized same]
            exact phase_completed same (ReadBuffer.held_append _ _)
          · have ended : exchange.phase = deliver whole exchange.buffer.held start length := by
              rw [phase, completed]
              dsimp only
              rw [if_neg incomplete]
            rw [isOver, ended] at goesOn
            cases goesOn

theorem isOver_iff {exchange : Exchange} : exchange.isOver = true ↔
    (∃ outcome, exchange.phase = .settled outcome) ∨ exchange.phase = .crashed := by
  unfold isOver
  cases exchange.phase <;> simp

/-- Octets behind those that end an exchange change nothing. -/
theorem view_append {held : Octets} (more : Octets) (short : held.length ≤ limit)
    (ended : (viewing limit held).isOver = true) : view limit (held ++ more) = view limit held := by
  have ended : (∃ outcome, view limit held = .settled outcome) ∨ view limit held = .crashed :=
    isOver_iff.mp ended
  cases parsed : Response.parse held with
  | error fault =>
      by_cases undecided : fault = .incomplete
      · subst undecided
        rw [view_incomplete short parsed] at ended
        rcases ended with ⟨outcome, impossible⟩ | impossible <;> cases impossible
      · have decided : Response.parse held ≠ .error .incomplete := by
          rw [parsed]
          intro same
          exact undecided (Except.error.inj same)
        rw [view_refused parsed undecided,
          view_refused ((Response.parse_append decided more).trans parsed) undecided]
  | ok pair =>
      rcases pair with ⟨head, offset⟩
      have again := Response.parse_append_ok parsed more
      rw [view_parsed again]
      rw [view_parsed parsed] at ended ⊢
      cases framed : framing limit head offset with
      | head => exact absurd framed (framing_ne_head head offset)
      | settled outcome => rfl
      | crashed => rfl
      | unsized whole start =>
          rw [framed] at ended
          rcases ended with ⟨outcome, impossible⟩ | impossible <;> cases impossible
      | sized whole start length =>
          rw [framed] at ended
          by_cases incomplete : held.length < start + length
          · simp only [completed, if_pos incomplete] at ended
            rcases ended with ⟨outcome, impossible⟩ | impossible <;> cases impossible
          · have longer : ¬ (held ++ more).length < start + length := by
              rw [List.length_append]
              omega
            simp only [completed, if_neg incomplete, if_neg longer, deliver]
            rw [List.drop_append_of_le_length (by omega),
              List.take_append_of_le_length (by rw [List.length_drop]; omega)]

/-- Where the body ends with the connection, more octets belong to the body. -/
theorem view_unsized_append {held : Octets} {head : Response} {offset : Nat}
    (unsized : view limit held = .unsized head offset) (more : Octets) :
    view limit (held ++ more) = .unsized head offset := by
  cases parsed : Response.parse held with
  | error fault =>
      unfold view viewing sought at unsized
      rw [parsed] at unsized
      cases fault with
      | incomplete =>
          dsimp only at unsized
          split at unsized <;> cases unsized
      | malformed fault => cases unsized
      | missingStatus => cases unsized
  | ok pair =>
      rcases pair with ⟨whole, start⟩
      rw [view_parsed (Response.parse_append_ok parsed more)]
      rw [view_parsed parsed] at unsized
      cases framed : framing limit whole start with
      | sized found place length =>
          rw [framed] at unsized
          simp only [completed, deliver] at unsized
          split at unsized <;> cases unsized
      | _ =>
          rw [framed] at unsized
          exact unsized

/-- Two beginnings of one stream that end the exchange end it alike. -/
theorem view_eq_of_prefix {stream front held : Octets} (begins : front <+: stream)
    (begins' : held <+: stream) (short : front.length ≤ limit)
    (decided : (viewing limit front).isOver = true) (ended : (viewing limit held).isOver = true) :
    view limit held = view limit front := by
  rcases List.prefix_or_prefix_of_prefix begins begins' with ⟨more, rfl⟩ | ⟨more, rfl⟩
  · exact view_append more short decided
  · rw [List.length_append] at short
    exact (view_append more (by omega) ended).symm

/-! ## Runs -/

theorem runFor_over (fuel : Nat) {exchange : Exchange} (ended : exchange.isOver = true)
    (inbound : Inbound) : runFor fuel exchange inbound = exchange := by
  cases fuel with
  | zero => rfl
  | succ fuel => rw [runFor, if_pos ended]

/-- An exchange that finds the end is over. -/
theorem isOver_onEnd (exchange : Exchange) : exchange.onEnd.isOver = true := by
  unfold onEnd
  split
  · rfl
  · rfl
  · rfl
  · rename_i phase
    rw [isOver, phase]
  · rename_i phase
    rw [isOver, phase]

/-- An end changes nothing for an exchange that is over. -/
theorem onEnd_over {exchange : Exchange} (ended : exchange.isOver = true) :
    exchange.onEnd = exchange := by
  unfold isOver at ended
  unfold onEnd
  split at ended
  · rename_i phase
    simp only [phase]
  · rename_i phase
    simp only [phase]
  · cases ended

theorem runFor_waits {exchange : Exchange} {inbound : Inbound}
    (waits : inbound.read? exchange.buffer.room = none) (fuel : Nat) :
    runFor fuel exchange inbound = exchange := by
  cases fuel with
  | zero => rfl
  | succ fuel =>
      rw [runFor, waits]
      exact ite_self _

theorem runFor_ended {exchange : Exchange} {inbound after : Inbound}
    (goesOn : ¬ exchange.isOver = true)
    (answer : inbound.read? exchange.buffer.room = some (.ended, after)) (fuel : Nat) :
    runFor (fuel + 1) exchange inbound = exchange.onEnd := by
  rw [runFor, if_neg goesOn, answer]
  exact runFor_over fuel (isOver_onEnd exchange) after

theorem runFor_failed {exchange : Exchange} {inbound after : Inbound} {fault : IoFault}
    (goesOn : ¬ exchange.isOver = true)
    (answer : inbound.read? exchange.buffer.room = some (.failed fault, after)) (fuel : Nat) :
    runFor (fuel + 1) exchange inbound =
      { exchange with phase := .settled (.error (.io fault)) } := by
  rw [runFor, if_neg goesOn, answer]
  dsimp only [onRead]
  rw [if_neg goesOn]
  exact runFor_over fuel rfl after

theorem runFor_onOctets {exchange : Exchange} {inbound after : Inbound} {piece : Octets}
    (goesOn : ¬ exchange.isOver = true)
    (answer : inbound.read? exchange.buffer.room = some (.octets piece, after)) (fuel : Nat) :
    runFor (fuel + 1) exchange inbound = runFor fuel (exchange.onOctets piece) after := by
  rw [runFor, if_neg goesOn, answer]
  rfl

/-- What is made of an end depends on what is held. -/
theorem phase_onEnd {first second : Exchange} (phase : first.phase = second.phase)
    (held : first.buffer.held = second.buffer.held) :
    first.onEnd.phase = second.onEnd.phase := by
  unfold onEnd
  rw [← phase, ← held]
  split <;> first | rfl | exact phase

theorem held_viewing (limit : Nat) (held : Octets) : (viewing limit held).buffer.held = held := by
  rw [viewing, buffer_sought]

theorem buffer_onOctets (exchange : Exchange) (piece : Octets) :
    (exchange.onOctets piece).buffer = exchange.buffer.append piece := by
  unfold onOctets
  dsimp only
  split
  · rw [buffer_sought]
  · rw [buffer_completed]
  · split <;> rfl
  · rfl
  · rfl

theorem limit_onOctets (exchange : Exchange) (piece : Octets) :
    (exchange.onOctets piece).limit = exchange.limit := by
  unfold onOctets
  dsimp only
  split
  · rw [limit_sought]
  · rw [limit_completed]
  · split <;> rfl
  · rfl
  · rfl

/-- What a read brings moves from the connection to what is held. -/
theorem held_onOctets (exchange : Exchange) {inbound after : Inbound} {room : Nat} {piece : Octets}
    (answer : inbound.read? room = some (.octets piece, after)) :
    (exchange.onOctets piece).buffer.held ++ after.octets =
      exchange.buffer.held ++ inbound.octets := by
  rcases Inbound.octets_of_read? answer with ⟨_, same, divided⟩ | ⟨other, _⟩
  · cases same
    rw [buffer_onOctets, ReadBuffer.held_append, divided, List.append_assoc]
  · exact absurd rfl (other piece)

/-- What an exchange makes of all that a connection brings, with or without the end behind it. -/
def make (limit : Nat) (octets : Octets) (closed : Bool) : ExchangePhase :=
  if closed then (viewing limit octets).onEnd.phase else view limit octets

/-- More octets and the end change nothing for an exchange that is over. -/
theorem make_over {held : Octets} (more : Octets) (short : (held ++ more).length ≤ limit)
    (ended : (viewing limit held).isOver = true) (closed : Bool) :
    make limit (held ++ more) closed = view limit held := by
  have before : held.length ≤ limit := by
    rw [List.length_append] at short
    omega
  have same := view_append more before ended
  have ended' : (viewing limit (held ++ more)).isOver = true := by
    have phase : (viewing limit (held ++ more)).phase = (viewing limit held).phase := same
    rw [isOver, phase]
    exact ended
  unfold make
  rw [onEnd_over ended']
  split <;> exact same

/-- An exchange in the view of what it holds makes of a stream what is made of it at once. -/
theorem phase_runFor (fuel : Nat) {exchange : Exchange} {inbound : Inbound} {rest : Octets}
    (viewed : exchange.phase = view exchange.limit exchange.buffer.held)
    (fits : exchange.buffer.Fits) (brings : inbound.Brings rest)
    (enough : inbound.readBound ≤ fuel)
    (short : (exchange.buffer.held ++ rest).length ≤ exchange.limit) :
    (runFor fuel exchange inbound).phase =
      make exchange.limit (exchange.buffer.held ++ rest) inbound.closed := by
  induction fuel generalizing exchange inbound rest with
  | zero =>
      unfold Inbound.readBound at enough
      omega
  | succ fuel inductionHypothesis =>
      by_cases ended : exchange.isOver = true
      · have ended' : (viewing exchange.limit exchange.buffer.held).isOver = true := by
          rw [isOver, viewed] at ended
          exact ended
        rw [runFor_over _ ended, make_over rest short ended', viewed]
      · rw [runFor, if_neg ended]
        by_cases nothing : rest = []
        · subst nothing
          rw [List.append_nil]
          have empty : inbound.queue = [] := brings.queue_eq_nil
          cases closed : inbound.closed with
          | false =>
              have waits : inbound.read? exchange.buffer.room = none := by
                simp only [Inbound.read?, empty, closed, Bool.false_eq_true, if_false]
              rw [waits]
              exact viewed
          | true =>
              have ends : inbound.read? exchange.buffer.room = some (.ended, inbound) := by
                simp only [Inbound.read?, empty, closed, if_true]
              rw [ends]
              dsimp only [onRead]
              rw [runFor_over _ (isOver_onEnd exchange)]
              exact phase_onEnd viewed (held_viewing _ _).symm
        · rcases brings.read nothing fits.room_pos with
            ⟨piece, left, after, read, divided, _, brings', closed⟩
          have held : (exchange.onOctets piece).buffer.held = exchange.buffer.held ++ piece := by
            rw [buffer_onOctets, ReadBuffer.held_append]
          have limited := limit_onOctets exchange piece
          have shorter := Inbound.readBound_of_read? read fits.room_pos
          rw [divided, ← List.append_assoc] at short ⊢
          have arrived : (exchange.buffer.held ++ piece).length ≤ exchange.limit := by
            rw [List.length_append] at short
            omega
          have before : exchange.buffer.held.length ≤ exchange.limit := by
            rw [List.length_append] at arrived
            omega
          rw [read]
          dsimp only [onRead]
          rw [← closed, ← limited, ← held]
          refine inductionHypothesis ?_ ?_ brings' ?_ ?_
          · rw [limited, held]
            exact view_onOctets viewed (Bool.eq_false_iff.mpr ended) before fun _ _ _ => arrived
          · rw [buffer_onOctets]
            exact fits.append (Inbound.length_of_read? read)
          · rcases shorter with fewer | impossible
            · omega
            · cases impossible
          · rw [limited, held]
            exact short

/-- What has not been decided by the octets that are held is decided by a beginning of the stream that
is longer. -/
theorem length_lt_of_undecided {stream front held : Octets} (begins : front <+: stream)
    (begins' : held <+: stream) (short : front.length ≤ limit)
    (decided : (viewing limit front).isOver = true)
    (goesOn : (viewing limit held).isOver = false) : held.length < front.length := by
  apply Nat.lt_of_not_le
  intro within
  rcases List.prefix_of_prefix_length_le begins begins' within with ⟨more, rfl⟩
  have same : (viewing limit (front ++ more)).phase = (viewing limit front).phase :=
    view_append more short decided
  rw [isOver, same] at goesOn
  rw [isOver, goesOn] at decided
  cases decided

/-- An exchange in the view of what it holds ends as a beginning of the stream within the limit ends
it, wherever the reads divide the stream and whatever comes behind. -/
theorem phase_runFor_decided (fuel : Nat) {exchange : Exchange} {inbound : Inbound}
    {rest front : Octets} (viewed : exchange.phase = view exchange.limit exchange.buffer.held)
    (fits : exchange.buffer.Fits) (brings : inbound.Brings rest)
    (enough : inbound.readBound ≤ fuel) (begins : front <+: exchange.buffer.held ++ rest)
    (short : front.length ≤ exchange.limit)
    (decided : (viewing exchange.limit front).isOver = true) :
    (runFor fuel exchange inbound).phase = view exchange.limit front := by
  induction fuel generalizing exchange inbound rest with
  | zero =>
      unfold Inbound.readBound at enough
      omega
  | succ fuel inductionHypothesis =>
      have same : exchange.isOver = (viewing exchange.limit exchange.buffer.held).isOver := by
        rw [isOver, viewed]
        rfl
      by_cases ended : exchange.isOver = true
      · rw [runFor_over _ ended, viewed]
        exact view_eq_of_prefix begins (List.prefix_append _ rest) short decided (same ▸ ended)
      · have goesOn := Bool.eq_false_iff.mpr ended
        have further := length_lt_of_undecided begins (List.prefix_append _ rest) short decided
          (same ▸ goesOn)
        have some_octet : rest ≠ [] := by
          rintro rfl
          have long := begins.length_le
          rw [List.append_nil] at long
          omega
        -- A body that ends with the connection is not ended by any octets.
        have sized : ∀ head offset, exchange.phase ≠ .unsized head offset := by
          intro head offset unsized
          have within : exchange.buffer.held <+: front :=
            List.prefix_of_prefix_length_le (List.prefix_append _ rest) begins (Nat.le_of_lt further)
          rcases within with ⟨more, rfl⟩
          have phase : (viewing exchange.limit (exchange.buffer.held ++ more)).phase =
              .unsized head offset := view_unsized_append (viewed ▸ unsized) more
          rw [isOver, phase] at decided
          cases decided
        rcases brings.read some_octet fits.room_pos with
          ⟨piece, left, after, read, divided, _, brings', _⟩
        have held : (exchange.onOctets piece).buffer.held = exchange.buffer.held ++ piece := by
          rw [buffer_onOctets, ReadBuffer.held_append]
        have limited := limit_onOctets exchange piece
        have shorter := Inbound.readBound_of_read? read fits.room_pos
        rw [or_iff_left ReadResult.noConfusion] at shorter
        rw [runFor_onOctets ended read, ← limited]
        rw [divided, ← List.append_assoc] at begins
        apply inductionHypothesis
        · rw [limited, held]
          exact view_onOctets viewed goesOn (by omega)
            fun head offset unsized => absurd unsized (sized head offset)
        · rw [buffer_onOctets]
          exact fits.append (Inbound.length_of_read? read)
        · exact brings'
        · omega
        · rw [held]
          exact begins
        · rw [limited]
          exact short
        · rw [limited]
          exact decided

/-- Nothing is no head. -/
theorem start_eq (limit : Nat) : start limit = ⟨limit, .empty, .head⟩ := by
  have nothing : Response.parse [] = .error .incomplete := rfl
  rw [start, sought, ReadBuffer.held_empty, nothing]
  dsimp only
  rw [List.length_nil, if_neg (Nat.not_lt_zero limit)]

theorem view_nil (limit : Nat) : view limit [] = .head :=
  view_incomplete (Nat.zero_le limit) rfl

/-- What an exchange makes of a stream within its limit does not depend on how the stream is cut. -/
theorem phase_run {inbound : Inbound} {octets : Octets} (brings : inbound.Brings octets)
    (short : octets.length ≤ limit) :
    (run limit inbound).phase = make limit octets inbound.closed := by
  rw [run, start_eq]
  have viewed : (Exchange.mk limit .empty .head).phase = view limit [] := (view_nil limit).symm
  exact phase_runFor inbound.readBound viewed ReadBuffer.fits_empty brings (Nat.le_refl _) short

/-- A beginning of a stream within the limit that ends the exchange ends it, however the stream is
cut. -/
theorem run_decided {inbound : Inbound} {stream front : Octets} (brings : inbound.Brings stream)
    (begins : front <+: stream) (short : front.length ≤ limit)
    (decided : (viewing limit front).isOver = true) :
    (run limit inbound).phase = view limit front := by
  rw [run, start_eq]
  have viewed : (Exchange.mk limit .empty .head).phase = view limit [] := (view_nil limit).symm
  exact phase_runFor_decided inbound.readBound viewed ReadBuffer.fits_empty brings (Nat.le_refl _) begins short decided

/-- What a beginning of a stream settles at once is what the exchange comes to. -/
theorem outcome?_of_decided {answer : Inbound} {stream front : Octets} {outcome : Outcome Response}
    (brings : answer.Brings stream) (begins : front <+: stream) (short : front.length ≤ limit)
    (settled : view limit front = .settled outcome) :
    (run limit answer).outcome? = some outcome := by
  have decided : (viewing limit front).isOver = true := isOver_iff.mpr (Or.inl ⟨outcome, settled⟩)
  rw [outcome?, run_decided brings begins short decided, settled]

end Exchange
end PromiseHttp
