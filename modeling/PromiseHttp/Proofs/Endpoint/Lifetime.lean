import PromiseHttp.Proofs.Endpoint.Life

namespace PromiseHttp
namespace Endpoint

/-!
# What holds throughout the life of an endpoint

Only calls and the acceptor change where an endpoint stands; whatever else happens moves connections
and workers.  So an endpoint is looked at in three ways.  Its pool and what waits at its address are
in order at all times.  How far it has come can be told from its calls: one of them has started it, one
has ended the serving, and one has made the shutdown known.  And everyone who shuts the pool down is
either the acceptor or a call.
-/

namespace Life

variable {life next middle : Life}

/-! ## Beside the calls -/

/-- Whether the server has not looked at a connection. -/
def IsFresh (connection : Connection) : Prop :=
  connection.phase = .reading ∧ connection.handled = []

/-- What may become of an endpoint while neither its acceptor nor a call makes a step. -/
inductive Beside (life : Life) : Life → Prop
  | moves {waiting : List Connection} {pool : Option WorkerPool} {taken : List WorkerId}
      {closers : List WorkerPool.Closer}
      (fresh : (∀ connection ∈ life.endpoint.waiting, IsFresh connection) →
        ∀ connection ∈ waiting, IsFresh connection)
      (unserved : life.endpoint.pool = none →
        pool = none ∧ taken = life.taken ∧ closers = life.closers)
      (served : ∀ before, life.endpoint.pool = some before → ∃ after, pool = some after ∧
        WorkerPool.Closing.Goes ⟨before, life.taken, life.closers⟩ ⟨after, taken, closers⟩) :
      Beside life { life with
        endpoint := { life.endpoint with waiting := waiting, pool := pool }
        taken := taken
        closers := closers }

/-- Only the pool has changed, if there is one, in a way in which pools change. -/
theorem Beside.of_pool {change : WorkerPool → WorkerPool}
    (changes : ∀ pool : WorkerPool, WorkerPool.Alters pool (change pool)) {waiting : List Connection}
    (fresh : (∀ connection ∈ life.endpoint.waiting, IsFresh connection) →
      ∀ connection ∈ waiting, IsFresh connection) :
    life.Beside { life with
      endpoint := { life.endpoint with waiting := waiting, pool := life.endpoint.pool.map change } } :=
  .moves fresh (fun unserved => ⟨by rw [unserved, Option.map_none], rfl, rfl⟩)
    fun before served => ⟨change before, by rw [served, Option.map_some], .of_alters (changes before)⟩

theorem Beside.refl (life : Life) : life.Beside life :=
  .moves id (fun unserved => ⟨unserved, rfl, rfl⟩)
    fun before served => ⟨before, served, .of_alters (.of_workers rfl id)⟩

theorem beside_atPool (life : Life) {event : WorkerPool.Closing.Event} (known : event ≠ .call) :
    life.Beside (life.atPool event) := by
  unfold atPool
  split
  · exact Beside.refl life
  · rename_i pool served
    refine .moves id (fun unserved => ?_) fun before there => ⟨_, rfl, ?_⟩
    · rw [served] at unserved
      cases unserved
    · rw [served] at there
      cases there
      exact WorkerPool.Closing.goes_occur _ known

theorem beside_arrive (life : Life) (peer : PeerId) : life.Beside (life.occur (.arrive peer)) := by
  simp only [occur, arrive?]
  split
  · refine .moves (fun fresh => ?_) (fun unserved => ⟨unserved, rfl, rfl⟩)
      fun before served => ⟨before, served, .of_alters (.of_workers rfl id)⟩
    exact List.forall_mem_append.mpr ⟨fresh, List.forall_mem_singleton.mpr ⟨rfl, rfl⟩⟩
  · exact Beside.refl life

theorem beside_touch (life : Life) (peer : PeerId) (event : Connection.Event) :
    life.Beside (life.occur (.touch peer event)) := by
  simp only [occur]
  split
  · rename_i own
    refine Beside.of_pool (fun pool => .map fun worker => Worker.changes_modify worker own peer) ?_
    intro fresh connection member
    rcases List.mem_map.mp member with ⟨old, among, rfl⟩
    split
    · rcases Connection.idles_byPeer old own with ⟨idles, phase⟩
      exact ⟨phase.trans (fresh old among).1, idles.handled.trans (fresh old among).2⟩
    · exact fresh old among
  · exact Beside.refl life

theorem beside_accept (fresh : ∀ connection ∈ life.endpoint.waiting, IsFresh connection) :
    life.Beside (life.occur .accept) := by
  have stays := Beside.refl life
  simp only [occur, accept?, Endpoint.accept?]
  split
  · split
    · rename_i pool connection rest listening served waiting
      rw [waiting] at fresh
      refine .moves (fun _ other member => ?_) (fun unserved => ?_) fun before there => ⟨_, rfl, ?_⟩
      · exact fresh other (List.mem_cons_of_mem connection member)
      · rw [served] at unserved
        cases unserved
      · rw [served] at there
        cases there
        rcases fresh connection List.mem_cons_self with ⟨reading, new⟩
        exact .of_alters (WorkerPool.alters_dispatch _ reading new)
    · exact stays
  · exact stays

/-- Whether an event is the beginning of a call. -/
def Event.begins : Event → Bool
  | .serve _ _ => true
  | .shutDown => true
  | _ => false

/-- What an event is: something beside the calls, a step of the acceptor on its way to its end, the
beginning of a call, or a step of a call. -/
inductive Turns (life : Life) : Bool → Life → Prop
  | beside {next : Life} (beside : life.Beside next) : Turns life false next
  | leaves {next : Life} (leaves : life.Leaves next) : Turns life false next
  | begins {call : Call}
      (new : (∃ threaded startup, call = .starting threaded startup) ∨ call = .telling) :
      Turns life true { life with calls := life.calls ++ [call] }
  | advances {middle : Life} {place : Nat} {before after : Call}
      (there : life.calls[place]? = some before) (steps : life.Steps before middle after) :
      Turns life false { middle with calls := life.calls.set place after }

theorem turns (fresh : ∀ connection ∈ life.endpoint.waiting, IsFresh connection) (event : Event) :
    life.Turns event.begins (life.occur event) := by
  have stays : life.Turns false life := .beside (Beside.refl life)
  cases event with
  | arrive peer => exact .beside (beside_arrive life peer)
  | touch peer event => exact .beside (beside_touch life peer event)
  | accept => exact .beside (beside_accept fresh)
  | work service id step => exact .beside (beside_atPool life nofun)
  | discard id fault => exact .beside (beside_atPool life nofun)
  | exit id => exact .beside (beside_atPool life nofun)
  | elapse time =>
      exact .beside (.of_pool (fun pool => .map fun worker => Worker.changes_elapse worker time) id)
  | interrupt =>
      simp only [occur]
      cases step : life.interrupt? with
      | none => exact stays
      | some next => exact .leaves (leaves_of_interrupt step)
  | leave =>
      simp only [occur]
      cases step : life.leave? with
      | none => exact stays
      | some next => exact .leaves (Life.leaves step)
  | close place => exact .beside (beside_atPool life nofun)
  | serve threaded startup => exact .begins (Or.inl ⟨threaded, startup, rfl⟩)
  | shutDown => exact .begins (Or.inr rfl)
  | advance place =>
      simp only [occur]
      cases step : life.advance? place with
      | none => exact stays
      | some next =>
          rcases advance?_eq_some step with ⟨before, middle, after, there, steps, rfl⟩
          exact .advances there steps

/-! ## The pool and the address -/

/-- What holds of the pool of an endpoint and of what waits at its address. -/
structure Sound (life : Life) : Prop where
  valid : life.endpoint.settings.validate = .ok ()
  fresh : ∀ connection ∈ life.endpoint.waiting, IsFresh connection
  pool : ∀ pool, life.endpoint.pool = some pool →
    WorkerPool.Closing.Sound ⟨pool, life.taken, life.closers⟩
  unserved : life.endpoint.pool = none → life.taken = [] ∧ life.closers = []
  absent : life.acceptor = .absent ↔ life.endpoint.pool = none
  bound : life.endpoint.state = .bound → life.endpoint.pool = none
  serving : life.endpoint.state = .serving → life.endpoint.pool ≠ none

/-- Somebody who begins to shut the pool down is one more who does so. -/
theorem Sound.close (sound : life.Sound) (served : life.endpoint.pool ≠ none) :
    life.close.Sound := by
  refine ⟨sound.valid, sound.fresh, fun pool there => ?_, fun unserved => absurd unserved served,
    sound.absent, sound.bound, sound.serving⟩
  exact (sound.pool pool there).occur .call

theorem Sound.beside (sound : life.Sound) (beside : life.Beside next) : next.Sound := by
  cases beside with
  | @moves waiting pool taken closers fresh unserved served =>
      have same : pool = none ↔ life.endpoint.pool = none := by
        constructor
        · intro gone
          cases there : life.endpoint.pool with
          | none => rfl
          | some before =>
              rcases served before there with ⟨after, found, _⟩
              rw [gone] at found
              cases found
        · exact fun there => (unserved there).1
      refine ⟨sound.valid, fresh sound.fresh, fun found there => ?_, fun gone => ?_,
        sound.absent.trans same.symm, fun state => same.mpr (sound.bound state),
        fun state gone => sound.serving state (same.mp gone)⟩
      · cases old : life.endpoint.pool with
        | none =>
            rw [show pool = none from same.mpr old] at there
            cases there
        | some before =>
            rcases served before old with ⟨after, found', goes⟩
            rw [show pool = some found from there] at found'
            cases found'
            exact goes.sound (sound.pool before old)
      · rcases unserved (same.mp gone) with ⟨_, taken', closers'⟩
        exact ⟨taken'.trans (sound.unserved (same.mp gone)).1,
          closers'.trans (sound.unserved (same.mp gone)).2⟩

theorem Sound.served (sound : life.Sound) (present : life.acceptor ≠ .absent) :
    life.endpoint.pool ≠ none := fun unserved => present (sound.absent.mpr unserved)

theorem Sound.leaves (sound : life.Sound) (leaves : life.Leaves next) : next.Sound := by
  have moved : ∀ {acceptor : Acceptor}, life.acceptor ≠ .absent → acceptor ≠ .absent →
      (acceptor = .absent ↔ life.endpoint.pool = none) := by
    intro acceptor before after
    exact iff_of_false after (sound.served before)
  cases leaves with
  | heeds accepting told =>
      exact ⟨sound.valid, sound.fresh, sound.pool, sound.unserved,
        moved (by rw [accepting]; nofun) nofun, sound.bound, sound.serving⟩
  | interrupted accepting =>
      exact ⟨sound.valid, sound.fresh, sound.pool, sound.unserved,
        moved (by rw [accepting]; nofun) nofun, sound.bound, sound.serving⟩
  | closes leaving =>
      have present : life.acceptor ≠ .absent := by rw [leaving]; nofun
      have closed := sound.close (sound.served present)
      exact ⟨sound.valid, fun _ member => absurd member List.not_mem_nil, closed.pool,
        closed.unserved, moved present nofun, sound.bound, sound.serving⟩
  | ends closing down =>
      exact ⟨sound.valid, sound.fresh, sound.pool, sound.unserved,
        moved (by rw [closing]; nofun) nofun, sound.bound, sound.serving⟩

theorem Sound.steps (sound : life.Sound) {before after : Call}
    (made : ∀ startup, before = .launching startup → life.acceptor = .made)
    (steps : life.Steps before next after) : next.Sound := by
  have served : ∀ startup, before = .launching startup → life.endpoint.pool ≠ none := by
    intro startup launching
    exact sound.served (by rw [made startup launching]; nofun)
  cases steps with
  | @starts threaded startup pool state spawned =>
      rcases sound.unserved (sound.bound state) with ⟨taken, closers⟩
      refine ⟨sound.valid, sound.fresh, fun found there => ?_, nofun, iff_of_false ?_ nofun, nofun,
        fun _ => nofun⟩
      · cases there
        rw [taken, closers]
        exact WorkerPool.Closing.sound_start spawned
      · cases threaded <;> exact nofun
  | fails state failed =>
      exact ⟨sound.valid, fun _ member => absurd member List.not_mem_nil, sound.pool, sound.unserved,
        sound.absent, nofun, nofun⟩
  | refused state => exact sound
  | launches smooth =>
      exact ⟨sound.valid, sound.fresh, sound.pool, sound.unserved,
        iff_of_false nofun (served _ rfl), sound.bound, sound.serving⟩
  | strands none_left =>
      exact ⟨sound.valid, fun _ member => absurd member List.not_mem_nil, sound.pool, sound.unserved,
        iff_of_false nofun (served _ rfl), sound.bound, sound.serving⟩
  | notes => exact ⟨sound.valid, sound.fresh, sound.pool, sound.unserved, sound.absent, sound.bound,
      sound.serving⟩
  | comesBack ended => exact sound
  | tells => exact ⟨sound.valid, sound.fresh, sound.pool, sound.unserved, sound.absent, sound.bound,
      sound.serving⟩
  | stopsBound state =>
      exact ⟨sound.valid, fun _ member => absurd member List.not_mem_nil, sound.pool, sound.unserved,
        sound.absent, nofun, nofun⟩
  | stopsNoted state noted =>
      exact ⟨sound.valid, sound.fresh, sound.pool, sound.unserved, sound.absent, nofun, nofun⟩
  | stopsUnnoted state unnoted =>
      have closed := sound.close (sound.serving state)
      exact ⟨sound.valid, sound.fresh, closed.pool, closed.unserved, sound.absent, nofun, nofun⟩
  | stopsAgain state => exact sound
  | awaits ended => exact sound.close (sound.served (by rw [ended]; nofun))
  | closes down => exact sound
  | announces => exact ⟨sound.valid, sound.fresh, sound.pool, sound.unserved, sound.absent,
      sound.bound, sound.serving⟩

/-! ## The calls -/

/-- What a step of one call makes of a count of calls. -/
theorem countP_set {calls : List Call} {place : Nat} {before : Call}
    (there : calls[place]? = some before) (after : Call) (counts : Call → Bool) :
    (calls.set place after).countP counts + (counts before).toNat =
      calls.countP counts + (counts after).toNat := by
  rcases List.getElem?_eq_some_iff.mp there with ⟨within, same⟩
  have counted : counts before = true → 0 < calls.countP counts := by
    intro yes
    rw [List.countP_pos_iff]
    exact ⟨before, List.mem_of_getElem? there, yes⟩
  rw [List.countP_set within, same]
  cases yes : counts before with
  | false =>
      cases counts after <;>
        simp only [Bool.toNat_true, Bool.toNat_false, if_true, Bool.false_eq_true, if_false] <;> omega
  | true =>
      have positive := counted yes
      cases counts after <;>
        simp only [Bool.toNat_true, Bool.toNat_false, if_true, Bool.false_eq_true, if_false] <;> omega

/-- A call that does not make the step is still there after it. -/
theorem mem_set_of_ne {calls : List Call} {place : Nat} {before after other : Call}
    (there : calls[place]? = some before) (member : other ∈ calls) (different : other ≠ before) :
    other ∈ calls.set place after := by
  rcases List.getElem?_of_mem member with ⟨place', there'⟩
  have apart : place ≠ place' := by
    rintro rfl
    rw [there] at there'
    exact different (Option.some.inj there').symm
  have kept : (calls.set place after)[place']? = some other := by
    rw [List.getElem?_set_ne apart, there']
  exact List.mem_of_getElem? kept

/-- Of calls of a kind of which there is at most one, there are no two. -/
theorem unique_of_countP_le {calls : List Call} {counts : Call → Bool}
    (single : calls.countP counts ≤ 1) {one other : Call} (first : one ∈ calls)
    (second : other ∈ calls) (yes : counts one = true) (yes' : counts other = true) :
    one = other := by
  rw [List.countP_eq_length_filter] at single
  have first' := List.mem_filter.mpr ⟨first, yes⟩
  have second' := List.mem_filter.mpr ⟨second, yes'⟩
  cases kind : calls.filter counts with
  | nil =>
      rw [kind] at first'
      cases first'
  | cons call rest =>
      rw [kind, List.length_cons] at single
      have alone : rest = [] := List.eq_nil_of_length_eq_zero (by omega)
      rw [kind, alone, List.mem_singleton] at first' second'
      exact first'.trans second'.symm

/-- What a call says about where the endpoint stands. -/
def Fits (told : Bool) (state : EndpointState) : Call → Prop
  | .starting _ _ => True
  | .launching _ => True
  | .stranded fault => ∃ refused, fault = .spawn refused
  | .noting => True
  | .hosting => True
  | .served (.ok _) => True
  | .served (.error fault) => fault = .notBound ∨ ∃ refused, fault = .ofThread refused
  | .telling => True
  | .stopping => told = true
  | .awaiting => told = true ∧ state = .stopped
  | .closing _ => told = true ∧ state = .stopped
  | .announcing => told = true ∧ state = .stopped
  | .shut _ => told = true ∧ state = .stopped

theorem Fits.mono {told told' : Bool} {state state' : EndpointState}
    (keeps : told = true → told' = true) (stays : state = .stopped → state' = .stopped) {call : Call}
    (fits : Fits told state call) : Fits told' state' call := by
  cases call with
  | served result =>
      cases result with
      | ok value => exact trivial
      | error fault => exact fits
  | stopping => exact keeps fits
  | awaiting => exact fits.imp keeps stays
  | closing place => exact fits.imp keeps stays
  | announcing => exact fits.imp keeps stays
  | shut found => exact fits.imp keeps stays
  | starting threaded startup => exact trivial
  | launching startup => exact trivial
  | stranded fault => exact fits
  | noting => exact trivial
  | hosting => exact trivial
  | telling => exact trivial

/-- A shutdown that has left the endpoint stopped has told the acceptor. -/
theorem Fits.stopped {told : Bool} {state : EndpointState} {call : Call}
    (fits : Fits told state call) (stopped : call.hasStopped = true) :
    told = true ∧ state = .stopped := by
  cases call with
  | awaiting => exact fits
  | closing place => exact fits
  | announcing => exact fits
  | shut found => exact fits
  | _ => cases stopped

/-- A call that shuts the pool down has left the endpoint stopped. -/
theorem hasStopped_of_closes {call : Call} (closes : call.closes = true) :
    call.hasStopped = true := by
  cases call with
  | closing place => rfl
  | announcing => rfl
  | shut found => rfl
  | _ => cases closes

/-- How far an endpoint has come, as its calls show. -/
structure Counted (life : Life) : Prop where
  calls : ∀ call ∈ life.calls, Fits life.told life.endpoint.state call
  made : ∀ startup, .launching startup ∈ life.calls → life.acceptor = .made
  started : life.calls.countP Call.hasStarted = life.endpoint.pool.isSome.toNat
  ended : life.calls.countP Call.endsServing =
    (decide (life.endpoint.state = .stopped) && life.endpoint.pool.isSome).toNat
  serving : life.endpoint.notices.count .serving = life.endpoint.pool.isSome.toNat
  shutDown : life.endpoint.notices.count .shutDown = life.calls.countP Call.hasAnnounced

theorem isSome_of_served {pool : Option WorkerPool} (served : pool ≠ none) : pool.isSome = true :=
  Option.isSome_iff_ne_none.mpr served

theorem Counted.beside (counted : life.Counted) (beside : life.Beside next) : next.Counted := by
  cases beside with
  | @moves waiting pool taken closers fresh unserved served =>
      have same : pool.isSome = life.endpoint.pool.isSome := by
        cases there : life.endpoint.pool with
        | none => rw [(unserved there).1]
        | some before =>
            rcases served before there with ⟨after, found, _⟩
            rw [found, Option.isSome_some, Option.isSome_some]
      exact ⟨counted.calls, counted.made, counted.started.trans (by rw [same]),
        counted.ended.trans (by rw [same]), counted.serving.trans (by rw [same]), counted.shutDown⟩

theorem Counted.leaves (counted : life.Counted) (leaves : life.Leaves next) : next.Counted := by
  -- The acceptor takes such a step only when it is at work.
  have made : ∀ {moved other : Acceptor}, life.acceptor = moved → moved ≠ .made →
      ∀ startup, .launching startup ∈ life.calls → other = .made := by
    intro moved other same elsewhere startup member
    exact absurd (same.symm.trans (counted.made startup member)) elsewhere
  cases leaves with
  | heeds accepting told =>
      exact ⟨counted.calls, made accepting nofun, counted.started, counted.ended, counted.serving,
        counted.shutDown⟩
  | interrupted accepting =>
      refine ⟨counted.calls, made accepting nofun, counted.started, counted.ended, ?_, ?_⟩
      · exact Eq.trans List.count_append counted.serving
      · exact Eq.trans List.count_append counted.shutDown
  | closes leaving =>
      exact ⟨counted.calls, made leaving nofun, counted.started, counted.ended, counted.serving,
        counted.shutDown⟩
  | ends closing down =>
      exact ⟨counted.calls, made closing nofun, counted.started, counted.ended, counted.serving,
        counted.shutDown⟩

/-- A call that has just begun says nothing. -/
theorem Counted.begin (counted : life.Counted) {call : Call}
    (new : (∃ threaded startup, call = .starting threaded startup) ∨ call = .telling) :
    Counted { life with calls := life.calls ++ [call] } := by
  have silent : ∀ told state, Fits told state call := by
    rcases new with ⟨threaded, startup, rfl⟩ | rfl <;> exact fun _ _ => trivial
  have uncounted : Call.hasStarted call = false ∧ Call.endsServing call = false ∧
      Call.hasAnnounced call = false := by
    rcases new with ⟨threaded, startup, rfl⟩ | rfl <;> exact ⟨rfl, rfl, rfl⟩
  have made : ∀ startup, .launching startup ∈ life.calls ++ [call] → life.acceptor = .made := by
    intro startup member
    rcases List.mem_append.mp member with old | last
    · exact counted.made startup old
    · cases List.mem_singleton.mp last
      cases uncounted.1
  have same : ∀ counts : Call → Bool, counts call = false →
      (life.calls ++ [call]).countP counts = life.calls.countP counts := by
    intro counts no
    rw [List.countP_append, List.countP_singleton, no]
    rfl
  refine ⟨List.forall_mem_append.mpr ⟨counted.calls, List.forall_mem_singleton.mpr (silent _ _)⟩,
    made, (same _ uncounted.1).trans counted.started,
    (same _ uncounted.2.1).trans counted.ended, counted.serving,
    counted.shutDown.trans (same _ uncounted.2.2).symm⟩

/-- The calls after one of them has made a step. -/
theorem fits_set {calls : List Call} {told told' : Bool} {state state' : EndpointState} {place : Nat}
    {after : Call} (fits : ∀ call ∈ calls, Fits told state call)
    (keeps : told = true → told' = true) (stays : state = .stopped → state' = .stopped)
    (new : Fits told' state' after) : ∀ call ∈ calls.set place after, Fits told' state' call := by
  intro call member
  rcases List.mem_or_eq_of_mem_set member with old | rfl
  · exact (fits call old).mono keeps stays
  · exact new

/-- A call that does not make the acceptor leaves it where it is. -/
theorem Counted.made_set (counted : life.Counted) {place : Nat} {after : Call}
    (other : ∀ startup, after ≠ .launching startup) :
    ∀ startup, .launching startup ∈ life.calls.set place after → life.acceptor = .made := by
  intro startup member
  rcases List.mem_or_eq_of_mem_set member with old | new
  · exact counted.made startup old
  · exact absurd new.symm (other startup)

/-- The call that gives the acceptor its thread is the only one that has started the endpoint. -/
theorem Counted.launches_once (counted : life.Counted) {place : Nat} {startup again : Startup}
    {after : Call} (there : life.calls[place]? = some (.launching startup))
    (member : .launching again ∈ life.calls.set place after) (started : after.hasStarted = true) :
    after = .launching again := by
  have counts := countP_set there after Call.hasStarted
  have least : (life.calls.set place after).countP Call.hasStarted ≤ 1 := by
    have one := Bool.toNat_le life.endpoint.pool.isSome
    rw [counted.started, started] at counts
    exact Nat.le_trans (Nat.le_of_eq (Nat.add_right_cancel counts)) one
  have new := List.mem_set (List.getElem?_eq_some_iff.mp there).1 after
  exact unique_of_countP_le least new member started rfl

/-- What a step of a call has to keep in step with the calls. -/
theorem Counted.of_step (counted : life.Counted) {place : Nat} {before after : Call}
    (there : life.calls[place]? = some before) (calls : next.calls = life.calls.set place after)
    (keeps : life.told = true → next.told = true)
    (stays : life.endpoint.state = .stopped → next.endpoint.state = .stopped)
    (fits : Fits next.told next.endpoint.state after)
    (made : ∀ startup, .launching startup ∈ life.calls.set place after → next.acceptor = .made)
    (started : next.endpoint.pool.isSome.toNat + before.hasStarted.toNat =
      life.endpoint.pool.isSome.toNat + after.hasStarted.toNat)
    (ended : (decide (next.endpoint.state = .stopped) && next.endpoint.pool.isSome).toNat +
        before.endsServing.toNat =
      (decide (life.endpoint.state = .stopped) && life.endpoint.pool.isSome).toNat +
        after.endsServing.toNat)
    (serving : next.endpoint.notices.count .serving + life.endpoint.pool.isSome.toNat =
      life.endpoint.notices.count .serving + next.endpoint.pool.isSome.toNat)
    (shutDown : next.endpoint.notices.count .shutDown + before.hasAnnounced.toNat =
      life.endpoint.notices.count .shutDown + after.hasAnnounced.toNat) :
    next.Counted := by
  have of_started := countP_set there after Call.hasStarted
  have of_ended := countP_set there after Call.endsServing
  have of_announced := countP_set there after Call.hasAnnounced
  have started' := counted.started
  have ended' := counted.ended
  have serving' := counted.serving
  have shutDown' := counted.shutDown
  refine ⟨calls ▸ fits_set counted.calls keeps stays fits, calls ▸ made, ?_, ?_, by omega, ?_⟩
  all_goals rw [calls]
  all_goals omega

theorem Counted.steps (counted : life.Counted) (sound : life.Sound) {place : Nat}
    {before after : Call} (there : life.calls[place]? = some before)
    (steps : life.Steps before middle after) :
    Counted { middle with calls := life.calls.set place after } := by
  have fits := counted.calls before (List.mem_of_getElem? there)
  have made : ∀ {after : Call}, (∀ startup, after ≠ .launching startup) → ∀ startup,
      .launching startup ∈ life.calls.set place after → life.acceptor = .made :=
    fun other => counted.made_set other
  cases steps with
  | @starts threaded startup pool state spawned =>
      have unserved := sound.bound state
      have absent := sound.absent.mpr unserved
      have new : Fits life.told .serving (if threaded then .launching startup else .hosting) := by
        cases threaded <;> exact trivial
      refine counted.of_step there rfl id (fun stopped => ?_) new ?_ ?_ ?_ ?_ ?_
      · rw [state] at stopped
        cases stopped
      · intro other member
        rcases List.mem_or_eq_of_mem_set member with old | same
        · cases absent.symm.trans (counted.made other old)
        · cases threaded with
          | true => rfl
          | false => cases same
      · rw [unserved]
        cases threaded <;> rfl
      · rw [unserved, state]
        cases threaded <;> rfl
      · rw [unserved]
        exact congrArg (· + 0) List.count_append
      · refine Eq.trans (congrArg (· + 0) List.count_append) ?_
        cases threaded <;> rfl
  | fails state failed =>
      rcases WorkerPool.spawn_eq_error sound.valid failed with ⟨_, refused, _, _, rfl⟩
      refine counted.of_step there rfl id (fun _ => rfl) (Or.inr ⟨refused, rfl⟩) (made (by simp)) rfl ?_
        rfl rfl
      simp only [stopListening, sound.bound state, Option.isSome_none, Bool.and_false]
      rfl
  | refused state =>
      exact counted.of_step there rfl id id (Or.inl rfl) (made (by simp)) rfl rfl rfl rfl
  | launches smooth =>
      refine counted.of_step there rfl id id trivial (fun other member => ?_) rfl rfl rfl rfl
      cases counted.launches_once there member rfl
  | @strands startup fault none_left =>
      refine counted.of_step there rfl id id ⟨fault, rfl⟩ (fun other member => ?_) rfl rfl rfl rfl
      cases counted.launches_once there member rfl
  | notes => exact counted.of_step there rfl id id trivial (made (by simp)) rfl rfl rfl rfl
  | comesBack ended => exact counted.of_step there rfl id id trivial (made (by simp)) rfl rfl rfl rfl
  | tells =>
      exact counted.of_step there rfl (fun _ => rfl) id rfl (made (by simp)) rfl rfl rfl rfl
  | stopsBound state =>
      refine counted.of_step there rfl id (fun _ => rfl) ⟨fits, rfl⟩ (made (by simp)) rfl ?_ rfl rfl
      simp only [stopListening, sound.bound state, Option.isSome_none, Bool.and_false]
      rfl
  | stopsNoted state noted =>
      refine counted.of_step there rfl id (fun _ => rfl) ⟨fits, rfl⟩ (made (by simp)) rfl ?_ rfl rfl
      simp only [isSome_of_served (sound.serving state), state]
      rfl
  | stopsUnnoted state unnoted =>
      refine counted.of_step there rfl id (fun _ => rfl) ⟨fits, rfl⟩ (made (by simp)) rfl ?_ rfl rfl
      simp only [Life.close, isSome_of_served (sound.serving state), state]
      rfl
  | stopsAgain state =>
      exact counted.of_step there rfl id id ⟨fits, state⟩ (made (by simp)) rfl rfl rfl rfl
  | awaits ended => exact counted.of_step there rfl id id fits (made (by simp)) rfl rfl rfl rfl
  | closes down => exact counted.of_step there rfl id id fits (made (by simp)) rfl rfl rfl rfl
  | announces =>
      refine counted.of_step there rfl id id fits (made (by simp)) rfl rfl ?_ ?_
      · exact congrArg (· + life.endpoint.pool.isSome.toNat) List.count_append
      · exact congrArg (· + 0) List.count_append

/-! ## Who shuts the pool down -/

/-- Whether the pool has been shut down and all threads have come to their end. -/
def Down (life : Life) : Prop :=
  ∀ pool, life.endpoint.pool = some pool → pool.stopping = true ∧
    ∀ (id : WorkerId) (worker : Worker), pool.workers[id]? = some worker → worker.running = false

/-- What has come of the attempts to shut the pool down if nobody but the acceptor makes any. -/
def Alone (life : Life) : Acceptor → Prop
  | .absent => life.closers = []
  | .made => life.closers = []
  | .lost => life.closers = []
  | .accepting => life.closers = []
  | .leaving => life.closers = []
  | .closing _ => life.closers.length = 1
  | .ended => life.Down

/-- Everyone who shuts the pool down is the acceptor or a call.  An acceptor that has been noted down is
awaited by the call that ends the serving, so it is alone. -/
structure Owned (life : Life) : Prop where
  owners : ∀ (place : Nat) (closer : WorkerPool.Closer), life.closers[place]? = some closer →
    closer = .returned ∨ life.acceptor = .closing place ∨ .closing place ∈ life.calls
  ended : life.acceptor = .ended → .returned ∈ life.closers
  called : ∀ call ∈ life.calls, call.hasClosed = true → .returned ∈ life.closers
  awaited : life.noted = true → ∀ call ∈ life.calls, call.closes = true → life.acceptor = .ended
  alone : life.endpoint.state = .serving ∨ life.noted = true → life.Alone life.acceptor

/-- When everyone who has shut the pool down has come to an end, all threads have. -/
theorem Sound.down (sound : life.Sound) (closed : life.closers ≠ [])
    (returned : ∀ closer ∈ life.closers, closer = .returned) : life.Down := by
  intro pool there
  have ended := fun {id : WorkerId} {worker : Worker} (found : pool.workers[id]? = some worker) =>
    (sound.pool pool there).ended closed returned found
  refine ⟨?_, fun id worker found => (ended found).2⟩
  rcases List.exists_mem_of_ne_nil _ closed with ⟨closer, member⟩
  have has := (sound.pool pool there).closers closer member
  rw [returned closer member] at has
  exact has.1

/-- A thread that has come to its end stays there, and the flag is not lowered. -/
theorem Down.beside (down : life.Down) (beside : life.Beside next) : next.Down := by
  cases beside with
  | @moves waiting pool taken closers fresh unserved served =>
      intro after there
      cases old : life.endpoint.pool with
      | none =>
          rw [show pool = none from (unserved old).1] at there
          cases there
      | some before =>
          rcases served before old with ⟨found, there', goes⟩
          rw [show pool = some after from there] at there'
          cases there'
          rcases down before old with ⟨flag, ended⟩
          refine ⟨goes.alters.flag flag, fun id worker found => ?_⟩
          rcases goes.alters.back found with ⟨earlier, found', changes⟩
          exact changes.flags.2 (ended id earlier found')

/-- What has come of the attempts to shut the pool down is what had come of them, or more. -/
theorem closers_beside (beside : life.Beside next) :
    next.closers.length = life.closers.length ∧
      ∀ place : Nat, life.closers[place]? = some .returned → next.closers[place]? = some .returned := by
  cases beside with
  | @moves waiting pool taken closers fresh unserved served =>
      cases old : life.endpoint.pool with
      | none =>
          rw [show closers = life.closers from (unserved old).2.2]
          exact ⟨rfl, fun _ down => down⟩
      | some before =>
          rcases served before old with ⟨found, there', goes⟩
          exact ⟨goes.length, goes.returned⟩

theorem Alone.beside {acceptor : Acceptor} (alone : life.Alone acceptor)
    (beside : life.Beside next) : next.Alone acceptor := by
  have length := (closers_beside beside).1
  have still : life.closers = [] → next.closers = [] := fun empty =>
    List.eq_nil_of_length_eq_zero (length.trans (by rw [empty, List.length_nil]))
  cases acceptor with
  | absent => exact still alone
  | made => exact still alone
  | lost => exact still alone
  | accepting => exact still alone
  | leaving => exact still alone
  | closing place => exact length.trans alone
  | ended => exact Down.beside alone beside

theorem Owned.beside (owned : life.Owned) (beside : life.Beside next) : next.Owned := by
  rcases closers_beside beside with ⟨length, returned⟩
  have still : .returned ∈ life.closers → .returned ∈ next.closers := by
    intro member
    rcases List.getElem?_of_mem member with ⟨place, there⟩
    exact List.mem_of_getElem? (returned place there)
  cases beside with
  | @moves waiting pool taken closers fresh unserved served =>
      refine ⟨fun place closer there => ?_, fun ended => still (owned.ended ended),
        fun call member closed => still (owned.called call member closed), owned.awaited,
        fun known => ?_⟩
      · have within : place < life.closers.length := by
          rw [← length]
          exact (List.getElem?_eq_some_iff.mp there).1
        rcases owned.owners place _ (List.getElem?_eq_getElem within) with gone | owner
        · have gone' := returned place (by rw [List.getElem?_eq_getElem within, gone])
          rw [there] at gone'
          exact Or.inl (Option.some.inj gone')
        · exact Or.inr owner
      · exact (owned.alone known).beside (.moves fresh unserved served)

theorem Owned.begin (owned : life.Owned) {call : Call}
    (new : (∃ threaded startup, call = .starting threaded startup) ∨ call = .telling) :
    Owned { life with calls := life.calls ++ [call] } := by
  refine ⟨fun place closer there => ?_, owned.ended, ?_, fun noted => ?_, owned.alone⟩
  · exact (owned.owners place closer there).imp_right
      (Or.imp_right fun member => List.mem_append_left _ member)
  · refine List.forall_mem_append.mpr ⟨owned.called, List.forall_mem_singleton.mpr fun closed => ?_⟩
    rcases new with ⟨threaded, startup, rfl⟩ | rfl <;> cases closed
  · refine List.forall_mem_append.mpr
      ⟨owned.awaited noted, List.forall_mem_singleton.mpr fun closes => ?_⟩
    rcases new with ⟨threaded, startup, rfl⟩ | rfl <;> cases closes

/-- Who begins to shut the pool down owns the attempt. -/
theorem owner_of_close {closers : List WorkerPool.Closer} {place : Nat} {closer : WorkerPool.Closer}
    (there : (closers ++ [.starting])[place]? = some closer) :
    closers[place]? = some closer ∨ place = closers.length := by
  rw [List.getElem?_append] at there
  split at there
  · exact Or.inl there
  · rename_i within
    have last := (List.getElem?_eq_some_iff.mp there).1
    rw [List.length_singleton] at last
    exact Or.inr (by omega)

theorem Owned.leaves (owned : life.Owned) (sound : life.Sound) (leaves : life.Leaves next) :
    next.Owned := by
  have early : ∀ {moved : Acceptor}, life.acceptor = moved → (∀ place, moved ≠ .closing place) →
      ∀ (place : Nat) (closer : WorkerPool.Closer), life.closers[place]? = some closer →
      closer = .returned ∨ .closing place ∈ life.calls := by
    intro moved same neither place closer there
    rcases owned.owners place closer there with gone | acceptor | call
    · exact Or.inl gone
    · exact absurd (same.symm.trans acceptor) (neither place)
    · exact Or.inr call
  have awaited : ∀ {moved : Acceptor}, life.acceptor = moved → moved ≠ .ended →
      life.noted = true → ∀ call ∈ life.calls, call.closes = true → False := by
    intro moved same still noted call member closes
    exact still (same.symm.trans (owned.awaited noted call member closes))
  cases leaves with
  | heeds accepting told =>
      refine ⟨fun place closer there => ?_, nofun, owned.called, fun noted call member closes =>
        (awaited accepting nofun noted call member closes).elim, fun known => ?_⟩
      · exact (early accepting nofun place closer there).imp_right Or.inr
      · have alone := owned.alone known
        rw [accepting] at alone
        exact alone
  | interrupted accepting =>
      refine ⟨fun place closer there => ?_, nofun, owned.called, fun noted call member closes =>
        (awaited accepting nofun noted call member closes).elim, fun known => ?_⟩
      · exact (early accepting nofun place closer there).imp_right Or.inr
      · have alone := owned.alone known
        rw [accepting] at alone
        exact alone
  | closes leaving =>
      refine ⟨fun place closer there => ?_, nofun, fun call member closed => ?_,
        fun noted call member closes => (awaited leaving nofun noted call member closes).elim,
        fun known => ?_⟩
      · rcases owner_of_close there with old | rfl
        · exact (early leaving nofun place closer old).imp_right Or.inr
        · exact Or.inr (Or.inl rfl)
      · exact List.mem_append_left _ (owned.called call member closed)
      · have alone := owned.alone known
        rw [leaving] at alone
        exact congrArg List.length (congrArg (· ++ [WorkerPool.Closer.starting]) alone)
  | @ends place closing down =>
      refine ⟨fun other closer there => ?_, fun _ => List.mem_of_getElem? down, owned.called,
        fun _ _ _ _ => rfl, fun known => ?_⟩
      · rcases owned.owners other closer there with gone | acceptor | call
        · exact Or.inl gone
        · rw [closing] at acceptor
          cases acceptor
          rw [there] at down
          exact Or.inl (Option.some.inj down)
        · exact Or.inr (Or.inr call)
      · have alone := owned.alone known
        rw [closing] at alone
        rcases List.length_eq_one_iff.mp alone with ⟨closer, only⟩
        refine sound.down (by rw [only]; nofun) fun other member => ?_
        have first := List.mem_of_getElem? down
        rw [only, List.mem_singleton] at first member
        exact member.trans first.symm

section Going

variable {place : Nat} {before after : Call}

/-- A call that shuts nothing down leaves the attempts to their owners. -/
theorem Owned.owners_set (owned : life.Owned) (there : life.calls[place]? = some before)
    (neither : ∀ other, before ≠ .closing other) {other : Nat} {closer : WorkerPool.Closer}
    (found : life.closers[other]? = some closer) :
    closer = .returned ∨ life.acceptor = .closing other ∨
      .closing other ∈ life.calls.set place after := by
  refine (owned.owners other closer found).imp_right (Or.imp_right fun call => ?_)
  exact mem_set_of_ne there call (neither other).symm

/-- A call that begins to shut the pool down owns the new attempt. -/
theorem Owned.owners_close (owned : life.Owned) (there : life.calls[place]? = some before)
    (neither : ∀ other, before ≠ .closing other) {other : Nat} {closer : WorkerPool.Closer}
    (found : (life.closers ++ [.starting])[other]? = some closer) :
    closer = .returned ∨ life.acceptor = .closing other ∨
      .closing other ∈ life.calls.set place (.closing life.closers.length) := by
  rcases owner_of_close found with old | rfl
  · exact owned.owners_set there neither old
  · exact Or.inr (Or.inr (List.mem_set (List.getElem?_eq_some_iff.mp there).1 _))

theorem Owned.called_set (owned : life.Owned) {call : Call}
    (among : call ∈ life.calls.set place after)
    (new : after.hasClosed = true → .returned ∈ life.closers) :
    call.hasClosed = true → .returned ∈ life.closers := by
  rcases List.mem_or_eq_of_mem_set among with old | rfl
  · exact owned.called call old
  · exact new

theorem Owned.awaited_set (owned : life.Owned) {call : Call}
    (among : call ∈ life.calls.set place after) (noted : life.noted = true)
    (new : after.closes = true → life.acceptor = .ended) :
    call.closes = true → life.acceptor = .ended := by
  rcases List.mem_or_eq_of_mem_set among with old | rfl
  · exact owned.awaited noted call old
  · exact new

theorem Owned.steps (owned : life.Owned) (sound : life.Sound) (counted : life.Counted)
    (there : life.calls[place]? = some before) (steps : life.Steps before middle after) :
    Owned { middle with calls := life.calls.set place after } := by
  have member := List.mem_of_getElem? there
  have owners : (∀ other, before ≠ .closing other) → ∀ (other : Nat) (closer : WorkerPool.Closer),
      life.closers[other]? = some closer → closer = .returned ∨
        life.acceptor = .closing other ∨ .closing other ∈ life.calls.set place after :=
    fun neither _ _ => owned.owners_set there neither
  have called : (after.hasClosed = true → .returned ∈ life.closers) →
      ∀ call ∈ life.calls.set place after, call.hasClosed = true → .returned ∈ life.closers :=
    fun new _ among => owned.called_set among new
  have awaited : (life.noted = true → after.closes = true → life.acceptor = .ended) →
      life.noted = true → ∀ call ∈ life.calls.set place after, call.closes = true →
      life.acceptor = .ended :=
    fun new noted _ among => owned.awaited_set among noted (new noted)
  -- An acceptor that waits for its thread shuts nothing down.
  have unowned : life.acceptor = .made → (∀ other, before ≠ .closing other) →
      ∀ {moved : Acceptor} (other : Nat) (closer : WorkerPool.Closer),
      life.closers[other]? = some closer → closer = .returned ∨
        moved = .closing other ∨ .closing other ∈ life.calls.set place after := by
    intro made neither moved other closer found
    rcases owners neither other closer found with gone | acceptor | call
    · exact Or.inl gone
    · cases made.symm.trans acceptor
    · exact Or.inr (Or.inr call)
  have alone : life.acceptor = .made → life.endpoint.state = .serving ∨ life.noted = true →
      life.closers = [] := by
    intro made known
    have none_yet := owned.alone known
    rw [made] at none_yet
    exact none_yet
  cases steps with
  | @starts threaded startup pool state spawned =>
      have none_yet := (sound.unserved (sound.bound state)).2
      have absent := sound.absent.mpr (sound.bound state)
      refine ⟨fun other closer found => ?_, ?_, called ?_, fun noted call among closes => ?_,
        fun _ => ?_⟩
      · rw [show life.closers[other]? = none by rw [none_yet]; rfl] at found
        cases found
      · cases threaded <;> exact nofun
      · cases threaded <;> exact nofun
      · have new : Call.closes (if threaded then .launching startup else .hosting) = true →
            life.acceptor = .ended := by
          cases threaded <;> exact nofun
        cases absent.symm.trans (awaited (fun _ => new) noted call among closes)
      · cases threaded <;> exact none_yet
  | fails state failed =>
      refine ⟨owners nofun, owned.ended, called nofun, awaited nofun, fun known => owned.alone ?_⟩
      exact known.elim nofun Or.inr
  | refused state => exact ⟨owners nofun, owned.ended, called nofun, awaited nofun, owned.alone⟩
  | launches smooth =>
      have made := counted.made _ member
      refine ⟨unowned made nofun, nofun, called nofun, fun noted call among closes => ?_,
        fun known => alone made known⟩
      cases made.symm.trans (awaited nofun noted call among closes)
  | strands none_left =>
      have made := counted.made _ member
      refine ⟨unowned made nofun, nofun, called nofun, fun noted call among closes => ?_,
        fun known => alone made known⟩
      cases made.symm.trans (awaited nofun noted call among closes)
  | notes =>
      refine ⟨owners nofun, owned.ended, called nofun, fun known call among closes => ?_,
        fun known => owned.alone ?_⟩
      · rw [Bool.or_eq_true, decide_eq_true_eq] at known
        rcases List.mem_or_eq_of_mem_set among with old | rfl
        · rcases known with noted | serving
          · exact owned.awaited noted call old closes
          · rw [((counted.calls call old).stopped (hasStopped_of_closes closes)).2] at serving
            cases serving
        · cases closes
      · rw [Bool.or_eq_true, decide_eq_true_eq] at known
        exact known.elim Or.inl fun known => known.symm
  | comesBack ended => exact ⟨owners nofun, owned.ended, called nofun, awaited nofun, owned.alone⟩
  | tells => exact ⟨owners nofun, owned.ended, called nofun, awaited nofun, owned.alone⟩
  | stopsBound state =>
      refine ⟨owners nofun, owned.ended, called nofun, awaited nofun, fun known => owned.alone ?_⟩
      exact known.elim nofun Or.inr
  | stopsNoted state noted =>
      exact ⟨owners nofun, owned.ended, called nofun, awaited nofun,
        fun _ => owned.alone (Or.inr noted)⟩
  | stopsUnnoted state unnoted =>
      refine ⟨fun _ _ => owned.owners_close there nofun,
        fun ended => List.mem_append_left _ (owned.ended ended),
        fun call among closed => List.mem_append_left _ (called nofun call among closed),
        fun noted => ?_, fun known => ?_⟩
      · rw [show life.noted = true from noted] at unnoted
        cases unnoted
      · rcases known with serving | noted
        · cases serving
        · rw [show life.noted = true from noted] at unnoted
          cases unnoted
  | stopsAgain state => exact ⟨owners nofun, owned.ended, called nofun, awaited nofun, owned.alone⟩
  | awaits ended =>
      refine ⟨fun _ _ => owned.owners_close there nofun,
        fun ended => List.mem_append_left _ (owned.ended ended),
        fun call among closed => List.mem_append_left _ (called nofun call among closed),
        fun _ _ _ _ => ended, fun known => ?_⟩
      have alone := owned.alone known
      rw [ended] at alone
      rw [show life.close.acceptor = .ended from ended]
      exact alone
  | @closes other down =>
      have gone := List.mem_of_getElem? down
      refine ⟨fun place' closer found => ?_, owned.ended, called fun _ => gone,
        awaited fun noted _ => owned.awaited noted _ member rfl, owned.alone⟩
      rcases owned.owners place' closer found with returned | acceptor | call
      · exact Or.inl returned
      · exact Or.inr (Or.inl acceptor)
      · by_cases same : place' = other
        · subst same
          rw [found] at down
          exact Or.inl (Option.some.inj down)
        · refine Or.inr (Or.inr (mem_set_of_ne there call fun equal => same ?_))
          cases equal
          rfl
  | announces =>
      exact ⟨owners nofun, owned.ended, called fun _ => owned.called _ member rfl,
        awaited fun noted _ => owned.awaited noted _ member rfl, owned.alone⟩

end Going

end Life
end Endpoint
end PromiseHttp
