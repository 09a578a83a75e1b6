import AlianStructure.Library.CallsInTurn

/-!
# Calls that rely on each other

Any number of calls are under way and the environment acts between their steps. Every step
keeps an invariant and moves the state forward in an order. A call may rely on both whenever
it waits, and guarantees both with every step of its own. What one call has come to know, and
what is known of its result, then holds in all later states of every run.
-/
namespace AlianStructure.Library.RelyGuarantee
open AsyncMethod Interleaving CallsInTurn

variable {R : Runtime} {S : Service R} {α β : Type}

/-- What calls rely on: an invariant, an order in which the state moves, the changes of the
environment that respect them, and the calls that a call may start. -/
structure Rely (S : Service R) where
  holds : State S → Prop
  moves : State S → State S → Prop
  allowed : State S → S.Env → Prop
  starts : R.Call → Prop
  refl : ∀ state, moves state state
  trans : ∀ {a b c}, moves a b → moves b c → moves a c
  environment : ∀ state change, holds state → allowed state change →
    holds (S.environment state change) ∧ moves state (S.environment state change)

/-- A state that others may have brought about since. -/
def Rely.Later (rely : Rely S) (state later : State S) : Prop :=
  rely.holds later ∧ rely.moves state later

theorem Rely.Later.trans {rely : Rely S} {a b c : State S} (first : rely.Later a b)
    (second : rely.Later b c) : rely.Later a c :=
  ⟨second.1, rely.trans first.2 second.2⟩

/-- From a state, whatever others do at its awaits, every step of the program guarantees what
others rely on, and it ends in a state and with a result that `post` accepts. -/
def Guards (rely : Rely S) (post : State S → Except R.Err α → Prop) : State S → Async R α → Prop
  | state, .done result => post state result
  | state, .get rest => Guards rely post state (rest state.2)
  | state, .put mem rest => rely.Later state (state.1, mem) ∧ Guards rely post (state.1, mem) rest
  | state, .await op rest => ∀ later, rely.Later state later → ∀ choice world result,
    S.respond later.1 op choice = some (world, result) →
    rely.Later later (world, later.2) ∧ ∀ final, rely.Later (world, later.2) final →
      Guards rely post final (rest result)
  | state, .spawn call rest => rely.starts call ∧ Guards rely post state rest
  | state, .gather calls rest => (∀ call ∈ calls, rely.starts call) ∧
    ∀ later, rely.Later state later → ∀ results, Guards rely post later (rest results)

/-- A property that no step takes away. -/
def Lasting (rely : Rely S) (known : State S → Prop) : Prop :=
  ∀ state later, rely.Later state later → known state → known later

section Rules
variable {rely : Rely S} {state : State S} {post : State S → Except R.Err α → Prop} {program : Async R α}

theorem guards_mono {weaker : State S → Except R.Err α → Prop}
    (implies : ∀ state result, post state result → weaker state result) :
    Guards rely post state program → Guards rely weaker state program := by
  induction program generalizing state with
  | done result => exact implies state result
  | get rest ih => exact ih state.2
  | put mem rest ih => exact fun guards => ⟨guards.1, ih guards.2⟩
  | await op rest ih =>
    intro guards later since choice world result responds
    obtain ⟨stepped, continues⟩ := guards later since choice world result responds
    exact ⟨stepped, fun final more => ih result (continues final more)⟩
  | spawn call rest ih => exact fun guards => ⟨guards.1, ih guards.2⟩
  | gather calls rest ih =>
    exact fun guards => ⟨guards.1, fun later since results => ih results (guards.2 later since results)⟩

theorem guards_andThen (program : Async R α) (next : Except R.Err α → Async R β)
    (post : State S → Except R.Err β → Prop) (state : State S) : Guards rely post state (program.andThen next) ↔
      Guards rely (fun state result => Guards rely post state (next result)) state program := by
  induction program generalizing state with
  | done result => rfl
  | get rest ih => exact ih state.2 state
  | put mem rest ih => exact and_congr_right fun _ => ih (state.1, mem)
  | await op rest ih =>
    exact forall_congr' fun later => imp_congr_right fun _ => forall_congr' fun choice =>
      forall_congr' fun world => forall_congr' fun result => imp_congr_right fun _ =>
        and_congr_right fun _ => forall_congr' fun final => imp_congr_right fun _ =>
          ih result final
  | spawn call rest ih => exact and_congr_right fun _ => ih state
  | gather calls rest ih =>
    exact and_congr_right fun _ => forall_congr' fun later => imp_congr_right fun _ =>
      forall_congr' fun results => ih results later

variable {world : S.World}

/-- Running up to the next await: others may act before it. -/
theorem guards_settle {mem : R.Mem} (holds : rely.holds (world, mem))
    (guards : Guards rely post (world, mem) program) (lasting : ∀ result, Lasting rely (post · result)) :
    rely.Later (world, mem) (world, (program.settle mem).1) ∧ (∀ call ∈ (program.settle mem).2.1, rely.starts call) ∧
      ∀ later, rely.Later (world, (program.settle mem).1) later →
        Guards rely post later (program.settle mem).2.2 := by
  induction program generalizing mem with
  | done result =>
    exact ⟨⟨holds, rely.refl _⟩, nofun, fun later since => lasting result _ later since guards⟩
  | get rest ih => exact ih mem holds guards
  | put changed rest ih =>
    obtain ⟨moved, started, settled⟩ := ih guards.1.1 guards.2
    exact ⟨guards.1.trans moved, started, settled⟩
  | await op rest _ =>
    refine ⟨⟨holds, rely.refl _⟩, nofun, fun later since final more => ?_⟩
    exact guards final (since.trans more)
  | spawn call rest ih =>
    obtain ⟨moved, started, settled⟩ := ih holds guards.2
    refine ⟨moved, fun other member => ?_, settled⟩
    rcases List.mem_cons.mp member with rfl | later
    · exact guards.1
    · exact started other later
  | gather calls rest _ =>
    refine ⟨⟨holds, rely.refl _⟩, nofun, fun later since => ⟨guards.1, fun final more => ?_⟩⟩
    exact guards.2 final (since.trans more)

end Rules

/-- From a state in which the invariant holds, the program guarantees what others rely on, and
`post` holds when it ends with a value. -/
def Gives (rely : Rely S) (state : State S) (program : Async R α) (post : State S → α → Prop) :
    Prop :=
  rely.holds state → Guards rely
    (fun after result => rely.Later state after ∧ ∀ value, result = .ok value → post after value)
    state program

section Values
variable {rely : Rely S} {state : State S} {post : State S → α → Prop}

theorem gives_mono {weaker : State S → α → Prop} (gives : Gives rely state program post)
    (implies : ∀ later value, rely.Later state later → post later value → weaker later value) :
    Gives rely state program weaker :=
  fun holds => guards_mono (fun later _ ended =>
    ⟨ended.1, fun value isOk => implies later value ended.1 (ended.2 value isOk)⟩) (gives holds)

/-- A program ends in a later state. -/
theorem gives_since (gives : Gives rely state program post) :
    Gives rely state program fun later value => rely.Later state later ∧ post later value :=
  gives_mono gives fun _ _ since given => ⟨since, given⟩

theorem gives_pure {value : α} (here : post state value) : Gives rely state (pure value) post := by
  refine fun holds => ⟨⟨holds, rely.refl state⟩, fun other isOk => ?_⟩
  cases isOk
  exact here

theorem gives_throw {failure : R.Err} : Gives rely state (throw failure : Async R α) post :=
  fun holds => ⟨⟨holds, rely.refl state⟩, fun _ isOk => by cases isOk⟩

/-- A sequence: what the first part gives, the second starts from. -/
theorem gives_bind {program : Async R β} {next : β → Async R α} {middle : State S → β → Prop}
    (first : Gives rely state program middle) (rest : ∀ later value, rely.Later state later → middle later value →
      Gives rely later (next value) post) : Gives rely state (program >>= next) post := by
  intro holds
  refine (guards_andThen program (Async.onOk next) _ state).mpr (guards_mono ?_ (first holds))
  rintro later result ⟨since, given⟩
  cases result with
  | error failure => exact ⟨since, fun _ isOk => by cases isOk⟩
  | ok value =>
    refine guards_mono ?_ (rest later value since (given value rfl) since.1)
    rintro final result ⟨more, gave⟩
    exact ⟨since.trans more, gave⟩

/-- A failure is caught in some later state. -/
theorem gives_tryCatch {handler : R.Err → Async R α} (first : Gives rely state program post)
    (caught : ∀ later failure, rely.Later state later → Gives rely later (handler failure) post) :
    Gives rely state (tryCatch program handler) post := by
  intro holds
  refine (guards_andThen program (Async.onError handler) _ state).mpr (guards_mono ?_ (first holds))
  rintro later result ⟨since, given⟩
  cases result with
  | ok value => exact ⟨since, given⟩
  | error failure =>
    refine guards_mono ?_ (caught later failure since since.1)
    rintro final result ⟨more, gave⟩
    exact ⟨since.trans more, gave⟩

/-- An operation: it is answered in a later state, and others act before the call goes on. -/
theorem gives_perform {op : R.Op} {post : State S → R.Reply op → Prop}
    (answers : ∀ later, rely.Later state later → ∀ choice world result,
      S.respond later.1 op choice = some (world, result) →
      rely.Later later (world, later.2) ∧ ∀ reply, result = .ok reply →
        ∀ final, rely.Later (world, later.2) final → post final reply) :
    Gives rely state (Async.perform op) post := by
  intro holds later since choice world result responds
  obtain ⟨moved, answered⟩ := answers later since choice world result responds
  exact ⟨moved, fun final more =>
    ⟨(since.trans moved).trans more, fun reply isOk => answered reply isOk final more⟩⟩

/-- The result of a program as a value. -/
theorem gives_outcome (first : Gives rely state program post) : Gives rely state program.outcome fun later result =>
      ∀ value, result = .ok value → post later value := by
  intro holds
  refine (guards_andThen program _ _ state).mpr (guards_mono ?_ (first holds))
  rintro later result ⟨since, given⟩
  refine ⟨since, fun value isOk => ?_⟩
  cases isOk
  exact given

/-- The result of an operation as a value, a failure included. -/
theorem gives_answer {op : R.Op} {post : State S → Except R.Err (R.Reply op) → Prop}
    (answers : ∀ later, rely.Later state later → ∀ choice world result,
      S.respond later.1 op choice = some (world, result) → rely.Later later (world, later.2) ∧
        ∀ final, rely.Later (world, later.2) final → post final result) :
    Gives rely state (Async.perform op).outcome post := by
  intro holds
  refine (guards_andThen (Async.perform op) _ _ state).mpr ?_
  intro later since choice world result responds
  obtain ⟨moved, answered⟩ := answers later since choice world result responds
  refine ⟨moved, fun final more => ⟨(since.trans moved).trans more, fun value isOk => ?_⟩⟩
  cases isOk
  exact answered final more

theorem gives_map {program : Async R β} {f : β → α} {middle : State S → β → Prop}
    (first : Gives rely state program middle) (maps : ∀ later value, middle later value → post later (f value)) :
    Gives rely state (f <$> program) post :=
  gives_bind first fun later value _ given => gives_pure (maps later value given)

theorem gives_memory {post : State S → R.Mem → Prop} (here : post state state.2) :
    Gives rely state Async.memory post := by
  refine fun holds => ⟨⟨holds, rely.refl state⟩, fun mem isOk => ?_⟩
  cases isOk
  exact here

theorem gives_start {call : R.Call} {post : State S → Unit → Prop} (started : rely.starts call)
    (here : post state ()) : Gives rely state (Async.start call) post :=
  fun holds => ⟨started, ⟨holds, rely.refl state⟩, fun _ _ => here⟩

theorem gives_update {change : R.Mem → R.Mem} {post : State S → Unit → Prop}
    (moved : rely.holds state → rely.Later state (state.1, change state.2))
    (here : post (state.1, change state.2) ()) : Gives rely state (Async.update change) post :=
  fun holds => ⟨moved holds, moved holds, fun _ _ => here⟩

end Values

/-- The condition on a run: calls begin in states that meet a condition for them, and the
environment acts as it is allowed to. -/
def Relied (rely : Rely S) (meets : State S → R.Call → Prop) (c : Config S) : Label S → Prop
  | .call call => meets (c.world, c.mem) call
  | .env change => rely.allowed (c.world, c.mem) change
  | _ => True

instance Relied.decidable {rely : Rely S} {meets : State S → R.Call → Prop}
    [∀ state call, Decidable (meets state call)]
    [∀ state change, Decidable (rely.allowed state change)] (c : Config S) :
    ∀ label, Decidable (Relied rely meets c label)
  | .call call => inferInstanceAs (Decidable (meets (c.world, c.mem) call))
  | .env change => inferInstanceAs (Decidable (rely.allowed (c.world, c.mem) change))
  | .resume _ | .reply _ _ | .fork _ | .join _ => isTrue trivial

/-- The invariant holds, and every call is on its way to an end that is accepted, whatever the
others do. -/
structure Guarded (rely : Rely S) (post : R.Call → State S → Except R.Err R.Val → Prop)
    (c : Config S) : Prop where
  holds : rely.holds (c.world, c.mem)
  tasks : ∀ task ∈ c.pool, ∀ later, rely.Later (c.world, c.mem) later →
    Guards rely (post task.call) later task.rest

section Runs
variable {rely : Rely S} {meets : State S → R.Call → Prop}
  {post : R.Call → State S → Except R.Err R.Val → Prop}

/-- When the state has moved forward, the calls that have not moved are still on their way. -/
theorem Guarded.others {c : Config S} {mem : R.Mem} {i : Nat} {moved : Task R}
    (guarded : Guarded rely post c) (since : rely.Later (c.world, c.mem) (world, mem))
    (mine : ∀ later, rely.Later (world, mem) later → Guards rely (post moved.call) later moved.rest) :
    ∀ task ∈ c.pool.set i moved, ∀ later, rely.Later (world, mem) later →
      Guards rely (post task.call) later task.rest := by
  intro task member later more
  rcases List.mem_or_eq_of_mem_set member with old | rfl
  · exact guarded.tasks task old later (since.trans more)
  · exact mine later more

/-- New calls are on their way from their beginning. -/
theorem Guarded.started {mem : R.Mem} {pool : List (Task R)} {calls : List R.Call}
    (tasks : ∀ task ∈ pool, ∀ later, rely.Later (world, mem) later → Guards rely (post task.call) later task.rest)
    (bodies : ∀ call ∈ calls, ∀ later, rely.Later (world, mem) later → Guards rely (post call) later (S.body call)) :
    ∀ task ∈ pool ++ calls.map (newTask S), ∀ later, rely.Later (world, mem) later →
      Guards rely (post task.call) later task.rest := by
  intro task member
  rcases List.mem_append.mp member with old | new
  · exact tasks task old
  · obtain ⟨call, isCall, rfl⟩ := List.mem_map.mp new
    exact bodies call isCall

variable
  (bodies : ∀ call state later, S.isPublic call = true → meets state call →
    rely.Later state later → Guards rely (post call) later (S.body call))
  (children : ∀ call state, rely.starts call → rely.holds state →
    Guards rely (post call) state (S.body call))
  (lasting : ∀ call result, Lasting rely (post call · result))
include bodies children lasting

theorem Guarded.step {c after : Config S} {label : Label S} (guarded : Guarded rely post c)
    (relied : Relied rely meets c label) (stepped : next c label = some after) : Guarded rely post after := by
  have here : rely.Later (c.world, c.mem) (c.world, c.mem) := ⟨guarded.holds, rely.refl _⟩
  cases label with
  | call call =>
    obtain ⟨isPublic, rfl⟩ := next_call stepped
    have begins : ∀ other ∈ [call], ∀ later, rely.Later (c.world, c.mem) later →
        Guards rely (post other) later (S.body other) := by
      intro other member later since
      obtain rfl := List.mem_singleton.mp member
      exact bodies other _ later isPublic relied since
    exact ⟨guarded.holds, Guarded.started guarded.tasks begins⟩
  | resume i =>
    obtain ⟨task, found, rfl⟩ := next_resume stepped
    obtain ⟨moved, started, settled⟩ := guards_settle guarded.holds
      (guarded.tasks task (List.mem_of_getElem? found) _ here) (lasting task.call)
    refine ⟨moved.1, Guarded.started (guarded.others moved settled) fun call member later since => ?_⟩
    exact children call later (started call member) since.1
  | reply i choice =>
    obtain ⟨task, op, rest, world, result, found, waits, responds, rfl⟩ := next_reply stepped
    have guards := guarded.tasks task (List.mem_of_getElem? found) _ here
    rw [waits] at guards
    obtain ⟨moved, continues⟩ := guards _ here choice world result responds
    exact ⟨moved.1, guarded.others moved continues⟩
  | fork i =>
    obtain ⟨task, calls, rest, forked, found, waits, rfl⟩ := next_fork stepped
    have guards := guarded.tasks task (List.mem_of_getElem? found) _ here
    rw [waits] at guards
    refine ⟨guarded.holds, Guarded.started (guarded.others here fun later since => ?_)
      fun call member later since => children call later (guards.1 call member) since.1⟩
    exact guarded.tasks task (List.mem_of_getElem? found) later since
  | join i =>
    obtain ⟨task, calls, rest, results, found, waits, rfl⟩ := next_join stepped
    have guards := guarded.tasks task (List.mem_of_getElem? found) _ here
    rw [waits] at guards
    exact ⟨guarded.holds, guarded.others here fun later since => guards.2 later since results⟩
  | env change =>
    cases stepped
    have moved := rely.environment _ change guarded.holds relied
    exact ⟨moved.1, fun task member later since =>
      guarded.tasks task member later (Rely.Later.trans moved since)⟩

/-- In every run from a state in which the invariant holds, it holds in every state reached, and
every call that has ended has ended as it is accepted. -/
theorem guarded_run {mem : R.Mem} (start : rely.holds (world, mem)) {labels : List (Label S)}
    {after : Config S} (relied : Admissible (Relied rely meets) labels (Config.initial S world mem))
    (ran : run labels (Config.initial S world mem) = some after) : Guarded rely post after := by
  have initially : Guarded rely post (Config.initial S world mem) :=
    ⟨start, fun _ member => by cases member⟩
  exact run_preserves (Guarded rely post)
    (fun _ _ _ guarded condition stepped => guarded.step bodies children lasting condition stepped)
    labels _ after initially relied ran

omit bodies children lasting in
theorem Guarded.ended {c : Config S} (guarded : Guarded rely post c) {task : Task R}
    (member : task ∈ c.pool) {result : Except R.Err R.Val} (ended : task.result = some result) :
    post task.call (c.world, c.mem) result := by
  have guards := guarded.tasks task member _ ⟨guarded.holds, rely.refl _⟩
  unfold Task.result at ended
  split at ended
  next same =>
    cases ended
    rw [same] at guards
    exact guards
  next => cases ended

end Runs

end AlianStructure.Library.RelyGuarantee
