import AlianStructure.Library.Interleaving

/-!
# Protocols: what a call may do next

A protocol gives every call a phase, computed from the operations it has had
answered, and says which operations a phase allows. `Follows` checks a method
against a protocol once, for all answers; the rules below take it through a method
in the order of its statements. A service whose methods follow a protocol moves,
seen from outside, only in three ways: new phases appear, the environment changes
the world, or one phase advances over an operation it allows. Invariants of the
world and the phases are proved about these moves and hold of every run.
-/
namespace AlianStructure.Library.CallProtocol
open AsyncMethod Interleaving

structure Protocol (R : Runtime) where
  Phase : Type
  /-- The phase a call begins in. -/
  start : R.Call → Phase
  /-- The calls that a call in a phase may start itself. -/
  starts : Phase → R.Call → Prop
  /-- The operations a call in a phase may await. -/
  allows : Phase → R.Op → Prop
  /-- The answers the world can give to an operation. -/
  possible : (op : R.Op) → Except R.Err (R.Reply op) → Prop
  /-- The phase after an answer. -/
  advance : Phase → (op : R.Op) → Except R.Err (R.Reply op) → Phase
  /-- The results a call may end with in a phase. -/
  returns : Phase → Except R.Err R.Val → Prop

variable {R : Runtime} {α β : Type}

/-- From a phase, every operation of the program is allowed, whatever was answered
before it, and the program ends in a phase and with a result that `post` accepts. -/
def Follows (P : Protocol R) :
    P.Phase → Async R α → (P.Phase → Except R.Err α → Prop) → Prop
  | phase, .done result, post => post phase result
  | phase, .get rest, post => ∀ mem, Follows P phase (rest mem) post
  | phase, .put _ rest, post => Follows P phase rest post
  | phase, .await op rest, post =>
    P.allows phase op ∧ ∀ result, P.possible op result →
      Follows P (P.advance phase op result) (rest result) post
  | phase, .spawn call rest, post => P.starts phase call ∧ Follows P phase rest post
  | phase, .gather calls rest, post =>
    (∀ call ∈ calls, P.starts phase call) ∧ ∀ results, Follows P phase (rest results) post

/-- The condition under which a sequence goes on: the rest follows from a value, and
a failure is accepted as it is. -/
def afterOk (P : Protocol R) (next : α → Async R β) (post : P.Phase → Except R.Err β → Prop) :
    P.Phase → Except R.Err α → Prop
  | phase, .ok value => Follows P phase (next value) post
  | phase, .error failure => post phase (.error failure)

/-- The same for a catch block. -/
def afterError (P : Protocol R) (handler : R.Err → Async R α)
    (post : P.Phase → Except R.Err α → Prop) : P.Phase → Except R.Err α → Prop
  | phase, .ok value => post phase (.ok value)
  | phase, .error failure => Follows P phase (handler failure) post

section Rules
variable (P : Protocol R) {phase : P.Phase} {post : P.Phase → Except R.Err α → Prop}

theorem follows_andThen (program : Async R α) (next : Except R.Err α → Async R β)
    (post : P.Phase → Except R.Err β → Prop) (phase : P.Phase) : Follows P phase (program.andThen next) post ↔
      Follows P phase program fun phase result => Follows P phase (next result) post := by
  induction program generalizing phase with
  | done result => rfl
  | get rest ih => exact forall_congr' fun mem => ih mem phase
  | put mem rest ih => exact ih phase
  | await op rest ih =>
    exact and_congr_right fun _ => forall_congr' fun result => imp_congr_right fun _ => ih result _
  | spawn call rest ih => exact and_congr_right fun _ => ih phase
  | gather calls rest ih => exact and_congr_right fun _ => forall_congr' fun rs => ih rs phase

variable {program : Async R α}

theorem follows_mono {weaker : P.Phase → Except R.Err α → Prop}
    (implies : ∀ phase result, post phase result → weaker phase result) :
    Follows P phase program post → Follows P phase program weaker := by
  induction program generalizing phase with
  | done result => exact implies phase result
  | get rest ih => exact fun follows mem => ih mem (follows mem)
  | put mem rest ih => exact ih
  | await op rest ih => exact fun follows =>
      ⟨follows.1, fun result possible => ih result (follows.2 result possible)⟩
  | spawn call rest ih => exact fun follows => ⟨follows.1, ih follows.2⟩
  | gather calls rest ih => exact fun follows => ⟨follows.1, fun rs => ih rs (follows.2 rs)⟩

/-- What every answer keeps holds at the end as well. -/
theorem follows_keeps (keeps : P.Phase → Prop)
    (stable : ∀ phase op result, keeps phase → keeps (P.advance phase op result)) :
    keeps phase → Follows P phase program post →
      Follows P phase program fun after result => post after result ∧ keeps after := by
  induction program generalizing phase with
  | done result => exact fun kept ended => ⟨ended, kept⟩
  | get rest ih => exact fun kept follows mem => ih mem kept (follows mem)
  | put mem rest ih => exact ih
  | await op rest ih => exact fun kept follows =>
      ⟨follows.1, fun result possible =>
        ih result (stable phase op result kept) (follows.2 result possible)⟩
  | spawn call rest ih => exact fun kept follows => ⟨follows.1, ih kept follows.2⟩
  | gather calls rest ih => exact fun kept follows => ⟨follows.1, fun rs => ih rs kept (follows.2 rs)⟩

/-- From a phase that permits everything and is never left, any program follows. -/
theorem follows_free (free : P.Phase → Prop) (allows : ∀ phase op, free phase → P.allows phase op)
    (starts : ∀ phase call, free phase → P.starts phase call)
    (stays : ∀ phase op result, free phase → free (P.advance phase op result))
    (accepts : ∀ phase result, free phase → post phase result) : free phase → Follows P phase program post := by
  induction program generalizing phase with
  | done result => exact accepts phase result
  | get rest ih => exact fun reached mem => ih mem reached
  | put mem rest ih => exact ih
  | await op rest ih => exact fun reached =>
      ⟨allows phase op reached, fun result _ => ih result (stays phase op result reached)⟩
  | spawn call rest ih => exact fun reached => ⟨starts phase call reached, ih reached⟩
  | gather calls rest ih => exact fun reached =>
      ⟨fun call _ => starts phase call reached, fun rs => ih rs reached⟩

variable {next : α → Async R β}

@[simp] theorem follows_bind {post : P.Phase → Except R.Err β → Prop} :
    Follows P phase (program >>= next) post ↔ Follows P phase program (afterOk P next post) := by
  refine (follows_andThen P program (Async.onOk next) post phase).trans (Iff.of_eq ?_)
  congr
  funext phase result
  cases result <;> rfl

variable {handler : R.Err → Async R α}

/-- A program whose failures are accepted, with what goes on from its values. -/
theorem follows_then {middle : P.Phase → Except R.Err α → Prop} {post : P.Phase → Except R.Err β → Prop}
    (first : Follows P phase program middle)
    (fails : ∀ after failure, middle after (.error failure) → post after (.error failure))
    (goesOn : ∀ after value, middle after (.ok value) → Follows P after (next value) post) :
    Follows P phase (program >>= next) post := by
  refine (follows_bind P).mpr (follows_mono P (fun after result ended => ?_) first)
  cases result with
  | error failure => exact fails after failure ended
  | ok value => exact goesOn after value ended

@[simp] theorem follows_tryCatch : Follows P phase (tryCatch program handler) post ↔
      Follows P phase program (afterError P handler post) := by
  refine (follows_andThen P program (Async.onError handler) post phase).trans (Iff.of_eq ?_)
  congr
  funext phase result
  cases result <;> rfl

@[simp] theorem follows_outcome {post : P.Phase → Except R.Err (Except R.Err α) → Prop} :
    Follows P phase program.outcome post ↔ Follows P phase program fun phase result => post phase (.ok result) :=
  follows_andThen P program (fun result => .done (.ok result)) post phase

@[simp] theorem follows_memory {post : P.Phase → Except R.Err R.Mem → Prop} :
    Follows P phase Async.memory post ↔ ∀ mem, post phase (.ok mem) := Iff.rfl

@[simp] theorem follows_update {change : R.Mem → R.Mem} {post : P.Phase → Except R.Err Unit → Prop} :
    Follows P phase (Async.update change) post ↔ (R.Mem → post phase (.ok ())) := Iff.rfl

@[simp] theorem follows_allSettled {calls : List R.Call}
    {post : P.Phase → Except R.Err (List (Except R.Err R.Val)) → Prop} :
    Follows P phase (Async.allSettled calls) post ↔
      (∀ call ∈ calls, P.starts phase call) ∧ ∀ results, post phase (.ok results) := Iff.rfl

@[simp] theorem afterOk_ok {post : P.Phase → Except R.Err β → Prop} {value : α} :
    afterOk P next post phase (.ok value) ↔ Follows P phase (next value) post :=
  Iff.rfl

/-- Running up to the next await keeps to the protocol, and starts only calls that
the phase may start. -/
theorem follows_settle (mem : R.Mem) (follows : Follows P phase program post) :
    Follows P phase (program.settle mem).2.2 post ∧ ∀ call ∈ (program.settle mem).2.1, P.starts phase call := by
  induction program generalizing mem with
  | done result => exact ⟨follows, by simp [Async.settle]⟩
  | get rest ih => exact ih mem mem (follows mem)
  | put changed rest ih => exact ih changed follows
  | await op rest _ => exact ⟨follows, by simp [Async.settle]⟩
  | spawn call rest ih =>
    obtain ⟨later, started⟩ := ih mem follows.2
    refine ⟨later, ?_⟩
    simp only [Async.settle, List.forall_mem_cons]
    exact ⟨follows.1, started⟩
  | gather calls rest _ => exact ⟨follows, by simp [Async.settle]⟩

end Rules

section Services
variable (P : Protocol R) {S : Service R}

/-- The phase of a call. -/
def phaseOf (task : Task R) : P.Phase :=
  task.past.foldl (fun phase event => P.advance phase event.op event.result) (P.start task.call)

def phases (c : Config S) : List P.Phase := c.pool.map (phaseOf P)

/-- What a protocol sees of a service. -/
structure View (S : Service R) where
  world : S.World
  phases : List P.Phase
  trace : List (Nat × Event R)

def view (c : Config S) : View P S := ⟨c.world, phases P c, c.trace⟩

/-- The rest of a call keeps to the protocol up to its result. -/
def Keeps (phase : P.Phase) (program : Async R R.Val) : Prop := Follows P phase program P.returns

/-- The calls that can come up: those open to the outside and those that some phase
may start. -/
def Startable (S : Service R) (call : R.Call) : Prop :=
  S.isPublic call = true ∨ ∃ phase, P.starts phase call

/-- Every method that can come up follows the protocol, and the world answers only
what the protocol takes for possible. -/
structure Conforms (S : Service R) : Prop where
  body : ∀ call, Startable P S call → Keeps P (P.start call) (S.body call)
  possible : ∀ world op choice world' result,
    S.respond world op choice = some (world', result) → P.possible op result

/-- Every call of a state keeps to the protocol for the rest of its life. -/
def AllKeep (c : Config S) : Prop := ∀ task ∈ c.pool, Keeps P (phaseOf P task) task.rest

/-- The answer a label would give, with the operation it answers. -/
def answered (c : Config S) (i : Nat) (choice : S.Choice) : Option (Event R) :=
  match c.pool[i]? with
  | some task =>
    match task.rest with
    | .await op _ => (S.respond c.world op choice).map fun reply => ⟨op, reply.2⟩
    | _ => none
  | none => none

/-- A condition on the answers of a run, in terms of what the protocol sees before the
answer; `i` is the call that is answered. -/
abbrev AnswerCondition (S : Service R) :=
  View P S → (i : Nat) → (op : R.Op) → Except R.Err (R.Reply op) → Prop

/-- The condition as one on the steps of a run. -/
def OnAnswers (meets : AnswerCondition P S) (c : Config S) : Label S → Prop
  | .reply i choice => ∀ event, answered c i choice = some event →
      meets (view P c) i event.op event.result
  | _ => True

theorem onAnswers_reply {meets : AnswerCondition P S} {c : Config S} {i : Nat} {choice : S.Choice}
    (event : Event R) (gives : answered c i choice = some event)
    (met : meets (view P c) i event.op event.result) : OnAnswers P meets c (.reply i choice) := by
  intro other same
  rw [gives] at same
  cases same
  exact met

/-- What one step can change of the view. -/
inductive Moves (meets : AnswerCondition P S) : View P S → View P S → Prop where
  | calls {v} (new : List R.Call)
      (started : ∀ call ∈ new, S.isPublic call = true ∨ ∃ phase ∈ v.phases, P.starts phase call) :
      Moves meets v { v with phases := v.phases ++ new.map P.start }
  | env {v} (mem : R.Mem) (change : S.Env) :
      Moves meets v { v with world := (S.environment (v.world, mem) change).1 }
  | reply {v} (i : Nat) (phase : P.Phase) (op : R.Op) (choice : S.Choice) (world : S.World)
      (result : Except R.Err (R.Reply op)) (found : v.phases[i]? = some phase)
      (allowed : P.allows phase op) (responds : S.respond v.world op choice = some (world, result))
      (condition : meets v i op result) :
      Moves meets v ⟨world, v.phases.set i (P.advance phase op result),
        v.trace ++ [(i, ⟨op, result⟩)]⟩

variable {P}

theorem phaseOf_newTask (call : R.Call) : phaseOf P (newTask S call) = P.start call := rfl

theorem phases_append_new (pool : List (Task R)) (calls : List R.Call) :
    (pool ++ calls.map (newTask S)).map (phaseOf P) = pool.map (phaseOf P) ++ calls.map P.start := by
  simp [Function.comp_def, phaseOf_newTask]

/-- The phase of a call does not depend on what remains of it. -/
theorem phases_set_rest {pool : List (Task R)} {i : Nat} {task : Task R}
    (found : pool[i]? = some task) (rest : Async R R.Val) (children : Option (List Nat)) :
    (pool.set i { task with rest := rest, children := children }).map (phaseOf P) =
      pool.map (phaseOf P) := by
  obtain ⟨inside, value⟩ := List.getElem?_eq_some_iff.mp found
  have same : phaseOf P { task with rest := rest, children := children } = phaseOf P task := rfl
  rw [List.map_set, same, ← value]
  exact (List.map_set ..).symm.trans (congrArg _ (List.set_getElem_self inside))

theorem allKeep_set {c : Config S} {i : Nat} {task : Task R} (keep : AllKeep P c)
    (new : Keeps P (phaseOf P task) task.rest) :
    ∀ other ∈ c.pool.set i task, Keeps P (phaseOf P other) other.rest := by
  intro other member
  rcases List.mem_or_eq_of_mem_set member with old | rfl
  · exact keep other old
  · exact new

theorem allKeep_append_new (conforms : Conforms P S) {pool : List (Task R)} {calls : List R.Call}
    (startable : ∀ call ∈ calls, Startable P S call) (keep : ∀ task ∈ pool, Keeps P (phaseOf P task) task.rest) :
    ∀ task ∈ pool ++ calls.map (newTask S), Keeps P (phaseOf P task) task.rest := by
  intro task member
  rcases List.mem_append.mp member with old | new
  · exact keep task old
  · obtain ⟨call, listed, rfl⟩ := List.mem_map.mp new
    exact conforms.body call (startable call listed)

/-- One step moves the world and the phases, and every call keeps to the protocol. -/
theorem next_moves (conforms : Conforms P S) {meets : AnswerCondition P S} {c after : Config S}
    {label : Label S} (keep : AllKeep P c) (condition : OnAnswers P meets c label)
    (stepped : next c label = some after) : Moves P meets (view P c) (view P after) ∧ AllKeep P after := by
  cases label with
  | call call =>
    obtain ⟨isPublic, rfl⟩ := next_call stepped
    have startable : ∀ other ∈ [call], Startable P S other := by simp [Startable, isPublic]
    refine ⟨?_, allKeep_append_new conforms startable keep⟩
    have grown : phases P { c with pool := c.pool ++ [newTask S call] } =
        phases P c ++ [call].map P.start := phases_append_new c.pool [call]
    rw [view, view, grown]
    exact Moves.calls [call] (by simp [isPublic])
  | resume i =>
    obtain ⟨task, found, rfl⟩ := next_resume stepped
    have inside : task ∈ c.pool := List.mem_of_getElem? found
    obtain ⟨settled, started⟩ := follows_settle P c.mem (keep task inside)
    have startable : ∀ call ∈ (task.rest.settle c.mem).2.1, Startable P S call :=
      fun call member => Or.inr ⟨phaseOf P task, started call member⟩
    refine ⟨?_, allKeep_append_new conforms startable (allKeep_set keep settled)⟩
    simp only [view, phases, phases_append_new, phases_set_rest found]
    exact Moves.calls _ fun call member =>
      Or.inr ⟨phaseOf P task, List.mem_map_of_mem inside, started call member⟩
  | reply i choice =>
    obtain ⟨task, op, rest, world, result, found, waits, responds, rfl⟩ := next_reply stepped
    have follows := keep task (List.mem_of_getElem? found)
    rw [waits] at follows
    obtain ⟨allowed, continues⟩ := follows
    have met := condition ⟨op, result⟩ (by simp [answered, found, waits, responds])
    have advanced : phaseOf P
        { task with past := task.past ++ [⟨op, result⟩], rest := rest result } =
        P.advance (phaseOf P task) op result := by
      simp [phaseOf]
    refine ⟨?_, allKeep_set keep ?_⟩
    · simp only [view, phases, List.map_set, advanced]
      exact Moves.reply i _ op choice world result (by simp [found]) allowed responds met
    · rw [advanced]
      exact continues result (conforms.possible _ _ _ _ _ responds)
  | fork i =>
    obtain ⟨task, calls, rest, children, found, waits, rfl⟩ := next_fork stepped
    have inside : task ∈ c.pool := List.mem_of_getElem? found
    have follows := keep task inside
    rw [waits] at follows
    have startable : ∀ call ∈ calls, Startable P S call :=
      fun call member => Or.inr ⟨phaseOf P task, follows.1 call member⟩
    refine ⟨?_, allKeep_append_new conforms startable (allKeep_set keep (keep task inside))⟩
    simp only [view, phases, phases_append_new, phases_set_rest found]
    exact Moves.calls _ fun call member =>
      Or.inr ⟨phaseOf P task, List.mem_map_of_mem inside, follows.1 call member⟩
  | join i =>
    obtain ⟨task, calls, rest, results, found, waits, rfl⟩ := next_join stepped
    have follows := keep task (List.mem_of_getElem? found)
    rw [waits] at follows
    refine ⟨?_, allKeep_set keep (follows.2 results)⟩
    have unchanged : Moves P meets (view P c)
        { view P c with phases := (view P c).phases ++ [].map P.start } :=
      Moves.calls [] (by simp)
    simp only [view, phases, phases_set_rest found]
    simpa [view, phases] using unchanged
  | env change =>
    cases stepped
    exact ⟨Moves.env c.mem change, keep⟩

/-- Invariants of the view hold after every run whose answers meet the condition. -/
theorem invariant_of_moves (conforms : Conforms P S) {meets : AnswerCondition P S} {invariant : View P S → Prop}
    (preserved : ∀ v v', invariant v → Moves P meets v v' → invariant v')
    {labels : List (Label S)} {c after : Config S} (keep : AllKeep P c)
    (start : invariant (view P c)) (admissible : Admissible (OnAnswers P meets) labels c)
    (ran : run labels c = some after) : invariant (view P after) ∧ AllKeep P after :=
  run_preserves (fun c => invariant (view P c) ∧ AllKeep P c)
    (fun c label after holds condition stepped => by
      obtain ⟨moved, keeps⟩ := next_moves conforms holds.2 condition stepped
      exact ⟨preserved _ _ holds.1 moved, keeps⟩)
    labels c after ⟨start, keep⟩ admissible ran

/-- What the phase a call begins in has and every answer keeps, its phase has. -/
theorem phaseOf_keeps (holds : P.Phase → Prop) {task : Task R}
    (keeps : ∀ phase op result, holds phase → holds (P.advance phase op result))
    (start : holds (P.start task.call)) : holds (phaseOf P task) := by
  have follows : ∀ (past : List (Event R)) (phase : P.Phase), holds phase →
      holds (past.foldl (fun phase event => P.advance phase event.op event.result) phase) := by
    intro past
    induction past with
    | nil => exact fun phase reached => reached
    | cons event rest ih => exact fun phase reached => ih _ (keeps _ _ _ reached)
  exact follows task.past _ start

/-- The result of a call is one that its phase may return. -/
theorem returns_of_result {c : Config S} {i : Nat} {task : Task R} {result : Except R.Err R.Val}
    (keep : AllKeep P c) (found : c.pool[i]? = some task) (ended : task.result = some result) :
    P.returns (phaseOf P task) result := by
  have keeps := keep task (List.mem_of_getElem? found)
  unfold Task.result at ended
  split at ended
  next value finished =>
    cases ended
    rw [finished] at keeps
    exact keeps
  next => cases ended

/-- The condition that all answers meet. -/
def anyAnswer (P : Protocol R) (S : Service R) : AnswerCondition P S := fun _ _ _ _ => True

theorem admissible_anyAnswer : ∀ (labels : List (Label S)) (c : Config S),
    Admissible (OnAnswers P (anyAnswer P S)) labels c
  | [], _ => trivial
  | label :: labels, c => by
    refine ⟨?_, fun after _ => admissible_anyAnswer labels after⟩
    cases label with
    | reply i choice => exact fun _ _ => trivial
    | _ => trivial

/-- The phases after an answer: that of the answered call is new. -/
theorem getElem?_set_cases {phases : List α} {phase other : α} {i j : Nat}
    (found : (phases.set i phase)[j]? = some other) :
    (j = i ∧ other = phase) ∨ (j ≠ i ∧ phases[j]? = some other) := by
  rw [List.getElem?_set] at found
  split at found
  next same =>
    split at found
    next => exact Or.inl ⟨same.symm, (Option.some.inj found).symm⟩
    next => cases found
  next other => exact Or.inr ⟨fun same => other same.symm, found⟩

/-- The phases after new calls: those before, and the new ones. -/
theorem getElem?_append_cases {phases new : List α} {phase : α} {i : Nat}
    (found : (phases ++ new)[i]? = some phase) : phases[i]? = some phase ∨ phase ∈ new := by
  rw [List.getElem?_append] at found
  split at found
  next => exact Or.inl found
  next => exact Or.inr (List.mem_of_getElem? found)

theorem allKeep_initial (world : S.World) (mem : R.Mem) : AllKeep P (Config.initial S world mem) := by
  intro task member
  cases member

/-- The operation that a call waits for. -/
def awaits (task : Task R) : Option R.Op :=
  match task.rest with
  | .await op _ => some op
  | _ => none

/-- A condition on what the world decides about an operation, in terms of what the protocol sees
before; `i` is the call that waits. -/
abbrev ChoiceCondition (P : Protocol R) (S : Service R) :=
  View P S → (i : Nat) → R.Op → S.Choice → Prop

def OnChoices (meets : ChoiceCondition P S) (c : Config S) : Label S → Prop
  | .reply i choice => ∀ op ∈ (c.pool[i]?).bind awaits, meets (view P c) i op choice
  | _ => True

instance OnChoices.decidable {meets : ChoiceCondition P S}
    [∀ v i op choice, Decidable (meets v i op choice)] (c : Config S) :
    ∀ label, Decidable (OnChoices meets c label)
  | .reply i choice =>
    inferInstanceAs (Decidable (∀ op ∈ (c.pool[i]?).bind awaits, meets (view P c) i op choice))
  | .call _ | .resume _ | .fork _ | .join _ | .env _ => isTrue trivial

/-- A move in which the world decides as the condition asks. -/
def Decides (meets : ChoiceCondition P S) (v v' : View P S) : Prop :=
  Moves P (fun v i op result => ∃ choice,
    S.respond v.world op choice = some (v'.world, result) ∧ meets v i op choice) v v'

theorem next_decides (conforms : Conforms P S) {meets : ChoiceCondition P S} {c after : Config S}
    {label : Label S} (keep : AllKeep P c) (condition : OnChoices meets c label)
    (stepped : next c label = some after) : Decides meets (view P c) (view P after) ∧ AllKeep P after := by
  refine next_moves conforms keep ?_ stepped
  cases label with
  | reply i choice =>
    obtain ⟨task, op, rest, world, result, found, waits, responds, rfl⟩ := next_reply stepped
    intro event same
    simp only [answered, found, waits, responds, Option.map_some, Option.some.injEq] at same
    subst same
    exact ⟨choice, responds, condition op (by simp [found, awaits, waits])⟩
  | _ => trivial

/-- Invariants of the view hold after every run in which the world decides as the condition
asks. -/
theorem invariant_of_choices (conforms : Conforms P S) {meets : ChoiceCondition P S} {invariant : View P S → Prop}
    (preserved : ∀ v v', invariant v → Decides meets v v' → invariant v')
    {labels : List (Label S)} {c after : Config S} (keep : AllKeep P c)
    (start : invariant (view P c)) (admissible : Admissible (OnChoices meets) labels c)
    (ran : run labels c = some after) : invariant (view P after) ∧ AllKeep P after :=
  run_preserves (fun c => invariant (view P c) ∧ AllKeep P c)
    (fun c label after holds condition stepped => by
      obtain ⟨moved, keeps⟩ := next_decides conforms holds.2 condition stepped
      exact ⟨preserved _ _ holds.1 moved, keeps⟩)
    labels c after ⟨start, keep⟩ admissible ran

end Services

end AlianStructure.Library.CallProtocol
