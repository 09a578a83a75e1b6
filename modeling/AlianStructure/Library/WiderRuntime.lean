import AlianStructure.Library.CallProtocol
import AlianStructure.Library.RelyGuarantee

/-!
# A runtime with more operations and calls

A method of a runtime is a method of every wider one, which has further operations, calls and
results, or a further memory. What it gives there is found along its statements, as for a method of
the wider runtime itself.
-/
namespace AlianStructure.Library.WiderRuntime
open AsyncMethod Interleaving CallProtocol CallsInTurn RelyGuarantee

/-- Further operations, calls and results. -/
structure Additions where
  Op : Type
  Reply : Op → Type
  Call : Type
  Val : Type

abbrev wider (R : Runtime) (more : Additions) : Runtime where
  Op := R.Op ⊕ more.Op
  Reply
    | .inl op => R.Reply op
    | .inr op => more.Reply op
  Mem := R.Mem
  Err := R.Err
  Call := R.Call ⊕ more.Call
  Val := R.Val ⊕ more.Val

/-- A runtime whose calls share more than its memory. -/
abbrev withMemory (R : Runtime) (More : Type) : Runtime := { R with Mem := R.Mem × More }

variable {R : Runtime} {more : Additions} {α β : Type}

/-- A method with a further memory that it leaves alone. -/
def remember {More : Type} : Async R α → Async (withMemory R More) α
  | .done result => .done result
  | .get rest => .get fun mem => remember (rest mem.1)
  | .put mem rest => .get fun both => .put (mem, both.2) (remember rest)
  | .await op rest => .await op fun result => remember (rest result)
  | .spawn call rest => .spawn call (remember rest)
  | .gather calls rest => .gather calls fun results => remember (rest results)

/-- A result of a call that the method has started, as one of its own runtime. -/
def narrow [Inhabited R.Val] (result : Except R.Err (R.Val ⊕ more.Val)) : Except R.Err R.Val :=
  result.map fun value => value.elim id fun _ => default

/-- A method of a runtime as one of the wider runtime. -/
def lift [Inhabited R.Val] : Async R α → Async (wider R more) α
  | .done result => .done result
  | .get rest => .get fun mem => lift (rest mem)
  | .put mem rest => .put mem (lift rest)
  | .await op rest => .await (.inl op) fun result => lift (rest result)
  | .spawn call rest => .spawn (.inl call) (lift rest)
  | .gather calls rest => .gather (calls.map .inl) fun results => lift (rest (results.map narrow))

variable [Inhabited R.Val]

theorem lift_andThen (program : Async R α) (next : Except R.Err α → Async R β) :
    (lift (program.andThen next) : Async (wider R more) β) =
      (lift program).andThen fun result => lift (next result) := by
  induction program with
  | done result => rfl
  | get rest ih => exact congrArg Async.get (funext fun mem => ih mem)
  | put mem rest ih => exact congrArg (Async.put (R := wider R more) mem) ih
  | await op rest ih =>
    exact congrArg (Async.await (R := wider R more) (.inl op)) (funext fun result => ih result)
  | spawn call rest ih => exact congrArg (Async.spawn (R := wider R more) (.inl call)) ih
  | gather calls rest ih =>
    exact congrArg (Async.gather (R := wider R more) (calls.map .inl))
      (funext fun results => ih (results.map narrow))

section Methods
variable {S : Service (wider R more)} {rely : Rely S} {state : State S}
  {post : State S → α → Prop}

theorem lifted_pure {value : α} (here : post state value) :
    Gives rely state (lift (pure value : Async R α)) post := gives_pure here

theorem lifted_throw {failure : R.Err} :
    Gives rely state (lift (throw failure : Async R α)) post := gives_throw (R := wider R more)

theorem lifted_bind {program : Async R β} {next : β → Async R α} {middle : State S → β → Prop}
    (first : Gives rely state (lift program) middle)
    (rest : ∀ later value, rely.Later state later → middle later value → Gives rely later (lift (next value)) post) :
    Gives rely state (lift (program >>= next)) post := by
  have same : (lift (program >>= next) : Async (wider R more) α) =
      lift program >>= fun value => lift (next value) := by
    refine (lift_andThen program (Async.onOk next)).trans ?_
    refine congrArg (Async.andThen (lift program)) (funext fun result => ?_)
    cases result <;> rfl
  rw [same]
  exact gives_bind first rest

theorem lifted_tryCatch {program : Async R α} {handler : R.Err → Async R α}
    (first : Gives rely state (lift program) post) (caught : ∀ later failure, rely.Later state later →
      Gives rely later (lift (handler failure)) post) : Gives rely state (lift (tryCatch program handler)) post := by
  have same : (lift (tryCatch program handler) : Async (wider R more) α) =
      tryCatch (lift program) fun failure => lift (handler failure) := by
    refine (lift_andThen program (Async.onError handler)).trans ?_
    refine congrArg (Async.andThen (lift program)) (funext fun result => ?_)
    cases result <;> rfl
  rw [same]
  exact gives_tryCatch first caught

/-- The result of a program as a value. -/
theorem lifted_outcome {program : Async R α} {post : State S → α → Prop}
    (first : Gives rely state (lift program) post) : Gives rely state (lift program.outcome) fun later result =>
      ∀ value, result = .ok value → post later value := by
  intro holds
  have same : (lift program.outcome : Async (wider R more) (Except R.Err α)) =
      (lift program).andThen fun result => .done (.ok result) := lift_andThen program _
  rw [same]
  refine (guards_andThen (lift program) _ _ state).mpr (guards_mono ?_ (first holds))
  rintro later result ⟨since, given⟩
  refine ⟨since, fun value isOk => ?_⟩
  cases isOk
  exact given

theorem lifted_perform {op : R.Op} {post : State S → R.Reply op → Prop}
    (answers : ∀ later, rely.Later state later → ∀ choice world result,
      S.respond later.1 (.inl op) choice = some (world, result) →
      rely.Later later (world, later.2) ∧ ∀ reply, result = .ok reply →
        ∀ final, rely.Later (world, later.2) final → post final reply) :
    Gives rely state (lift (Async.perform op)) post :=
  gives_perform (R := wider R more) answers

theorem lifted_memory {post : State S → R.Mem → Prop} (here : post state state.2) :
    Gives rely state (lift (Async.memory : Async R R.Mem)) post :=
  gives_memory (R := wider R more) here

theorem lifted_start {call : R.Call} {post : State S → Unit → Prop}
    (started : rely.starts (.inl call)) (here : post state ()) : Gives rely state (lift (Async.start call)) post :=
  gives_start (R := wider R more) started here

end Methods

/-- A method that follows a protocol of its runtime follows a wider one, of whose phases an answer changes only what
the narrower protocol sees. -/
theorem follows_lift {P : Protocol R} {Q : Protocol (wider R more)} {Frame : Type} (narrow : Q.Phase → P.Phase)
    (frame : Q.Phase → Frame) (starts : ∀ phase call, P.starts (narrow phase) call → Q.starts phase (.inl call))
    (allows : ∀ phase op, P.allows (narrow phase) op → Q.allows phase (.inl op))
    (possible : ∀ op result, Q.possible (.inl op) result → P.possible op result)
    (advance : ∀ phase op result, narrow (Q.advance phase (.inl op) result) = P.advance (narrow phase) op result)
    (kept : ∀ phase op result, frame (Q.advance phase (.inl op) result) = frame phase) {program : Async R α}
    {phase : Q.Phase} {post : P.Phase → Except R.Err α → Prop} (follows : Follows P (narrow phase) program post) :
    Follows Q phase (lift program) fun after result => post (narrow after) result ∧ frame after = frame phase := by
  induction program generalizing phase with
  | done result => exact ⟨follows, rfl⟩
  | get rest ih => exact fun mem => ih mem (follows mem)
  | put mem rest ih => exact ih follows
  | await op rest ih =>
    refine ⟨allows phase op follows.1, fun result given => ?_⟩
    have later := follows.2 result (possible op result given)
    rw [← advance] at later
    have rest := ih result later
    rw [kept phase op result] at rest
    exact rest
  | spawn call rest ih => exact ⟨starts phase call follows.1, ih follows.2⟩
  | gather calls rest ih =>
    refine ⟨fun call started => ?_, fun results => ih _ (follows.2 _)⟩
    obtain ⟨inner, member, rfl⟩ := List.mem_map.mp started
    exact starts phase inner (follows.1 inner member)

end AlianStructure.Library.WiderRuntime

/-!
# Invariants of the world alone

Some facts about the world do not depend on which call asks for an operation. They hold after every run
in which the operations that are carried out meet a condition.
-/
namespace AlianStructure.Library.WorldInvariant
open AsyncMethod Interleaving CallProtocol

variable {R : Runtime} {S : Service R}

/-- A condition on the world, an operation that a call awaits and how it is carried out. -/
abbrev Decision (S : Service R) := S.World → R.Op → S.Choice → Prop

def OnDecisions (meets : Decision S) (c : Config S) : Label S → Prop
  | .reply i choice => ∀ op ∈ (c.pool[i]?).bind awaits, meets c.world op choice
  | _ => True

instance OnDecisions.decidable {meets : Decision S}
    [∀ world op choice, Decidable (meets world op choice)] (c : Config S) :
    ∀ label, Decidable (OnDecisions meets c label)
  | .reply i choice =>
    inferInstanceAs (Decidable (∀ op ∈ (c.pool[i]?).bind awaits, meets c.world op choice))
  | .call _ | .resume _ | .fork _ | .join _ | .env _ => isTrue trivial

section Steps
variable {meets : Decision S} {holds : S.World → Prop}
  (answers : ∀ world op choice changed result, holds world → meets world op choice →
    S.respond world op choice = some (changed, result) → holds changed)
  (environment : ∀ state change, holds state.1 → holds (S.environment state change).1)
include answers environment

theorem next_world {c after : Config S} {label : Label S} (here : holds c.world)
    (condition : OnDecisions meets c label) (stepped : next c label = some after) : holds after.world := by
  cases label with
  | call call =>
    obtain ⟨_, rfl⟩ := next_call stepped
    exact here
  | resume i =>
    obtain ⟨_, _, rfl⟩ := next_resume stepped
    exact here
  | reply i choice =>
    obtain ⟨task, op, rest, world, result, found, waits, responds, rfl⟩ := next_reply stepped
    have awaited : op ∈ (c.pool[i]?).bind awaits := by simp [found, awaits, waits]
    exact answers c.world op choice world result here (condition op awaited) responds
  | fork i =>
    obtain ⟨_, _, _, _, _, _, rfl⟩ := next_fork stepped
    exact here
  | join i =>
    obtain ⟨_, _, _, _, _, _, rfl⟩ := next_join stepped
    exact here
  | env change =>
    cases stepped
    exact environment (c.world, c.mem) change here

/-- What every operation that meets the condition keeps holds after every run. -/
theorem world_run {labels : List (Label S)} {c after : Config S} (start : holds c.world)
    (admissible : Admissible (OnDecisions meets) labels c) (ran : run labels c = some after) : holds after.world :=
  run_preserves (fun c => holds c.world)
    (fun _ _ _ here condition stepped => next_world answers environment here condition stepped)
    labels c after start admissible ran

end Steps

end AlianStructure.Library.WorldInvariant
