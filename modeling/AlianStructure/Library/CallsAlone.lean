import AlianStructure.Library.Interleaving

/-!
# One call after another

A call that has the process to itself runs to its end while the environment acts and its
operations are answered. What happens meanwhile decides how it ends, so that a run of calls is
a run of a state machine.
-/
namespace AlianStructure.Library.CallsAlone
open AsyncMethod Interleaving

variable {R : Runtime} {S : Service R} {α β : Type}

/-- What happens while a call waits. -/
inductive Happening (S : Service R) where
  | reply (choice : S.Choice)
  | env (change : S.Env)

/-- The end of a program that starts no other call, when what happens brings it to its end. -/
def finish (S : Service R) : List (Happening S) → S.World × R.Mem → Async R α →
    Option ((S.World × R.Mem) × Except R.Err α)
  | [], state, program =>
    match program.settle state.2 with
    | (mem, [], .done result) => some ((state.1, mem), result)
    | _ => none
  | .reply choice :: happenings, state, program =>
    match program.settle state.2 with
    | (mem, [], .await op rest) =>
      match S.respond state.1 op choice with
      | some (world, result) => finish S happenings (world, mem) (rest result)
      | none => none
    | _ => none
  | .env change :: happenings, state, program =>
    match program.settle state.2 with
    | (mem, [], .await op rest) =>
      finish S happenings (S.environment (state.1, mem) change) (.await op rest)
    | _ => none

/-- What the world has decided, in order. -/
def answers : List (Happening S) → List S.Choice
  | [] => []
  | .reply choice :: happenings => choice :: answers happenings
  | .env _ :: happenings => answers happenings

@[simp] theorem answers_append : ∀ first second : List (Happening S),
    answers (first ++ second) = answers first ++ answers second
  | [], _ => rfl
  | .reply choice :: first, second => congrArg (choice :: ·) (answers_append first second)
  | .env _ :: first, second => answers_append first second

@[simp] theorem answers_changes : ∀ changes : List S.Env, answers (changes.map (Happening.env (S := S))) = []
  | [] => rfl
  | _ :: changes => answers_changes changes

/-- The state when the environment has acted. -/
def later (S : Service R) (state : S.World × R.Mem) (changes : List S.Env) : S.World × R.Mem :=
  changes.foldl S.environment state

section Rules
variable {state : S.World × R.Mem} {happenings : List (Happening S)}
  {ended : (S.World × R.Mem) × Except R.Err α}

theorem finish_done {result : Except R.Err α} (ends : finish S happenings state (.done result) = some ended) :
    happenings = [] ∧ ended = (state, result) := by
  cases happenings with
  | nil =>
    cases ends
    exact ⟨rfl, rfl⟩
  | cons happening happenings => cases happening <;> cases ends

theorem finish_get {rest : R.Mem → Async R α} :
    finish S happenings state (.get rest) = finish S happenings state (rest state.2) := by
  cases happenings with
  | nil => rfl
  | cons happening happenings => cases happening <;> rfl

theorem finish_put {mem : R.Mem} {rest : Async R α} :
    finish S happenings state (.put mem rest) = finish S happenings (state.1, mem) rest := by
  cases happenings with
  | nil => rfl
  | cons happening happenings => cases happening <;> rfl

theorem finish_spawn {call : R.Call} {rest : Async R α} : finish S happenings state (.spawn call rest) = none := by
  cases happenings with
  | nil => rfl
  | cons happening happenings => cases happening <;> rfl

theorem finish_gather {calls : List R.Call} {rest : List (Except R.Err R.Val) → Async R α} :
    finish S happenings state (.gather calls rest) = none := by
  cases happenings with
  | nil => rfl
  | cons happening happenings => cases happening <;> rfl

theorem finish_reply {op : R.Op} {rest : Except R.Err (R.Reply op) → Async R α}
    {choice : S.Choice} {world : S.World} {result : Except R.Err (R.Reply op)}
    (responds : S.respond state.1 op choice = some (world, result)) :
    finish S (.reply choice :: happenings) state (.await op rest) =
      finish S happenings (world, state.2) (rest result) := by
  simp [finish, Async.settle, responds]

theorem finish_changes {op : R.Op} {rest : Except R.Err (R.Reply op) → Async R α} :
    ∀ (changes : List S.Env) (state : S.World × R.Mem),
      finish S (changes.map .env ++ happenings) state (.await op rest) =
        finish S happenings (later S state changes) (.await op rest)
  | [], _ => rfl
  | change :: changes, state => finish_changes changes (S.environment state change)

/-- An operation is answered after some changes of the environment. -/
theorem finish_await {op : R.Op} {rest : Except R.Err (R.Reply op) → Async R α} :
    ∀ (happenings : List (Happening S)) (state : S.World × R.Mem),
      finish S happenings state (.await op rest) = some ended →
      ∃ changes choice after world result, happenings = changes.map .env ++ .reply choice :: after ∧
        S.respond (later S state changes).1 op choice = some (world, result) ∧
        finish S after (world, (later S state changes).2) (rest result) = some ended
  | [], _, ends => by cases ends
  | .reply choice :: happenings, state, ends => by
    simp only [finish, Async.settle] at ends
    split at ends
    next world result responds =>
      exact ⟨[], choice, happenings, world, result, rfl, responds, ends⟩
    next => cases ends
  | .env change :: happenings, state, ends => by
    obtain ⟨changes, choice, after, world, result, same, responds, ends⟩ :=
      finish_await happenings (S.environment state change) ends
    exact ⟨change :: changes, choice, after, world, result, by simp [same], responds, ends⟩

/-- A sequence ends after its first part has ended. -/
theorem finish_andThen (next : Except R.Err β → Async R α) (program : Async R β) :
    ∀ (happenings : List (Happening S)) (state : S.World × R.Mem),
      finish S happenings state (program.andThen next) = some ended →
      ∃ first second middle result, happenings = first ++ second ∧
        finish S first state program = some (middle, result) ∧ finish S second middle (next result) = some ended := by
  induction program with
  | done result => exact fun happenings state ends => ⟨[], happenings, state, result, rfl, rfl, ends⟩
  | get rest ih =>
    intro happenings state ends
    simp only [Async.andThen, finish_get] at ends ⊢
    exact ih state.2 happenings state ends
  | put mem rest ih =>
    intro happenings state ends
    simp only [Async.andThen, finish_put] at ends ⊢
    exact ih happenings (state.1, mem) ends
  | await op rest ih =>
    intro happenings state ends
    simp only [Async.andThen] at ends
    obtain ⟨changes, choice, after, world, result, rfl, responds, ends⟩ := finish_await _ _ ends
    obtain ⟨first, second, middle, value, rfl, starts, goesOn⟩ := ih result _ _ ends
    refine ⟨changes.map .env ++ .reply choice :: first, second, middle, value, by simp, ?_, goesOn⟩
    rw [finish_changes, finish_reply responds]
    exact starts
  | spawn call rest _ =>
    intro happenings state ends
    simp only [Async.andThen, finish_spawn] at ends
    cases ends
  | gather calls rest _ =>
    intro happenings state ends
    simp only [Async.andThen, finish_gather] at ends
    cases ends

theorem finish_pure {value : α} (ends : finish S happenings state (pure value) = some ended) :
    happenings = [] ∧ ended = (state, .ok value) := finish_done ends

/-- A sequence goes on from a value, and ends with a failure. -/
theorem finish_bind {program : Async R β} {next : β → Async R α}
    (ends : finish S happenings state (program >>= next) = some ended) :
    ∃ first second middle result, happenings = first ++ second ∧
      finish S first state program = some (middle, result) ∧
      ((∃ value, result = .ok value ∧ finish S second middle (next value) = some ended) ∨
        ∃ failure, result = .error failure ∧ second = [] ∧ ended = (middle, .error failure)) := by
  obtain ⟨first, second, middle, result, same, starts, goesOn⟩ :=
    finish_andThen (Async.onOk next) program happenings state ends
  refine ⟨first, second, middle, result, same, starts, ?_⟩
  cases result with
  | ok value => exact Or.inl ⟨value, rfl, goesOn⟩
  | error failure => exact Or.inr ⟨failure, rfl, finish_done goesOn⟩

theorem finish_tryCatch {program : Async R α} {handler : R.Err → Async R α}
    (ends : finish S happenings state (tryCatch program handler) = some ended) :
    ∃ first second middle result, happenings = first ++ second ∧
      finish S first state program = some (middle, result) ∧
      ((∃ value, result = .ok value ∧ second = [] ∧ ended = (middle, .ok value)) ∨
        ∃ failure, result = .error failure ∧ finish S second middle (handler failure) = some ended) := by
  obtain ⟨first, second, middle, result, same, starts, goesOn⟩ :=
    finish_andThen (Async.onError handler) program happenings state ends
  refine ⟨first, second, middle, result, same, starts, ?_⟩
  cases result with
  | ok value => exact Or.inl ⟨value, rfl, finish_done goesOn⟩
  | error failure => exact Or.inr ⟨failure, rfl, goesOn⟩

theorem finish_perform {op : R.Op} {ended : (S.World × R.Mem) × Except R.Err (R.Reply op)}
    (ends : finish S happenings state (Async.perform op) = some ended) :
    ∃ changes choice world, happenings = changes.map .env ++ [.reply choice] ∧
      S.respond (later S state changes).1 op choice = some (world, ended.2) ∧
      ended.1 = (world, (later S state changes).2) := by
  obtain ⟨changes, choice, after, world, result, rfl, responds, goesOn⟩ := finish_await _ _ ends
  obtain ⟨rfl, rfl⟩ := finish_done goesOn
  exact ⟨changes, choice, world, rfl, responds, rfl⟩

/-- An operation is answered, and the rest goes on from the reply or ends with the failure. -/
theorem finish_ask {op : R.Op} {next : R.Reply op → Async R α}
    (ends : finish S happenings state (Async.perform op >>= next) = some ended) :
    ∃ (changes : List S.Env) (choice : S.Choice) (world : S.World) (result : Except R.Err (R.Reply op))
      (rest : List (Happening S)), answers happenings = choice :: answers rest ∧
      S.respond (later S state changes).1 op choice = some (world, result) ∧
      ((∃ reply, result = .ok reply ∧ finish S rest (world, (later S state changes).2) (next reply) = some ended) ∨
        ∃ failure, result = .error failure ∧ rest = [] ∧
          ended = ((world, (later S state changes).2), .error failure)) := by
  obtain ⟨first, second, middle, result, rfl, starts, goesOn⟩ := finish_bind ends
  obtain ⟨changes, choice, world, rfl, responds, rfl⟩ := finish_perform starts
  refine ⟨changes, choice, world, result, second, ?_, responds, goesOn⟩
  rw [answers_append, answers_append, answers_changes]
  rfl

end Rules

end AlianStructure.Library.CallsAlone

/-!
# Programs that do not wait

A program that reaches its end without an await runs in one step: no other call comes between.
-/
namespace AlianStructure.Library.AtOnce
open AsyncMethod

variable {R : Runtime} {α β : Type}

/-- From a memory, the program ends without waiting, with a memory and a result that `post`
accepts. -/
def EndsAtOnce (mem : R.Mem) : Async R α → (R.Mem → Except R.Err α → Prop) → Prop
  | .done result, post => post mem result
  | .get rest, post => EndsAtOnce mem (rest mem) post
  | .put changed rest, post => EndsAtOnce changed rest post
  | .spawn _ rest, post => EndsAtOnce mem rest post
  | .await _ _, _ => False
  | .gather _ _, _ => False

section Rules
variable {mem : R.Mem} {post : R.Mem → Except R.Err α → Prop}

theorem endsAtOnce_andThen (program : Async R α) (next : Except R.Err α → Async R β)
    (post : R.Mem → Except R.Err β → Prop) (mem : R.Mem) : EndsAtOnce mem (program.andThen next) post ↔
      EndsAtOnce mem program fun after result => EndsAtOnce after (next result) post := by
  induction program generalizing mem with
  | done result => rfl
  | get rest ih => exact ih mem mem
  | put changed rest ih => exact ih changed
  | spawn call rest ih => exact ih mem
  | await op rest => rfl
  | gather calls rest => rfl

theorem endsAtOnce_mono {program : Async R α} {weaker : R.Mem → Except R.Err α → Prop}
    (implies : ∀ after result, post after result → weaker after result) :
    EndsAtOnce mem program post → EndsAtOnce mem program weaker := by
  induction program generalizing mem with
  | done result => exact implies mem result
  | get rest ih => exact ih mem
  | put changed rest ih => exact ih
  | spawn call rest ih => exact ih
  | await op rest => exact id
  | gather calls rest => exact id

/-- A sequence: what the first part ends with, the second starts from. -/
theorem endsAtOnce_bind {program : Async R β} {next : β → Async R α}
    (first : EndsAtOnce mem program fun after result => ∃ value, result = .ok value ∧
      EndsAtOnce after (next value) post) : EndsAtOnce mem (program >>= next) post := by
  refine (endsAtOnce_andThen program (Async.onOk next) post mem).mpr (endsAtOnce_mono ?_ first)
  rintro after _ ⟨value, rfl, ends⟩
  exact ends

/-- The step that runs such a program. -/
theorem endsAtOnce_settle {program : Async R α} (ends : EndsAtOnce mem program post) :
    ∃ result, (program.settle mem).2.2 = .done result ∧ post (program.settle mem).1 result := by
  induction program generalizing mem with
  | done result => exact ⟨result, rfl, ends⟩
  | get rest ih => exact ih mem ends
  | put changed rest ih => exact ih ends
  | spawn call rest ih => exact ih ends
  | await op rest => exact ends.elim
  | gather calls rest => exact ends.elim

end Rules

end AlianStructure.Library.AtOnce
