import Mathlib.Logic.Relation
import AlianStructure.Library.Interleaving

/-!
# Calls one at a time

In a run in which a call begins only when every other has ended, each call has the world
to itself, apart from the environment, which may step in at every moment. `Ends` says what
holds when a call has run to its end in this way, for all the answers the world can give;
the rules below take it through a method. A property of the states between calls then
holds in every run whose calls each preserve it.
-/
namespace AlianStructure.Library.CallsInTurn
open AsyncMethod Interleaving

variable {R : Runtime} {S : Service R} {α β : Type}

/-- The world and the memory of a process. -/
abbrev State (S : Service R) := S.World × R.Mem

/-- A later state, when only the environment has acted. -/
def Waits (S : Service R) : State S → State S → Prop :=
  Relation.ReflTransGen fun state later => ∃ change, S.environment state change = later

/-- A property that the environment does not touch. -/
def Stable (S : Service R) (holds : State S → Prop) : Prop :=
  ∀ state change, holds state → holds (S.environment state change)

/-- The answers that are taken into account. -/
abbrev Fairness (S : Service R) := R.Op → S.Choice → Prop

/-- From a state, however the program runs to its end without other calls, it ends in a
state and with a result that `post` accepts; it starts no call of its own. -/
def Ends (S : Service R) (fair : Fairness S) :
    State S → Async R α → (State S → Except R.Err α → Prop) → Prop
  | state, .done result, post => post state result
  | state, .get rest, post => ∀ later, Waits S state later → Ends S fair later (rest later.2) post
  | state, .put mem rest, post =>
    ∀ later, Waits S state later → Ends S fair (later.1, mem) rest post
  | state, .await op rest, post =>
    ∀ later, Waits S state later → ∀ choice world result, fair op choice →
      S.respond later.1 op choice = some (world, result) →
      Ends S fair (world, later.2) (rest result) post
  | _, .spawn _ _, _ => False
  | _, .gather _ _, _ => False

theorem Stable.waits {holds : State S → Prop} (stable : Stable S holds) {state later : State S}
    (here : holds state) (waits : Waits S state later) : holds later := by
  induction waits with
  | refl => exact here
  | tail _ stepped ih =>
    obtain ⟨change, rfl⟩ := stepped
    exact stable _ change ih

section Rules
variable {fair : Fairness S} {state : State S} {post : State S → Except R.Err α → Prop} {program : Async R α}

theorem ends_mono {weaker : State S → Except R.Err α → Prop}
    (implies : ∀ state result, post state result → weaker state result) :
    Ends S fair state program post → Ends S fair state program weaker := by
  induction program generalizing state with
  | done result => exact implies state result
  | get rest ih => exact fun ends later waits => ih _ (ends later waits)
  | put mem rest ih => exact fun ends later waits => ih (ends later waits)
  | await op rest ih =>
    intro ends later waits choice world result isFair responds
    exact ih result (ends later waits choice world result isFair responds)
  | spawn call rest _ => exact id
  | gather calls rest _ => exact id

theorem ends_andThen (program : Async R α) (next : Except R.Err α → Async R β)
    (post : State S → Except R.Err β → Prop) (state : State S) : Ends S fair state (program.andThen next) post ↔
      Ends S fair state program fun state result => Ends S fair state (next result) post := by
  induction program generalizing state with
  | done result => rfl
  | get rest ih => exact forall_congr' fun later => imp_congr_right fun _ => ih _ later
  | put mem rest ih => exact forall_congr' fun later => imp_congr_right fun _ => ih (later.1, mem)
  | await op rest ih =>
    exact forall_congr' fun later => imp_congr_right fun _ => forall_congr' fun choice =>
      forall_congr' fun world => forall_congr' fun result => imp_congr_right fun _ =>
      imp_congr_right fun _ => ih result (world, later.2)
  | spawn call rest _ => rfl
  | gather calls rest _ => rfl

theorem ends_pure {value : α} (here : post state (.ok value)) :
    Ends S fair state (pure value) post := here

theorem ends_throw {failure : R.Err} (here : post state (.error failure)) :
    Ends S fair state (throw failure) post := here

/-- A sequence: what the first part ends with, the second starts from. -/
theorem ends_bind {program : Async R β} {next : β → Async R α}
    {middle : State S → Except R.Err β → Prop} (first : Ends S fair state program middle)
    (rest : ∀ state value, middle state (.ok value) → Ends S fair state (next value) post)
    (fails : ∀ state failure, middle state (.error failure) → post state (.error failure)) :
    Ends S fair state (program >>= next) post := by
  refine (ends_andThen program (Async.onOk next) post state).mpr (ends_mono ?_ first)
  intro after result ended
  cases result with
  | error failure => exact fails after failure ended
  | ok value => exact rest after value ended

theorem ends_tryCatch {handler : R.Err → Async R α} {middle : State S → Except R.Err α → Prop}
    (first : Ends S fair state program middle)
    (caught : ∀ state failure, middle state (.error failure) → Ends S fair state (handler failure) post)
    (kept : ∀ state value, middle state (.ok value) → post state (.ok value)) :
    Ends S fair state (tryCatch program handler) post := by
  refine (ends_andThen program (Async.onError handler) post state).mpr (ends_mono ?_ first)
  intro after result ended
  cases result with
  | error failure => exact caught after failure ended
  | ok value => exact kept after value ended

theorem ends_outcome {post : State S → Except R.Err (Except R.Err α) → Prop}
    (first : Ends S fair state program fun state result => post state (.ok result)) :
    Ends S fair state program.outcome post :=
  (ends_andThen program (fun result => .done (.ok result)) post state).mpr first

/-- An operation in a state of which something is known that the environment keeps. -/
theorem ends_perform {op : R.Op} {known : State S → Prop}
    {post : State S → Except R.Err (R.Reply op) → Prop} (stable : Stable S known) (here : known state)
    (answers : ∀ state choice world result, known state → fair op choice →
      S.respond state.1 op choice = some (world, result) → post (world, state.2) result) :
    Ends S fair state (Async.perform op) post :=
  fun later waits choice world result isFair responds =>
    answers later choice world result (stable.waits here waits) isFair responds

/-- An unfinished program does not mind the environment. -/
theorem ends_waits {later : State S} (ends : Ends S fair state program post)
    (stable : ∀ result, Stable S (post · result)) (waits : Waits S state later) : Ends S fair later program post := by
  cases program with
  | done result => exact (stable result).waits ends waits
  | get rest => exact fun final more => ends final (waits.trans more)
  | put mem rest => exact fun final more => ends final (waits.trans more)
  | await op rest => exact fun final more => ends final (waits.trans more)
  | spawn call rest => exact ends
  | gather calls rest => exact ends

/-- Running up to the next await starts no call. -/
theorem ends_settle {world : S.World} {mem : R.Mem} (ends : Ends S fair (world, mem) program post) :
    (program.settle mem).2.1 = [] ∧ Ends S fair (world, (program.settle mem).1) (program.settle mem).2.2 post := by
  induction program generalizing mem with
  | done result => exact ⟨rfl, ends⟩
  | get rest ih => exact ih mem (ends (world, mem) Relation.ReflTransGen.refl)
  | put changed rest ih => exact ih (ends (world, mem) Relation.ReflTransGen.refl)
  | await op rest _ => exact ⟨rfl, ends⟩
  | spawn call rest _ => exact ends.elim
  | gather calls rest _ => exact ends.elim

/-- When every operation may fail without effect, a program may stop in the world it is in. -/
theorem ends_stopped (fails : ∀ world op, ∃ choice failure, fair op choice ∧
      S.respond world op choice = some (world, .error failure))
    (ends : Ends S fair state program post) : ∃ mem result, post (state.1, mem) result := by
  induction program generalizing state with
  | done result => exact ⟨state.2, result, ends⟩
  | get rest ih => exact ih _ (ends state Relation.ReflTransGen.refl)
  | put mem rest ih =>
    have later : Ends S fair (state.1, mem) rest post := ends state Relation.ReflTransGen.refl
    have stopped := ih later
    exact stopped
  | await op rest ih =>
    obtain ⟨choice, failure, isFair, responds⟩ := fails state.1 op
    exact ih _ (ends state Relation.ReflTransGen.refl choice state.1 _ isFair responds)
  | spawn call rest _ => exact ends.elim
  | gather calls rest _ => exact ends.elim

end Rules

/-- Every call has ended. -/
def AllEnded (c : Config S) : Prop := ∀ task ∈ c.pool, ∃ result, task.rest = .done result

/-- The condition on a run: a call begins when every other has ended and the state meets
a condition for it, and only fair answers are given. -/
def InTurn (fair : Fairness S) (meets : State S → R.Call → Prop) (c : Config S) : Label S → Prop
  | .call call => AllEnded c ∧ meets (c.world, c.mem) call
  | .reply i choice => ∀ task op rest, c.pool[i]? = some task → task.rest = .await op rest →
    fair op choice
  | _ => True

instance AllEnded.decidable (c : Config S) : Decidable (AllEnded c) :=
  decidable_of_iff (∀ task ∈ c.pool, task.result.isSome = true) <| by
    refine forall₂_congr fun task _ => ?_
    cases ended : task.rest <;> simp [Task.result, ended]

instance InTurn.decidable {fair : Fairness S} {meets : State S → R.Call → Prop}
    [∀ op choice, Decidable (fair op choice)] [∀ state call, Decidable (meets state call)]
    (c : Config S) : ∀ label, Decidable (InTurn fair meets c label)
  | .call call => inferInstanceAs (Decidable (AllEnded c ∧ meets (c.world, c.mem) call))
  | .reply i choice =>
    match found : c.pool[i]? with
    | none => isTrue fun _ _ _ here => by
      rw [found] at here
      cases here
    | some task =>
      match waits : task.rest with
      | .await op rest => decidable_of_iff (fair op choice) <| by
          refine ⟨fun isFair _ _ _ here awaits => ?_, fun inTurn => inTurn task op rest found waits⟩
          rw [found] at here
          cases here
          rw [waits] at awaits
          cases awaits
          exact isFair
      | .done _ | .get _ | .put _ _ | .spawn _ _ | .gather _ _ => isTrue fun _ _ _ here awaits => by
          rw [found] at here
          cases here
          rw [waits] at awaits
          cases awaits
  | .resume _ | .fork _ | .join _ | .env _ => isTrue trivial

/-- One call is under way, or has just ended, after others that have ended. -/
structure Working (fair : Fairness S) (post : State S → Except R.Err R.Val → Prop) (c : Config S)
    (ended : List (Task R)) (task : Task R) : Prop where
  pool : c.pool = ended ++ [task]
  idle : ∀ other ∈ ended, ∃ result, other.rest = .done result
  ends : Ends S fair (c.world, c.mem) task.rest post

section Steps
variable {fair : Fairness S} {post : State S → Except R.Err R.Val → Prop} {c after : Config S}
  {ended : List (Task R)} {task : Task R}

/-- A call found in the pool is the one under way, or has ended. -/
theorem Working.found (working : Working fair post c ended task) {i : Nat} {other : Task R}
    (here : c.pool[i]? = some other) : (i = ended.length ∧ other = task) ∨ ∃ result, other.rest = .done result := by
  rw [working.pool, List.getElem?_append] at here
  split at here
  next => exact Or.inr (working.idle other (List.mem_of_getElem? here))
  next past =>
    have last : i - ended.length = 0 := by
      by_contra beyond
      rw [List.getElem?_eq_none (by simp; omega)] at here
      cases here
    rw [last] at here
    exact Or.inl ⟨by omega, (Option.some.inj here).symm⟩

theorem Working.set (working : Working fair post c ended task) (changed : Task R) :
    c.pool.set ended.length changed = ended ++ [changed] := by
  rw [working.pool, List.set_append_right _ _ (Nat.le_refl _), Nat.sub_self]
  rfl

/-- A step of the call under way. -/
theorem Working.step {meets : State S → R.Call → Prop} {label : Label S}
    (working : Working fair post c ended task) (stable : ∀ result, Stable S (post · result))
    (inTurn : InTurn fair meets c label) (stepped : next c label = some after) : (∃ call, label = .call call) ∨
      ∃ task', task'.call = task.call ∧ Working fair post after ended task' := by
  cases label with
  | call call => exact Or.inl ⟨call, rfl⟩
  | resume i =>
    obtain ⟨other, here, rfl⟩ := next_resume stepped
    right
    rcases working.found here with ⟨rfl, rfl⟩ | ⟨result, done⟩
    · obtain ⟨silent, ends⟩ := ends_settle working.ends
      refine ⟨{ other with rest := (other.rest.settle c.mem).2.2 }, rfl, ?_, working.idle, ends⟩
      rw [silent, List.map_nil, List.append_nil]
      exact working.set _
    · obtain ⟨call, past, rest, children⟩ := other
      obtain rfl : rest = .done result := done
      refine ⟨task, rfl, ?_, working.idle, working.ends⟩
      obtain ⟨inside, value⟩ := List.getElem?_eq_some_iff.mp here
      simp only [Async.settle, List.map_nil, List.append_nil]
      rw [← value, List.set_getElem_self]
      exact working.pool
  | reply i choice =>
    obtain ⟨other, op, rest, world, result, here, waits, responds, rfl⟩ := next_reply stepped
    right
    rcases working.found here with ⟨rfl, rfl⟩ | ⟨result, done⟩
    · have ends := working.ends
      rw [waits] at ends
      refine ⟨{ other with past := other.past ++ [⟨op, result⟩], rest := rest result }, rfl,
        working.set _, working.idle, ?_⟩
      exact ends _ Relation.ReflTransGen.refl choice world result
        (inTurn other op rest here waits) responds
    · rw [waits] at done
      cases done
  | fork i =>
    obtain ⟨other, calls, rest, children, here, waits, rfl⟩ := next_fork stepped
    rcases working.found here with ⟨rfl, rfl⟩ | ⟨result, done⟩
    · have ends := working.ends
      rw [waits] at ends
      exact ends.elim
    · rw [waits] at done
      cases done
  | join i =>
    obtain ⟨other, calls, rest, results, here, waits, rfl⟩ := next_join stepped
    rcases working.found here with ⟨rfl, rfl⟩ | ⟨result, done⟩
    · have ends := working.ends
      rw [waits] at ends
      exact ends.elim
    · rw [waits] at done
      cases done
  | env change =>
    cases stepped
    right
    refine ⟨task, rfl, working.pool, working.idle, ?_⟩
    exact ends_waits working.ends stable (Relation.ReflTransGen.single ⟨change, rfl⟩)

end Steps

/-- Between calls a property holds, and the call under way will bring it about again. -/
def Orderly (fair : Fairness S) (holds : State S → Prop) (c : Config S) : Prop :=
  (c.pool = [] ∧ holds (c.world, c.mem)) ∨
    ∃ ended task, Working fair (fun state _ => holds state) c ended task

section Invariants
variable {fair : Fairness S} {holds : State S → Prop} {meets : State S → R.Call → Prop}

theorem Orderly.between {c : Config S} (orderly : Orderly fair holds c) (allEnded : AllEnded c) :
    holds (c.world, c.mem) := by
  rcases orderly with ⟨_, here⟩ | ⟨ended, task, working⟩
  · exact here
  · obtain ⟨result, done⟩ := allEnded task (by simp [working.pool])
    have ends := working.ends
    rw [done] at ends
    exact ends

theorem Orderly.step (stable : Stable S holds)
    (calls : ∀ state call, S.isPublic call = true → holds state → meets state call →
      Ends S fair state (S.body call) fun state _ => holds state)
    {c after : Config S} {label : Label S} (orderly : Orderly fair holds c)
    (inTurn : InTurn fair meets c label) (stepped : next c label = some after) : Orderly fair holds after := by
  by_cases begins : ∃ call, label = .call call
  · obtain ⟨call, rfl⟩ := begins
    obtain ⟨isPublic, rfl⟩ := next_call stepped
    have between := orderly.between inTurn.1
    exact Or.inr ⟨c.pool, newTask S call, rfl, inTurn.1,
      calls _ call isPublic between inTurn.2⟩
  · rcases orderly with ⟨empty, here⟩ | ⟨ended, task, working⟩
    · cases label with
      | call call => exact absurd ⟨call, rfl⟩ begins
      | resume i =>
        obtain ⟨task, found, _⟩ := next_resume stepped
        simp [empty] at found
      | reply i choice =>
        obtain ⟨task, _, _, _, _, found, _⟩ := next_reply stepped
        simp [empty] at found
      | fork i =>
        obtain ⟨task, _, _, _, found, _⟩ := next_fork stepped
        simp [empty] at found
      | join i =>
        obtain ⟨task, _, _, _, found, _⟩ := next_join stepped
        simp [empty] at found
      | env change =>
        cases stepped
        exact Or.inl ⟨empty, stable _ change here⟩
    · rcases working.step (fun _ => stable) inTurn stepped with begun | ⟨task', _, working'⟩
      · exact absurd begun begins
      · exact Or.inr ⟨ended, task', working'⟩

theorem Orderly.of_allEnded {c : Config S} (allEnded : AllEnded c) (here : holds (c.world, c.mem)) :
    Orderly fair holds c := by
  rcases List.eq_nil_or_concat c.pool with empty | ⟨ended, task, last⟩
  · exact Or.inl ⟨empty, here⟩
  · rw [List.concat_eq_append] at last
    obtain ⟨result, done⟩ := allEnded task (by simp [last])
    refine Or.inr ⟨ended, task, last, fun other member => allEnded other ?_, ?_⟩
    · rw [last]
      exact List.mem_append_left _ member
    · rw [done]
      exact here

theorem Orderly.run (stable : Stable S holds)
    (calls : ∀ state call, S.isPublic call = true → holds state → meets state call →
      Ends S fair state (S.body call) fun state _ => holds state)
    {c after : Config S} {labels : List (Label S)} (orderly : Orderly fair holds c)
    (inTurn : Admissible (InTurn fair meets) labels c) (ran : run labels c = some after) : Orderly fair holds after :=
  run_preserves (Orderly fair holds)
    (fun _ _ _ orderly condition stepped => orderly.step stable calls condition stepped)
    labels c after orderly inTurn ran

/-- A property of the world alone holds during a call as well, when every operation may fail
without effect: the call might end there. -/
theorem Orderly.throughout (good : S.World → Prop) {c : Config S}
    (fails : ∀ world op, ∃ choice failure, fair op choice ∧ S.respond world op choice = some (world, .error failure))
    (orderly : Orderly fair (fun state => good state.1) c) : good c.world := by
  rcases orderly with ⟨_, here⟩ | ⟨_, _, working⟩
  · exact here
  · obtain ⟨_, _, here⟩ := ends_stopped fails working.ends
    exact here

/-- A property that every call brings about again holds whenever no call is under way, in
every run of calls in turn. -/
theorem holds_in_turn (stable : Stable S holds)
    (calls : ∀ state call, S.isPublic call = true → holds state → meets state call →
      Ends S fair state (S.body call) fun state _ => holds state)
    {world : S.World} {mem : R.Mem} (start : holds (world, mem)) {labels : List (Label S)}
    {after : Config S} (inTurn : Admissible (InTurn fair meets) labels (Config.initial S world mem))
    (ran : run labels (Config.initial S world mem) = some after) (allEnded : AllEnded after) :
    holds (after.world, after.mem) := by
  have initially : Orderly fair holds (Config.initial S world mem) := Or.inl ⟨rfl, start⟩
  exact (initially.run stable calls inTurn ran).between allEnded

end Invariants

end AlianStructure.Library.CallsInTurn
