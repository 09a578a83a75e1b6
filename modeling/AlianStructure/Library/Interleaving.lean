import AlianStructure.Library.AsyncMethod

/-!
# Interleavings of calls

A service runs any number of calls of its methods against one outside world. Each
step is one of: a new public call, one call running up to its next await, one
awaited operation taking effect and answering, a list of calls being forked or
joined, or a step of the environment. The label of a step says which; with the
label fixed the step is a function, so a run can be evaluated.
-/
namespace AlianStructure.Library.Interleaving
open AsyncMethod

/-- The methods of a process and the world they run against. `Choice` is what the
world decides freely when it answers: a value it makes up, or that it fails.
`none` means that the operation cannot be answered in this way now. -/
structure Service (R : Runtime) where
  World : Type
  Choice : Type
  Env : Type
  respond : World → (op : R.Op) → Choice → Option (World × Except R.Err (R.Reply op))
  environment : World × R.Mem → Env → World × R.Mem
  isPublic : R.Call → Bool
  body : R.Call → Async R R.Val

/-- An answered operation. -/
structure Event (R : Runtime) where
  op : R.Op
  result : Except R.Err (R.Reply op)

/-- A call: the operations it has had answered, what remains of it, and the
children it waits for. -/
structure Task (R : Runtime) where
  call : R.Call
  past : List (Event R)
  rest : Async R R.Val
  children : Option (List Nat)

variable {R : Runtime}

/-- The result of a call that has one. -/
def Task.result (task : Task R) : Option (Except R.Err R.Val) :=
  match task.rest with
  | .done result => some result
  | _ => none

/-- A state of the service; `trace` is the history of answers, each with the call it
went to. -/
structure Config (S : Service R) where
  world : S.World
  mem : R.Mem
  pool : List (Task R)
  trace : List (Nat × Event R)

inductive Label (S : Service R) where
  | call (call : R.Call)
  | resume (i : Nat)
  | reply (i : Nat) (choice : S.Choice)
  | fork (i : Nat)
  | join (i : Nat)
  | env (change : S.Env)

variable {S : Service R}

def newTask (S : Service R) (call : R.Call) : Task R := ⟨call, [], S.body call, none⟩

/-- A service before its first call. -/
def Config.initial (S : Service R) (world : S.World) (mem : R.Mem) : Config S := ⟨world, mem, [], []⟩

/-- The results of the awaited children, when all have one. -/
def joined (c : Config S) (children : List Nat) : Option (List (Except R.Err R.Val)) :=
  children.mapM fun i => (c.pool[i]?).bind Task.result

/-- The effect of a label. -/
def next (c : Config S) : Label S → Option (Config S)
  | .call call => if S.isPublic call then some { c with pool := c.pool ++ [newTask S call] } else none
  | .resume i =>
    match c.pool[i]? with
    | none => none
    | some task =>
      let (mem, calls, rest) := task.rest.settle c.mem
      some { c with
        mem := mem
        pool := c.pool.set i { task with rest := rest } ++ calls.map (newTask S) }
  | .reply i choice =>
    match c.pool[i]? with
    | none => none
    | some task =>
      match task.rest with
      | .await op rest =>
        match S.respond c.world op choice with
        | some (world, result) =>
          some { c with
            world := world
            pool := c.pool.set i
              { task with past := task.past ++ [⟨op, result⟩], rest := rest result }
            trace := c.trace ++ [(i, ⟨op, result⟩)] }
        | none => none
      | _ => none
  | .fork i =>
    match c.pool[i]? with
    | some task =>
      match task.rest, task.children with
      | .gather calls _, none =>
        let children := (List.range calls.length).map (c.pool.length + ·)
        some { c with
          pool := c.pool.set i { task with children := some children } ++ calls.map (newTask S) }
      | _, _ => none
    | none => none
  | .join i =>
    match c.pool[i]? with
    | some task =>
      match task.rest, task.children with
      | .gather _ rest, some children =>
        match joined c children with
        | some results =>
          some { c with pool := c.pool.set i { task with rest := rest results, children := none } }
        | none => none
      | _, _ => none
    | none => none
  | .env change =>
    let (world, mem) := S.environment (c.world, c.mem) change
    some { c with world := world, mem := mem }

variable {c after : Config S}

theorem next_call {call : R.Call} (stepped : next c (.call call) = some after) :
    S.isPublic call = true ∧ after = { c with pool := c.pool ++ [newTask S call] } := by
  simp only [next] at stepped
  split at stepped
  next isPublic => exact ⟨isPublic, (Option.some.inj stepped).symm⟩
  next => cases stepped

theorem next_resume {i : Nat} (stepped : next c (.resume i) = some after) : ∃ task, c.pool[i]? = some task ∧
      after = { c with
        mem := (task.rest.settle c.mem).1
        pool := c.pool.set i { task with rest := (task.rest.settle c.mem).2.2 } ++
          (task.rest.settle c.mem).2.1.map (newTask S) } := by
  simp only [next] at stepped
  split at stepped
  next => cases stepped
  next task found => exact ⟨task, found, (Option.some.inj stepped).symm⟩

theorem next_reply {i : Nat} {choice : S.Choice} (stepped : next c (.reply i choice) = some after) :
    ∃ task op rest world result, c.pool[i]? = some task ∧ task.rest = .await op rest ∧
      S.respond c.world op choice = some (world, result) ∧ after = { c with
        world := world
        pool := c.pool.set i
          { task with past := task.past ++ [⟨op, result⟩], rest := rest result }
        trace := c.trace ++ [(i, ⟨op, result⟩)] } := by
  simp only [next] at stepped
  split at stepped
  next => cases stepped
  next task found =>
    split at stepped
    next op rest waits =>
      split at stepped
      next world result responds =>
        exact ⟨task, op, rest, world, result, found, waits, responds,
          (Option.some.inj stepped).symm⟩
      next => cases stepped
    next => cases stepped

theorem next_fork {i : Nat} (stepped : next c (.fork i) = some after) :
    ∃ task calls rest children, c.pool[i]? = some task ∧ task.rest = .gather calls rest ∧ after = { c with
        pool := c.pool.set i { task with children := children } ++ calls.map (newTask S) } := by
  simp only [next] at stepped
  split at stepped
  next task found =>
    split at stepped
    next calls rest waits _ =>
      exact ⟨task, calls, rest, _, found, waits, (Option.some.inj stepped).symm⟩
    next => cases stepped
  next => cases stepped

theorem next_join {i : Nat} (stepped : next c (.join i) = some after) :
    ∃ task calls rest results, c.pool[i]? = some task ∧ task.rest = .gather calls rest ∧ after = { c with
        pool := c.pool.set i { task with rest := rest results, children := none } } := by
  simp only [next] at stepped
  split at stepped
  next task found =>
    split at stepped
    next calls rest _ waits _ =>
      split at stepped
      next results _ =>
        exact ⟨task, calls, rest, results, found, waits, (Option.some.inj stepped).symm⟩
      next => cases stepped
    next => cases stepped
  next => cases stepped

/-- Run a sequence of labels. -/
def run : List (Label S) → Config S → Option (Config S)
  | [], c => some c
  | label :: labels, c => (next c label).bind (run labels)

theorem run_append (first second : List (Label S)) (c : Config S) :
    run (first ++ second) c = (run first c).bind (run second) := by
  induction first generalizing c with
  | nil => rfl
  | cons label labels ih =>
    simp only [List.cons_append, run]
    cases next c label with
    | none => rfl
    | some after => exact ih after

instance run.decidable (labels : List (Label S)) (c : Config S) (holds : Config S → Prop)
    [DecidablePred holds] : Decidable (∃ after, run labels c = some after ∧ holds after) :=
  inferInstanceAs (Decidable (∃ after ∈ run labels c, holds after))

/-- Every step of a run meets a condition on the state it starts from. -/
def Admissible (condition : Config S → Label S → Prop) : List (Label S) → Config S → Prop
  | [], _ => True
  | label :: labels, c =>
    condition c label ∧ ∀ after, next c label = some after → Admissible condition labels after

instance Admissible.decidable {condition : Config S → Label S → Prop}
    [∀ c label, Decidable (condition c label)] : ∀ (labels : List (Label S)) (c : Config S),
      Decidable (Admissible condition labels c)
  | [], _ => isTrue trivial
  | label :: labels, c =>
    have : ∀ after, Decidable (Admissible condition labels after) := Admissible.decidable labels
    inferInstanceAs (Decidable
      (condition c label ∧ ∀ after ∈ next c label, Admissible condition labels after))

variable {condition : Config S → Label S → Prop}

/-- The condition of a run, checked along its only course. -/
theorem admissible_cons {label : Label S} {labels : List (Label S)} (met : condition c label)
    (stepped : next c label = some after) (later : Admissible condition labels after) :
    Admissible condition (label :: labels) c := by
  refine ⟨met, fun other same => ?_⟩
  rw [stepped] at same
  cases same
  exact later

theorem admissible_always (met : ∀ c label, condition c label) :
    ∀ (labels : List (Label S)) (c : Config S), Admissible condition labels c
  | [], _ => trivial
  | _ :: labels, _ => ⟨met _ _, fun after _ => admissible_always met labels after⟩

/-- A condition on the labels alone. -/
theorem admissible_of_labels {condition : Label S → Prop} :
    ∀ {labels : List (Label S)} (c : Config S), (∀ label ∈ labels, condition label) →
      Admissible (fun _ label => condition label) labels c
  | [], _, _ => trivial
  | _ :: _, _, met => ⟨met _ List.mem_cons_self, fun after _ =>
      admissible_of_labels after fun label member => met label (List.mem_cons_of_mem _ member)⟩

theorem admissible_mono {condition weaker : Config S → Label S → Prop}
    (implies : ∀ c label, condition c label → weaker c label) :
    ∀ {labels : List (Label S)} {c : Config S}, Admissible condition labels c →
      Admissible weaker labels c
  | [], _, _ => trivial
  | _ :: _, _, met =>
    ⟨implies _ _ met.1, fun after stepped => admissible_mono implies (met.2 after stepped)⟩

/-- The condition of a run is that of its parts. -/
theorem admissible_append {first second : List (Label S)} {c middle : Config S}
    (ran : run first c = some middle) (met : Admissible condition (first ++ second) c) :
    Admissible condition first c ∧ Admissible condition second middle := by
  induction first generalizing c with
  | nil =>
    cases ran
    exact ⟨trivial, met⟩
  | cons label labels ih =>
    obtain ⟨here, later⟩ := met
    simp only [run] at ran
    cases stepped : next c label with
    | none =>
      rw [stepped] at ran
      cases ran
    | some after =>
      rw [stepped] at ran
      obtain ⟨start, rest⟩ := ih ran (later after stepped)
      exact ⟨admissible_cons here stepped start, rest⟩

/-- What every admissible step preserves holds after every admissible run. -/
theorem run_preserves (holds : Config S → Prop)
    (step : ∀ c label after, holds c → condition c label → next c label = some after → holds after) :
    ∀ (labels : List (Label S)) (c after : Config S), holds c → Admissible condition labels c →
      run labels c = some after → holds after
  | [], c, after, start, _, stopped => by
    cases stopped
    exact start
  | label :: labels, c, after, start, admissible, ran => by
    obtain ⟨first, later⟩ := admissible
    simp only [run] at ran
    cases stepped : next c label with
    | none =>
      rw [stepped] at ran
      cases ran
    | some middle =>
      rw [stepped] at ran
      exact run_preserves holds step labels middle after (step c label middle start first stepped)
        (later middle stepped) ran

theorem pool_stays {pool : List (Task R)} {i j : Nat} {task moved : Task R}
    (found : pool[i]? = some task) (same : j = i → moved = task) (new : List (Task R)) :
    (pool.set j moved ++ new)[i]? = some task := by
  have inside := (List.getElem?_eq_some_iff.mp found).1
  rw [List.getElem?_append_left (by rwa [List.length_set]), List.getElem?_set]
  split
  next equal =>
    rw [same equal, if_pos (equal ▸ inside)]
  next => exact found

/-- A call that has ended is not changed any more. -/
theorem next_ended {label : Label S} (stepped : next c label = some after) {i : Nat} {task : Task R}
    (found : c.pool[i]? = some task) {result : Except R.Err R.Val} (ended : task.rest = .done result) :
    after.pool[i]? = some task := by
  have other : ∀ {j : Nat} {old : Task R}, c.pool[j]? = some old →
      (∀ result, old.rest ≠ .done result) → j ≠ i := by
    rintro j old here under rfl
    cases found.symm.trans here
    exact under result ended
  cases label with
  | call call =>
    obtain ⟨_, rfl⟩ := next_call stepped
    rw [List.getElem?_append_left (List.getElem?_eq_some_iff.mp found).1]
    exact found
  | resume j =>
    obtain ⟨old, here, rfl⟩ := next_resume stepped
    refine pool_stays found (fun same => ?_) _
    subst same
    cases found.symm.trans here
    obtain ⟨call, past, rest, children⟩ := task
    obtain rfl : rest = .done result := ended
    rfl
  | reply j choice =>
    obtain ⟨old, op, rest, world, reply, here, waits, _, rfl⟩ := next_reply stepped
    have apart := other here fun _ done => by rw [waits] at done; cases done
    rw [List.getElem?_set_ne apart]
    exact found
  | fork j =>
    obtain ⟨old, calls, rest, children, here, waits, rfl⟩ := next_fork stepped
    have apart := other here fun _ done => by rw [waits] at done; cases done
    exact pool_stays found (fun same => absurd same apart) _
  | join j =>
    obtain ⟨old, calls, rest, results, here, waits, rfl⟩ := next_join stepped
    have apart := other here fun _ done => by rw [waits] at done; cases done
    rw [List.getElem?_set_ne apart]
    exact found
  | env change =>
    cases stepped
    exact found

end AlianStructure.Library.Interleaving

/-!
# What is written between a lookup and the write that rests on it

A call looks something up, decides, and writes back what it looked up, changed. Another
call may have written in between; this is what the trace of a run says about it.
-/
namespace AlianStructure.Library.Overlap
open AsyncMethod Interleaving

variable {R : Runtime}

/-- Whether there has been a write since the last lookup of a call. -/
def writtenSince (lookup write : Event R → Bool) (i : Nat) (trace : List (Nat × Event R)) : Bool :=
  trace.foldl
    (fun written entry =>
      if lookup entry.2 then written && decide (entry.1 ≠ i) else written || write entry.2)
    false

section Answers
variable {lookup write : Event R → Bool} {i j : Nat} {trace : List (Nat × Event R)}
  {event : Event R}

theorem writtenSince_append : writtenSince lookup write i (trace ++ [(j, event)]) =
      if lookup event then writtenSince lookup write i trace && decide (j ≠ i)
      else writtenSince lookup write i trace || write event := by
  simp [writtenSince]

/-- A write is seen. -/
theorem writtenSince_write (looks : lookup event = false) (writes : write event = true) :
    writtenSince lookup write i (trace ++ [(j, event)]) = true := by
  simp [writtenSince_append, looks, writes]

/-- When nothing is written after an answer, nothing was before, unless the answer is the
call's own lookup. -/
theorem not_written_before (later : writtenSince lookup write i (trace ++ [(j, event)]) = false)
    (other : lookup event = true → j ≠ i) : writtenSince lookup write i trace = false := by
  rw [writtenSince_append] at later
  by_cases looks : lookup event = true
  · simpa [looks, other looks] using later
  · rw [if_neg looks, Bool.or_eq_false_iff] at later
    exact later.1

end Answers

end AlianStructure.Library.Overlap
