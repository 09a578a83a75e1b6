import AlianStructure.Library.CallsInTurn

/-!
# Calls that own a part of the history

Any number of calls are under way. An invariant relates the state to what each call has done so far,
its part. A step of a call may change the state and its own part, and keeps the invariant; what a call
knows of its part stays true whatever the others do.
-/
namespace AlianStructure.Library.OwnedParts
open AsyncMethod Interleaving CallsInTurn

variable {R : Runtime} {S : Service R} {Part α β : Type}

/-- The answers and the changes of the environment that are taken into account. -/
structure Terms (S : Service R) where
  answers : State S → R.Op → S.Choice → Prop
  changes : State S → S.Env → Prop

/-- All of them. -/
def Terms.all (S : Service R) : Terms S := ⟨fun _ _ _ => True, fun _ _ => True⟩

/-- A relation of the state and the parts of the calls. -/
abbrev Sharing (S : Service R) (Part : Type) := State S → (Nat → Part) → Prop

/-- From a state and the parts, the program of a call keeps the invariant with every step, and ends in
a state and with a result that `post` accepts; it starts no other call. -/
def Carries (terms : Terms S) (inv : Sharing S Part) (i : Nat)
    (post : State S → (Nat → Part) → Except R.Err α → Prop) :
    State S → (Nat → Part) → Async R α → Prop
  | state, own, .done result => post state own result
  | state, own, .get rest => Carries terms inv i post state own (rest state.2)
  | state, own, .put mem rest =>
    ∃ mine, inv (state.1, mem) (Function.update own i mine) ∧
      Carries terms inv i post (state.1, mem) (Function.update own i mine) rest
  | _, own, .await op rest => ∀ later theirs, inv later theirs → theirs i = own i →
    ∀ choice world result, terms.answers later op choice →
      S.respond later.1 op choice = some (world, result) →
      ∃ mine, inv (world, later.2) (Function.update theirs i mine) ∧
        ∀ final others, inv final others → others i = mine →
          Carries terms inv i post final others (rest result)
  | _, _, .spawn _ _ => False
  | _, _, .gather _ _ => False

section Rules
variable {terms : Terms S} {inv : Sharing S Part} {i : Nat} {state : State S} {own : Nat → Part}
  {post : State S → (Nat → Part) → Except R.Err α → Prop}

variable {program : Async R α}

theorem carries_mono {weaker : State S → (Nat → Part) → Except R.Err α → Prop}
    (implies : ∀ later theirs result, post later theirs result → weaker later theirs result) :
    Carries terms inv i post state own program → Carries terms inv i weaker state own program := by
  induction program generalizing state own with
  | done result => exact implies state own result
  | get rest ih => exact ih state.2
  | put mem rest ih => exact fun ⟨mine, kept, carries⟩ => ⟨mine, kept, ih carries⟩
  | await op rest ih =>
    intro carries later theirs holds same choice world result fair responds
    obtain ⟨mine, kept, continues⟩ := carries later theirs holds same choice world result fair responds
    exact ⟨mine, kept, fun final others holds same => ih result (continues final others holds same)⟩
  | spawn call rest => exact id
  | gather calls rest => exact id

theorem carries_andThen (program : Async R α) (next : Except R.Err α → Async R β)
    (post : State S → (Nat → Part) → Except R.Err β → Prop) (state : State S) (own : Nat → Part) :
    Carries terms inv i post state own (program.andThen next) ↔ Carries terms inv i
        (fun later theirs result => Carries terms inv i post later theirs (next result)) state own program := by
  induction program generalizing state own with
  | done result => rfl
  | get rest ih => exact ih state.2 state own
  | put mem rest ih => exact exists_congr fun mine => and_congr_right fun _ => ih _ _
  | await op rest ih =>
    exact forall_congr' fun later => forall_congr' fun theirs => imp_congr_right fun _ =>
      imp_congr_right fun _ => forall_congr' fun choice => forall_congr' fun world =>
        forall_congr' fun result => imp_congr_right fun _ => imp_congr_right fun _ =>
          exists_congr fun mine => and_congr_right fun _ => forall_congr' fun final =>
            forall_congr' fun others => imp_congr_right fun _ => imp_congr_right fun _ =>
              ih result final others
  | spawn call rest => rfl
  | gather calls rest => rfl

/-- A sequence: the second part starts where the first one ends, a failure ends it. -/
theorem carries_bind {program : Async R β} {next : β → Async R α}
    (first : Carries terms inv i (fun later theirs result =>
      Carries terms inv i post later theirs (Async.onOk next result)) state own program) :
    Carries terms inv i post state own (program >>= next) :=
  (carries_andThen program (Async.onOk next) post state own).mpr first

theorem carries_outcome {post : State S → (Nat → Part) → Except R.Err (Except R.Err α) → Prop}
    (here : Carries terms inv i (fun later theirs result => post later theirs (.ok result)) state own program) :
    Carries terms inv i post state own program.outcome :=
  (carries_andThen program _ post state own).mpr here

theorem carries_memory {post : State S → (Nat → Part) → Except R.Err R.Mem → Prop}
    (here : post state own (.ok state.2)) : Carries terms inv i post state own Async.memory := here

variable {change : R.Mem → R.Mem}

/-- A change of the memory, which is the call's next deed. -/
theorem carries_update {post : State S → (Nat → Part) → Except R.Err Unit → Prop} (mine : Part)
    (kept : inv (state.1, change state.2) (Function.update own i mine))
    (here : post (state.1, change state.2) (Function.update own i mine) (.ok ())) :
    Carries terms inv i post state own (Async.update change) := ⟨mine, kept, here⟩

/-- A change of the memory that is no deed. -/
theorem carries_change {post : State S → (Nat → Part) → Except R.Err Unit → Prop}
    (kept : inv (state.1, change state.2) own) (here : post (state.1, change state.2) own (.ok ())) :
    Carries terms inv i post state own (Async.update change) := by
  refine carries_update (own i) ?_ ?_
  · rwa [Function.update_eq_self]
  · rwa [Function.update_eq_self]

/-- An operation: it is answered in a later state, and others act before the call goes on. -/
theorem carries_perform {op : R.Op} {post : State S → (Nat → Part) → Except R.Err (R.Reply op) → Prop}
    (answers : ∀ later theirs, inv later theirs → theirs i = own i → ∀ choice world result,
      terms.answers later op choice → S.respond later.1 op choice = some (world, result) →
      ∃ mine, inv (world, later.2) (Function.update theirs i mine) ∧
        ∀ final others, inv final others → others i = mine → post final others result) :
    Carries terms inv i post state own (Async.perform op) := answers

/-- Running up to the next await: others may act before it. -/
theorem carries_settle {world : S.World} {mem : R.Mem} (here : inv (world, mem) own)
    (carries : Carries terms inv i (fun _ _ _ => True) (world, mem) own program) : (program.settle mem).2.1 = [] ∧
      ∃ mine, inv (world, (program.settle mem).1) (Function.update own i mine) ∧
        ∀ later theirs, inv later theirs → theirs i = mine →
          Carries terms inv i (fun _ _ _ => True) later theirs (program.settle mem).2.2 := by
  induction program generalizing mem own with
  | done result =>
    refine ⟨rfl, own i, ?_, fun _ _ _ _ => trivial⟩
    rwa [Function.update_eq_self]
  | get rest ih => exact ih mem here carries
  | put changed rest ih =>
    obtain ⟨first, kept, continues⟩ := carries
    obtain ⟨silent, mine, settled, suspended⟩ := ih kept continues
    rw [Function.update_idem] at settled
    exact ⟨silent, mine, settled, suspended⟩
  | await op rest _ =>
    refine ⟨rfl, own i, ?_, fun later theirs holds same => ?_⟩
    · rwa [Function.update_eq_self]
    · exact fun final others kept equal => carries final others kept (equal.trans same)
  | spawn call rest => exact carries.elim
  | gather calls rest => exact carries.elim

end Rules

/-- From every state the program keeps the invariant and leaves the part of its call. -/
def Keeps (terms : Terms S) (inv : Sharing S Part) (program : Async R α) : Prop :=
  ∀ i state own, inv state own →
    Carries terms inv i (fun later theirs _ => inv later theirs ∧ theirs i = own i) state own program

section Keeping
variable {terms : Terms S} {inv : Sharing S Part}

theorem keeps_pure {value : α} : Keeps terms inv (pure value : Async R α) :=
  fun _ _ _ holds => ⟨holds, rfl⟩

theorem keeps_bind {program : Async R β} {next : β → Async R α} (first : Keeps terms inv program)
    (rest : ∀ value, Keeps terms inv (next value)) : Keeps terms inv (program >>= next) := by
  intro i state own holds
  refine carries_bind (carries_mono ?_ (first i state own holds))
  rintro later theirs result ⟨kept, same⟩
  cases result with
  | ok value =>
    refine carries_mono ?_ (rest value i later theirs kept)
    exact fun _ _ _ ended => ⟨ended.1, ended.2.trans same⟩
  | error failure => exact ⟨kept, same⟩

theorem keeps_outcome (first : Keeps terms inv program) : Keeps terms inv program.outcome :=
  fun i state own holds => carries_outcome (first i state own holds)

theorem keeps_memory : Keeps terms inv (Async.memory : Async R R.Mem) :=
  fun _ _ _ holds => ⟨holds, rfl⟩

theorem keeps_change (kept : ∀ state own, inv state own → inv (state.1, change state.2) own) :
    Keeps terms inv (Async.update change) :=
  fun _ _ _ holds => carries_change (kept _ _ holds) ⟨kept _ _ holds, rfl⟩

theorem keeps_perform {op : R.Op}
    (kept : ∀ later theirs, inv later theirs → ∀ choice world result, terms.answers later op choice →
      S.respond later.1 op choice = some (world, result) → inv (world, later.2) theirs) :
    Keeps terms inv (Async.perform op) := by
  intro i state own _ later theirs holds same choice world result fair responds
  refine ⟨theirs i, ?_, fun _ _ kept equal => ⟨kept, equal.trans same⟩⟩
  rw [Function.update_eq_self]
  exact kept later theirs holds choice world result fair responds

end Keeping

/-- The condition on the steps of a run. -/
def Met (terms : Terms S) (c : Config S) : Label S → Prop
  | .reply i choice => ∀ task op rest, c.pool[i]? = some task → task.rest = .await op rest →
    terms.answers (c.world, c.mem) op choice
  | .env change => terms.changes (c.world, c.mem) change
  | _ => True

theorem met_all (c : Config S) (label : Label S) : Met (Terms.all S) c label := by
  cases label <;> simp [Met, Terms.all]

/-- The invariant holds for some parts, those of calls to come being `idle`, and every call is on its
way. -/
def Shared (terms : Terms S) (inv : Sharing S Part) (idle : Part) (c : Config S) : Prop :=
  ∃ own : Nat → Part, inv (c.world, c.mem) own ∧ (∀ j, c.pool.length ≤ j → own j = idle) ∧
    ∀ j task, c.pool[j]? = some task → ∀ later theirs, inv later theirs → theirs j = own j →
      Carries terms inv j (fun _ _ _ => True) later theirs task.rest

section Runs
variable {terms : Terms S} {inv : Sharing S Part} {idle : Part}

/-- A step of one call. -/
theorem Shared.moved {c : Config S} {own : Nat → Part} {i : Nat} {task : Task R} (moved : Task R)
    {world : S.World} {mem : R.Mem} {mine : Part}
    (others : ∀ j task, c.pool[j]? = some task → ∀ later theirs, inv later theirs →
      theirs j = own j → Carries terms inv j (fun _ _ _ => True) later theirs task.rest)
    (unused : ∀ j, c.pool.length ≤ j → own j = idle) (found : c.pool[i]? = some task)
    (kept : inv (world, mem) (Function.update own i mine))
    (continues : ∀ later theirs, inv later theirs → theirs i = mine →
      Carries terms inv i (fun _ _ _ => True) later theirs moved.rest)
    {after : Config S} (isWorld : after.world = world) (isMem : after.mem = mem)
    (isPool : after.pool = c.pool.set i moved) : Shared terms inv idle after := by
  have inside := (List.getElem?_eq_some_iff.mp found).1
  refine ⟨Function.update own i mine, ?_, fun j beyond => ?_, fun j other isOther => ?_⟩
  · rw [isWorld, isMem]
    exact kept
  · rw [isPool, List.length_set] at beyond
    rw [Function.update_of_ne (by omega)]
    exact unused j beyond
  · rw [isPool, List.getElem?_set] at isOther
    split at isOther
    next same =>
      subst same
      cases isOther
      rw [Function.update_self]
      exact continues
    next different =>
      rw [Function.update_of_ne (Ne.symm different)]
      exact others j other isOther

variable
  (bodies : ∀ call i state own, S.isPublic call = true → inv state own → own i = idle →
    Carries terms inv i (fun _ _ _ => True) state own (S.body call))
  (environment : ∀ state own change, inv state own → terms.changes state change →
    inv (S.environment state change) own)
include bodies environment

theorem Shared.step {c after : Config S} {label : Label S} (shared : Shared terms inv idle c)
    (met : Met terms c label) (stepped : next c label = some after) : Shared terms inv idle after := by
  obtain ⟨own, holds, unused, tasks⟩ := shared
  cases label with
  | call call =>
    obtain ⟨isPublic, rfl⟩ := next_call stepped
    refine ⟨own, holds, fun j beyond => ?_, fun j task found => ?_⟩
    · rw [List.length_append] at beyond
      exact unused j (Nat.le_of_add_right_le beyond)
    · rw [List.getElem?_append] at found
      split at found
      next => exact tasks j task found
      next outside =>
        rw [List.mem_singleton.mp (List.mem_of_getElem? found)]
        rw [unused j (Nat.not_lt.mp outside)]
        exact fun later theirs kept same => bodies call j later theirs isPublic kept same
  | resume i =>
    obtain ⟨task, found, rfl⟩ := next_resume stepped
    obtain ⟨silent, mine, kept, continues⟩ :=
      carries_settle holds (tasks i task found _ own holds rfl)
    refine Shared.moved { task with rest := (task.rest.settle c.mem).2.2 } tasks unused found kept continues rfl rfl ?_
    rw [silent, List.map_nil, List.append_nil]
  | reply i choice =>
    obtain ⟨task, op, rest, world, result, found, waits, responds, rfl⟩ := next_reply stepped
    have carries := tasks i task found (c.world, c.mem) own holds rfl
    rw [waits] at carries
    obtain ⟨mine, kept, continues⟩ :=
      carries _ own holds rfl choice world result (met task op rest found waits) responds
    exact Shared.moved _ tasks unused found kept continues rfl rfl rfl
  | fork i =>
    obtain ⟨task, calls, rest, children, found, waits, rfl⟩ := next_fork stepped
    have carries := tasks i task found _ own holds rfl
    rw [waits] at carries
    exact carries.elim
  | join i =>
    obtain ⟨task, calls, rest, results, found, waits, rfl⟩ := next_join stepped
    have carries := tasks i task found _ own holds rfl
    rw [waits] at carries
    exact carries.elim
  | env change =>
    cases stepped
    exact ⟨own, environment _ own change holds met, unused, tasks⟩

/-- In every run from a state in which the invariant holds of calls without a part, it holds of some
parts in every state reached. -/
theorem shared_run {world : S.World} {mem : R.Mem} (start : inv (world, mem) fun _ => idle)
    {labels : List (Label S)} {after : Config S} (met : Admissible (Met terms) labels (Config.initial S world mem))
    (ran : run labels (Config.initial S world mem) = some after) : ∃ own, inv (after.world, after.mem) own := by
  have initially : Shared terms inv idle (Config.initial S world mem) :=
    ⟨fun _ => idle, start, fun _ _ => rfl, fun _ _ found => by cases found⟩
  obtain ⟨own, holds, _⟩ := run_preserves (Shared terms inv idle)
    (fun _ _ _ shared met stepped => shared.step bodies environment met stepped)
    labels _ after initially met ran
  exact ⟨own, holds⟩

end Runs

end AlianStructure.Library.OwnedParts
