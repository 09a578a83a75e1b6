import AlianStructure.Library.Interleaving

/-!
# A memory that only grows

A counter or a source of random values only moves forward. A call has the memory to itself
between two awaits, and finds a later one after each. When every method moves the memory
forward, all that a call does after a moment of a run is done with later memories than those
before it.
-/
namespace AlianStructure.Library.GrowingMemory
open AsyncMethod Interleaving

variable {R : Runtime} {α β : Type}

/-- When a memory is later than another, and which answers operations get. -/
structure Growth (S : Service R) where
  earlier : R.Mem → R.Mem → Prop
  refl : ∀ mem, earlier mem mem
  trans : ∀ {a b c}, earlier a b → earlier b c → earlier a c
  environment : ∀ world mem change, earlier mem (S.environment (world, mem) change).2
  possible : (op : R.Op) → Except R.Err (R.Reply op) → Prop
  answers : ∀ world op choice world' result,
    S.respond world op choice = some (world', result) → possible op result

variable {S : Service R}

/-- From a memory and the answers so far, the program moves the memory forward, and ends
with answers, a memory and a result that `post` accepts. -/
def Grows (G : Growth S) (post : List (Event R) → R.Mem → Except R.Err α → Prop) :
    List (Event R) → R.Mem → Async R α → Prop
  | past, mem, .done result => post past mem result
  | past, mem, .get rest => Grows G post past mem (rest mem)
  | past, mem, .put new rest => G.earlier mem new ∧ Grows G post past new rest
  | past, mem, .await op rest => ∀ later, G.earlier mem later → ∀ result, G.possible op result →
    Grows G post (past ++ [⟨op, result⟩]) later (rest result)
  | _, _, .spawn _ _ => False
  | _, _, .gather _ _ => False

section Rules
variable {G : Growth S} {past : List (Event R)} {mem : R.Mem}
  {post : List (Event R) → R.Mem → Except R.Err α → Prop}

theorem grows_mono {program : Async R α} {weaker : List (Event R) → R.Mem → Except R.Err α → Prop}
    (implies : ∀ past mem result, post past mem result → weaker past mem result) :
    Grows G post past mem program → Grows G weaker past mem program := by
  induction program generalizing past mem with
  | done result => exact implies past mem result
  | get rest ih => exact ih mem
  | put new rest ih => exact fun grows => ⟨grows.1, ih grows.2⟩
  | await op rest ih =>
    intro grows later after result possible
    exact ih result (grows later after result possible)
  | spawn call rest _ => exact id
  | gather calls rest _ => exact id

theorem grows_andThen (program : Async R α) (next : Except R.Err α → Async R β)
    (post : List (Event R) → R.Mem → Except R.Err β → Prop) (past : List (Event R)) (mem : R.Mem) :
    Grows G post past mem (program.andThen next) ↔
      Grows G (fun past mem result => Grows G post past mem (next result)) past mem program := by
  induction program generalizing past mem with
  | done result => rfl
  | get rest ih => exact ih mem past mem
  | put new rest ih => exact and_congr_right fun _ => ih past new
  | await op rest ih =>
    exact forall_congr' fun later => imp_congr_right fun _ => forall_congr' fun result =>
      imp_congr_right fun _ => ih result _ later
  | spawn call rest _ => rfl
  | gather calls rest _ => rfl

/-- A sequence: what the first part ends with, the second starts from. -/
theorem grows_bind {program : Async R β} {next : β → Async R α}
    {middle : List (Event R) → R.Mem → Except R.Err β → Prop} (first : Grows G middle past mem program)
    (rest : ∀ past mem value, middle past mem (.ok value) → Grows G post past mem (next value))
    (fails : ∀ past mem failure, middle past mem (.error failure) → post past mem (.error failure)) :
    Grows G post past mem (program >>= next) := by
  refine (grows_andThen program (Async.onOk next) post past mem).mpr (grows_mono ?_ first)
  intro past mem result ended
  cases result with
  | error failure => exact fails past mem failure ended
  | ok value => exact rest past mem value ended

/-- Running up to the next await moves the memory forward. -/
theorem grows_settle {program : Async R α} (grows : Grows G post past mem program)
    (keeps : ∀ past mem later result, G.earlier mem later → post past mem result → post past later result) :
    G.earlier mem (program.settle mem).1 ∧ (program.settle mem).2.1 = [] ∧
      ∀ later, G.earlier (program.settle mem).1 later → Grows G post past later (program.settle mem).2.2 := by
  induction program generalizing mem with
  | done result => exact ⟨G.refl mem, rfl, fun later after => keeps _ _ _ _ after grows⟩
  | get rest ih => exact ih mem grows
  | put new rest ih =>
    obtain ⟨grown, silent, settled⟩ := ih grows.2
    exact ⟨G.trans grows.1 grown, silent, settled⟩
  | await op rest _ =>
    refine ⟨G.refl mem, rfl, fun later after final more result possible => ?_⟩
    exact grows final (G.trans after more) result possible
  | spawn call rest _ => exact grows.elim
  | gather calls rest _ => exact grows.elim

end Rules

/-- What a call accepts at its end, given the memory at its beginning. -/
abbrev Accepts (R : Runtime) :=
  R.Mem → R.Call → List (Event R) → R.Mem → Except R.Err R.Val → Prop

/-- Every call of the pool is on its way to an end that is accepted; those from an index on
have begun after a certain memory. -/
structure Tracked (G : Growth S) (accepts : Accepts R) (since : Nat) (low : R.Mem) (c : Config S) :
    Prop where
  grown : G.earlier low c.mem
  tasks : ∀ i task, c.pool[i]? = some task → ∀ later, G.earlier c.mem later →
    ∃ began, (since ≤ i → G.earlier low began) ∧
      Grows G (accepts began task.call) task.past later task.rest

/-- When the memory has grown, the calls that have not moved are still on their way. -/
theorem Tracked.others {G : Growth S} {accepts : Accepts R} {since : Nat} {low mem : R.Mem}
    {c : Config S} (tracked : Tracked G accepts since low c) (grown : G.earlier c.mem mem)
    {i j : Nat} {moved other : Task R} (found : (c.pool.set i moved)[j]? = some other)
    (mine : ∀ later, G.earlier mem later → ∃ began, (since ≤ i → G.earlier low began) ∧
      Grows G (accepts began moved.call) moved.past later moved.rest) (later : R.Mem) (after : G.earlier mem later) :
    ∃ began, (since ≤ j → G.earlier low began) ∧ Grows G (accepts began other.call) other.past later other.rest := by
  rw [List.getElem?_set] at found
  split at found
  next same =>
    split at found
    next =>
      cases found
      obtain ⟨began, late, grows⟩ := mine later after
      exact ⟨began, fun new => late (same ▸ new), grows⟩
    next => cases found
  next => exact tracked.tasks j other found later (G.trans grown after)

section Runs
variable {G : Growth S} {accepts : Accepts R}
  (bodies : ∀ call, S.isPublic call = true → ∀ mem,
    Grows G (accepts mem call) [] mem (S.body call))
  (keeps : ∀ began call past mem later result, G.earlier mem later →
    accepts began call past mem result → accepts began call past later result)
include bodies keeps

theorem Tracked.step {since : Nat} {low : R.Mem} {c after : Config S} {label : Label S}
    (tracked : Tracked G accepts since low c) (stepped : next c label = some after) :
    Tracked G accepts since low after := by
  cases label with
  | call call =>
    obtain ⟨isPublic, rfl⟩ := next_call stepped
    refine ⟨tracked.grown, fun i task found later after => ?_⟩
    rw [List.getElem?_append] at found
    split at found
    next => exact tracked.tasks i task found later after
    next =>
      rw [List.mem_singleton.mp (List.mem_of_getElem? found)]
      exact ⟨later, fun _ => G.trans tracked.grown after, bodies call isPublic later⟩
  | resume i =>
    obtain ⟨task, here, rfl⟩ := next_resume stepped
    obtain ⟨began, late, grows⟩ := tracked.tasks i task here c.mem (G.refl c.mem)
    obtain ⟨grown, silent, settled⟩ := grows_settle grows (keeps began task.call)
    refine ⟨G.trans tracked.grown grown, fun j other found => ?_⟩
    rw [silent, List.map_nil, List.append_nil] at found
    exact tracked.others grown found fun later after => ⟨began, late, settled later after⟩
  | reply i choice =>
    obtain ⟨task, op, rest, world, result, here, waits, responds, rfl⟩ := next_reply stepped
    obtain ⟨began, late, grows⟩ := tracked.tasks i task here c.mem (G.refl c.mem)
    rw [waits] at grows
    refine ⟨tracked.grown, fun j other found => ?_⟩
    exact tracked.others (G.refl c.mem) found fun later after =>
      ⟨began, late, grows later after result (G.answers _ _ _ _ _ responds)⟩
  | fork i =>
    obtain ⟨task, calls, rest, children, here, waits, rfl⟩ := next_fork stepped
    obtain ⟨_, _, grows⟩ := tracked.tasks i task here c.mem (G.refl c.mem)
    rw [waits] at grows
    exact grows.elim
  | join i =>
    obtain ⟨task, calls, rest, results, here, waits, rfl⟩ := next_join stepped
    obtain ⟨_, _, grows⟩ := tracked.tasks i task here c.mem (G.refl c.mem)
    rw [waits] at grows
    exact grows.elim
  | env change =>
    cases stepped
    have grown := G.environment c.world c.mem change
    exact ⟨G.trans tracked.grown grown, fun j other found later after =>
      tracked.tasks j other found later (G.trans grown after)⟩

theorem Tracked.run {since : Nat} {low : R.Mem} {c after : Config S} {labels : List (Label S)}
    (tracked : Tracked G accepts since low c) (ran : run labels c = some after) :
    Tracked G accepts since low after := by
  have always : Admissible (fun _ _ => True) labels c :=
    admissible_always (fun _ _ => trivial) labels c
  exact run_preserves (Tracked G accepts since low)
    (fun _ _ _ holds _ stepped => Tracked.step bodies keeps holds stepped) labels c after tracked
    always ran

omit bodies keeps in
theorem Tracked.initial (world : S.World) (mem : R.Mem) : Tracked G accepts 0 mem (Config.initial S world mem) :=
  ⟨G.refl mem, fun _ _ found => by cases found⟩

omit bodies keeps in
/-- The end of a call has been accepted. -/
theorem Tracked.ended {since : Nat} {low : R.Mem} {c : Config S}
    (tracked : Tracked G accepts since low c) {i : Nat} {task : Task R}
    {result : Except R.Err R.Val} (found : c.pool[i]? = some task) (ended : task.result = some result) :
    ∃ began, (since ≤ i → G.earlier low began) ∧ accepts began task.call task.past c.mem result := by
  obtain ⟨began, late, grows⟩ := tracked.tasks i task found c.mem (G.refl c.mem)
  unfold Task.result at ended
  split at ended
  next value done =>
    cases ended
    rw [done] at grows
    exact ⟨began, late, grows⟩
  next => cases ended

/-- In every run, the end of a call is accepted, with the memory that the call ended at or a
later one. -/
theorem accepted {world : S.World} {mem : R.Mem} {labels : List (Label S)} {c : Config S}
    (ran : Interleaving.run labels (Config.initial S world mem) = some c) {i : Nat} {task : Task R}
    {result : Except R.Err R.Val} (found : c.pool[i]? = some task) (ended : task.result = some result) :
    ∃ began, accepts began task.call task.past c.mem result := by
  obtain ⟨began, _, accepted⟩ :=
    (Tracked.run bodies keeps (Tracked.initial world mem) ran).ended found ended
  exact ⟨began, accepted⟩

/-- A call that begins after a moment of a run begins with a later memory. -/
theorem accepted_later {world : S.World} {mem : R.Mem} {labels more : List (Label S)} {c after : Config S}
    (ran : Interleaving.run labels (Config.initial S world mem) = some c)
    (ran' : Interleaving.run more c = some after) {j : Nat} {task : Task R}
    {result : Except R.Err R.Val} (new : c.pool.length ≤ j) (found : after.pool[j]? = some task)
    (ended : task.result = some result) :
    ∃ began, G.earlier c.mem began ∧ accepts began task.call task.past after.mem result := by
  have before := Tracked.run bodies keeps (Tracked.initial world mem) ran
  have here : Tracked G accepts c.pool.length c.mem c := by
    refine ⟨G.refl c.mem, fun i task found later after => ?_⟩
    obtain ⟨began, _, grows⟩ := before.tasks i task found later after
    refine ⟨began, fun beyond => ?_, grows⟩
    have inside := (List.getElem?_eq_some_iff.mp found).1
    omega
  obtain ⟨began, late, accepted⟩ := (Tracked.run bodies keeps here ran').ended found ended
  exact ⟨began, late new, accepted⟩

end Runs

end AlianStructure.Library.GrowingMemory
