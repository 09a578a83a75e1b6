import Mathlib.Data.List.Induction
import AlianStructure.Library.WiderRuntime

/-!
# What a call has read

A call decides by the memory as it finds it between two awaits. `Decides` follows a method from one
reading to the next, for all memories that it may read, and says how it ends. In every run, a call ends
in this way on the memories that it has read in the states of the run.
-/
namespace AlianStructure.Library.MemoryReadings
open AsyncMethod Interleaving WiderRuntime

variable {R : Runtime} {α β : Type}

/-- The memories that a program reads up to its next await. -/
def readings (mem : R.Mem) : Async R α → List R.Mem
  | .get rest => mem :: readings mem (rest mem)
  | .put mem rest => readings mem rest
  | .spawn _ rest => readings mem rest
  | _ => []

/-- A condition on a memory that is read after some answers. -/
abbrev Reading (R : Runtime) := List (Event R) → R.Mem → Prop

/-- What the methods of a service keep to: an invariant of the memory, the calls they start and the answers that are
possible. -/
structure Setting (R : Runtime) where
  inv : R.Mem → Prop
  starts : R.Call → Prop
  answers : (op : R.Op) → Except R.Err (R.Reply op) → Prop

/-- From some answers on, the program keeps to the setting and ends as `post` accepts, when it reads only what `read`
permits. -/
def Decides (K : Setting R) (read : Reading R) (post : List (Event R) → Except R.Err α → Prop) :
    List (Event R) → Async R α → Prop
  | past, .done result => post past result
  | past, .get rest => ∀ mem, K.inv mem → read past mem → Decides K read post past (rest mem)
  | past, .put mem rest => K.inv mem ∧ Decides K read post past rest
  | past, .await op rest =>
    ∀ result, K.answers op result → Decides K read post (past ++ [⟨op, result⟩]) (rest result)
  | past, .spawn call rest => K.starts call ∧ Decides K read post past rest
  | past, .gather calls rest =>
    (∀ call ∈ calls, K.starts call) ∧ ∀ results, Decides K read post past (rest results)

section Rules
variable {K : Setting R} {read : Reading R} {post : List (Event R) → Except R.Err α → Prop} {past : List (Event R)}
  {program : Async R α}

/-- Who may read less and accepts more ends no worse. -/
theorem decides_weaken {less : Reading R} {weaker : List (Event R) → Except R.Err α → Prop}
    (reads : ∀ past mem, K.inv mem → less past mem → read past mem)
    (implies : ∀ past result, post past result → weaker past result) :
    Decides K read post past program → Decides K less weaker past program := by
  induction program generalizing past with
  | done result => exact implies past result
  | get rest ih => exact fun decides mem holds allowed => ih mem (decides mem holds (reads past mem holds allowed))
  | put mem rest ih => exact And.imp_right ih
  | await op rest ih => exact fun decides result answered => ih result (decides result answered)
  | spawn call rest ih => exact And.imp_right ih
  | gather calls rest ih => exact And.imp_right fun decides results => ih results (decides results)

theorem decides_mono {weaker : List (Event R) → Except R.Err α → Prop}
    (implies : ∀ past result, post past result → weaker past result) :
    Decides K read post past program → Decides K read weaker past program :=
  decides_weaken (fun _ _ _ => id) implies

/-- Where nothing is kept to, every program ends somehow. -/
theorem decides_free (invariant : ∀ mem, K.inv mem) (starts : ∀ call, K.starts call)
    (accepts : ∀ past result, post past result) : Decides K read post past program := by
  induction program generalizing past with
  | done result => exact accepts past result
  | get rest ih => exact fun mem _ _ => ih mem
  | put mem rest ih => exact ⟨invariant mem, ih⟩
  | await op rest ih => exact fun result _ => ih result
  | spawn call rest ih => exact ⟨starts call, ih⟩
  | gather calls rest ih => exact ⟨fun call _ => starts call, fun results => ih results⟩

theorem decides_andThen (program : Async R α) (next : Except R.Err α → Async R β)
    (post : List (Event R) → Except R.Err β → Prop) (past : List (Event R)) :
    Decides K read post past (program.andThen next) ↔
      Decides K read (fun past result => Decides K read post past (next result)) past program := by
  induction program generalizing past with
  | done result => rfl
  | get rest ih => exact forall_congr' fun mem => imp_congr_right fun _ => imp_congr_right fun _ => ih mem past
  | put mem rest ih => exact and_congr_right fun _ => ih past
  | await op rest ih => exact forall_congr' fun result => imp_congr_right fun _ => ih result _
  | spawn call rest ih => exact and_congr_right fun _ => ih past
  | gather calls rest ih => exact and_congr_right fun _ => forall_congr' fun results => ih results past

theorem decides_bind {program : Async R β} {next : β → Async R α} : Decides K read post past (program >>= next) ↔
      Decides K read (fun past result => Decides K read post past (Async.onOk next result)) past program :=
  decides_andThen program (Async.onOk next) post past

theorem decides_tryCatch {handler : R.Err → Async R α} : Decides K read post past (tryCatch program handler) ↔
      Decides K read (fun past result => Decides K read post past (Async.onError handler result)) past program :=
  decides_andThen program (Async.onError handler) post past

theorem decides_outcome {post : List (Event R) → Except R.Err (Except R.Err α) → Prop} :
    Decides K read post past program.outcome ↔
      Decides K read (fun past result => post past (.ok result)) past program :=
  decides_andThen program (fun result => .done (.ok result)) post past

theorem decides_memory_then {next : R.Mem → Async R α}
    (rest : ∀ mem, K.inv mem → read past mem → Decides K read post past (next mem)) :
    Decides K read post past (Async.memory >>= next) := rest

/-- What is read on the way to the next await decides how the program goes on. -/
theorem decides_settle {mem : R.Mem} (holds : K.inv mem)
    (reads : ∀ seen ∈ readings mem program, K.inv seen → read past seen) (decides : Decides K read post past program) :
    K.inv (program.settle mem).1 ∧ (∀ call ∈ (program.settle mem).2.1, K.starts call) ∧
      Decides K read post past (program.settle mem).2.2 := by
  induction program generalizing mem with
  | done result => exact ⟨holds, List.forall_mem_nil _, decides⟩
  | get rest ih =>
    exact ih mem holds (fun seen member => reads seen (List.mem_cons_of_mem _ member))
      (decides mem holds (reads mem List.mem_cons_self holds))
  | put changed rest ih => exact ih decides.1 reads decides.2
  | await op rest _ => exact ⟨holds, List.forall_mem_nil _, decides⟩
  | spawn call rest ih =>
    obtain ⟨kept, started, later⟩ := ih holds reads decides.2
    exact ⟨kept, List.forall_mem_cons.mpr ⟨decides.1, started⟩, later⟩
  | gather calls rest _ => exact ⟨holds, List.forall_mem_nil _, decides⟩

end Rules

/-! ## Methods that start no call -/

/-- Any answer is possible. -/
abbrev quiet (inv : R.Mem → Prop) : Setting R := ⟨inv, fun _ => False, fun _ _ => True⟩

/-- A method returns only values that `ends` accepts. -/
def Sees (inv : R.Mem → Prop) (read : Reading R) (past : List (Event R)) (program : Async R α)
    (ends : List (Event R) → α → Prop) : Prop :=
  Decides (quiet inv) read (fun past' result => ∀ value, result = .ok value → ends past' value) past program

section Methods
variable {inv : R.Mem → Prop} {read : Reading R} {past : List (Event R)} {ends : List (Event R) → α → Prop}

theorem sees_pure {value : α} (here : ends past value) : Sees inv read past (pure value) ends :=
  fun _ returned => by cases returned; exact here

theorem sees_throw {failure : R.Err} : Sees inv read past (throw failure) ends :=
  fun _ impossible => by cases impossible

theorem sees_bind {program : Async R β} {next : β → Async R α} {middle : List (Event R) → β → Prop}
    (first : Sees inv read past program middle)
    (rest : ∀ past' value, middle past' value → Sees inv read past' (next value) ends) :
    Sees inv read past (program >>= next) ends := by
  refine decides_bind.mpr (decides_mono ?_ first)
  intro past' result ended
  cases result with
  | error failure => exact fun _ impossible => by cases impossible
  | ok value => exact rest past' value (ended value rfl)

theorem sees_tryCatch {program : Async R α} {handler : R.Err → Async R α} (body : Sees inv read past program ends)
    (caught : ∀ past' failure, Sees inv read past' (handler failure) ends) :
    Sees inv read past (tryCatch program handler) ends := by
  refine decides_tryCatch.mpr (decides_mono ?_ body)
  intro past' result ended
  cases result with
  | ok value => exact ended
  | error failure => exact caught past' failure

theorem sees_ask_then {op : R.Op} {next : R.Reply op → Async R α}
    (rest : ∀ reply, Sees inv read (past ++ [⟨op, .ok reply⟩]) (next reply) ends) :
    Sees inv read past (Async.perform op >>= next) ends := by
  intro result _
  cases result with
  | error failure => exact fun _ impossible => by cases impossible
  | ok reply => exact rest reply

/-- The failure of an operation is caught, whatever follows. -/
theorem sees_attempt_then {op : R.Op} {next : Except R.Err (R.Reply op) → Async R α}
    (rest : ∀ result, Sees inv read (past ++ [⟨op, result⟩]) (next result) ends) :
    Sees inv read past ((Async.perform op).outcome >>= next) ends :=
  fun result _ => rest result

theorem sees_memory_then {next : R.Mem → Async R α}
    (rest : ∀ mem, inv mem → read past mem → Sees inv read past (next mem) ends) :
    Sees inv read past (Async.memory >>= next) ends := rest

theorem sees_update_then {change : R.Mem → R.Mem} {next : Unit → Async R α}
    (keeps : ∀ mem, inv mem → inv (change mem)) (rest : Sees inv read past (next ()) ends) :
    Sees inv read past (Async.update change >>= next) ends :=
  fun mem holds _ => ⟨keeps mem holds, rest⟩

/-- A method sees nothing of further operations or of a further memory. -/
theorem sees_narrower {More : Type} {more : Additions} [Inhabited R.Val] (good : R.Mem → Prop) {ends : α → Prop}
    {program : Async R α} {past' : List (Event (wider (withMemory R More) more))}
    (sees : Sees inv (fun _ => good) past program fun _ => ends) :
    Sees (R := wider (withMemory R More) more) (fun mem => inv mem.1) (fun _ mem => good mem.1) past'
      (lift (R := withMemory R More) (remember program)) fun _ => ends := by
  induction program generalizing past past' with
  | done result => exact sees
  | get rest ih => exact fun mem holds reads => ih mem.1 (sees mem.1 holds reads)
  | put mem rest ih => exact fun both holds reads => ⟨sees.1, ih sees.2⟩
  | await op rest ih => exact fun result _ => ih result (sees result trivial)
  | spawn call rest _ => exact sees.1.elim
  | gather calls rest ih =>
    cases calls with
    | nil => exact ⟨fun _ member => (nomatch member), fun results => ih _ (sees.2 _)⟩
    | cons call calls => exact (sees.1 call List.mem_cons_self).elim

end Methods

section Runs
variable {S : Service R}

/-- In a run, a call has read a memory after some answers. -/
def ReadIn (labels : List (Label S)) (start : Config S) (i : Nat) (past : List (Event R)) (mem : R.Mem) : Prop :=
  ∃ before later c task, labels = before ++ .resume i :: later ∧ run before start = some c ∧
    c.pool[i]? = some task ∧ task.past = past ∧ mem ∈ readings c.mem task.rest

variable {labels : List (Label S)} {past : List (Event R)}

/-- The memories that a call reads in one step. -/
def readBy (i : Nat) (c : Config S) : Label S → List (List (Event R) × R.Mem)
  | .resume j =>
    if j = i then ((c.pool[i]?).map fun task => (readings c.mem task.rest).map fun mem => (task.past, mem)).getD []
    else []
  | _ => []

/-- The memories that a call reads from a state on. -/
def moments (i : Nat) : List (Label S) → Config S → List (List (Event R) × R.Mem)
  | [], _ => []
  | label :: later, c => readBy i c label ++ ((next c label).map (moments i later)).getD []

theorem readIn_mem {start : Config S} {i : Nat} {mem : R.Mem} (read : ReadIn labels start i past mem) :
    (past, mem) ∈ moments i labels start := by
  obtain ⟨before, later, c, task, rfl, reached, found, rfl, member⟩ := read
  induction before generalizing start with
  | nil =>
    cases reached
    refine List.mem_append_left _ ?_
    simp only [readBy, if_true, found, Option.map_some, Option.getD_some]
    exact List.mem_map_of_mem member
  | cons label before ih =>
    obtain ⟨middle, stepped, ran⟩ := Option.bind_eq_some_iff.mp reached
    refine List.mem_append_right _ ?_
    rw [stepped]
    exact ih ran

variable {start : Config S} {K : Setting R} {post : Nat → R.Call → List (Event R) → Except R.Err R.Val → Prop}

/-- Every call of a state goes on by what it reads in the run. -/
structure OnTheWay (labels : List (Label S)) (start : Config S) (K : Setting R)
    (post : Nat → R.Call → List (Event R) → Except R.Err R.Val → Prop) (c : Config S) : Prop where
  mem : K.inv c.mem
  tasks : ∀ i task, c.pool[i]? = some task →
    Decides K (ReadIn labels start i) (post i task.call) task.past task.rest

theorem OnTheWay.set {c : Config S} (way : OnTheWay labels start K post c) {j : Nat} {moved : Task R}
    (mine : Decides K (ReadIn labels start j) (post j moved.call) moved.past moved.rest) :
    ∀ i task, (c.pool.set j moved)[i]? = some task →
      Decides K (ReadIn labels start i) (post i task.call) task.past task.rest := by
  intro i task found
  rw [List.getElem?_set] at found
  split at found
  next same =>
    split at found
    next =>
      cases found
      exact same ▸ mine
    next => cases found
  next => exact way.tasks i task found

variable (bodies : ∀ i call, S.isPublic call = true ∨ K.starts call →
    Decides K (ReadIn labels start i) (post i call) [] (S.body call))
include bodies

theorem onTheWay_new {pool : List (Task R)} (calls : List R.Call)
    (started : ∀ call ∈ calls, S.isPublic call = true ∨ K.starts call) (old : ∀ i task, pool[i]? = some task →
      Decides K (ReadIn labels start i) (post i task.call) task.past task.rest) :
    ∀ i task, (pool ++ calls.map (newTask S))[i]? = some task →
      Decides K (ReadIn labels start i) (post i task.call) task.past task.rest := by
  intro i task found
  rw [List.getElem?_append] at found
  split at found
  next => exact old i task found
  next =>
    obtain ⟨call, member, rfl⟩ := List.mem_map.mp (List.mem_of_getElem? found)
    exact bodies i call (started call member)

variable (environment : ∀ world mem change, K.inv mem → K.inv (S.environment (world, mem) change).2)
  (answers : ∀ world op choice after result, S.respond world op choice = some (after, result) → K.answers op result)
include environment answers

theorem OnTheWay.step {before later : List (Label S)} {label : Label S} {c after : Config S}
    (whole : labels = before ++ label :: later) (reached : run before start = some c)
    (way : OnTheWay labels start K post c) (stepped : next c label = some after) :
    OnTheWay labels start K post after := by
  cases label with
  | call call =>
    obtain ⟨isPublic, rfl⟩ := next_call stepped
    refine ⟨way.mem, onTheWay_new bodies [call] ?_ way.tasks⟩
    exact fun other member => Or.inl (List.mem_singleton.mp member ▸ isPublic)
  | resume j =>
    obtain ⟨task, found, rfl⟩ := next_resume stepped
    have reads : ∀ seen ∈ readings c.mem task.rest, K.inv seen → ReadIn labels start j task.past seen :=
      fun seen member _ => ⟨before, later, c, task, whole, reached, found, rfl, member⟩
    obtain ⟨kept, started, goesOn⟩ := decides_settle way.mem reads (way.tasks j task found)
    exact ⟨kept, onTheWay_new bodies _ (fun call member => Or.inr (started call member)) (way.set goesOn)⟩
  | reply j choice =>
    obtain ⟨task, op, rest, world, result, found, waits, responds, rfl⟩ := next_reply stepped
    have decides := way.tasks j task found
    rw [waits] at decides
    exact ⟨way.mem, way.set (decides result (answers _ _ _ _ _ responds))⟩
  | fork j =>
    obtain ⟨task, calls, rest, children, found, waits, rfl⟩ := next_fork stepped
    have decides := way.tasks j task found
    have started : ∀ call ∈ calls, K.starts call := by
      rw [waits] at decides
      exact decides.1
    exact ⟨way.mem, onTheWay_new bodies _ (fun call member => Or.inr (started call member)) (way.set decides)⟩
  | join j =>
    obtain ⟨task, calls, rest, results, found, waits, rfl⟩ := next_join stepped
    have decides := way.tasks j task found
    rw [waits] at decides
    exact ⟨way.mem, way.set (decides.2 results)⟩
  | env change =>
    cases stepped
    exact ⟨environment _ _ change way.mem, way.tasks⟩

theorem onTheWay_run (initially : OnTheWay labels start K post start) :
    ∀ (before later : List (Label S)) (c : Config S), labels = before ++ later → run before start = some c →
      OnTheWay labels start K post c := by
  intro before
  induction before using List.reverseRecOn with
  | nil =>
    intro later c _ ran
    cases ran
    exact initially
  | append_singleton before label ih =>
    intro later after isWhole ran
    rw [run_append] at ran
    obtain ⟨c, reached, last⟩ := Option.bind_eq_some_iff.mp ran
    obtain ⟨final, stepped, stopped⟩ := Option.bind_eq_some_iff.mp last
    cases stopped
    have whole : labels = before ++ label :: later := by rw [isWhole, List.append_assoc, List.singleton_append]
    exact (ih (label :: later) c whole reached).step bodies environment answers whole reached stepped

omit bodies in
/-- In every run, a call ends as its method does on what the call has read in the run. -/
theorem decides_in_run {world : S.World} {mem : R.Mem} {after : Config S} {i : Nat} {task : Task R}
    {result : Except R.Err R.Val} (bodies : ∀ i call, S.isPublic call = true ∨ K.starts call →
      Decides K (ReadIn labels (Config.initial S world mem) i) (post i call) [] (S.body call))
    (holds : K.inv mem) (ran : run labels (Config.initial S world mem) = some after)
    (found : after.pool[i]? = some task) (ended : task.result = some result) : post i task.call task.past result := by
  have initially : OnTheWay labels (Config.initial S world mem) K post (Config.initial S world mem) :=
    ⟨holds, fun _ _ found => by cases found⟩
  have decides := (onTheWay_run bodies environment answers initially labels [] after (List.append_nil labels).symm
    ran).tasks i task found
  unfold Task.result at ended
  split at ended
  next final done =>
    cases ended
    rw [done] at decides
    exact decides
  next => cases ended

end Runs

/-- What a call of a run has seen. -/
def Seen {S : Service R} (inv : R.Mem → Prop) (good : R.Call → Reading R) (labels : List (Label S)) (start : Config S)
    (i : Nat) (call : R.Call) : Prop :=
  ∃ past mem, ReadIn labels start i past mem ∧ inv mem ∧ good call past mem

/-- In every run, a call that has returned a value has read a good memory. -/
theorem seen_in_run {S : Service R} {inv : R.Mem → Prop} {good : R.Call → Reading R} {labels : List (Label S)}
    (bodies : ∀ call, S.isPublic call = true → ∀ seen : Prop,
      Sees inv (fun past mem => good call past mem → seen) [] (S.body call) fun _ _ => seen)
    (environment : ∀ world mem change, inv mem → inv (S.environment (world, mem) change).2)
    {world : S.World} {mem : R.Mem} (holds : inv mem) {after : Config S}
    (ran : run labels (Config.initial S world mem) = some after) {i : Nat} {task : Task R}
    (found : after.pool[i]? = some task) {value : R.Val} (ended : task.result = some (.ok value)) :
    Seen inv good labels (Config.initial S world mem) i task.call := by
  have decides : ∀ i call, S.isPublic call = true ∨ (quiet inv : Setting R).starts call →
      Decides (quiet inv) (ReadIn labels (Config.initial S world mem) i)
        (fun _ result => ∀ value, result = .ok value → Seen inv good labels (Config.initial S world mem) i call) []
        (S.body call) := by
    rintro i call (isPublic | started)
    · refine decides_weaken (fun past mem holds read isGood => ?_) (fun _ _ => id) (bodies call isPublic _)
      exact ⟨past, mem, read, holds, isGood⟩
    · exact started.elim
  exact decides_in_run environment (fun _ _ _ _ _ _ => trivial) decides holds ran found ended value rfl

end AlianStructure.Library.MemoryReadings
