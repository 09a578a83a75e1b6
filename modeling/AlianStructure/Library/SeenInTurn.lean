import AlianStructure.Library.CallsInTurn

/-!
# What a call does to a part of the state

When the environment leaves a part of the state alone, a call that has the world to itself
starts from a value of that part and ends with another. `EndsFrom` says what holds at the
end; the rules take it through a method, and a run of one call alone ends as it says.
-/
namespace AlianStructure.Library.SeenInTurn
open AsyncMethod Interleaving CallsInTurn

variable {R : Runtime} {S : Service R} {View α β : Type}

/-- A part of the state that the environment leaves alone. -/
structure Part (S : Service R) (View : Type) where
  seen : State S → View
  environment : ∀ state change, seen (S.environment state change) = seen state

/-- From a value of the part, however the program runs to its end without other calls, it
ends with a value of the part and a result that `post` accepts. -/
def EndsFrom (part : Part S View) (fair : Fairness S) (view : View) (program : Async R α)
    (post : View → Except R.Err α → Prop) : Prop :=
  ∀ state, part.seen state = view →
    Ends S fair state program fun after result => post (part.seen after) result

section Rules
variable {part : Part S View} {fair : Fairness S} {view : View}
  {post : View → Except R.Err α → Prop}

theorem Part.stable (part : Part S View) (holds : View → Prop) : Stable S fun state => holds (part.seen state) := by
  intro state change here
  rw [part.environment]
  exact here

theorem Part.waits (part : Part S View) {state later : State S} (waits : Waits S state later) :
    part.seen later = part.seen state :=
  (part.stable (· = part.seen state)).waits rfl waits

theorem endsFrom_mono {program : Async R α} {weaker : View → Except R.Err α → Prop}
    (ends : EndsFrom part fair view program post) (implies : ∀ view result, post view result → weaker view result) :
    EndsFrom part fair view program weaker :=
  fun state here => ends_mono (fun _ _ => implies _ _) (ends state here)

theorem endsFrom_pure {value : α} (here : post view (.ok value)) : EndsFrom part fair view (pure value) post := by
  rintro state rfl
  exact ends_pure here

theorem endsFrom_throw {failure : R.Err} (here : post view (.error failure)) :
    EndsFrom part fair view (throw failure) post := by
  rintro state rfl
  exact ends_throw here

theorem endsFrom_bind {program : Async R β} {next : β → Async R α}
    {middle : View → Except R.Err β → Prop} (first : EndsFrom part fair view program middle)
    (rest : ∀ view value, middle view (.ok value) → EndsFrom part fair view (next value) post)
    (fails : ∀ view failure, middle view (.error failure) → post view (.error failure)) :
    EndsFrom part fair view (program >>= next) post :=
  fun state here => ends_bind (first state here)
    (fun after value ended => rest _ value ended after rfl) fun _ _ => fails _ _

theorem endsFrom_tryCatch {program : Async R α} {handler : R.Err → Async R α}
    {middle : View → Except R.Err α → Prop} (first : EndsFrom part fair view program middle)
    (caught : ∀ view failure, middle view (.error failure) → EndsFrom part fair view (handler failure) post)
    (kept : ∀ view value, middle view (.ok value) → post view (.ok value)) :
    EndsFrom part fair view (tryCatch program handler) post :=
  fun state here => ends_tryCatch (first state here)
    (fun after failure ended => caught _ failure ended after rfl) fun _ _ => kept _ _

theorem endsFrom_perform {op : R.Op} {post : View → Except R.Err (R.Reply op) → Prop}
    (answers : ∀ state choice world result, part.seen state = view → fair op choice →
      S.respond state.1 op choice = some (world, result) → post (part.seen (world, state.2)) result) :
    EndsFrom part fair view (Async.perform op) post := by
  intro state here later waits choice world result isFair responds
  exact answers later choice world result ((part.waits waits).trans here) isFair responds

theorem endsFrom_memory {post : View → Except R.Err R.Mem → Prop}
    (reads : ∀ mem, post view (.ok mem)) : EndsFrom part fair view Async.memory post := by
  rintro state rfl later waits
  show post (part.seen later) (.ok later.2)
  rw [part.waits waits]
  exact reads later.2

/-- A change of the memory that the part does not see. -/
theorem endsFrom_update {change : R.Mem → R.Mem} {post : View → Except R.Err Unit → Prop}
    (unseen : ∀ state mem, part.seen (state.1, mem) = part.seen state) (here : post view (.ok ())) :
    EndsFrom part fair view (Async.update change) post := by
  rintro state rfl later waits final waits'
  show post (part.seen (final.1, change later.2)) (.ok ())
  rw [unseen, part.waits waits', part.waits waits]
  exact here

end Rules

/-- A program that keeps a property of the part. -/
def Preserves (part : Part S View) (fair : Fairness S) (holds : View → Prop) (program : Async R α) :
    Prop :=
  ∀ view, holds view → EndsFrom part fair view program fun after _ => holds after

section Preserving
variable {part : Part S View} {fair : Fairness S} {holds : View → Prop}

theorem preserves_pure {value : α} : Preserves part fair holds (pure value) :=
  fun _ here => endsFrom_pure here

theorem preserves_bind {program : Async R β} {next : β → Async R α} (first : Preserves part fair holds program)
    (rest : ∀ value, Preserves part fair holds (next value)) :
    Preserves part fair holds (program >>= next) := fun view here =>
  endsFrom_bind (first view here) (fun after value ended => rest value after ended)
    fun _ _ ended => ended

theorem preserves_memory : Preserves part fair holds Async.memory :=
  fun _ here => endsFrom_memory fun _ => here

end Preserving

section Runs
variable {part : Part S View} {fair : Fairness S}

/-- What every call keeps of the part holds whenever no call is under way, in every run of
calls in turn. -/
theorem seen_in_turn {meets : State S → R.Call → Prop} (holds : View → Prop)
    (calls : ∀ state call, S.isPublic call = true → holds (part.seen state) → meets state call →
      EndsFrom part fair (part.seen state) (S.body call) fun view _ => holds view)
    {world : S.World} {mem : R.Mem} (start : holds (part.seen (world, mem)))
    {labels : List (Label S)} {after : Config S}
    (inTurn : Admissible (InTurn fair meets) labels (Config.initial S world mem))
    (ran : run labels (Config.initial S world mem) = some after) (allEnded : AllEnded after) :
    holds (part.seen (after.world, after.mem)) :=
  holds_in_turn (part.stable holds)
    (fun state call isPublic here met => calls state call isPublic here met state rfl) start inTurn
    ran allEnded

/-- Only one call is under way: no other begins, and it gets fair answers. -/
def Alone (fair : Fairness S) (c : Config S) : Label S → Prop
  | .call _ => False
  | label => InTurn fair (fun _ _ => True) c label

instance Alone.decidable [∀ op choice, Decidable (fair op choice)] (c : Config S) :
    ∀ label, Decidable (Alone fair c label)
  | .call _ => isFalse id
  | .reply i choice =>
    inferInstanceAs (Decidable (InTurn fair (fun _ _ => True) c (.reply i choice)))
  | .resume _ | .fork _ | .join _ | .env _ => isTrue trivial

/-- A call that begins when every other has ended, and runs alone, ends as it says. -/
theorem ends_alone {c after : Config S} {call : R.Call} {labels : List (Label S)}
    {post : View → Except R.Err R.Val → Prop}
    (ends : EndsFrom part fair (part.seen (c.world, c.mem)) (S.body call) post) (idle : AllEnded c)
    (began : ∀ first ∈ next c (.call call), Admissible (Alone fair) labels first)
    (ran : run (.call call :: labels) c = some after) {task : Task R}
    {result : Except R.Err R.Val} (found : after.pool[c.pool.length]? = some task)
    (ended : task.result = some result) : post (part.seen (after.world, after.mem)) result := by
  simp only [run] at ran
  cases stepped : next c (.call call) with
  | none =>
    rw [stepped] at ran
    cases ran
  | some first =>
    rw [stepped] at ran
    obtain ⟨_, rfl⟩ := next_call stepped
    have start : Working fair (fun state result => post (part.seen state) result)
        { c with pool := c.pool ++ [newTask S call] } c.pool (newTask S call) :=
      ⟨rfl, idle, ends _ rfl⟩
    obtain ⟨last, working⟩ := run_preserves
      (fun c' => ∃ task, Working fair (fun state result => post (part.seen state) result) c' c.pool task)
      (fun c' label after' works alone next => by
        obtain ⟨task, working⟩ := works
        have inTurn : InTurn fair (fun _ _ => True) c' label := by
          cases label with
          | call call => exact alone.elim
          | _ => exact alone
        rcases working.step (fun result => part.stable fun view => post view result) inTurn next with
          ⟨call, rfl⟩ | ⟨task', _, working'⟩
        · exact alone.elim
        · exact ⟨task', working'⟩)
      labels _ after ⟨_, start⟩ (began _ stepped) ran
    have same : task = last := by
      rw [working.pool] at found
      simpa using found.symm
    subst same
    have done := working.ends
    unfold Task.result at ended
    split at ended
    next value finished =>
      cases ended
      rw [finished] at done
      exact done
    next => cases ended

end Runs

end AlianStructure.Library.SeenInTurn
