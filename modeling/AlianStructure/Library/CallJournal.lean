import Mathlib.Data.List.Basic
import AlianStructure.Library.CallProtocol

/-!
# Journals: what a call may do, given what it has had answered

A protocol whose phases are the calls with all their answers. `Rules` say which
operations a call may await after its answers, which answers the world can give, and what
a call has been answered when it returns a value; a failure is always accepted. `Yields`
checks a method against the rules, keeping only what grows: the answers so far stay
answered. The history of a run is its trace with the calls named, and an invariant of the
world and the history holds of every run when the environment and every permitted answer
preserve it.
-/
namespace AlianStructure.Library.CallJournal
open AsyncMethod Interleaving CallProtocol

structure Rules (R : Runtime) where
  /-- The operations a call may await, given its answers. -/
  permits : R.Call → List (Event R) → R.Op → Prop
  /-- The answers the world can give. -/
  possible : (op : R.Op) → Except R.Err (R.Reply op) → Prop
  /-- The values a call may return, given its answers. -/
  vouches : R.Call → List (Event R) → R.Val → Prop

structure Journal (R : Runtime) where
  call : R.Call
  past : List (Event R)

variable {R : Runtime} {α β : Type}

abbrev Rules.protocol (rules : Rules R) : Protocol R where
  Phase := Journal R
  start call := ⟨call, []⟩
  starts _ _ := False
  allows journal op := rules.permits journal.call journal.past op
  possible := rules.possible
  advance journal op result := ⟨journal.call, journal.past ++ [⟨op, result⟩]⟩
  returns journal result := ∀ value, result = .ok value →
    rules.vouches journal.call journal.past value

/-- Where a method stands: its answers have only grown, and a value is good for them. -/
def Reached (call : R.Call) (past : List (Event R)) (good : List (Event R) → α → Prop)
    (journal : Journal R) (result : Except R.Err α) : Prop :=
  journal.call = call ∧ past ⊆ journal.past ∧ ∀ value, result = .ok value → good journal.past value

/-- From its answers so far, a method of a call keeps to the rules, and a value it ends
with is good for the answers it has then. -/
def Yields (rules : Rules R) (call : R.Call) (past : List (Event R)) (program : Async R α)
    (good : List (Event R) → α → Prop) : Prop :=
  Follows rules.protocol ⟨call, past⟩ program (Reached call past good)

section Methods
variable {rules : Rules R} {call : R.Call} {past : List (Event R)}
  {good : List (Event R) → α → Prop}

theorem yields_mono {program : Async R α} {weaker : List (Event R) → α → Prop}
    (implies : ∀ past' value, past ⊆ past' → good past' value → weaker past' value)
    (yields : Yields rules call past program good) : Yields rules call past program weaker := by
  refine follows_mono rules.protocol ?_ yields
  rintro journal result ⟨same, grown, ends⟩
  exact ⟨same, grown, fun value returned => implies _ _ grown (ends value returned)⟩

theorem yields_pure {value : α} (ends : good past value) : Yields rules call past (pure value) good := by
  refine ⟨rfl, List.Subset.refl _, fun other same => ?_⟩
  cases same
  exact ends

theorem yields_throw {failure : R.Err} : Yields rules call past (throw failure) good :=
  ⟨rfl, List.Subset.refl _, fun _ impossible => by cases impossible⟩

theorem yields_bind {program : Async R β} {next : β → Async R α}
    {middle : List (Event R) → β → Prop} (first : Yields rules call past program middle)
    (rest : ∀ past' value, past ⊆ past' → middle past' value → Yields rules call past' (next value) good) :
    Yields rules call past (program >>= next) good := by
  unfold Yields
  rw [follows_bind]
  refine follows_mono rules.protocol ?_ first
  rintro ⟨other, past'⟩ result ⟨same, grown, ends⟩
  cases same
  cases result with
  | error failure => exact ⟨rfl, grown, fun _ impossible => by cases impossible⟩
  | ok value =>
    refine follows_mono rules.protocol ?_ (rest past' value grown (ends value rfl))
    rintro journal result ⟨same, more, ends⟩
    exact ⟨same, List.Subset.trans grown more, ends⟩

theorem yields_tryCatch {program : Async R α} {handler : R.Err → Async R α}
    (body : Yields rules call past program good)
    (caught : ∀ past' failure, past ⊆ past' → Yields rules call past' (handler failure) good) :
    Yields rules call past (tryCatch program handler) good := by
  unfold Yields
  rw [follows_tryCatch]
  refine follows_mono rules.protocol ?_ body
  rintro ⟨other, past'⟩ result ⟨same, grown, ends⟩
  cases same
  cases result with
  | ok value => exact ⟨rfl, grown, ends⟩
  | error failure =>
    refine follows_mono rules.protocol ?_ (caught past' failure grown)
    rintro journal result ⟨same, more, ends⟩
    exact ⟨same, List.Subset.trans grown more, ends⟩

theorem yields_outcome {program : Async R α} (body : Yields rules call past program good) :
    Yields rules call past program.outcome fun past' result => ∀ value, result = .ok value → good past' value := by
  unfold Yields
  rw [follows_outcome]
  refine follows_mono rules.protocol ?_ body
  rintro journal result ⟨same, grown, ends⟩
  refine ⟨same, grown, fun outcome returned => ?_⟩
  cases returned
  exact ends

theorem yields_perform {op : R.Op} {good : List (Event R) → R.Reply op → Prop}
    (permitted : rules.permits call past op)
    (answered : ∀ reply, rules.possible op (.ok reply) → good (past ++ [⟨op, .ok reply⟩]) reply) :
    Yields rules call past (Async.perform op) good := by
  refine ⟨permitted, fun result possible => ⟨rfl, List.subset_append_left _ _, ?_⟩⟩
  rintro value rfl
  exact answered value possible

theorem yields_memory {good : List (Event R) → R.Mem → Prop} (ends : ∀ mem, good past mem) :
    Yields rules call past Async.memory good :=
  fun mem => ⟨rfl, List.Subset.refl _, fun _ returned => by cases returned; exact ends mem⟩

/-- A method that ends well for a call follows the protocol. -/
theorem keeps_of_yields {call : R.Call} {program : Async R R.Val}
    (yields : Yields rules call [] program (rules.vouches call)) : Keeps rules.protocol ⟨call, []⟩ program := by
  refine follows_mono rules.protocol ?_ yields
  rintro ⟨other, past⟩ result ⟨same, _, ends⟩
  cases same
  exact ends

end Methods

section Runs
variable {rules : Rules R} {S : Service R}

theorem rules_conform
    (body : ∀ call, S.isPublic call = true → Yields rules call [] (S.body call) (rules.vouches call))
    (possible : ∀ world op choice world' result,
      S.respond world op choice = some (world', result) → rules.possible op result) : Conforms rules.protocol S where
  body call startable := by
    rcases startable with isPublic | ⟨_, never⟩
    · exact keeps_of_yields (body call isPublic)
    · exact never.elim
  possible := possible

/-- An answer in the history of a run: which call it went to. -/
structure Record (R : Runtime) where
  index : Nat
  call : R.Call
  event : Event R

/-- The trace with the calls named. -/
def named (calls : List R.Call) (trace : List (Nat × Event R)) : List (Record R) :=
  trace.filterMap fun entry => calls[entry.1]?.map fun call => ⟨entry.1, call, entry.2⟩

/-- The history of a state. -/
def history (c : Config S) : List (Record R) := named (c.pool.map (·.call)) c.trace

/-- A journal grows by what is answered. -/
theorem journal_grows (call : R.Call) : ∀ (events past : List (Event R)),
    events.foldl (fun (journal : Journal R) event =>
      (⟨journal.call, journal.past ++ [⟨event.op, event.result⟩]⟩ : Journal R)) ⟨call, past⟩ =
      ⟨call, past ++ events⟩
  | [], past => by simp
  | event :: events, past => by
    rw [List.foldl_cons]
    exact (journal_grows call events (past ++ [event])).trans (by simp)

theorem phaseOf_journal (task : Task R) : phaseOf rules.protocol task = (⟨task.call, task.past⟩ : Journal R) :=
  (journal_grows task.call task.past []).trans (by simp)

variable {trace : List (Nat × Event R)}

theorem mem_named {calls : List R.Call} {record : Record R} : record ∈ named calls trace ↔
      (record.index, record.event) ∈ trace ∧ calls[record.index]? = some record.call := by
  unfold named
  rw [List.mem_filterMap]
  constructor
  · rintro ⟨entry, member, same⟩
    obtain ⟨call, found, rfl⟩ := Option.map_eq_some_iff.mp same
    exact ⟨member, found⟩
  · rintro ⟨member, found⟩
    exact ⟨_, member, by simp [found]⟩

theorem named_append {calls : List R.Call} {i : Nat} {call : R.Call} {event : Event R}
    (found : calls[i]? = some call) :
    named calls (trace ++ [(i, event)]) = named calls trace ++ [⟨i, call, event⟩] := by
  simp [named, List.filterMap_append, found]

/-- New calls leave the history as it is. -/
theorem named_calls {calls new : List R.Call} (inside : ∀ entry ∈ trace, entry.1 < calls.length) :
    named (calls ++ new) trace = named calls trace := by
  refine List.filterMap_congr fun entry member => ?_
  rw [List.getElem?_append_left (inside entry member)]

/-- What all runs keep: the answers of the calls are in the trace, and an invariant of the
world and the history. -/
structure Recorded (invariant : S.World → List (Record R) → Prop)
    (v : View rules.protocol S) : Prop where
  inside : ∀ entry ∈ v.trace, entry.1 < v.phases.length
  past {i : Nat} {journal : Journal R} : v.phases[i]? = some journal →
    ∀ event ∈ journal.past, (i, event) ∈ v.trace
  holds : invariant v.world (named (v.phases.map Journal.call) v.trace)

/-- What an answer does to an invariant of the world and the history. -/
def Preserves (rules : Rules R) (S : Service R) (invariant : S.World → List (Record R) → Prop) :
    Prop :=
  ∀ world records index call past op choice world' result, invariant world records →
    (∀ event ∈ past, ⟨index, call, event⟩ ∈ records) → rules.permits call past op →
    S.respond world op choice = some (world', result) →
    invariant world' (records ++ [⟨index, call, ⟨op, result⟩⟩])

/-- A condition on the answers that calls get. -/
abbrev Answers (R : Runtime) := R.Call → (op : R.Op) → Except R.Err (R.Reply op) → Prop

/-- The condition on the steps of a run. -/
def OnCalls (meets : Answers R) (c : Config S) : Label S → Prop
  | .reply i choice => ∀ task ∈ c.pool[i]?, ∀ event ∈ answered c i choice,
    meets task.call event.op event.result
  | _ => True

instance OnCalls.decidable {meets : Answers R} [∀ call op result, Decidable (meets call op result)]
    (c : Config S) : ∀ label, Decidable (OnCalls meets c label)
  | .reply i choice => inferInstanceAs (Decidable (∀ task ∈ c.pool[i]?,
      ∀ event ∈ answered c i choice, meets task.call event.op event.result))
  | .call _ | .resume _ | .fork _ | .join _ | .env _ => isTrue trivial

variable {label : Label S}

theorem onCalls_any {c : Config S} : OnCalls (fun _ _ _ => True) c label := by
  cases label <;> simp [OnCalls]

/-- The condition as the protocol sees it. -/
def seen (rules : Rules R) (S : Service R) (meets : Answers R) : AnswerCondition rules.protocol S :=
  fun v i op result => ∀ journal ∈ v.phases[i]?, meets (Journal.call journal) op result

variable {meets : Answers R}

theorem OnCalls.seen {c : Config S} (met : OnCalls meets c label) :
    OnAnswers rules.protocol (seen rules S meets) c label := by
  cases label with
  | reply i choice =>
    intro event gives journal found
    obtain ⟨task, here, rfl⟩ : ∃ task, c.pool[i]? = some task ∧
        phaseOf rules.protocol task = journal := by
      simpa [view, phases] using found
    rw [phaseOf_journal]
    exact met task here event gives
  | _ => trivial

/-- What an answer that meets the condition does to an invariant. -/
def PreservesWhen (rules : Rules R) (S : Service R) (meets : Answers R)
    (invariant : S.World → List (Record R) → Prop) : Prop :=
  ∀ world records index call past op choice world' result, invariant world records →
    (∀ event ∈ past, ⟨index, call, event⟩ ∈ records) → rules.permits call past op →
    meets call op result → S.respond world op choice = some (world', result) →
    invariant world' (records ++ [⟨index, call, ⟨op, result⟩⟩])

theorem Recorded.moves {invariant : S.World → List (Record R) → Prop}
    (environment : ∀ world mem change records, invariant world records →
      invariant (S.environment (world, mem) change).1 records)
    (answers : PreservesWhen rules S meets invariant) {v v' : View rules.protocol S}
    (recorded : Recorded invariant v) (moved : Moves rules.protocol (seen rules S meets) v v') :
    Recorded invariant v' := by
  cases moved with
  | calls new started =>
    have inside : ∀ entry ∈ v.trace, entry.1 < (v.phases.map Journal.call).length := by
      simpa using recorded.inside
    refine ⟨fun entry member => ?_, fun found => ?_, ?_⟩
    · have := recorded.inside entry member
      rw [List.length_append]
      omega
    · rcases getElem?_append_cases found with old | started
      · exact recorded.past old
      · obtain ⟨call, _, rfl⟩ := List.mem_map.mp started
        intro event none
        cases none
    · rw [List.map_append, named_calls inside]
      exact recorded.holds
  | env mem change => exact ⟨recorded.inside, recorded.past, environment _ mem change _ recorded.holds⟩
  | reply i journal op choice world result found allowed responds condition =>
    obtain ⟨call, past⟩ := journal
    have asked : (v.phases.map Journal.call)[i]? = some call := by
      rw [List.getElem?_map, found]
      rfl
    have calls : (v.phases.set i ⟨call, past ++ [⟨op, result⟩]⟩).map Journal.call =
        v.phases.map Journal.call := by
      obtain ⟨inside, same⟩ := List.getElem?_eq_some_iff.mp asked
      rw [List.map_set]
      exact (congrArg _ same.symm).trans (List.set_getElem_self inside)
    refine ⟨fun entry member => ?_, fun {j journal} now event member => ?_, ?_⟩
    · rw [List.length_set]
      rcases List.mem_append.mp member with old | new
      · exact recorded.inside entry old
      · obtain rfl := List.mem_singleton.mp new
        exact (List.getElem?_eq_some_iff.mp found).1
    · rcases getElem?_set_cases now with ⟨rfl, rfl⟩ | ⟨_, old⟩
      · rcases List.mem_append.mp member with before | new
        · exact List.mem_append_left _ (recorded.past found event before)
        · obtain rfl := List.mem_singleton.mp new
          exact List.mem_append_right _ (List.mem_singleton_self _)
      · exact List.mem_append_left _ (recorded.past old event member)
    · have kept : invariant world (named (v.phases.map Journal.call) v.trace ++
          [⟨i, call, ⟨op, result⟩⟩]) :=
        answers _ _ i call past op choice world result recorded.holds
          (fun event member => mem_named.mpr ⟨recorded.past found event member, asked⟩)
          allowed (condition _ found) responds
      rw [← named_append asked, ← calls] at kept
      exact kept

/-- The history of a state, seen through the protocol. -/
theorem history_eq (rules : Rules R) (c : Config S) :
    history c = named ((view rules.protocol c).phases.map Journal.call) (view rules.protocol c).trace := by
  have calls : c.pool.map (·.call) = (view rules.protocol c).phases.map Journal.call := by
    simp [view, phases, phaseOf_journal, Function.comp_def]
  rw [← calls]
  rfl

section Reached
variable (conforms : Conforms rules.protocol S) {world : S.World} {mem : R.Mem}
  {labels : List (Label S)} {after : Config S}
include conforms

theorem recorded_when (invariant : S.World → List (Record R) → Prop)
    (environment : ∀ world mem change records, invariant world records →
      invariant (S.environment (world, mem) change).1 records)
    (answers : PreservesWhen rules S meets invariant) (start : invariant world [])
    (admissible : Admissible (OnCalls meets) labels (Config.initial S world mem))
    (ran : run labels (Config.initial S world mem) = some after) :
    Recorded invariant (view rules.protocol after) ∧ AllKeep rules.protocol after := by
  have initially : Recorded invariant (view rules.protocol (Config.initial S world mem)) := {
    inside := fun _ member => by cases member
    past := fun found => by cases found
    holds := start }
  exact invariant_of_moves conforms
    (fun _ _ recorded moved => Recorded.moves environment answers recorded moved)
    (allKeep_initial world mem) initially (admissible_mono (fun _ _ => OnCalls.seen) admissible) ran

/-- An invariant of the world and the history holds after every run whose answers meet a
condition that it needs. -/
theorem history_invariant_when (invariant : S.World → List (Record R) → Prop)
    (environment : ∀ world mem change records, invariant world records →
      invariant (S.environment (world, mem) change).1 records)
    (answers : PreservesWhen rules S meets invariant) (start : invariant world [])
    (admissible : Admissible (OnCalls meets) labels (Config.initial S world mem))
    (ran : run labels (Config.initial S world mem) = some after) : invariant after.world (history after) := by
  rw [history_eq rules]
  exact (recorded_when conforms invariant environment answers start admissible ran).1.holds

theorem recorded_of_run (invariant : S.World → List (Record R) → Prop)
    (environment : ∀ world mem change records, invariant world records →
      invariant (S.environment (world, mem) change).1 records)
    (answers : Preserves rules S invariant) (start : invariant world [])
    (ran : run labels (Config.initial S world mem) = some after) :
    Recorded invariant (view rules.protocol after) ∧ AllKeep rules.protocol after :=
  recorded_when conforms invariant environment
    (fun world records index call past op choice world' result holds known permitted _ responds =>
      answers world records index call past op choice world' result holds known permitted responds)
    start (admissible_always (fun _ _ => onCalls_any) labels _) ran

/-- An invariant of the world and the history holds after every run. -/
theorem history_invariant (invariant : S.World → List (Record R) → Prop)
    (environment : ∀ world mem change records, invariant world records →
      invariant (S.environment (world, mem) change).1 records)
    (answers : Preserves rules S invariant) (start : invariant world [])
    (ran : run labels (Config.initial S world mem) = some after) : invariant after.world (history after) := by
  rw [history_eq rules]
  exact (recorded_of_run conforms invariant environment answers start ran).1.holds

/-- What the answers keep together with an invariant, holds from some state of a run on once it holds there. -/
theorem kept_since (invariant : S.World → List (Record R) → Prop) (kept : S.World → Prop)
    (environment : ∀ world mem change records, invariant world records →
      invariant (S.environment (world, mem) change).1 records)
    (unchanged : ∀ world mem change, kept world → kept (S.environment (world, mem) change).1)
    (answers : Preserves rules S invariant)
    (keeps : Preserves rules S fun world records => invariant world records ∧ kept world) (start : invariant world [])
    {middle : Config S} (ran : run labels (Config.initial S world mem) = some middle) (here : kept middle.world)
    {more : List (Label S)} (goesOn : run more middle = some after) : kept after.world := by
  obtain ⟨recorded, allKeep⟩ := recorded_of_run conforms invariant environment answers start ran
  have both : Recorded (fun world records => invariant world records ∧ kept world) (view rules.protocol middle) :=
    ⟨recorded.inside, recorded.past, recorded.holds, here⟩
  have moves : ∀ v v', Recorded (fun world records => invariant world records ∧ kept world) v →
      Moves rules.protocol (seen rules S fun _ _ _ => True) v v' →
      Recorded (fun world records => invariant world records ∧ kept world) v' := by
    intro v v' recorded moved
    refine recorded.moves (fun world mem change records holds => ?_) ?_ moved
    · exact ⟨environment world mem change records holds.1, unchanged world mem change holds.2⟩
    · intro world records index call past op choice world' result holds known permitted _ responds
      exact keeps world records index call past op choice world' result holds known permitted responds
  exact (invariant_of_moves conforms moves allKeep both
    (admissible_mono (fun _ _ => OnCalls.seen) (admissible_always (fun _ _ => onCalls_any) more _)) goesOn).1.holds.2

theorem recorded_always (ran : run labels (Config.initial S world mem) = some after) :
    Recorded (fun _ _ => True) (view rules.protocol after) ∧ AllKeep rules.protocol after :=
  recorded_of_run conforms _ (fun _ _ _ _ _ => trivial)
    (fun _ _ _ _ _ _ _ _ _ _ _ _ _ => trivial) trivial ran

variable {task : Task R}

/-- The answers of a call are in the history. -/
theorem past_in_history (ran : run labels (Config.initial S world mem) = some after) {i : Nat}
    (found : after.pool[i]? = some task) {event : Event R} (member : event ∈ task.past) :
    ⟨i, task.call, event⟩ ∈ history after := by
  have phase : (view rules.protocol after).phases[i]? = some ⟨task.call, task.past⟩ := by
    simp [view, phases, found, phaseOf_journal]
  have logged := (recorded_always conforms ran).1.past phase event member
  exact mem_named.mpr ⟨logged, by simp [found]⟩

/-- A value that a call has returned is one that the rules accept. -/
theorem vouched (ran : run labels (Config.initial S world mem) = some after) {i : Nat}
    (found : after.pool[i]? = some task) {value : R.Val} (returned : task.result = some (.ok value)) :
    rules.vouches task.call task.past value := by
  have returns := returns_of_result (recorded_always conforms ran).2 found returned
  rw [phaseOf_journal] at returns
  exact returns value rfl

end Reached

end Runs

section Moments
variable {S : Service R}

/-- In one step the trace grows by the answer given, if any. -/
theorem next_trace {c after : Config S} (stepped : next c label = some after) :
    after.trace = c.trace ∨ ∃ i choice event, label = .reply i choice ∧
      answered c i choice = some event ∧ after.trace = c.trace ++ [(i, event)] := by
  cases label with
  | call call =>
    obtain ⟨_, rfl⟩ := next_call stepped
    exact Or.inl rfl
  | resume i =>
    obtain ⟨_, _, rfl⟩ := next_resume stepped
    exact Or.inl rfl
  | reply i choice =>
    obtain ⟨task, op, rest, world, result, found, waits, responds, rfl⟩ := next_reply stepped
    exact Or.inr ⟨i, choice, ⟨op, result⟩, rfl, by simp [answered, found, waits, responds], rfl⟩
  | fork i =>
    obtain ⟨_, _, _, _, _, _, rfl⟩ := next_fork stepped
    exact Or.inl rfl
  | join i =>
    obtain ⟨_, _, _, _, _, _, rfl⟩ := next_join stepped
    exact Or.inl rfl
  | env change =>
    cases stepped
    exact Or.inl rfl

/-- A call stays where it is in the pool. -/
theorem pool_call {pool : List (Task R)} {i j : Nat} {old task : Task R}
    (here : pool[j]? = some old) (moved : Task R) (same : moved.call = old.call)
    (new : List (Task R)) (found : pool[i]? = some task) :
    ∃ task', (pool.set j moved ++ new)[i]? = some task' ∧ task'.call = task.call := by
  have inside : i < (pool.set j moved).length := by
    rw [List.length_set]
    exact (List.getElem?_eq_some_iff.mp found).1
  rw [List.getElem?_append_left inside, List.getElem?_set]
  split
  next equal =>
    subst equal
    rw [here] at found
    cases found
    rw [if_pos (List.getElem?_eq_some_iff.mp here).1]
    exact ⟨moved, rfl, same⟩
  next => exact ⟨task, found, rfl⟩

theorem next_pool {c after : Config S} (stepped : next c label = some after) {i : Nat}
    (found : c.pool[i]? = some task) : ∃ task', after.pool[i]? = some task' ∧ task'.call = task.call := by
  cases label with
  | call call =>
    obtain ⟨_, rfl⟩ := next_call stepped
    refine ⟨task, ?_, rfl⟩
    rw [List.getElem?_append_left (List.getElem?_eq_some_iff.mp found).1]
    exact found
  | resume j =>
    obtain ⟨old, here, rfl⟩ := next_resume stepped
    exact pool_call here { old with rest := (old.rest.settle c.mem).2.2 } rfl _ found
  | reply j choice =>
    obtain ⟨old, op, rest, world, result, here, _, _, rfl⟩ := next_reply stepped
    have kept := pool_call here
      { old with past := old.past ++ [⟨op, result⟩], rest := rest result } rfl [] found
    rwa [List.append_nil] at kept
  | fork j =>
    obtain ⟨old, calls, rest, children, here, _, rfl⟩ := next_fork stepped
    exact pool_call here { old with children := children } rfl _ found
  | join j =>
    obtain ⟨old, calls, rest, results, here, _, rfl⟩ := next_join stepped
    have kept := pool_call here { old with rest := rest results, children := none } rfl [] found
    rwa [List.append_nil] at kept
  | env change =>
    cases stepped
    exact ⟨task, found, rfl⟩

theorem run_pool : ∀ {labels : List (Label S)} {c after : Config S}, run labels c = some after →
    ∀ {i : Nat} {task : Task R}, c.pool[i]? = some task →
      ∃ task', after.pool[i]? = some task' ∧ task'.call = task.call
  | [], c, after, ran, i, task, found => by
    cases ran
    exact ⟨task, found, rfl⟩
  | label :: labels, c, after, ran, i, task, found => by
    simp only [run] at ran
    cases stepped : next c label with
    | none =>
      rw [stepped] at ran
      cases ran
    | some first =>
      rw [stepped] at ran
      obtain ⟨middle, here, same⟩ := next_pool stepped found
      obtain ⟨task', there, kept⟩ := run_pool ran here
      exact ⟨task', there, kept.trans same⟩

/-- A call that begins is the next in the pool for the rest of the run. -/
theorem called_pool {labels : List (Label S)} {c after : Config S} {call : R.Call}
    (ran : run (.call call :: labels) c = some after) (found : after.pool[c.pool.length]? = some task) :
    task.call = call := by
  simp only [run] at ran
  cases stepped : next c (.call call) with
  | none =>
    rw [stepped] at ran
    cases ran
  | some first =>
    rw [stepped] at ran
    obtain ⟨_, rfl⟩ := next_call stepped
    have here : (c.pool ++ [newTask S call])[c.pool.length]? = some (newTask S call) := by simp
    obtain ⟨task', there, same⟩ := run_pool ran here
    rw [found] at there
    cases there
    exact same

/-- The history of a run only grows. -/
theorem history_grows : ∀ {labels : List (Label S)} {c after : Config S},
    run labels c = some after → history c ⊆ history after
  | [], c, after, ran => by
    cases ran
    exact List.Subset.refl _
  | label :: labels, c, after, ran => by
    simp only [run] at ran
    cases stepped : next c label with
    | none =>
      rw [stepped] at ran
      cases ran
    | some first =>
      rw [stepped] at ran
      refine List.Subset.trans (fun record member => ?_) (history_grows ran)
      obtain ⟨logged, asked⟩ := mem_named.mp member
      rw [List.getElem?_map] at asked
      obtain ⟨task, found, same⟩ := Option.map_eq_some_iff.mp asked
      obtain ⟨task', found', kept⟩ := next_pool stepped found
      refine mem_named.mpr ⟨?_, ?_⟩
      · rcases next_trace stepped with unchanged | ⟨_, _, _, _, _, grown⟩
        · rw [unchanged]
          exact logged
        · rw [grown]
          exact List.mem_append_left _ logged
      · rw [List.getElem?_map, found', ← same, ← kept]
        rfl

/-- In a run, a call was given an answer in a certain state. -/
def AnsweredAt (labels : List (Label S)) (start : Config S) (i : Nat) (event : Event R)
    (c : Config S) : Prop :=
  ∃ before choice later, labels = before ++ .reply i choice :: later ∧
    run before start = some c ∧ answered c i choice = some event

/-- Every answer of a run was given in one of its states. -/
theorem answered_in_run : ∀ (labels : List (Label S)) (c after : Config S),
    run labels c = some after → ∀ i event, (i, event) ∈ after.trace →
      (i, event) ∈ c.trace ∨ ∃ middle, AnsweredAt labels c i event middle
  | [], c, after, ran, i, event, member => by
    cases ran
    exact Or.inl member
  | label :: labels, c, after, ran, i, event, member => by
    simp only [run] at ran
    cases stepped : next c label with
    | none =>
      rw [stepped] at ran
      cases ran
    | some first =>
      rw [stepped] at ran
      rcases answered_in_run labels first after ran i event member with old | new
      · rcases next_trace stepped with same | ⟨j, choice, answer, rfl, gives, grown⟩
        · exact Or.inl (same ▸ old)
        · rw [grown] at old
          rcases List.mem_append.mp old with before | now
          · exact Or.inl before
          · obtain ⟨rfl, rfl⟩ := Prod.mk.inj (List.mem_singleton.mp now)
            exact Or.inr ⟨c, [], choice, labels, rfl, rfl, gives⟩
      · obtain ⟨middle, before, choice, later, rfl, reached, gives⟩ := new
        refine Or.inr ⟨middle, label :: before, choice, later, rfl, ?_, gives⟩
        simp only [run, stepped]
        exact reached

/-- An answer of a call was given in some state. -/
theorem answered_of_past {rules : Rules R} (conforms : Conforms rules.protocol S) {world : S.World}
    {mem : R.Mem} {labels : List (Label S)} {after : Config S}
    (ran : run labels (Config.initial S world mem) = some after) {i : Nat}
    (found : after.pool[i]? = some task) {event : Event R} (member : event ∈ task.past) :
    ∃ c, AnsweredAt labels (Config.initial S world mem) i event c := by
  have logged := (mem_named.mp (past_in_history conforms ran found member)).1
  rcases answered_in_run labels _ after ran i event logged with before | during
  · cases before
  · exact during

/-- The answer that a call was given is the world's. -/
theorem responds_of_answered {c : Config S} {i : Nat} {choice : S.Choice} {op : R.Op}
    {result : Except R.Err (R.Reply op)} (gives : answered c i choice = some ⟨op, result⟩) :
    ∃ world, S.respond c.world op choice = some (world, result) := by
  unfold answered at gives
  split at gives
  next =>
    split at gives
    next other rest _ =>
      obtain ⟨⟨world, answer⟩, responds, same⟩ := Option.map_eq_some_iff.mp gives
      cases same
      exact ⟨world, responds⟩
    next => cases gives
  next => cases gives

end Moments

end AlianStructure.Library.CallJournal
