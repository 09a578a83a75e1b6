import Mathlib.Data.Int.Cast.Basic
import Mathlib.Data.List.Induction
import Mathlib.Data.List.Perm.Subperm
import AlianStructure.Source.Monitoring.AlertRulesService

/-!
# Which alerts fire

Source: src/monitoring/alert-rules.service.ts:129-251. A rule that is replaced keeps the streak and the alert of the
rule before it, and the gauge counts only the rules that have a reading. `standingOf` tells from the calls which rule
an id has and what was read for it since; `Kept` is what holds of the streaks and the alerts after any calls, and
`Kept.agrees_iff` says when an evaluation after them leaves what they ask for.
-/
namespace AlianStructure.Guarantees.AlertRules
open Library.InsertionOrder Source.Monitoring AlertRulesService

variable {Value : Type}

/-- A rule, and its readings since it was registered or replaced, newest first. -/
abbrev Standing (Value : Type) : Type := AlertRule Value × List Value

/-- What a call means for the rule with an id. -/
def observe (id : String) (standing : Option (Standing Value)) : AlertCall Value → Option (Standing Value)
  | .upsertRule rule => if rule.id = id then some (rule, []) else standing
  | .removeRule removed => if removed = id then none else standing
  | .evaluate _ readings =>
    standing.map fun (rule, seen) => (rule, (readMetric readings rule.metric).toList ++ seen)

/-- The rule with an id and its readings, as the calls tell them. -/
def standingOf [NatCast Value] (calls : List (AlertCall Value)) (id : String) : Option (Standing Value) :=
  calls.foldl (observe id) ((create.rules.get? id).map fun rule => (rule, []))

def Firing (service : AlertRulesService Value) (id : String) : Prop :=
  ∃ alert ∈ service.getActiveAlerts, alert.rule.id = id

/-! ## What is required, and what is logged -/

theorem required_pos (rule : AlertRule Value) : 1 ≤ required rule := Int.le_max_left _ _

variable {rule : AlertRule Value}

theorem stateOf_firing {streak : Nat} : stateOf streak rule = .firing ↔ required rule ≤ streak := by
  unfold stateOf
  split <;> simp_all

section Transition
variable (text : Value → String) (service : AlertRulesService Value) (rule : AlertRule Value) (value : Value)
  (newState : AlertState) (prev : Option (ActiveAlert Value))

@[simp] theorem transition_states : (transition text service rule value newState prev).states = service.states := by
  simp only [transition]
  split
  next => rfl
  next => split <;> rfl

@[simp] theorem transition_streaks :
    (transition text service rule value newState prev).breachStreak = service.breachStreak := by
  simp only [transition]
  split
  next => rfl
  next => split <;> rfl

@[simp] theorem transition_rules : (transition text service rule value newState prev).rules = service.rules := by
  simp only [transition]
  split
  next => rfl
  next => split <;> rfl

end Transition

theorem le_takeWhile_length {Element : Type} (holds : Element → Bool) : ∀ (count : Nat) (values : List Element),
    count ≤ (values.takeWhile holds).length ↔
      count ≤ values.length ∧ ∀ value ∈ values.take count, holds value = true
  | 0, _ => by simp
  | count + 1, [] => by simp
  | count + 1, value :: values => by
    cases here : holds value with
    | false => simp [here]
    | true => simp [here, le_takeWhile_length holds count values]

variable [LT Value] [LE Value] [DecidableLT Value] [DecidableLE Value]

/-- The last readings, as many as a rule requires, all breach it. -/
def Breached (rule : AlertRule Value) (seen : List Value) : Prop :=
  required rule ≤ seen.length ∧ ∀ value ∈ seen.take (required rule).toNat, breaches value rule = true

/-- The readings in a row, from the last one back, that breach a rule. -/
def ownStreak (rule : AlertRule Value) (seen : List Value) : Nat :=
  (seen.takeWhile fun value => breaches value rule).length

/-- The alerts and the gauges are what the calls so far ask for. -/
structure Agrees [NatCast Value] (service : AlertRulesService Value) (calls : List (AlertCall Value)) : Prop where
  firing : ∀ id, Firing service id ↔
    ∃ rule seen, standingOf calls id = some (rule, seen) ∧ Breached rule seen
  gauges : ∀ severity, service.alertsActive severity =
    service.getActiveAlerts.countP fun alert => decide (alert.rule.severity = severity)

/-- Every rule that is firing has a reading; and no rule is brought to its count by breaches from before it was
registered. -/
structure Heeds [NatCast Value] (service : AlertRulesService Value) (calls : List (AlertCall Value))
    (readings : Readings Value) : Prop where
  read : ∀ rule ∈ service.listRules, Firing service rule.id → readMetric readings rule.metric ≠ none
  counted : ∀ rule ∈ service.listRules, ∀ value seen, readMetric readings rule.metric = some value →
    breaches value rule = true → standingOf calls rule.id = some (rule, seen) →
    required rule ≤ ((service.breachStreak.get? rule.id).getD 0 : Nat) + 1 → required rule ≤ ownStreak rule seen + 1

/-! ## Readings in a row -/

variable {seen : List Value}

theorem breached_iff : Breached rule seen ↔ required rule ≤ ownStreak rule seen := by
  have positive := required_pos rule
  have asNat : ∀ count : Nat, required rule ≤ count ↔ (required rule).toNat ≤ count := fun count => by omega
  rw [Breached, asNat, asNat]
  exact (le_takeWhile_length _ _ _).symm

theorem ownStreak_cons (rule : AlertRule Value) (value : Value) (seen : List Value) :
    ownStreak rule (value :: seen) = if breaches value rule then ownStreak rule seen + 1 else 0 := by
  unfold ownStreak
  rw [List.takeWhile_cons]
  split <;> rfl

theorem not_breached_nil (rule : AlertRule Value) : ¬ Breached rule [] := by
  intro breached
  have positive := required_pos rule
  have := breached.1
  simp only [List.length_nil] at this
  omega

section Evaluation
variable (text : Value → String) (now : String) (readings : Readings Value)

/-- The alert of a rule with a reading. -/
def newAlert (service : AlertRulesService Value) (rule : AlertRule Value) (value : Value) : ActiveAlert Value :=
  alertOf text now rule value (stateOf (nextStreak service rule value) rule) (service.states.get? rule.id)

/-- A rule that has a reading, and fires with it. -/
def counts (service : AlertRulesService Value) (rule : AlertRule Value) : Bool :=
  (readMetric readings rule.metric).any fun value =>
    decide (stateOf (nextStreak service rule value) rule = .firing)

/-- What an evaluation leaves under an id, given the rule with it. -/
structure Evaluated (service after : AlertRulesService Value) (id : String) (rule : Option (AlertRule Value)) :
    Prop where
  states : after.states.get? id = match rule.bind fun rule => (readMetric readings rule.metric).map (rule, ·) with
    | some (rule, value) => some (newAlert text now service rule value)
    | none => service.states.get? id
  streaks : after.breachStreak.get? id =
    match rule.bind fun rule => (readMetric readings rule.metric).map (rule, ·) with
    | some (rule, value) => some (nextStreak service rule value)
    | none => service.breachStreak.get? id

/-- One rule of the loop leaves alone what is under another id. -/
theorem evaluateRule_other (current : AlertRulesService Value × (AlertSeverity → Nat)) (rule : AlertRule Value)
    {id : String} (other : id ≠ rule.id) :
    (evaluateRule text now readings current rule).1.states.get? id = current.1.states.get? id ∧
      (evaluateRule text now readings current rule).1.breachStreak.get? id = current.1.breachStreak.get? id := by
  simp only [evaluateRule]
  split
  next => exact ⟨rfl, rfl⟩
  next => simp [OrderedMap.get?_set_other _ _ other]

theorem evaluateRule_self (current : AlertRulesService Value × (AlertSeverity → Nat)) (rule : AlertRule Value) :
    Evaluated text now readings current.1 (evaluateRule text now readings current rule).1 rule.id (some rule) := by
  cases read : readMetric readings rule.metric with
  | none =>
    constructor <;> simp [evaluateRule, read]
  | some value =>
    constructor <;> simp [evaluateRule, read, newAlert]

theorem evaluateRule_rules (current : AlertRulesService Value × (AlertSeverity → Nat)) (rule : AlertRule Value) :
    (evaluateRule text now readings current rule).1.rules = current.1.rules := by
  simp only [evaluateRule]
  split
  next => rfl
  next => simp

theorem evaluateRule_active (current : AlertRulesService Value × (AlertSeverity → Nat)) (rule : AlertRule Value)
    (severity : AlertSeverity) : (evaluateRule text now readings current rule).2 severity =
      current.2 severity + if counts readings current.1 rule ∧ rule.severity = severity then 1 else 0 := by
  cases read : readMetric readings rule.metric with
  | none => simp [evaluateRule, counts, read]
  | some value =>
    simp only [evaluateRule, counts, read, Option.any_some, decide_eq_true_eq]
    by_cases fires : stateOf (nextStreak current.1 rule value) rule = .firing
    · by_cases same : rule.severity = severity
      · subst same
        simp [fires]
      · simp [fires, same, Function.update_of_ne (Ne.symm same)]
    · simp [fires]

/-- The loop does for an id what it does for the rule with it. -/
theorem loop_evaluated (id : String) : ∀ (rules : List (AlertRule Value)), (rules.map AlertRule.id).Nodup →
    ∀ current : AlertRulesService Value × (AlertSeverity → Nat),
      Evaluated text now readings current.1 (rules.foldl (evaluateRule text now readings) current).1 id
        (rules.find? fun rule => decide (rule.id = id))
  | [], _, _ => ⟨rfl, rfl⟩
  | rule :: rules, unique, current => by
    obtain ⟨fresh, rest⟩ := List.nodup_cons.mp unique
    have later := loop_evaluated id rules rest (evaluateRule text now readings current rule)
    rw [List.foldl_cons]
    by_cases same : rule.id = id
    · subst same
      have absent : (rules.find? fun other => decide (other.id = rule.id)) = none := by
        rw [List.find?_eq_none]
        intro other member
        simpa using fun equal : other.id = rule.id => fresh (equal ▸ List.mem_map_of_mem member)
      have self := evaluateRule_self text now readings current rule
      rw [absent] at later
      rw [List.find?_cons_of_pos (by simp)]
      exact ⟨later.states.trans self.states, later.streaks.trans self.streaks⟩
    · obtain ⟨states, streaks⟩ := evaluateRule_other text now readings current rule (Ne.symm same)
      rw [List.find?_cons_of_neg (by simpa using same)]
      cases found : rules.find? fun other => decide (other.id = id) with
      | none =>
        rw [found] at later
        exact ⟨later.states.trans states, later.streaks.trans streaks⟩
      | some other =>
        have isId : other.id = id := by simpa using List.find?_some found
        subst isId
        rw [found] at later
        have streak : ∀ value, nextStreak (evaluateRule text now readings current rule).1 other value =
            nextStreak current.1 other value := fun value => by
          unfold nextStreak
          rw [streaks]
        have alert : ∀ value, newAlert text now (evaluateRule text now readings current rule).1 other value =
            newAlert text now current.1 other value := fun value => by
          unfold newAlert
          rw [streak, states]
        constructor
        · rw [later.states, states]
          cases read : readMetric readings other.metric <;> simp [read, alert]
        · rw [later.streaks, streaks]
          cases read : readMetric readings other.metric <;> simp [read, streak]

theorem loop_active (severity : AlertSeverity) : ∀ (rules : List (AlertRule Value)), (rules.map AlertRule.id).Nodup →
    ∀ current : AlertRulesService Value × (AlertSeverity → Nat),
      (rules.foldl (evaluateRule text now readings) current).2 severity =
        current.2 severity + rules.countP fun rule => counts readings current.1 rule && decide (rule.severity = severity)
  | [], _, _ => rfl
  | rule :: rules, unique, current => by
    obtain ⟨fresh, rest⟩ := List.nodup_cons.mp unique
    have same : ∀ other ∈ rules, counts readings (evaluateRule text now readings current rule).1 other =
        counts readings current.1 other := by
      intro other member
      have differs : other.id ≠ rule.id := fun equal => fresh (equal ▸ List.mem_map_of_mem member)
      unfold counts nextStreak
      rw [(evaluateRule_other text now readings current rule differs).2]
    rw [List.foldl_cons, loop_active severity rules rest, evaluateRule_active, List.countP_cons, Nat.add_assoc,
      Nat.add_comm (ite _ _ _)]
    congr 2
    · exact List.countP_congr fun other member => by simp only [same other member]
    · simp [Bool.and_eq_true]

theorem loop_rules (rules : List (AlertRule Value)) (current : AlertRulesService Value × (AlertSeverity → Nat)) :
    (rules.foldl (evaluateRule text now readings) current).1.rules = current.1.rules := by
  induction rules generalizing current with
  | nil => rfl
  | cons rule rules ih => rw [List.foldl_cons, ih, evaluateRule_rules]

end Evaluation

/-! ## Rules and alerts under their ids -/

/-- Rules and alerts are kept under the ids they have. -/
structure Named (service : AlertRulesService Value) : Prop where
  rules : ∀ id rule, service.rules.get? id = some rule → rule.id = id
  alerts : ∀ id alert, service.states.get? id = some alert → alert.rule.id = id

section Named
variable {service : AlertRulesService Value} (named : Named service)
include named

omit [LT Value] [LE Value] [DecidableLT Value] [DecidableLE Value]

theorem listRules_ids : service.listRules.map AlertRule.id = service.rules.keys := by
  rw [listRules, List.map_map]
  refine List.map_congr_left fun entry member => ?_
  exact named.rules _ _ (OrderedMap.mem_entries.mp member)

theorem listRules_nodup : (service.listRules.map AlertRule.id).Nodup := by
  rw [listRules_ids named]
  exact service.rules.unique

theorem mem_listRules : rule ∈ service.listRules ↔ service.rules.get? rule.id = some rule := by
  constructor
  · intro member
    obtain ⟨⟨id, _⟩, listed, rfl⟩ := List.mem_map.mp member
    have found := OrderedMap.mem_entries.mp listed
    rw [named.rules _ _ found]
    exact found
  · intro found
    exact List.mem_map.mpr ⟨_, OrderedMap.mem_entries.mpr found, rfl⟩

theorem find_listRules (id : String) :
    (service.listRules.find? fun rule => decide (rule.id = id)) = service.rules.get? id := by
  cases found : service.listRules.find? fun rule => decide (rule.id = id) with
  | some rule =>
    have isId : rule.id = id := by simpa using List.find?_some found
    rw [← isId]
    exact ((mem_listRules named).mp (List.mem_of_find?_eq_some found)).symm
  | none =>
    cases held : service.rules.get? id with
    | none => rfl
    | some rule =>
      have isId := named.rules _ _ held
      have member : rule ∈ service.listRules := (mem_listRules named).mpr (isId ▸ held)
      exact absurd isId (by simpa using List.find?_eq_none.mp found rule member)

theorem mem_getActiveAlerts {alert : ActiveAlert Value} : alert ∈ service.getActiveAlerts ↔
      service.states.get? alert.rule.id = some alert ∧ alert.state = .firing := by
  rw [getActiveAlerts, List.mem_filter, decide_eq_true_iff, and_congr_left_iff]
  intro _
  constructor
  · intro member
    obtain ⟨⟨id, _⟩, listed, rfl⟩ := List.mem_map.mp member
    have found := OrderedMap.mem_entries.mp listed
    rw [named.alerts _ _ found]
    exact found
  · intro found
    exact List.mem_map.mpr ⟨_, OrderedMap.mem_entries.mpr found, rfl⟩

theorem firing_iff {id : String} :
    Firing service id ↔ ∃ alert, service.states.get? id = some alert ∧ alert.state = .firing := by
  constructor
  · rintro ⟨alert, member, rfl⟩
    exact ⟨alert, (mem_getActiveAlerts named).mp member⟩
  · rintro ⟨alert, found, fires⟩
    have isId := named.alerts _ _ found
    exact ⟨alert, (mem_getActiveAlerts named).mpr ⟨isId ▸ found, fires⟩, isId⟩

theorem getActiveAlerts_nodup : (service.getActiveAlerts.map fun alert => alert.rule.id).Nodup := by
  refine List.Nodup.sublist (List.filter_sublist.map _) ?_
  rw [List.map_map]
  have keys : service.states.entries.map ((fun alert => alert.rule.id) ∘ Prod.snd) = service.states.keys :=
    List.map_congr_left fun entry member => named.alerts _ _ (OrderedMap.mem_entries.mp member)
  rw [keys]
  exact service.states.unique

end Named

/-! ## What an evaluation does -/

/-- The ids that the loop counts for a severity. -/
def countedIds (readings : Readings Value) (service : AlertRulesService Value) (severity : AlertSeverity) : List String :=
  (service.listRules.filter fun rule => counts readings service rule && decide (rule.severity = severity)).map
    AlertRule.id

/-- The ids of the alerts that fire with a severity. -/
def activeIds (service : AlertRulesService Value) (severity : AlertSeverity) : List String :=
  (service.getActiveAlerts.filter fun alert => decide (alert.rule.severity = severity)).map fun alert => alert.rule.id

section Evaluate
variable {text : Value → String} {now : String} {readings : Readings Value} {service : AlertRulesService Value}
  (named : Named service)
include named

theorem evaluate_evaluated (id : String) :
    Evaluated text now readings service (service.evaluate text now readings) id (service.rules.get? id) := by
  have loop := loop_evaluated text now readings id service.listRules (listRules_nodup named) (service, fun _ => 0)
  rw [find_listRules named] at loop
  exact ⟨loop.states, loop.streaks⟩

omit named in
@[simp] theorem evaluate_rules : (service.evaluate text now readings).rules = service.rules :=
  loop_rules text now readings _ _

theorem evaluate_active (severity : AlertSeverity) : (service.evaluate text now readings).alertsActive severity =
    service.listRules.countP fun rule => counts readings service rule && decide (rule.severity = severity) :=
  (loop_active text now readings severity _ (listRules_nodup named) _).trans (Nat.zero_add _)

theorem evaluate_named : Named (service.evaluate text now readings) := by
  refine ⟨fun id rule found => named.rules id rule (by rwa [evaluate_rules] at found), fun id alert found => ?_⟩
  rw [(evaluate_evaluated named id).states] at found
  cases held : service.rules.get? id with
  | none =>
    rw [held] at found
    exact named.alerts id alert found
  | some rule =>
    cases read : readMetric readings rule.metric with
    | none =>
      simp only [held, Option.bind_some, read, Option.map_none] at found
      exact named.alerts id alert found
    | some value =>
      simp only [held, Option.bind_some, read, Option.map_some, Option.some.injEq] at found
      rw [← found]
      exact named.rules id rule held

theorem firing_unread {id : String}
    (unread : ∀ rule, service.rules.get? id = some rule → readMetric readings rule.metric = none) :
    Firing (service.evaluate text now readings) id ↔ Firing service id := by
  rw [firing_iff (evaluate_named named), firing_iff named, (evaluate_evaluated named id).states]
  cases held : service.rules.get? id with
  | none => rfl
  | some rule => simp [unread rule held]

theorem firing_read {value : Value} (held : service.rules.get? rule.id = some rule)
    (read : readMetric readings rule.metric = some value) :
    Firing (service.evaluate text now readings) rule.id ↔ required rule ≤ (nextStreak service rule value : Nat) := by
  rw [firing_iff (evaluate_named named), (evaluate_evaluated named rule.id).states]
  simp [held, read, newAlert, alertOf, stateOf_firing]

omit [LT Value] [LE Value] [DecidableLT Value] [DecidableLE Value] named in
/-- A list without repetition is as long as one around it exactly when it is all of it. -/
theorem length_eq_iff_subset {xs ys : List String} (unique : xs.Nodup) (within : xs ⊆ ys) (whole : ys.Nodup) :
    ys.length = xs.length ↔ ys ⊆ xs := by
  have part := unique.subperm within
  constructor
  · intro same
    exact (part.perm_of_length_le (Nat.le_of_eq same)).symm.subset
  · intro all
    exact Nat.le_antisymm (whole.subperm all).length_le part.length_le

theorem mem_countedIds {severity : AlertSeverity} {id : String} : id ∈ countedIds readings service severity ↔
    ∃ rule value, service.rules.get? id = some rule ∧ readMetric readings rule.metric = some value ∧
      stateOf (nextStreak service rule value) rule = .firing ∧ rule.severity = severity := by
  simp only [countedIds, List.mem_map, List.mem_filter, Bool.and_eq_true, decide_eq_true_eq, counts,
    Option.any_eq_true_iff_get]
  constructor
  · rintro ⟨rule, ⟨member, ⟨isSome, fires⟩, same⟩, rfl⟩
    exact ⟨rule, _, (mem_listRules named).mp member, (Option.some_get isSome).symm, fires, same⟩
  · rintro ⟨rule, value, held, read, fires, same⟩
    have isId := named.rules id rule held
    subst isId
    exact ⟨rule, ⟨(mem_listRules named).mpr held, ⟨by simp [read], by simpa [read] using fires⟩, same⟩, rfl⟩

omit [LT Value] [LE Value] [DecidableLT Value] [DecidableLE Value] in
theorem mem_activeIds {severity : AlertSeverity} {id : String} : id ∈ activeIds service severity ↔
    ∃ alert, service.states.get? id = some alert ∧ alert.state = .firing ∧ alert.rule.severity = severity := by
  simp only [activeIds, List.mem_map, List.mem_filter, decide_eq_true_eq, mem_getActiveAlerts named]
  constructor
  · rintro ⟨alert, ⟨⟨found, fires⟩, same⟩, rfl⟩
    exact ⟨alert, found, fires, same⟩
  · rintro ⟨alert, found, fires, same⟩
    have isId := named.alerts id alert found
    subst isId
    exact ⟨alert, ⟨⟨found, fires⟩, same⟩, rfl⟩

/-- A gauge is right exactly when no alert fires that the loop does not count. -/
theorem gauge_iff (severity : AlertSeverity) : (service.evaluate text now readings).alertsActive severity =
      ((service.evaluate text now readings).getActiveAlerts.countP fun alert =>
        decide (alert.rule.severity = severity)) ↔
      activeIds (service.evaluate text now readings) severity ⊆ countedIds readings service severity := by
  have after : Named (service.evaluate text now readings) := evaluate_named named
  have counted : (countedIds readings service severity).Nodup :=
    (listRules_nodup named).sublist (List.filter_sublist.map _)
  have active : (activeIds (service.evaluate text now readings) severity).Nodup :=
    (getActiveAlerts_nodup after).sublist (List.filter_sublist.map _)
  have within : countedIds readings service severity ⊆ activeIds (service.evaluate text now readings) severity := by
    intro id member
    obtain ⟨rule, value, held, read, fires, same⟩ := (mem_countedIds named).mp member
    refine (mem_activeIds after).mpr ⟨newAlert text now service rule value, ?_, fires, same⟩
    rw [(evaluate_evaluated named id).states]
    simp [held, read]
  rw [← length_eq_iff_subset counted within active, evaluate_active named, List.countP_eq_length_filter,
    List.countP_eq_length_filter, activeIds, countedIds, List.length_map, List.length_map]
  exact eq_comm

theorem gauges_iff (registered : ∀ id alert, service.states.get? id = some alert → service.rules.get? id ≠ none) :
    (∀ severity, (service.evaluate text now readings).alertsActive severity =
      (service.evaluate text now readings).getActiveAlerts.countP fun alert => decide (alert.rule.severity = severity)) ↔
      ∀ rule ∈ service.listRules, Firing service rule.id → readMetric readings rule.metric ≠ none := by
  have after : Named (service.evaluate text now readings) := evaluate_named named
  simp only [gauge_iff named]
  constructor
  · intro all rule member fires unread
    have held := (mem_listRules named).mp member
    obtain ⟨alert, found, isFiring⟩ := (firing_iff named).mp fires
    have kept : (service.evaluate text now readings).states.get? rule.id = some alert := by
      rw [(evaluate_evaluated named rule.id).states]
      simp [held, unread, found]
    have counted := all alert.rule.severity ((mem_activeIds after).mpr ⟨alert, kept, isFiring, rfl⟩)
    obtain ⟨other, value, listed, read, -⟩ := (mem_countedIds named).mp counted
    rw [held] at listed
    cases listed
    rw [unread] at read
    cases read
  · intro allRead severity id member
    obtain ⟨alert, found, fires, same⟩ := (mem_activeIds after).mp member
    rw [(evaluate_evaluated named id).states] at found
    cases held : service.rules.get? id with
    | none =>
      rw [held] at found
      exact absurd held (registered id alert found)
    | some rule =>
      have isId := named.rules id rule held
      subst isId
      cases read : readMetric readings rule.metric with
      | none =>
        simp only [held, Option.bind_some, read, Option.map_none] at found
        exact absurd read (allRead rule ((mem_listRules named).mpr held) ((firing_iff named).mpr ⟨alert, found, fires⟩))
      | some value =>
        simp only [held, Option.bind_some, read, Option.map_some, Option.some.injEq] at found
        subst found
        exact (mem_countedIds named).mpr ⟨rule, value, held, read, fires, same⟩

end Evaluate

section Calls
variable [NatCast Value]

/-- What holds after any calls: the maps speak of the rules that are registered, and an alert that the readings of its
rule ask for fires. -/
structure Kept (service : AlertRulesService Value) (calls : List (AlertCall Value)) : Prop where
  named : Named service
  rules : ∀ id, service.rules.get? id = (standingOf calls id).map Prod.fst
  registered : ∀ id alert, service.states.get? id = some alert → service.rules.get? id ≠ none
  own : ∀ id rule seen, standingOf calls id = some (rule, seen) →
    ownStreak rule seen ≤ (service.breachStreak.get? id).getD 0
  breached : ∀ id rule seen, standingOf calls id = some (rule, seen) → Breached rule seen → Firing service id

omit [LT Value] [LE Value] [DecidableLT Value] [DecidableLE Value] in
theorem standingOf_concat (calls : List (AlertCall Value)) (call : AlertCall Value) (id : String) :
    standingOf (calls ++ [call]) id = observe id (standingOf calls id) call := by
  rw [standingOf, List.foldl_append]
  rfl

section Step
variable {text : Value → String} {service : AlertRulesService Value} {calls : List (AlertCall Value)}
  (kept : Kept service calls)
include kept

theorem Kept.held {id : String} (standing : standingOf calls id = some (rule, seen)) :
    service.rules.get? id = some rule := by
  rw [kept.rules, standing]
  rfl

theorem Kept.upsertRule (rule : AlertRule Value) : Kept (service.upsertRule rule) (calls ++ [.upsertRule rule]) := by
  have alerts : Named (service.upsertRule rule) := by
    refine ⟨fun id other found => ?_, kept.named.alerts⟩
    rw [AlertRulesService.upsertRule, OrderedMap.get?_set] at found
    split at found
    next same => exact Option.some.inj found ▸ same.symm
    next => exact kept.named.rules id other found
  constructor
  · exact alerts
  · intro id
    rw [AlertRulesService.upsertRule, OrderedMap.get?_set, standingOf_concat, observe, kept.rules]
    by_cases same : rule.id = id
    · simp [same]
    · simp [same, Ne.symm same]
  · intro id alert found
    rw [AlertRulesService.upsertRule, OrderedMap.get?_set]
    split
    next => simp
    next => exact kept.registered id alert found
  · intro id other seen standing
    rw [standingOf_concat, observe] at standing
    split at standing
    next =>
      cases standing
      exact Nat.zero_le _
    next => exact kept.own id other seen standing
  · intro id other seen standing breached
    rw [standingOf_concat, observe] at standing
    split at standing
    next =>
      cases standing
      exact absurd breached (not_breached_nil rule)
    next => exact kept.breached id other seen standing breached

theorem Kept.removeRule (removed : String) : Kept (service.removeRule removed) (calls ++ [.removeRule removed]) := by
  have alerts : Named (service.removeRule removed) := by
    constructor
    · intro id rule found
      rw [AlertRulesService.removeRule, OrderedMap.get?_delete] at found
      exact kept.named.rules id rule (Option.ite_none_left_eq_some.mp found).2
    · intro id alert found
      rw [AlertRulesService.removeRule, OrderedMap.get?_delete] at found
      exact kept.named.alerts id alert (Option.ite_none_left_eq_some.mp found).2
  have others : ∀ {id rule seen}, standingOf (calls ++ [.removeRule removed]) id = some (rule, seen) →
      id ≠ removed ∧ standingOf calls id = some (rule, seen) := by
    intro id rule seen standing
    rw [standingOf_concat, observe] at standing
    obtain ⟨differs, before⟩ := Option.ite_none_left_eq_some.mp standing
    exact ⟨Ne.symm differs, before⟩
  constructor
  · exact alerts
  · intro id
    rw [AlertRulesService.removeRule, OrderedMap.get?_delete, standingOf_concat, observe, kept.rules]
    by_cases same : removed = id
    · simp [same]
    · simp [same, Ne.symm same]
  · intro id alert found
    rw [AlertRulesService.removeRule, OrderedMap.get?_delete] at found ⊢
    obtain ⟨differs, before⟩ := Option.ite_none_left_eq_some.mp found
    rw [if_neg differs]
    exact kept.registered id alert before
  · intro id rule seen standing
    obtain ⟨differs, before⟩ := others standing
    rw [AlertRulesService.removeRule, OrderedMap.get?_delete_other _ differs]
    exact kept.own id rule seen before
  · intro id rule seen standing breached
    obtain ⟨differs, before⟩ := others standing
    obtain ⟨alert, found, fires⟩ := (firing_iff kept.named).mp (kept.breached id rule seen before breached)
    refine (firing_iff alerts).mpr ⟨alert, ?_, fires⟩
    rw [AlertRulesService.removeRule, OrderedMap.get?_delete_other _ differs]
    exact found

theorem Kept.own_next (value : Value) (standing : standingOf calls rule.id = some (rule, seen)) :
    ownStreak rule (value :: seen) ≤ nextStreak service rule value := by
  have own := kept.own rule.id rule seen standing
  rw [ownStreak_cons, nextStreak]
  split
  next => exact Nat.succ_le_succ own
  next => exact Nat.le_refl _

omit kept [LT Value] [LE Value] [DecidableLT Value] [DecidableLE Value] in
/-- A rule after an evaluation is a rule before it, with the reading if there is one. -/
theorem standing_evaluate {now : String} {readings : Readings Value} {id : String} :
    standingOf (calls ++ [.evaluate now readings]) id = some (rule, seen) ↔
      ∃ before, standingOf calls id = some (rule, before) ∧
        seen = (readMetric readings rule.metric).toList ++ before := by
  rw [standingOf_concat, observe, Option.map_eq_some_iff]
  constructor
  · rintro ⟨⟨_, before⟩, standing, same⟩
    cases same
    exact ⟨before, standing, rfl⟩
  · rintro ⟨before, standing, rfl⟩
    exact ⟨(rule, before), standing, rfl⟩

theorem Kept.breached_evaluate {now : String} {readings : Readings Value} {id : String}
    (standing : standingOf (calls ++ [.evaluate now readings]) id = some (rule, seen))
    (breached : Breached rule seen) : Firing (service.evaluate text now readings) id := by
  obtain ⟨before, stood, rfl⟩ := standing_evaluate.mp standing
  have held := kept.held stood
  have isId := kept.named.rules id rule held
  subst isId
  cases read : readMetric readings rule.metric with
  | none =>
    rw [read] at breached
    refine (firing_unread kept.named fun other found => ?_).mpr (kept.breached _ rule before stood breached)
    rw [held] at found
    cases found
    exact read
  | some value =>
    rw [read] at breached
    refine (firing_read kept.named held read).mpr (Int.le_trans (breached_iff.mp breached) ?_)
    exact Int.ofNat_le.mpr (kept.own_next value stood)

theorem Kept.evaluate (now : String) (readings : Readings Value) :
    Kept (service.evaluate text now readings) (calls ++ [.evaluate now readings]) := by
  constructor
  · exact evaluate_named kept.named
  · intro id
    rw [evaluate_rules, kept.rules, standingOf_concat, observe, Option.map_map]
    rfl
  · intro id alert found
    rw [evaluate_rules]
    rw [(evaluate_evaluated kept.named id).states] at found
    cases held : service.rules.get? id with
    | none =>
      rw [held] at found
      exact absurd held (kept.registered id alert found)
    | some rule => exact Option.some_ne_none rule
  · intro id rule seen standing
    obtain ⟨before, stood, rfl⟩ := standing_evaluate.mp standing
    have held := kept.held stood
    have isId := kept.named.rules id rule held
    subst isId
    rw [(evaluate_evaluated kept.named rule.id).streaks]
    cases read : readMetric readings rule.metric with
    | none => simpa [held, read] using kept.own rule.id rule before stood
    | some value => simpa [held, read] using kept.own_next value stood
  · intro id rule seen standing breached
    exact kept.breached_evaluate standing breached

/-- One evaluation leaves what the calls ask for exactly when it heeds the readings. -/
theorem Kept.agrees_iff (now : String) (readings : Readings Value) :
    Agrees (service.evaluate text now readings) (calls ++ [.evaluate now readings]) ↔ Heeds service calls readings := by
  constructor
  · rintro ⟨firing, right⟩
    refine ⟨(gauges_iff kept.named kept.registered).mp right, fun rule member value seen read breaching standing enough => ?_⟩
    have held := (mem_listRules kept.named).mp member
    have next : nextStreak service rule value = (service.breachStreak.get? rule.id).getD 0 + 1 := if_pos breaching
    have fires : Firing (service.evaluate text now readings) rule.id :=
      (firing_read kept.named held read).mpr (by rw [next]; exact enough)
    obtain ⟨_, _, after, breached⟩ := (firing rule.id).mp fires
    obtain ⟨before, same, rfl⟩ := standing_evaluate.mp after
    rw [standing] at same
    cases same
    rw [breached_iff, read] at breached
    rw [Option.toList_some, List.singleton_append, ownStreak_cons, if_pos breaching] at breached
    exact breached
  · rintro ⟨read, counted⟩
    refine ⟨fun id => ⟨fun fires => ?_, fun ⟨rule, seen, standing, breached⟩ => ?_⟩,
      (gauges_iff kept.named kept.registered).mpr read⟩
    · cases standing : standingOf calls id with
      | none =>
        have absent : service.rules.get? id = none := by rw [kept.rules, standing]; rfl
        have before := (firing_unread kept.named fun rule held => by rw [absent] at held; cases held).mp fires
        obtain ⟨alert, found, -⟩ := (firing_iff kept.named).mp before
        exact absurd absent (kept.registered id alert found)
      | some known =>
        obtain ⟨rule, seen⟩ := known
        have held := kept.held standing
        have isId := kept.named.rules id rule held
        subst isId
        have member := (mem_listRules kept.named).mpr held
        refine ⟨rule, _, standing_evaluate.mpr ⟨seen, standing, rfl⟩, ?_⟩
        cases reading : readMetric readings rule.metric with
        | none =>
          have before := (firing_unread kept.named fun other found => by
            rw [held] at found
            cases found
            exact reading).mp fires
          exact absurd reading (read rule member before)
        | some value =>
          have enough := (firing_read kept.named held reading).mp fires
          rw [nextStreak] at enough
          rw [breached_iff, Option.toList_some, List.singleton_append, ownStreak_cons]
          split at enough
          next breaching =>
            rw [if_pos breaching]
            exact counted rule member value seen reading breaching standing enough
          next calm =>
            rw [if_neg calm]
            exact enough
    · exact kept.breached_evaluate standing breached

end Step

theorem kept_create : Kept (create : AlertRulesService Value) [] := by
  have listed : ∀ id (rule : AlertRule Value), create.rules.get? id = some rule → rule.id = id := by
    intro id rule found
    have member := OrderedMap.mem_entries.mpr found
    rcases List.mem_cons.mp member with same | member
    · cases same
      rfl
    · rcases List.mem_cons.mp member with same | member
      · cases same
        rfl
      · cases List.mem_singleton.mp member
        rfl
  constructor
  · exact ⟨listed, fun _ _ found => nomatch found⟩
  · intro id
    simp [standingOf, Function.comp_def]
  · intro _ _ found
    cases found
  · intro id rule seen standing
    obtain ⟨_, _, same⟩ := Option.map_eq_some_iff.mp standing
    cases same
    exact Nat.zero_le _
  · intro id rule seen standing breached
    obtain ⟨_, _, same⟩ := Option.map_eq_some_iff.mp standing
    cases same
    exact absurd breached (not_breached_nil rule)

/-- By induction over the calls, from the last one back. -/
theorem kept_after (text : Value → String) (calls : List (AlertCall Value)) : Kept (after text calls) calls := by
  induction calls using List.reverseRecOn with
  | nil => exact kept_create
  | append_singleton calls call kept =>
    rw [after, List.foldl_append]
    cases call with
    | upsertRule rule => exact kept.upsertRule rule
    | removeRule id => exact kept.removeRule id
    | evaluate now readings => exact kept.evaluate now readings

/-- After each evaluation of a run the alerts and the gauges are what the calls so far ask for, exactly when each of them
heeds its readings. -/
theorem alerts_agree_iff (text : Value → String) (calls : List (AlertCall Value)) :
    (∀ before now readings, before ++ [.evaluate now readings] <+: calls →
      Agrees (after text (before ++ [.evaluate now readings])) (before ++ [.evaluate now readings])) ↔
    ∀ before now readings, before ++ [.evaluate now readings] <+: calls →
      Heeds (after text before) before readings := by
  refine forall_congr' fun before => forall_congr' fun now => forall_congr' fun readings => ?_
  refine imp_congr_right fun _ => ?_
  have stepped : after text (before ++ [.evaluate now readings]) = (after text before).evaluate text now readings := by
    rw [after, List.foldl_append]
    rfl
  rw [stepped]
  exact (kept_after text before).agrees_iff now readings

end Calls

/-- A disk that fails to be read leaves the alert of its rule in place, and takes it from the gauge. -/
theorem alerts_disagree : ¬ ∀ (calls before : List (AlertCall Int)) (now : String) (readings : Readings Int),
    before ++ [.evaluate now readings] <+: calls →
      Agrees (after toString (before ++ [.evaluate now readings])) (before ++ [.evaluate now readings]) := by
  intro all
  let full : Readings Int := ⟨some ⟨10, 10, 10, some 95⟩, 0⟩
  let unread : Readings Int := ⟨some ⟨10, 10, 10, none⟩, 0⟩
  have agrees := all _ [.evaluate "10:00" full] "10:01" unread (List.prefix_refl _)
  have gauge := agrees.gauges .critical
  revert gauge
  decide

end AlianStructure.Guarantees.AlertRules
