import AlianStructure.Source.Modules.ModuleRegistryService

/-!
# The state of a module for a tenant

Source: src/modules/registry/module-registry.service.ts:42-289. The effects of the successful calls
are kept, the latest first. The rows agree with them: the state of a tenant is its last setting since
the module was registered, or else the last global one, which is also the status of the module.
-/
namespace AlianStructure.Guarantees.ModuleStates
open Library.KeyedTable
open Source Source.Modules ModuleRegistryService

variable {Settings : Type} {config : RegistryConfig} {outside : Surroundings}

/-- What a successful call does: the first registration, a setting for a tenant or globally, or the
removal. -/
inductive Effect where
  | registered (id : String)
  | set (id : String) (tenantId : Option String) (enabled : Bool)
  | deregistered (id : String)
  deriving DecidableEq

/-- An upgrade has no effect of its own. -/
def effectOf (before : Registry Settings) :
    RegistryCall Settings → Except Exception (RegistryValue Settings) → Option Effect
  | _, .error _ => none
  | .register _, .ok (.module row) =>
    if before.modules.findOne row.id = none then some (.registered row.id) else none
  | .enable id dto, .ok _ => some (.set id dto.tenantId true)
  | .disable id dto, .ok _ => some (.set id dto.tenantId false)
  | .deregister id, .ok _ => some (.deregistered id)
  | _, .ok _ => none

structure Attempt (Settings : Type) where
  outside : Surroundings
  call : RegistryCall Settings

/-- The registry with the effects so far. -/
structure Recorded (Settings : Type) where
  registry : Registry Settings
  effects : List Effect

def Recorded.after (config : RegistryConfig) (recorded : Recorded Settings)
    (attempt : Attempt Settings) : Recorded Settings :=
  let ended := runInTransaction config attempt.outside recorded.registry attempt.call
  ⟨ended.1, (effectOf recorded.registry attempt.call ended.2).toList ++ recorded.effects⟩

def Recorded.run (config : RegistryConfig) (recorded : Recorded Settings)
    (attempts : List (Attempt Settings)) : Recorded Settings :=
  attempts.foldl (Recorded.after config) recorded

def blank : Recorded Settings := ⟨⟨.empty, .empty⟩, []⟩

/-- The last setting for a tenant, or the last global one, since the module was registered. -/
def lastSetting (id : String) (tenantId : Option String) : List Effect → Option Bool
  | [] => none
  | .registered other :: earlier | .deregistered other :: earlier =>
    if other = id then none else lastSetting id tenantId earlier
  | .set other scope enabled :: earlier =>
    if other = id ∧ scope = tenantId then some enabled else lastSetting id tenantId earlier

def isRegistered (id : String) : List Effect → Bool
  | [] => false
  | .registered other :: earlier => if other = id then true else isRegistered id earlier
  | .deregistered other :: earlier => if other = id then false else isRegistered id earlier
  | .set _ _ _ :: earlier => isRegistered id earlier

/-- The status after the last global setting. -/
def statusOf : Option Bool → ModuleStatus
  | none => .registered
  | some true => .enabled
  | some false => .disabled

/-- The rows agree with the effects. -/
structure Agrees (recorded : Recorded Settings) : Prop where
  modules : ∀ id, (recorded.registry.modules.findOne id).isSome = isRegistered id recorded.effects
  states : ∀ id tenantId,
    (recorded.registry.tenantStates.findOne (id, tenantId)).map (·.enabled) =
      lastSetting id tenantId recorded.effects
  owned : ∀ id tenantId, recorded.registry.modules.findOne id = none →
    recorded.registry.tenantStates.findOne (id, tenantId) = none
  statuses : ∀ id row, recorded.registry.modules.findOne id = some row →
    row.status = statusOf (lastSetting id none recorded.effects)

section Methods
variable {registry after : Registry Settings} {α β : Type}

theorem bind_ok {program : Transaction Settings α} {next : α → Transaction Settings β} {value : β}
    (ends : (program >>= next) registry = .ok (value, after)) :
    ∃ first middle, program registry = .ok (first, middle) ∧ next first middle = .ok (value, after) := by
  change (program registry >>= fun ended => next ended.1 ended.2) = _ at ends
  cases first : program registry with
  | error failure =>
    rw [first] at ends
    cases ends
  | ok ended =>
    rw [first] at ends
    exact ⟨ended.1, ended.2, rfl, ends⟩

theorem assertCompatible_ok {name range : String} (fits : assertCompatible config name range = .ok ()) :
    config.satisfies config.coreVersion range = true := by
  unfold assertCompatible at fits
  split at fits
  next satisfied => exact satisfied
  next => cases fits

theorem lift_ok {program : Except Exception α} {value : α}
    (ends : (liftM program : Transaction Settings α) registry = .ok (value, after)) :
    program = .ok value ∧ registry = after := by
  cases program with
  | error failure => cases ends
  | ok result =>
    cases ends
    exact ⟨rfl, rfl⟩

theorem findModule_ok {id : String} {found : Option ModuleEntity}
    (ends : findModule id registry = .ok (found, after)) :
    registry.modules.findOne id = found ∧ registry = after := by
  cases ends
  exact ⟨rfl, rfl⟩

theorem findModuleByName_ok {name : String} {found : Option ModuleEntity}
    (ends : findModuleByName name registry = .ok (found, after)) :
    registry.modules.rows.find? (fun row => decide (row.name = name)) = found ∧ registry = after := by
  cases ends
  exact ⟨rfl, rfl⟩

theorem findState_ok {id : String} {tenantId : Option String} {found : Option (TenantModuleState Settings)}
    (ends : findState id tenantId registry = .ok (found, after)) :
    registry.tenantStates.findOne (id, tenantId) = found ∧ registry = after := by
  cases ends
  exact ⟨rfl, rfl⟩

theorem insertModule_ok {row saved : ModuleEntity} (ends : insertModule outside row registry = .ok (saved, after)) :
    registry.modules.findOne outside.newId = none ∧ saved = { row with id := outside.newId } ∧
      after = { registry with modules := registry.modules.save saved } := by
  obtain ⟨existing, _, finds, rest⟩ := bind_ok ends
  obtain ⟨found, rfl⟩ := findModule_ok finds
  cases existing with
  | none =>
    cases rest
    exact ⟨found, rfl, rfl⟩
  | some other => cases rest

/-- A registration adds a module with a new id and name, or puts a newer version into one and leaves its status. -/
theorem register_ok {dto : RegisterModuleDto} {saved : ModuleEntity}
    (ends : register config outside dto registry = .ok (saved, after)) :
    after = { registry with modules := registry.modules.save saved } ∧
      config.satisfies config.coreVersion saved.coreCompatibilityRange = true ∧
      ((registry.modules.findOne saved.id = none ∧ saved.status = .registered ∧
          ∀ row ∈ registry.modules.rows, row.name ≠ saved.name) ∨
        ∃ existing, registry.modules.findOne saved.id = some existing ∧ saved.status = existing.status ∧
          saved.name = existing.name ∧ config.gt saved.version existing.version = true) := by
  obtain ⟨manifest, _, validates, ends⟩ := bind_ok ends
  obtain ⟨_, rfl⟩ := lift_ok validates
  obtain ⟨_, _, compatible, ends⟩ := bind_ok ends
  obtain ⟨fits, rfl⟩ := lift_ok compatible
  have satisfied := assertCompatible_ok fits
  obtain ⟨lifecycle, _, loads, ends⟩ := bind_ok ends
  obtain ⟨_, rfl⟩ := lift_ok loads
  obtain ⟨found, _, finds, ends⟩ := bind_ok ends
  obtain ⟨isFound, rfl⟩ := findModuleByName_ok finds
  cases found with
  | none =>
    obtain ⟨inserted, _, inserts, ends⟩ := bind_ok ends
    obtain ⟨fresh, isInserted, rfl⟩ := insertModule_ok inserts
    obtain ⟨_, _, installs, ends⟩ := bind_ok ends
    obtain ⟨_, rfl⟩ := lift_ok installs
    cases ends
    rw [isInserted]
    refine ⟨rfl, satisfied, Or.inl ⟨fresh, rfl, fun row member => ?_⟩⟩
    exact of_decide_eq_false (Bool.eq_false_iff.mpr (List.find?_eq_none.mp isFound row member))
  | some existing =>
    dsimp only at ends
    split at ends
    next newer =>
      obtain ⟨_, _, upgrades, ends⟩ := bind_ok ends
      obtain ⟨_, rfl⟩ := lift_ok upgrades
      cases ends
      have member : existing ∈ registry.modules.rows := List.mem_of_find?_eq_some isFound
      exact ⟨rfl, satisfied, Or.inr ⟨existing, Table.findOne_of_mem member, rfl, rfl, newer⟩⟩
    next => cases ends

/-- A setting: the status when it is global, and the state. -/
structure Sets (registry : Registry Settings) (id : String) (tenantId : Option String)
    (enabled : Bool) (after : Registry Settings) : Prop where
  found : ∃ row, registry.modules.findOne id = some row ∧
    after.modules = if tenantId = none then
      registry.modules.save { row with status := statusOf (some enabled) } else registry.modules
  state : ∃ row : TenantModuleState Settings, row.moduleId = id ∧ row.tenantId = tenantId ∧
    row.enabled = enabled ∧ after.tenantStates = registry.tenantStates.save row

theorem saveStatus_ok {row : ModuleEntity} {tenantId : Option String} {status : ModuleStatus}
    (ends : saveStatus row tenantId status registry = .ok ((), after)) : after.tenantStates = registry.tenantStates ∧
      after.modules = if tenantId = none then registry.modules.save { row with status } else registry.modules := by
  cases tenantId with
  | none =>
    cases ends
    exact ⟨rfl, rfl⟩
  | some tenant =>
    cases ends
    exact ⟨rfl, rfl⟩

/-- The end of enable and of disable: the row of a tenant is changed, or made. -/
theorem saveSetting_ok {id : String} {tenantId : Option String} {enabled : Bool} {row : ModuleEntity}
    {old : Option (TenantModuleState Settings)} {state saved : TenantModuleState Settings}
    (found : registry.modules.findOne id = some row)
    (isOld : registry.tenantStates.findOne (id, tenantId) = old)
    (key : state.key = (old.map (·.key)).getD (id, tenantId)) (isEnabled : state.enabled = enabled)
    (ends : (do
      saveStatus row tenantId (statusOf (some enabled))
      saveState state : Transaction Settings _) registry = .ok (saved, after)) :
    Sets registry id tenantId enabled after := by
  obtain ⟨_, middle, saves, ends⟩ := bind_ok ends
  obtain ⟨states, modules⟩ := saveStatus_ok saves
  have key : state.key = (id, tenantId) := by
    cases old with
    | none => exact key
    | some old =>
      have named := Table.findOne_key isOld
      exact key.trans named
  cases ends
  exact ⟨⟨row, found, modules⟩, state, congrArg Prod.fst key, congrArg Prod.snd key, isEnabled,
    congrArg (Table.save · state) states⟩

theorem enable_ok {id : String} {dto : EnableModuleDto Settings} {saved : TenantModuleState Settings}
    (ends : enable config outside id dto registry = .ok (saved, after)) :
    Sets registry id dto.tenantId true after := by
  obtain ⟨found, _, finds, ends⟩ := bind_ok ends
  obtain ⟨isFound, rfl⟩ := findModule_ok finds
  cases found with
  | none => cases ends
  | some row =>
    obtain ⟨_, _, compatible, ends⟩ := bind_ok ends
    obtain ⟨_, rfl⟩ := lift_ok compatible
    obtain ⟨state, _, finds, ends⟩ := bind_ok ends
    obtain ⟨isState, rfl⟩ := findState_ok finds
    exact saveSetting_ok isFound isState (by cases state <;> rfl) (by cases state <;> rfl) ends

theorem disable_ok {id : String} {dto : DisableModuleDto} {saved : TenantModuleState Settings}
    (ends : disable outside id dto registry = .ok (saved, after)) : Sets registry id dto.tenantId false after := by
  obtain ⟨found, _, finds, ends⟩ := bind_ok ends
  obtain ⟨isFound, rfl⟩ := findModule_ok finds
  cases found with
  | none => cases ends
  | some row =>
    obtain ⟨state, _, finds, ends⟩ := bind_ok ends
    obtain ⟨isState, rfl⟩ := findState_ok finds
    exact saveSetting_ok isFound isState (by cases state <;> rfl) (by cases state <;> rfl) ends

/-- A removal takes the module and all its states. -/
theorem deregister_ok {id : String} (ends : deregister outside id registry = .ok ((), after)) :
    after.modules = registry.modules.delete (fun row => decide (row.id = id)) ∧
      after.tenantStates = registry.tenantStates.delete (fun row => decide (row.moduleId = id)) ∧
      ∀ state ∈ registry.tenantStates.rows, state.moduleId = id → state.enabled = false := by
  obtain ⟨found, _, finds, ends⟩ := bind_ok ends
  obtain ⟨isFound, rfl⟩ := findModule_ok finds
  cases found with
  | none => cases ends
  | some row =>
    obtain ⟨count, _, counts, ends⟩ := bind_ok ends
    cases counts
    split at ends
    next => cases ends
    next none =>
      obtain ⟨lifecycle, _, loads, ends⟩ := bind_ok ends
      obtain ⟨_, rfl⟩ := lift_ok loads
      obtain ⟨_, _, uninstalls, ends⟩ := bind_ok ends
      obtain ⟨_, rfl⟩ := lift_ok uninstalls
      have key : row.id = id := Table.findOne_key isFound
      cases ends
      rw [key]
      refine ⟨rfl, rfl, fun state member mine => ?_⟩
      have idle := List.countP_eq_zero.mp (Nat.eq_zero_of_not_pos none) state member
      simpa [mine] using idle

end Methods

section Effects
variable {registry after : Registry Settings} {effects : List Effect}

theorem agrees_registered {row : ModuleEntity} (agrees : Agrees ⟨registry, effects⟩)
    (fresh : registry.modules.findOne row.id = none) (isRegistered : row.status = .registered) :
    Agrees ⟨{ registry with modules := registry.modules.save row }, .registered row.id :: effects⟩ where
  modules id := by
    by_cases same : id = row.id
    · subst same
      simp [ModuleStates.isRegistered]
    · rw [Table.findOne_save_other _ same, agrees.modules id]
      simp [ModuleStates.isRegistered, Ne.symm same]
  states id tenantId := by
    by_cases same : id = row.id
    · subst same
      simp [lastSetting, agrees.owned _ tenantId fresh]
    · rw [agrees.states id tenantId]
      simp [lastSetting, Ne.symm same]
  owned id tenantId absent := by
    by_cases same : id = row.id
    · subst same
      simp at absent
    · rw [Table.findOne_save_other _ same] at absent
      exact agrees.owned id tenantId absent
  statuses id found isFound := by
    by_cases same : id = row.id
    · subst same
      rw [Table.findOne_save_self] at isFound
      cases isFound
      simp [lastSetting, statusOf, isRegistered]
    · rw [Table.findOne_save_other _ same] at isFound
      rw [agrees.statuses id found isFound]
      simp [lastSetting, Ne.symm same]

/-- An upgrade keeps the status, and no state is touched. -/
theorem agrees_upgraded {row existing : ModuleEntity} (agrees : Agrees ⟨registry, effects⟩)
    (found : registry.modules.findOne row.id = some existing) (kept : row.status = existing.status) :
    Agrees ⟨{ registry with modules := registry.modules.save row }, effects⟩ where
  modules id := by
    by_cases same : id = row.id
    · subst same
      have present := agrees.modules row.id
      rw [found] at present
      rw [Table.findOne_save_self]
      exact present
    · rw [Table.findOne_save_other _ same]
      exact agrees.modules id
  states := agrees.states
  owned id tenantId absent := by
    by_cases same : id = row.id
    · subst same
      simp at absent
    · rw [Table.findOne_save_other _ same] at absent
      exact agrees.owned id tenantId absent
  statuses id other isFound := by
    by_cases same : id = row.id
    · subst same
      rw [Table.findOne_save_self] at isFound
      cases isFound
      rw [kept]
      exact agrees.statuses row.id existing found
    · rw [Table.findOne_save_other _ same] at isFound
      exact agrees.statuses id other isFound

/-- The modules after a setting: those from before, with another status when it is global. -/
theorem Sets.findOne {id : String} {tenantId : Option String} {enabled : Bool}
    (sets : Sets registry id tenantId enabled after) (other : String) :
    after.modules.findOne other = (registry.modules.findOne other).map fun row =>
      if other = id ∧ tenantId = none then { row with status := statusOf (some enabled) } else row := by
  obtain ⟨⟨row, found, modules⟩, _⟩ := sets
  have key : row.id = id := Table.findOne_key found
  subst key
  rw [modules]
  by_cases same : other = row.id
  · subst same
    rw [found]
    split
    next isGlobal =>
      simp [isGlobal, Table.findOne_save_self registry.modules
        { row with status := statusOf (some enabled) }]
    next isTenant => simp [found, isTenant]
  · split
    next isGlobal =>
      have differs : other ≠ { row with status := statusOf (some enabled) }.id := same
      rw [Table.findOne_save_other _ differs]
      simp [same]
    next => simp [same]

theorem agrees_set {id : String} {tenantId : Option String} {enabled : Bool}
    (agrees : Agrees ⟨registry, effects⟩) (sets : Sets registry id tenantId enabled after) :
    Agrees ⟨after, .set id tenantId enabled :: effects⟩ where
  modules other := by
    rw [sets.findOne other, Option.isSome_map]
    exact agrees.modules other
  states other scope := by
    obtain ⟨_, row, moduleId, isTenant, isEnabled, saved⟩ := sets
    rw [saved]
    by_cases same : (other, scope) = row.key
    · obtain ⟨rfl, rfl⟩ := Prod.mk.inj same
      rw [same, Table.findOne_save_self]
      simp [lastSetting, moduleId, isTenant, isEnabled]
    · rw [Table.findOne_save_other _ same, agrees.states other scope]
      have differs : ¬ (id = other ∧ tenantId = scope) := by
        rintro ⟨rfl, rfl⟩
        exact same (Prod.ext moduleId.symm isTenant.symm)
      simp [lastSetting, differs]
  owned other scope absent := by
    rw [sets.findOne other, Option.map_eq_none_iff] at absent
    obtain ⟨⟨found, isFound, _⟩, row, moduleId, isTenant, _, saved⟩ := sets
    rw [saved]
    have same : (other, scope) ≠ row.key := by
      intro equal
      obtain rfl : other = id := (congrArg Prod.fst equal).trans moduleId
      rw [isFound] at absent
      cases absent
    rw [Table.findOne_save_other _ same]
    exact agrees.owned other scope absent
  statuses other row isFound := by
    rw [sets.findOne other] at isFound
    obtain ⟨old, isOld, rfl⟩ := Option.map_eq_some_iff.mp isFound
    have status := agrees.statuses other old isOld
    simp only [lastSetting, @eq_comm _ id other]
    split
    next => rfl
    next => exact status

theorem agrees_deregistered {id : String} (agrees : Agrees ⟨registry, effects⟩)
    (modules : after.modules = registry.modules.delete fun row => decide (row.id = id))
    (states : after.tenantStates = registry.tenantStates.delete fun row => decide (row.moduleId = id)) :
    Agrees ⟨after, .deregistered id :: effects⟩ := by
  have left : ∀ other, after.modules.findOne other =
      if id = other then none else registry.modules.findOne other := by
    intro other
    rw [modules, Table.findOne_delete]
    cases found : registry.modules.findOne other with
    | none => simp
    | some row =>
      have key : row.id = other := Table.findOne_key found
      rw [Option.filter_some]
      by_cases same : id = other
      · simp [key, same]
      · have differs : other ≠ id := Ne.symm same
        simp [key, same, differs]
  have cleared : ∀ other scope, after.tenantStates.findOne (other, scope) =
      if id = other then none else registry.tenantStates.findOne (other, scope) := by
    intro other scope
    rw [states, Table.findOne_delete]
    cases found : registry.tenantStates.findOne (other, scope) with
    | none => simp
    | some row =>
      have key : row.moduleId = other := congrArg Prod.fst (Table.findOne_key found)
      rw [Option.filter_some]
      by_cases same : id = other
      · simp [key, same]
      · have differs : other ≠ id := Ne.symm same
        simp [key, same, differs]
  refine ⟨fun other => ?_, fun other scope => ?_, fun other scope absent => ?_,
    fun other row found => ?_⟩
  · simp only [left, isRegistered]
    split
    next => rfl
    next => exact agrees.modules other
  · simp only [cleared, lastSetting]
    split
    next => rfl
    next => exact agrees.states other scope
  · simp only [left] at absent
    simp only [cleared]
    split
    next => rfl
    next differs =>
      rw [if_neg differs] at absent
      exact agrees.owned other scope absent
  · simp only [left] at found
    split at found
    next => cases found
    next differs =>
      simp only [lastSetting, if_neg differs]
      exact agrees.statuses other row found

end Effects

/-- Every call keeps the rows and the effects in agreement. -/
theorem Agrees.after {recorded : Recorded Settings} (agrees : Agrees recorded)
    (attempt : Attempt Settings) : Agrees (recorded.after config attempt) := by
  obtain ⟨registry, effects⟩ := recorded
  obtain ⟨outside, call⟩ := attempt
  simp only [Recorded.after, runInTransaction]
  split
  next value after works _ =>
    cases call with
    | register dto =>
      obtain ⟨saved, _, registers, returns⟩ := bind_ok works
      cases returns
      obtain ⟨rfl, _, ⟨fresh, isNew, _⟩ | ⟨existing, found, kept, _⟩⟩ := register_ok registers
      · simp only [effectOf, fresh, if_true]
        exact agrees_registered agrees fresh isNew
      · simp only [effectOf, found, reduceCtorEq, if_false]
        exact agrees_upgraded agrees found kept
    | enable id dto =>
      obtain ⟨saved, _, enables, returns⟩ := bind_ok works
      cases returns
      exact agrees_set agrees (enable_ok enables)
    | disable id dto =>
      obtain ⟨saved, _, disables, returns⟩ := bind_ok works
      cases returns
      exact agrees_set agrees (disable_ok disables)
    | deregister id =>
      obtain ⟨_, _, deregisters, returns⟩ := bind_ok works
      cases returns
      obtain ⟨modules, states, _⟩ := deregister_ok deregisters
      exact agrees_deregistered agrees modules states
  next => exact agrees
  next => exact agrees

theorem agrees_run {recorded : Recorded Settings} (agrees : Agrees recorded) :
    ∀ attempts : List (Attempt Settings), Agrees (recorded.run config attempts)
  | [] => agrees
  | attempt :: attempts => agrees_run (agrees.after attempt) attempts

theorem agrees_blank : Agrees (blank : Recorded Settings) :=
  ⟨fun _ => rfl, fun _ _ => rfl, fun _ _ _ => rfl, fun _ _ found => by cases found⟩

/-- After any history of calls, a module that is registered resolves to the last setting for the
tenant, or else the last global one, or else disabled; its status follows the last global setting. -/
theorem tenant_state_is_last_setting (config : RegistryConfig) (attempts : List (Attempt Settings))
    (id tenantId : String) : ((resolveTenantState (blank.run config attempts).registry id tenantId).map (·.enabled) =
      if isRegistered id (blank.run config attempts).effects then
        .ok (((lastSetting id (some tenantId) (blank.run config attempts).effects).or
          (lastSetting id none (blank.run config attempts).effects)).getD false) else .error (moduleNotFound id)) ∧
    ((blank.run config attempts).registry.modules.findOne id).map (·.status) =
      if isRegistered id (blank.run config attempts).effects then
        some (statusOf (lastSetting id none (blank.run config attempts).effects)) else none := by
  have agrees : Agrees (blank.run config attempts : Recorded Settings) :=
    agrees_run agrees_blank attempts
  have statuses := agrees.statuses id
  rw [← agrees.modules id, ← agrees.states id (some tenantId)]
  cases found : (blank.run config attempts).registry.modules.findOne id with
  | none => simp [resolveTenantState, found, Except.map]
  | some row =>
    refine ⟨?_, congrArg some (statuses row found)⟩
    rw [← agrees.states id none]
    simp only [resolveTenantState, found]
    cases (blank.run config attempts).registry.tenantStates.findOne (id, some tenantId) <;> rfl

/-- The modules have different names and fit the core. -/
structure Sound (config : RegistryConfig) (registry : Registry Settings) : Prop where
  names : (registry.modules.rows.map (·.name)).Nodup
  fits : ∀ row ∈ registry.modules.rows, config.satisfies config.coreVersion row.coreCompatibilityRange = true

/-- A module keeps its name and gets newer versions only, or is removed while it is enabled for no tenant and not
globally. -/
def Evolves (config : RegistryConfig) (before after : Registry Settings) : Prop :=
  ∀ id row, before.modules.findOne id = some row →
    (∃ later, after.modules.findOne id = some later ∧ later.name = row.name ∧
      (later.version = row.version ∨ config.gt later.version row.version = true)) ∨
    (after.modules.findOne id = none ∧
      ∀ state ∈ before.tenantStates.rows, state.moduleId = id → state.enabled = false)

section Modules
variable {registry after : Registry Settings}

theorem Evolves.refl (registry : Registry Settings) : Evolves config registry registry :=
  fun _ row found => Or.inl ⟨row, found, rfl, Or.inl rfl⟩

/-- A row is put in the place of another one with its name. -/
theorem Sound.replaced {row old : ModuleEntity} (sound : Sound config registry)
    (found : registry.modules.findOne row.id = some old) (named : row.name = old.name)
    (satisfied : config.satisfies config.coreVersion row.coreCompatibilityRange = true)
    (modules : after.modules = registry.modules.save row) : Sound config after where
  names := by
    rw [modules, Table.map_save found named]
    exact sound.names
  fits other member := by
    rw [modules] at member
    rcases Table.mem_save.mp member with rfl | ⟨stored, _⟩
    · exact satisfied
    · exact sound.fits other stored

theorem evolves_save {row old : ModuleEntity} (found : registry.modules.findOne row.id = some old)
    (named : row.name = old.name) (newer : row.version = old.version ∨ config.gt row.version old.version = true)
    (modules : after.modules = registry.modules.save row) : Evolves config registry after := by
  intro id other isOther
  rw [modules]
  by_cases same : id = row.id
  · subst same
    rw [found] at isOther
    cases isOther
    exact Or.inl ⟨row, Table.findOne_save_self _ row, named, newer⟩
  · exact Or.inl ⟨other, by rw [Table.findOne_save_other _ same, isOther], rfl, Or.inl rfl⟩

theorem Sets.sound {id : String} {tenantId : Option String} {enabled : Bool} (sound : Sound config registry)
    (sets : Sets registry id tenantId enabled after) : Sound config after ∧ Evolves config registry after := by
  obtain ⟨⟨row, found, modules⟩, _⟩ := sets
  have key : row.id = id := Table.findOne_key found
  subst key
  split at modules
  next =>
    let changed : ModuleEntity := { row with status := statusOf (some enabled) }
    have isFound : registry.modules.findOne changed.id = some row := found
    exact ⟨sound.replaced isFound rfl (sound.fits row (Table.findOne_mem found)) modules,
      evolves_save isFound rfl (Or.inl rfl) modules⟩
  next =>
    have sound' : Sound config after := ⟨modules ▸ sound.names, modules ▸ sound.fits⟩
    refine ⟨sound', fun id other isOther => Or.inl ⟨other, modules ▸ isOther, rfl, Or.inl rfl⟩⟩

/-- Every call keeps the modules sound and lets each of them evolve, whether it fails or not. -/
theorem Sound.call {recorded : Recorded Settings} (sound : Sound config recorded.registry)
    (attempt : Attempt Settings) : Sound config (recorded.after config attempt).registry ∧
      Evolves config recorded.registry (recorded.after config attempt).registry := by
  obtain ⟨registry, effects⟩ := recorded
  obtain ⟨outside, call⟩ := attempt
  simp only [Recorded.after, runInTransaction]
  split
  next value after works _ =>
    cases call with
    | register dto =>
      obtain ⟨saved, _, registers, returns⟩ := bind_ok works
      cases returns
      obtain ⟨rfl, satisfied, ⟨fresh, _, unnamed⟩ | ⟨existing, found, _, named, newer⟩⟩ :=
        register_ok registers
      · refine ⟨⟨?_, fun other member => ?_⟩, fun id row found => ?_⟩
        · rw [Table.save_new fresh, List.map_append, List.map_singleton]
          refine List.nodup_append.mpr ⟨sound.names, List.nodup_singleton _, ?_⟩
          rintro _ member _ last rfl
          obtain ⟨row, stored, same⟩ := List.mem_map.mp member
          exact unnamed row stored (same.trans (List.mem_singleton.mp last))
        · rcases Table.mem_save.mp member with rfl | ⟨stored, _⟩
          · exact satisfied
          · exact sound.fits other stored
        · have differs : id ≠ saved.id := by
            rintro rfl
            rw [fresh] at found
            cases found
          exact Or.inl ⟨row, by rw [Table.findOne_save_other _ differs, found], rfl, Or.inl rfl⟩
      · exact ⟨sound.replaced found named satisfied rfl, evolves_save found named (Or.inr newer) rfl⟩
    | enable id dto =>
      obtain ⟨saved, _, enables, returns⟩ := bind_ok works
      cases returns
      exact (enable_ok enables).sound sound
    | disable id dto =>
      obtain ⟨saved, _, disables, returns⟩ := bind_ok works
      cases returns
      exact (disable_ok disables).sound sound
    | deregister id =>
      obtain ⟨_, _, deregisters, returns⟩ := bind_ok works
      cases returns
      obtain ⟨modules, _, idle⟩ := deregister_ok deregisters
      have kept : after.modules.rows.Sublist registry.modules.rows := modules ▸ List.filter_sublist
      refine ⟨⟨sound.names.sublist (kept.map _), fun row member => sound.fits row (kept.subset member)⟩,
        fun other row found => ?_⟩
      have key : row.id = other := Table.findOne_key found
      by_cases same : other = id
      · subst same
        have gone : after.modules.findOne other = none := by
          rw [modules]
          simp [Table.findOne_delete, found, key]
        exact Or.inr ⟨gone, idle⟩
      · have stays : after.modules.findOne other = some row := by
          rw [modules]
          simp [Table.findOne_delete, found, key, same]
        exact Or.inl ⟨row, stays, rfl, Or.inl rfl⟩
  next => exact ⟨sound, Evolves.refl _⟩
  next => exact ⟨sound, Evolves.refl _⟩

/-- After any history of calls, rejected and failing ones among them, the modules have different names and fit the
running core; and with the next call every module keeps its name and its version or gets a newer one, or it is removed,
when nobody has it enabled. -/
theorem modules_evolve (config : RegistryConfig) (attempts : List (Attempt Settings)) (next : Attempt Settings) :
    Sound config (blank.run config attempts).registry ∧
      Evolves config (blank.run config attempts).registry ((blank.run config attempts).after config next).registry := by
  have every : ∀ (attempts : List (Attempt Settings)) (recorded : Recorded Settings),
      Sound config recorded.registry → Sound config (recorded.run config attempts).registry := by
    intro attempts
    induction attempts with
    | nil => exact fun _ sound => sound
    | cons attempt rest ih => exact fun _ sound => ih _ (sound.call attempt).1
  have sound := every attempts blank ⟨List.nodup_nil, fun _ member => nomatch member⟩
  exact ⟨sound, (sound.call next).2⟩

end Modules

end AlianStructure.Guarantees.ModuleStates
