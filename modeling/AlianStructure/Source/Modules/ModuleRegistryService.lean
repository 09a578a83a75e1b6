import Mathlib.Data.Rat.Defs
import AlianStructure.Library.KeyedTable
import AlianStructure.Source.Exception

/-!
# The module registry

Source: src/modules/registry/module-registry.service.ts:42-289 with its entities and DTOs. A method
runs in a transaction: what it has written is dropped when it throws. The validation of manifests, the
versions and the entry points of modules are parameters. The unique indexes of the states, one for a
tenant and one for the global default of a module, are their key.
-/
namespace AlianStructure.Source.Modules
open Library.KeyedTable

structure ModuleManifestHooks where
  onInstall : Bool
  onUpgrade : Bool
  onUninstall : Bool
  deriving DecidableEq

structure ModuleManifest where
  name : String
  version : String
  core : String
  hooks : ModuleManifestHooks
  entryPoint : String
  deriving DecidableEq

inductive ModuleStatus where
  | registered | enabled | disabled | deprecated
  deriving DecidableEq

structure ModuleEntity where
  id : String
  name : String
  version : String
  description : String
  author : String
  entryPoint : String
  coreCompatibilityRange : String
  hooks : ModuleManifestHooks
  status : ModuleStatus
  deriving DecidableEq

/-- The state of a module for a tenant, or for none, its global default. -/
structure TenantModuleState (Settings : Type) where
  id : String
  tenantId : Option String
  moduleId : String
  enabled : Bool
  enabledAt : Option ℚ
  config : Option Settings
  deriving DecidableEq

/-- A module has one state for a tenant, and one global default. -/
def TenantModuleState.key {Settings : Type} (state : TenantModuleState Settings) :
    String × Option String :=
  (state.moduleId, state.tenantId)

structure RegisterModuleDto where
  manifest : ModuleManifest
  description : String
  author : String

/-- An absent config is not the null config. -/
structure EnableModuleDto (Settings : Type) where
  tenantId : Option String
  config : Option (Option Settings)

structure DisableModuleDto where
  tenantId : Option String

inductive ModuleStateSource where
  | tenant | global | implicit
  deriving DecidableEq

structure ResolvedModuleState (Settings : Type) where
  moduleId : String
  tenantId : String
  stateId : Option String
  enabled : Bool
  config : Option Settings
  source : ModuleStateSource
  deriving DecidableEq

/-- The hooks that an entry point exports. -/
structure ModuleLifecycle where
  onInstall : Except Exception Unit
  onUpgrade : String → String → Except Exception Unit
  onUninstall : Except Exception Unit

structure RegistryConfig where
  coreVersion : String
  /-- The version is in the range, prereleases included. -/
  satisfies : String → String → Bool
  /-- The first version is newer. -/
  gt : String → String → Bool
  validate : ModuleManifest → Except Exception ModuleManifest

/-- What a method meets outside: the modules that it loads, the clock, the id for a new row, and
whether the database gives the transaction up. -/
structure Surroundings where
  load : ModuleManifest → Except Exception ModuleLifecycle
  now : ℚ
  newId : String
  interrupted : Option Exception

structure Registry (Settings : Type) where
  modules : Table ModuleEntity ModuleEntity.id
  tenantStates : Table (TenantModuleState Settings) TenantModuleState.key

abbrev Transaction (Settings : Type) := StateT (Registry Settings) (Except Exception)

namespace ModuleRegistryService
variable {Settings : Type} (config : RegistryConfig) (outside : Surroundings)

/-! ## Rows -/

def findModule (id : String) : Transaction Settings (Option ModuleEntity) := do
  return (← get).modules.findOne id

def findModuleByName (name : String) : Transaction Settings (Option ModuleEntity) := do
  return (← get).modules.rows.find? fun row => decide (row.name = name)

def saveModule (row : ModuleEntity) : Transaction Settings ModuleEntity := do
  modify fun registry => { registry with modules := registry.modules.save row }
  return row

/-- A new row gets the id of the database, which has no other such row. -/
def insertModule (row : ModuleEntity) : Transaction Settings ModuleEntity := do
  let existing ← findModule outside.newId
  match existing with
  | none => saveModule { row with id := outside.newId }
  | some _ => throw (.error "duplicate key value violates unique constraint")

def removeModule (id : String) : Transaction Settings Unit :=
  modify fun registry =>
    { registry with modules := registry.modules.delete fun row => decide (row.id = id) }

def findState (moduleId : String) (tenantId : Option String) :
    Transaction Settings (Option (TenantModuleState Settings)) := do
  return (← get).tenantStates.findOne (moduleId, tenantId)

def saveState (row : TenantModuleState Settings) :
    Transaction Settings (TenantModuleState Settings) := do
  modify fun registry => { registry with tenantStates := registry.tenantStates.save row }
  return row

def countEnabled (moduleId : String) : Transaction Settings Nat := do
  return (← get).tenantStates.rows.countP fun row => decide (row.moduleId = moduleId) && row.enabled

def deleteStates (moduleId : String) : Transaction Settings Unit :=
  modify fun registry => { registry with
    tenantStates := registry.tenantStates.delete fun row => decide (row.moduleId = moduleId) }

/-! ## Methods -/

def assertCompatible (moduleName requiredRange : String) : Except Exception Unit :=
  if config.satisfies config.coreVersion requiredRange then .ok ()
  else .error (.badRequest ("Module " ++ moduleName ++ " requires core version \"" ++ requiredRange ++
    "\", but the running core version is \"" ++ config.coreVersion ++ "\""))

def moduleNotFound (id : String) : Exception := .notFound ("Module " ++ id ++ " not found")

/-- Run a hook that the manifest declares. -/
def runHook (declared : Bool) (hook : Except Exception Unit) : Except Exception Unit :=
  if declared then hook else .ok ()

def registerWork (dto : RegisterModuleDto) (manifest : ModuleManifest) (lifecycle : ModuleLifecycle) :
    Transaction Settings ModuleEntity := do
  let found ← findModuleByName manifest.name
  match found with
  | none => do
    let saved ← insertModule outside {
      id := ""
      name := manifest.name
      version := manifest.version
      description := dto.description
      author := dto.author
      entryPoint := manifest.entryPoint
      coreCompatibilityRange := manifest.core
      hooks := manifest.hooks
      status := .registered }
    liftM (runHook manifest.hooks.onInstall lifecycle.onInstall)
    return saved
  | some existing =>
    if config.gt manifest.version existing.version then do
      liftM (runHook manifest.hooks.onUpgrade
        (lifecycle.onUpgrade existing.version manifest.version))
      saveModule { existing with
        version := manifest.version
        description := dto.description
        author := dto.author
        entryPoint := manifest.entryPoint
        coreCompatibilityRange := manifest.core
        hooks := manifest.hooks }
    else throw (.conflict ("Module " ++ manifest.name ++ "@" ++ existing.version ++
      " is already registered; an upgrade must use a newer version"))

def register (dto : RegisterModuleDto) : Transaction Settings ModuleEntity := do
  let manifest ← liftM (config.validate dto.manifest)
  liftM (assertCompatible config manifest.name manifest.core)
  let lifecycle ← liftM (outside.load manifest)
  registerWork config outside dto manifest lifecycle

/-- The row that enable saves. -/
def enabledState (id : String) (dto : EnableModuleDto Settings) :
    Option (TenantModuleState Settings) → TenantModuleState Settings
  | none => {
      id := outside.newId
      tenantId := dto.tenantId
      moduleId := id
      enabled := true
      enabledAt := some outside.now
      config := dto.config.join }
  | some state => { state with
      enabled := true
      enabledAt := some outside.now
      config := dto.config.getD state.config }

def disabledState (id : String) (dto : DisableModuleDto) :
    Option (TenantModuleState Settings) → TenantModuleState Settings
  | none => {
      id := outside.newId
      tenantId := dto.tenantId
      moduleId := id
      enabled := false
      enabledAt := none
      config := none }
  | some state => { state with enabled := false, enabledAt := none }

/-- A global setting is the status of the module as well. -/
def saveStatus (registryModule : ModuleEntity) (tenantId : Option String) (status : ModuleStatus) :
    Transaction Settings Unit :=
  match tenantId with
  | none => do
    let _ ← saveModule { registryModule with status }
    return
  | some _ => return

def enable (id : String) (dto : EnableModuleDto Settings) :
    Transaction Settings (TenantModuleState Settings) := do
  let found ← findModule id
  match found with
  | none => throw (moduleNotFound id)
  | some registryModule => do
    liftM (assertCompatible config registryModule.name registryModule.coreCompatibilityRange)
    let state ← findState id dto.tenantId
    saveStatus registryModule dto.tenantId .enabled
    saveState (enabledState outside id dto state)

def disable (id : String) (dto : DisableModuleDto) :
    Transaction Settings (TenantModuleState Settings) := do
  let found ← findModule id
  match found with
  | none => throw (moduleNotFound id)
  | some registryModule => do
    let state ← findState id dto.tenantId
    saveStatus registryModule dto.tenantId .disabled
    saveState (disabledState outside id dto state)

def manifestOf (registryModule : ModuleEntity) : ModuleManifest where
  name := registryModule.name
  version := registryModule.version
  core := registryModule.coreCompatibilityRange
  hooks := registryModule.hooks
  entryPoint := registryModule.entryPoint

def uninstall (registryModule : ModuleEntity) : Transaction Settings Unit := do
  let lifecycle ← liftM (outside.load (manifestOf registryModule))
  liftM (runHook registryModule.hooks.onUninstall lifecycle.onUninstall)
  deleteStates registryModule.id
  removeModule registryModule.id

def deregister (id : String) : Transaction Settings Unit := do
  let found ← findModule id
  match found with
  | none => throw (moduleNotFound id)
  | some registryModule => do
    let enabledStateCount ← countEnabled id
    if 0 < enabledStateCount then
      throw (.conflict ("Module " ++ registryModule.name ++
        " cannot be deregistered while enabled for any tenant or the global default"))
    else uninstall outside registryModule

/-- The state that holds for a tenant: its own, or the global default. -/
def resolveTenantState (registry : Registry Settings) (id tenantId : String) :
    Except Exception (ResolvedModuleState Settings) :=
  match registry.modules.findOne id with
  | none => .error (moduleNotFound id)
  | some _ =>
    let tenantState := registry.tenantStates.findOne (id, some tenantId)
    let globalState := registry.tenantStates.findOne (id, none)
    let effectiveState := tenantState.or globalState
    .ok {
      moduleId := id
      tenantId
      stateId := effectiveState.map (·.id)
      enabled := (effectiveState.map (·.enabled)).getD false
      config := effectiveState.bind (·.config)
      source := if tenantState.isSome then .tenant else if globalState.isSome then .global
        else .implicit }

end ModuleRegistryService

/-! ## Calls -/

inductive RegistryCall (Settings : Type) where
  | register (dto : RegisterModuleDto)
  | enable (id : String) (dto : EnableModuleDto Settings)
  | disable (id : String) (dto : DisableModuleDto)
  | deregister (id : String)

inductive RegistryValue (Settings : Type) where
  | module (row : ModuleEntity)
  | state (row : TenantModuleState Settings)
  | nothing

namespace ModuleRegistryService
variable {Settings : Type} (config : RegistryConfig) (outside : Surroundings)

def work : RegistryCall Settings → Transaction Settings (RegistryValue Settings)
  | .register dto => do return .module (← register config outside dto)
  | .enable id dto => do return .state (← enable config outside id dto)
  | .disable id dto => do return .state (← disable outside id dto)
  | .deregister id => do
    deregister outside id
    return .nothing

/-- The registry after a transaction, and what it has returned or thrown. -/
def runInTransaction (registry : Registry Settings) (call : RegistryCall Settings) :
    Registry Settings × Except Exception (RegistryValue Settings) :=
  match work config outside call registry, outside.interrupted with
  | .ok (value, after), none => (after, .ok value)
  | .ok _, some failure => (registry, .error failure)
  | .error failure, _ => (registry, .error failure)

end ModuleRegistryService

end AlianStructure.Source.Modules
