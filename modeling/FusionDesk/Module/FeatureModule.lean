import FusionDesk.Module.Host

/-!
# The feature module

`FeatureModule` under `src/modules/feature/feature_module_factory.cpp`, the implementation of
`IModule` behind the features that need nothing but a manifest, and the manifest of one of them.
-/

namespace FusionDesk
namespace Module

open Protocol Network Session

/-- `class FeatureModule`. -/
structure FeatureModule where
  manifest : ModuleManifest
  state : ModuleState := .created
  starts : ℕ := 0
  stops : ℕ := 0
  packetsReceived : ℕ := 0
  deriving DecidableEq, Repr

namespace FeatureModule

def stateName : ModuleState → String
  | .created => "created"
  | .attached => "attached"
  | .starting => "starting"
  | .running => "running"
  | .stopping => "stopping"
  | .stopped => "stopped"
  | .detached => "detached"
  | .failed => "failed"

def attach (module : FeatureModule) : Bool × FeatureModule :=
  (module.manifest.moduleId ≠ "", { module with state := .attached })

/-- `start`: a module that is not attached or stopped fails. -/
def start (module : FeatureModule) : Bool × FeatureModule :=
  if module.state ≠ .attached ∧ module.state ≠ .stopped then
    (false, { module with state := .failed })
  else (true, { module with state := .running, starts := module.starts + 1 })

def stop (module : FeatureModule) : FeatureModule :=
  { module with state := .stopped, stops := module.stops + 1 }

def diagnostics (module : FeatureModule) : String :=
  "feature.module id=" ++ module.manifest.moduleId ++ " state=" ++ stateName module.state ++
    " starts=" ++ toString module.starts ++ " stops=" ++ toString module.stops ++
    " packets=" ++ toString module.packetsReceived

instance : IModule FeatureModule where
  manifest := manifest
  state := state
  attach module _ := module.attach
  start module _ := module.start
  stop module _ := module.stop
  diagnostics := diagnostics
  manifest_attach _ _ := rfl
  manifest_start module _ := by
    unfold start
    split_ifs
    · rfl
    · rfl
  manifest_stop _ _ := rfl
  start_false module _ _ hfalse := by
    unfold start at hfalse ⊢
    split_ifs at hfalse ⊢
    exact fun h => ModuleState.noConfusion h
  state_stop _ _ := fun h => ModuleState.noConfusion h

end FeatureModule

/-- `catalog::gamepad()`. -/
def gamepad : ModuleManifest where
  moduleId := "input.gamepad"
  feature := 0x0000000000001000
  roleFlags := moduleRoleClient ||| moduleRoleAgent
  supportedPlatforms := ["windows", "linux", "macos"]
  channels := [{ channelId := ChannelIdValue.gamepad, consumes := [.gamepad] }]

end Module
end FusionDesk
