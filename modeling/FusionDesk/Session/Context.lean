import FusionDesk.Module.Manifest

/-!
# The session context

`include/fusiondesk/core/session/session_context.h` and the policy types the module host asks a
decision of.  Of the context these are the fields that the session and the module host read or
change; of the policy context only the session is ever filled in by the module host.
-/

namespace FusionDesk
namespace Session

open Protocol FusionDesk.Module

inductive SessionRole
  | client
  | agent
  | auth
  | relay
  | standalone
  deriving DecidableEq, Repr

structure SessionContext where
  sessionId : SessionId := 0
  traceId : TraceId := 0
  localPlatform : String := ""
  role : SessionRole := .standalone
  requestedFeatures : FeatureSet := {}
  allowedFeatures : FeatureSet := {}
  policyVersion : String := ""
  reconnectCount : UInt32 := 0
  deriving DecidableEq, Repr

/-! ## Policy -/

inductive DenyReason
  | none
  | featureNotLicensed
  | featureDisabledByPolicy
  | unsupportedPlatform
  | missingDependency
  | moduleVersionMismatch
  | transportNotAllowed
  | runtimeHealthBlocked
  deriving DecidableEq, Repr

structure PolicyDecision where
  allowed : Bool := false
  reason : DenyReason := .featureDisabledByPolicy
  message : String := ""
  effectiveFeatures : FeatureSet := {}
  deriving DecidableEq, Repr

structure PolicyContext where
  session : SessionContext := {}
  deriving DecidableEq, Repr

/-- `class IPolicyEngine`, as the module host uses it. -/
structure IPolicyEngine where
  authorizeModule : PolicyContext → ModuleManifest → PolicyDecision

end Session
end FusionDesk
