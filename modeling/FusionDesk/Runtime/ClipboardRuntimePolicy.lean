import FusionDesk.Clipboard.Policy
import FusionDesk.Session.Context
import Mathlib.Data.List.DropRight

/-!
# The runtime policy of the clipboard

`src/runtime/feature/clipboard_runtime_policy.cpp` and `clipboard_product_policy.cpp`: a policy
decides on each operation of the runtime, counts what it decides, and keeps the last of the events
that it is told.  Who consults it tells it of a decision or does not, by a rule of its own; the three
rules are in `clipboard_runtime_service.cpp` and `clipboard_runtime_remote_object_lock.cpp`.

* `consult`: a decision and what the policy is told of it.
* `consulted_exact`: what a configurable policy has counted and kept after any consultations.
-/

namespace FusionDesk

open Protocol Session

namespace Runtime

open Clipboard (StdString bytesOf)

inductive ClipboardRuntimeOperation
  | localSnapshotAnnounce
  | remoteFormatRead
  | remoteFileRangeRead
  | remoteObjectLock
  | remoteObjectUnlock
  | pendingReadExpiry
  deriving DecidableEq, Repr

structure ClipboardRuntimePolicyContext where
  sessionId : SessionId := 0
  traceId : TraceId := 0
  role : SessionRole := .standalone
  moduleId : String := ""
  policyVersion : String := ""
  operation : ClipboardRuntimeOperation := .localSnapshotAnnounce
  bundleId : UInt64 := 0
  offerId : UInt64 := 0
  ownerEpoch : UInt64 := 0
  sequence : UInt64 := 0
  objectId : UInt64 := 0
  requestedBytes : UInt64 := 0
  fileIndex : UInt32 := 0
  formatCount : ℕ := 0
  canonicalFormat : StdString := []
  deriving DecidableEq, Repr

structure ClipboardRuntimePolicyDecision where
  allowed : Bool := true
  auditRequired : Bool := false
  responseStatus : ResponseStatus := .ok
  reason : StdString := []
  deriving DecidableEq, Repr

namespace ClipboardRuntimePolicyDecision

def allow (audit : Bool) (reason : StdString) : ClipboardRuntimePolicyDecision :=
  ⟨true, audit, .ok, reason⟩

def deny (status : ResponseStatus) (reason : StdString) : ClipboardRuntimePolicyDecision :=
  ⟨false, true, status, reason⟩

end ClipboardRuntimePolicyDecision

structure ClipboardRuntimeAuditEvent where
  context : ClipboardRuntimePolicyContext := {}
  allowed : Bool := true
  responseStatus : ResponseStatus := .ok
  reason : StdString := []
  deriving DecidableEq, Repr

/-- `class IClipboardRuntimePolicy`. -/
class IClipboardRuntimePolicy (P : Type) where
  authorize : P → ClipboardRuntimePolicyContext → ClipboardRuntimePolicyDecision × P
  audit : P → ClipboardRuntimeAuditEvent → P

/-! ## The policy that allows all -/

/-- `class AllowAllClipboardRuntimePolicy`, which the reader and the service take in place of none. -/
structure AllowAllClipboardRuntimePolicy where
  auditEvents : List ClipboardRuntimeAuditEvent := []

instance : IClipboardRuntimePolicy AllowAllClipboardRuntimePolicy where
  authorize policy _ := (.allow false (bytesOf "allowed"), policy)
  audit policy event := { auditEvents := policy.auditEvents ++ [event] }

/-! ## The configurable policy -/

structure ClipboardRuntimePolicyRules where
  auditAllowed : Bool := false
  maxRecentAuditEvents : ℕ := 16
  allowLocalSnapshotAnnounce : Bool := true
  allowRemoteFormatRead : Bool := true
  allowRemoteFileRangeRead : Bool := true
  allowRemoteObjectLock : Bool := true
  allowRemoteObjectUnlock : Bool := true
  allowPendingReadExpiry : Bool := true
  denialReason : StdString := bytesOf "clipboard_runtime_policy_denied"
  deriving DecidableEq, Repr

structure ClipboardRuntimePolicySnapshot where
  authorizeCalls : ℕ := 0
  allowed : ℕ := 0
  denied : ℕ := 0
  auditEvents : ℕ := 0
  auditedAllowed : ℕ := 0
  auditedDenied : ℕ := 0
  lastOperation : ClipboardRuntimeOperation := .localSnapshotAnnounce
  lastAllowed : Bool := true
  lastStatus : ResponseStatus := .ok
  lastBundleId : UInt64 := 0
  lastOfferId : UInt64 := 0
  lastOwnerEpoch : UInt64 := 0
  lastObjectId : UInt64 := 0
  lastRequestedBytes : UInt64 := 0
  lastFileIndex : UInt32 := 0
  lastCanonicalFormat : StdString := []
  lastReason : StdString := []
  recentAuditEvents : List ClipboardRuntimeAuditEvent := []
  deriving DecidableEq, Repr

/-- `class ConfigurableClipboardRuntimePolicy`. -/
structure ConfigurableClipboardRuntimePolicy where
  rules : ClipboardRuntimePolicyRules := {}
  snapshot : ClipboardRuntimePolicySnapshot := {}

/-- What `authorize` and `audit` write down of the operation at hand. -/
def ClipboardRuntimePolicySnapshot.noting (snapshot : ClipboardRuntimePolicySnapshot)
    (context : ClipboardRuntimePolicyContext) (allowed : Bool) (status : ResponseStatus)
    (reason : StdString) : ClipboardRuntimePolicySnapshot :=
  { snapshot with
    lastOperation := context.operation
    lastBundleId := context.bundleId
    lastOfferId := context.offerId
    lastOwnerEpoch := context.ownerEpoch
    lastObjectId := context.objectId
    lastRequestedBytes := context.requestedBytes
    lastFileIndex := context.fileIndex
    lastCanonicalFormat := context.canonicalFormat
    lastAllowed := allowed
    lastStatus := status
    lastReason := reason }

/-- The loop at the end of `audit`. -/
def eraseOldest {α : Type} (max : ℕ) : List α → List α
  | [] => []
  | event :: rest => if (event :: rest).length > max then eraseOldest max rest else event :: rest

namespace ConfigurableClipboardRuntimePolicy

def operationAllowed (rules : ClipboardRuntimePolicyRules) : ClipboardRuntimeOperation → Bool
  | .localSnapshotAnnounce => rules.allowLocalSnapshotAnnounce
  | .remoteFormatRead => rules.allowRemoteFormatRead
  | .remoteFileRangeRead => rules.allowRemoteFileRangeRead
  | .remoteObjectLock => rules.allowRemoteObjectLock
  | .remoteObjectUnlock => rules.allowRemoteObjectUnlock
  | .pendingReadExpiry => rules.allowPendingReadExpiry

def authorize (policy : ConfigurableClipboardRuntimePolicy)
    (context : ClipboardRuntimePolicyContext) :
    ClipboardRuntimePolicyDecision × ConfigurableClipboardRuntimePolicy :=
  let snapshot := { policy.snapshot with authorizeCalls := policy.snapshot.authorizeCalls + 1 }
  if operationAllowed policy.rules context.operation = false then
    (.deny .deniedByPolicy policy.rules.denialReason, { policy with
      snapshot := { snapshot.noting context false .deniedByPolicy policy.rules.denialReason with
        denied := snapshot.denied + 1 } })
  else
    (.allow (policy.rules.auditAllowed && context.operation != .pendingReadExpiry)
      (bytesOf "allowed"), { policy with
      snapshot := { snapshot.noting context true .ok (bytesOf "allowed") with
        allowed := snapshot.allowed + 1 } })

def audit (policy : ConfigurableClipboardRuntimePolicy) (event : ClipboardRuntimeAuditEvent) :
    ConfigurableClipboardRuntimePolicy :=
  let snapshot := { policy.snapshot with
    auditEvents := policy.snapshot.auditEvents + 1
    auditedAllowed := policy.snapshot.auditedAllowed + if event.allowed then 1 else 0
    auditedDenied := policy.snapshot.auditedDenied + if event.allowed then 0 else 1 }
  { policy with
    snapshot := { snapshot.noting event.context event.allowed event.responseStatus event.reason with
      recentAuditEvents :=
        if policy.rules.maxRecentAuditEvents = 0 then []
        else eraseOldest policy.rules.maxRecentAuditEvents (snapshot.recentAuditEvents ++ [event]) } }

instance : IClipboardRuntimePolicy ConfigurableClipboardRuntimePolicy := ⟨authorize, audit⟩

end ConfigurableClipboardRuntimePolicy

/-! ## The policy of the product -/

structure ProductClipboardPolicy where
  modulePolicy : Clipboard.ClipboardPolicy := {}
  runtimeRules : ClipboardRuntimePolicyRules := {}

/-- `clipboardRuntimePolicyRulesFromProductPolicy`. -/
def clipboardRuntimePolicyRulesFromProductPolicy (policy : ProductClipboardPolicy) :
    ClipboardRuntimePolicyRules :=
  if policy.modulePolicy.allowFileContents = false then
    { policy.runtimeRules with
      allowRemoteFileRangeRead := false
      allowRemoteObjectLock := false
      allowRemoteObjectUnlock := false }
  else policy.runtimeRules

def makeClipboardRuntimePolicyFromProductPolicy (policy : ProductClipboardPolicy) :
    ConfigurableClipboardRuntimePolicy where
  rules := clipboardRuntimePolicyRulesFromProductPolicy policy

/-! ## Consultations -/

/-- Whether the policy is told of its decision. -/
inductive AuditRule
  /-- The announcements, and the reads of formats and of file ranges. -/
  | deniedOrRequired
  /-- The locks of objects. -/
  | required
  /-- The expiry of reads. -/
  | denied
  deriving DecidableEq, Repr

def AuditRule.audits : AuditRule → ClipboardRuntimePolicyDecision → Bool
  | .deniedOrRequired, decision => !decision.allowed || decision.auditRequired
  | .required, decision => decision.auditRequired
  | .denied, decision => !decision.allowed

def auditEvent (context : ClipboardRuntimePolicyContext)
    (decision : ClipboardRuntimePolicyDecision) : ClipboardRuntimeAuditEvent :=
  ⟨context, decision.allowed, decision.responseStatus, decision.reason⟩

/-- The policy decides, and is told of the decision if the rule says so. -/
def consult {P : Type} [IClipboardRuntimePolicy P] (rule : AuditRule) (policy : P)
    (context : ClipboardRuntimePolicyContext) : ClipboardRuntimePolicyDecision × P :=
  let authorized := IClipboardRuntimePolicy.authorize policy context
  if rule.audits authorized.1 then
    (authorized.1, IClipboardRuntimePolicy.audit authorized.2 (auditEvent context authorized.1))
  else authorized

/-- The rule of the caller that does the operation. -/
def auditRuleOf : ClipboardRuntimeOperation → AuditRule
  | .localSnapshotAnnounce => .deniedOrRequired
  | .remoteFormatRead => .deniedOrRequired
  | .remoteFileRangeRead => .deniedOrRequired
  | .remoteObjectLock => .required
  | .remoteObjectUnlock => .required
  | .pendingReadExpiry => .denied

/-! ## The last events -/

/-- What is left are the last `max` of them. -/
theorem eraseOldest_eq_rtake {α : Type} (max : ℕ) (events : List α) :
    eraseOldest max events = events.rtake max := by
  induction events with
  | nil => rw [List.rtake_nil, eraseOldest]
  | cons event rest ih =>
    rw [eraseOldest]
    by_cases h : (event :: rest).length > max
    · have hlength : (event :: rest).length - max = rest.length - max + 1 := by
        simp only [List.length_cons] at h ⊢
        omega
      rw [if_pos h, ih, List.rtake, List.rtake, hlength, List.drop_succ_cons]
    · have hlength : (event :: rest).length - max = 0 := by omega
      rw [if_neg h, List.rtake, hlength, List.drop_zero]

/-- The last `max` of a list that is kept to its last `max` as it grows. -/
theorem rtake_concat {α : Type} (max : ℕ) (events : List α) (event : α) :
    (events.rtake max ++ [event]).rtake max = (events ++ [event]).rtake max := by
  cases max with
  | zero => rw [List.rtake_zero, List.rtake_zero]
  | succ max =>
    rw [List.rtake_concat_succ, List.rtake_concat_succ, List.rtake, List.rtake, List.rtake,
      List.drop_drop, List.length_drop]
    congr 2
    omega

namespace ConfigurableClipboardRuntimePolicy

variable (rules : ClipboardRuntimePolicyRules)

/-! ## What a configurable policy is consulted about -/

/-- The decision on an operation. -/
def decision (operation : ClipboardRuntimeOperation) : ClipboardRuntimePolicyDecision :=
  if operationAllowed rules operation = false then .deny .deniedByPolicy rules.denialReason
  else .allow (rules.auditAllowed && operation != .pendingReadExpiry) (bytesOf "allowed")

/-- The policy is told of its decision. -/
def told (context : ClipboardRuntimePolicyContext) : Bool :=
  (auditRuleOf context.operation).audits (decision rules context.operation)

/-- And this is what it is told. -/
def toldEvent (context : ClipboardRuntimePolicyContext) : ClipboardRuntimeAuditEvent :=
  auditEvent context (decision rules context.operation)

/-- Every denial is told, and what is allowed if the rules ask for it, expiries apart. -/
theorem told_iff (context : ClipboardRuntimePolicyContext) :
    told rules context = true ↔ operationAllowed rules context.operation = false ∨
      rules.auditAllowed = true ∧ context.operation ≠ .pendingReadExpiry := by
  unfold told decision
  cases hallowed : operationAllowed rules context.operation with
  | false =>
    rw [if_pos rfl]
    cases context.operation <;> simp [auditRuleOf, AuditRule.audits,
      ClipboardRuntimePolicyDecision.deny]
  | true =>
    rw [if_neg Bool.true_eq_false.mp]
    cases context.operation <;> simp [auditRuleOf, AuditRule.audits,
      ClipboardRuntimePolicyDecision.allow]

/-- A count that goes up if something holds. -/
def countIf (holds : Bool) : ℕ := if holds then 1 else 0

theorem allowed_decision (operation : ClipboardRuntimeOperation) :
    (decision rules operation).allowed = operationAllowed rules operation := by
  unfold decision
  cases operationAllowed rules operation <;> rfl

theorem authorize_eq (policy : ConfigurableClipboardRuntimePolicy)
    (context : ClipboardRuntimePolicyContext) :
    policy.authorize context = (decision policy.rules context.operation, { policy with
      snapshot := { policy.snapshot.noting context
          (decision policy.rules context.operation).allowed
          (decision policy.rules context.operation).responseStatus
          (decision policy.rules context.operation).reason with
        authorizeCalls := policy.snapshot.authorizeCalls + 1
        allowed :=
          policy.snapshot.allowed + countIf (operationAllowed policy.rules context.operation)
        denied := policy.snapshot.denied +
          countIf (!operationAllowed policy.rules context.operation) } }) := by
  unfold authorize decision
  cases operationAllowed policy.rules context.operation <;> rfl

theorem audit_eq (policy : ConfigurableClipboardRuntimePolicy)
    (event : ClipboardRuntimeAuditEvent) :
    policy.audit event = { policy with
      snapshot := { policy.snapshot.noting event.context event.allowed event.responseStatus
          event.reason with
        auditEvents := policy.snapshot.auditEvents + 1
        auditedAllowed := policy.snapshot.auditedAllowed + countIf event.allowed
        auditedDenied := policy.snapshot.auditedDenied + countIf (!event.allowed)
        recentAuditEvents := (policy.snapshot.recentAuditEvents ++ [event]).rtake
          policy.rules.maxRecentAuditEvents } } := by
  have hrecent : (if policy.rules.maxRecentAuditEvents = 0 then []
      else eraseOldest policy.rules.maxRecentAuditEvents
        (policy.snapshot.recentAuditEvents ++ [event])) =
      (policy.snapshot.recentAuditEvents ++ [event]).rtake policy.rules.maxRecentAuditEvents := by
    rw [eraseOldest_eq_rtake]
    split_ifs with hzero
    · rw [hzero, List.rtake_zero]
    · rfl
  unfold audit
  rw [← hrecent]
  cases event.allowed <;> rfl

variable {rules} in
/-- **What one consultation does.** -/
theorem consult_eq {policy : ConfigurableClipboardRuntimePolicy} (hrules : policy.rules = rules)
    (context : ClipboardRuntimePolicyContext) :
    (consult (auditRuleOf context.operation) policy context).2 = { policy with
      snapshot := { policy.snapshot.noting context (decision rules context.operation).allowed
          (decision rules context.operation).responseStatus
          (decision rules context.operation).reason with
        authorizeCalls := policy.snapshot.authorizeCalls + 1
        allowed := policy.snapshot.allowed + countIf (operationAllowed rules context.operation)
        denied := policy.snapshot.denied + countIf (!operationAllowed rules context.operation)
        auditEvents := policy.snapshot.auditEvents + countIf (told rules context)
        auditedAllowed := policy.snapshot.auditedAllowed +
          countIf (told rules context && operationAllowed rules context.operation)
        auditedDenied := policy.snapshot.auditedDenied +
          countIf (told rules context && !operationAllowed rules context.operation)
        recentAuditEvents :=
          if told rules context then
            (policy.snapshot.recentAuditEvents ++ [toldEvent rules context]).rtake
              rules.maxRecentAuditEvents
          else policy.snapshot.recentAuditEvents } } := by
  subst hrules
  have hauthorize : IClipboardRuntimePolicy.authorize policy context = policy.authorize context :=
    rfl
  unfold consult
  rw [hauthorize, authorize_eq]
  cases htold : told policy.rules context with
  | false =>
    have haudits : (auditRuleOf context.operation).audits
        (decision policy.rules context.operation) = false := htold
    simp only [haudits, Bool.false_eq_true, if_false, Bool.false_and]
    rfl
  | true =>
    have haudits : (auditRuleOf context.operation).audits
        (decision policy.rules context.operation) = true := htold
    simp only [haudits, if_true, Bool.true_and]
    show ConfigurableClipboardRuntimePolicy.audit _ _ = _
    rw [audit_eq]
    simp only [← allowed_decision]
    rfl

/-- What the policy has counted and kept after consultations. -/
structure Consulted (contexts : List ClipboardRuntimePolicyContext)
    (policy : ConfigurableClipboardRuntimePolicy) : Prop where
  rules_eq : policy.rules = rules
  authorizeCalls : policy.snapshot.authorizeCalls = contexts.length
  allowed : policy.snapshot.allowed =
    contexts.countP fun context => operationAllowed rules context.operation
  denied : policy.snapshot.denied =
    contexts.countP fun context => !operationAllowed rules context.operation
  auditEvents : policy.snapshot.auditEvents = contexts.countP (told rules)
  auditedAllowed : policy.snapshot.auditedAllowed =
    contexts.countP fun context => told rules context && operationAllowed rules context.operation
  /-- Each denial is told once. -/
  auditedDenied : policy.snapshot.auditedDenied = policy.snapshot.denied
  /-- The events that are kept are the last of all. -/
  recent : policy.snapshot.recentAuditEvents =
    ((contexts.filter (told rules)).map (toldEvent rules)).rtake rules.maxRecentAuditEvents
  /-- The snapshot is about the last consultation. -/
  last : ∀ context ∈ contexts.getLast?,
    policy.snapshot = policy.snapshot.noting context
      (decision rules context.operation).allowed
      (decision rules context.operation).responseStatus (decision rules context.operation).reason

/-- The policy after a consultation about each of the contexts. -/
def consulted (contexts : List ClipboardRuntimePolicyContext) :
    ConfigurableClipboardRuntimePolicy :=
  contexts.foldl (fun policy context => (consult (auditRuleOf context.operation) policy context).2)
    { rules := rules }

theorem Consulted.consult {contexts : List ClipboardRuntimePolicyContext}
    {policy : ConfigurableClipboardRuntimePolicy} (h : Consulted rules contexts policy)
    (context : ClipboardRuntimePolicyContext) :
    Consulted rules (contexts ++ [context])
      (consult (auditRuleOf context.operation) policy context).2 := by
  have hcount : ∀ holds : ClipboardRuntimePolicyContext → Bool,
      (contexts ++ [context]).countP holds = contexts.countP holds + countIf (holds context) := by
    intro holds
    rw [List.countP_append, List.countP_singleton, countIf]
  rw [consult_eq h.rules_eq]
  refine ⟨h.rules_eq, ?_, ?_, ?_, ?_, ?_, ?_, ?_, ?_⟩
  · rw [List.length_append, ← h.authorizeCalls]
    rfl
  · rw [hcount, ← h.allowed]
  · rw [hcount, ← h.denied]
  · rw [hcount, ← h.auditEvents]
  · rw [hcount, ← h.auditedAllowed]
  · -- a denial is told
    have htold : (told rules context && !operationAllowed rules context.operation) =
        !operationAllowed rules context.operation := by
      cases hallowed : operationAllowed rules context.operation with
      | false => rw [(told_iff rules context).mpr (Or.inl hallowed), Bool.true_and]
      | true => rw [Bool.not_true, Bool.and_false]
    show policy.snapshot.auditedDenied + _ = policy.snapshot.denied + _
    rw [htold, h.auditedDenied]
  · rw [List.filter_append, List.filter_singleton, List.map_append]
    cases htold : told rules context with
    | false => simpa using h.recent
    | true =>
      show (policy.snapshot.recentAuditEvents ++ [_]).rtake _ = _
      rw [h.recent, rtake_concat]
      rfl
  · intro last hlast
    rw [List.getLast?_concat, Option.mem_some_iff] at hlast
    subst hlast
    rfl

/-- **What a configurable policy has counted and kept**, whatever it has been consulted about and in
whatever order: every consultation, every denial and every event; each denial is told it once; and
the events that it keeps are the last of all that it has been told. -/
theorem consulted_exact (contexts : List ClipboardRuntimePolicyContext) :
    Consulted rules contexts (consulted rules contexts) := by
  induction contexts using List.reverseRecOn with
  | nil =>
    exact ⟨rfl, rfl, rfl, rfl, rfl, rfl, rfl, (List.rtake_nil _).symm, fun _ h => nomatch h⟩
  | append_singleton contexts context ih =>
    rw [consulted, List.foldl_concat]
    exact ih.consult rules context

end ConfigurableClipboardRuntimePolicy

end Runtime
end FusionDesk
