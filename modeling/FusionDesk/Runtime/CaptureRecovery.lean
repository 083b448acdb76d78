import Mathlib.Data.Nat.Basic

/-!
# The recovery of a display capture

`display_capture_recovery.h` and `display_capture_recovery.cpp`, and the part of
`display_runtime_service.cpp` that pumps the frames of an agent and recovers its capture.

What the agent module comes to in a pump (whether its frame went out, the status of its capture, what
a recovery came to) is an input (`AgentReport`): it can be anything.  The counters of the snapshot are
left out, as is the pump of a client, which has no capture.

* `failureState_eq`, `recordFrameSuccess_eq`: what a failure and a delivered frame do to the state,
  where the backend is the one that is known.
* `executable_of_plan`, `attempts_lt_of_plan`: what is known where a plan has an action to execute.
-/

namespace FusionDesk
namespace Runtime
namespace CaptureRecovery

/-! ## Types -/

inductive DisplayCaptureStatusCode
  | ok
  | unknown
  | notOpen
  | accessDenied
  | permissionRevoked
  | protectedContent
  | sourceNotFound
  | sourceHotplug
  | geometryOrFormatChanged
  | deviceLost
  | sessionModeUnsupported
  | frameTimeout
  | invalidFrame
  | systemCallFailed
  | unsupported
  deriving DecidableEq, Repr

structure DisplayCaptureStatus where
  code : DisplayCaptureStatusCode := .ok
  recoverable : Bool := true
  deriving DecidableEq, Repr

inductive DisplayCaptureRecoveryAction
  | none
  | retryNextFrame
  | reopenCapture
  | recreateCapture
  | switchBackend
  | waitForPermission
  | stopCapture
  deriving DecidableEq, Repr

structure DisplayCaptureRecoveryDecision where
  action : DisplayCaptureRecoveryAction := .none
  requestKeyframe : Bool := false
  keepSessionRunning : Bool := true
  deriving DecidableEq, Repr

structure DisplayCaptureRecoveryPolicy where
  sameBackendRecoveryLimit : UInt32 := 2
  recoveryWindowUsec : UInt64 := 5000000
  failedRecoveryCooldownUsec : UInt64 := 250000
  promoteRepeatedSameBackendRecoveryToSwitch : Bool := true
  deriving DecidableEq, Repr

structure DisplayCaptureRecoveryState where
  backendId : String := ""
  consecutiveFailures : UInt32 := 0
  sameBackendRecoveryAttempts : UInt32 := 0
  lastRecoveryAttemptUsec : UInt64 := 0
  cooldownUntilUsec : UInt64 := 0
  deriving DecidableEq, Repr

structure DisplayCaptureRecoveryPlan where
  decision : DisplayCaptureRecoveryDecision := {}
  baseAction : DisplayCaptureRecoveryAction := .none
  nextState : DisplayCaptureRecoveryState := {}
  blockedByCooldown : Bool := false
  promotedToSwitchBackend : Bool := false
  cooldownRemainingUsec : UInt64 := 0
  deriving DecidableEq, Repr

/-! ## The functions of the recovery -/

def sameBackend (left right : String) : Bool := left != "" && left == right

def recoveryWindowExpired (policy : DisplayCaptureRecoveryPolicy)
    (state : DisplayCaptureRecoveryState) (monotonicNowUsec : UInt64) : Bool :=
  if state.lastRecoveryAttemptUsec = 0 then true
  else if policy.recoveryWindowUsec = 0 then false
  else decide (monotonicNowUsec > state.lastRecoveryAttemptUsec + policy.recoveryWindowUsec)

/-- A decision for the action if the status is recoverable, and for a switch if it is not. -/
def recoverOrSwitch (status : DisplayCaptureStatus) (action : DisplayCaptureRecoveryAction) :
    DisplayCaptureRecoveryDecision where
  action := if status.recoverable then action else .switchBackend
  requestKeyframe := status.recoverable

def decideDisplayCaptureRecovery (status : DisplayCaptureStatus) : DisplayCaptureRecoveryDecision :=
  match status.code with
  | .ok | .unknown => {}
  | .frameTimeout => { action := .retryNextFrame }
  | .notOpen | .sourceNotFound | .sourceHotplug | .geometryOrFormatChanged =>
    recoverOrSwitch status .reopenCapture
  | .deviceLost => recoverOrSwitch status .recreateCapture
  | .accessDenied | .permissionRevoked | .protectedContent =>
    { action := .waitForPermission, keepSessionRunning := true }
  | .sessionModeUnsupported => recoverOrSwitch status .reopenCapture
  | .invalidFrame | .systemCallFailed => recoverOrSwitch status .reopenCapture
  | .unsupported => { action := .switchBackend, keepSessionRunning := true }

def isExecutableDisplayCaptureRecoveryAction (action : DisplayCaptureRecoveryAction) : Bool :=
  action == .reopenCapture || action == .recreateCapture || action == .switchBackend

def recordDisplayCaptureFrameSuccess (policy : DisplayCaptureRecoveryPolicy)
    (state : DisplayCaptureRecoveryState) (backendId : String) (monotonicNowUsec : UInt64) :
    DisplayCaptureRecoveryState :=
  let next :=
    if sameBackend state.backendId backendId = false ∨
        recoveryWindowExpired policy state monotonicNowUsec = true then
      { state with sameBackendRecoveryAttempts := 0, lastRecoveryAttemptUsec := 0 }
    else state
  { next with backendId := backendId, consecutiveFailures := 0, cooldownUntilUsec := 0 }

/-- The state in a plan for a status that is not `Ok`. -/
def failureState (policy : DisplayCaptureRecoveryPolicy) (state : DisplayCaptureRecoveryState)
    (backendId : String) (monotonicNowUsec : UInt64) : DisplayCaptureRecoveryState :=
  if sameBackend state.backendId backendId = false then
    { backendId := backendId, consecutiveFailures := 1 }
  else
    { state with
      backendId := backendId
      consecutiveFailures := state.consecutiveFailures + 1
      sameBackendRecoveryAttempts :=
        if recoveryWindowExpired policy state monotonicNowUsec then 0
        else state.sameBackendRecoveryAttempts }

/-- `canPromote`, for a count of attempts. -/
def canPromote (policy : DisplayCaptureRecoveryPolicy) (baseAction : DisplayCaptureRecoveryAction)
    (attempts : UInt32) : Bool :=
  policy.promoteRepeatedSameBackendRecoveryToSwitch &&
    decide (policy.sameBackendRecoveryLimit > 0) &&
    (baseAction == .reopenCapture || baseAction == .recreateCapture) &&
    decide (attempts ≥ policy.sameBackendRecoveryLimit)

def selectDisplayCaptureRecoveryPlan (policy : DisplayCaptureRecoveryPolicy)
    (state : DisplayCaptureRecoveryState) (status : DisplayCaptureStatus) (backendId : String)
    (monotonicNowUsec : UInt64) : DisplayCaptureRecoveryPlan :=
  let decision := decideDisplayCaptureRecovery status
  if status.code = .ok then
    { decision := decision
      baseAction := decision.action
      nextState := recordDisplayCaptureFrameSuccess policy state backendId monotonicNowUsec }
  else
    let next := failureState policy state backendId monotonicNowUsec
    if isExecutableDisplayCaptureRecoveryAction decision.action = true ∧
        state.cooldownUntilUsec > monotonicNowUsec then
      { decision := { decision with action := .retryNextFrame, requestKeyframe := false }
        baseAction := decision.action
        nextState := { next with cooldownUntilUsec := state.cooldownUntilUsec }
        blockedByCooldown := true
        cooldownRemainingUsec := state.cooldownUntilUsec - monotonicNowUsec }
    else if canPromote policy decision.action next.sameBackendRecoveryAttempts then
      { decision := { decision with action := .switchBackend, requestKeyframe := false }
        baseAction := decision.action
        nextState := next
        promotedToSwitchBackend := true }
    else { decision := decision, baseAction := decision.action, nextState := next }

def recordDisplayCaptureRecoveryAttempt (policy : DisplayCaptureRecoveryPolicy)
    (plan : DisplayCaptureRecoveryPlan) (success : Bool) (recoveredBackendId : String)
    (monotonicNowUsec : UInt64) : DisplayCaptureRecoveryState :=
  let backendId := if recoveredBackendId = "" then plan.nextState.backendId else recoveredBackendId
  { plan.nextState with
    lastRecoveryAttemptUsec := monotonicNowUsec
    backendId := backendId
    sameBackendRecoveryAttempts :=
      if plan.decision.action = .switchBackend ∨
          sameBackend plan.nextState.backendId backendId = false then 0
      else if plan.decision.action = .reopenCapture ∨ plan.decision.action = .recreateCapture then
        plan.nextState.sameBackendRecoveryAttempts + 1
      else plan.nextState.sameBackendRecoveryAttempts
    cooldownUntilUsec :=
      if success then 0 else monotonicNowUsec + policy.failedRecoveryCooldownUsec }

/-! ## What the functions do where the backend is known -/

/-- The state is about this backend, or has nothing in it yet. -/
def DisplayCaptureRecoveryState.Knows (state : DisplayCaptureRecoveryState) (backendId : String) :
    Prop :=
  state.backendId = backendId ∨ state.sameBackendRecoveryAttempts = 0 ∧
    state.lastRecoveryAttemptUsec = 0 ∧ state.cooldownUntilUsec = 0

/-- The attempts that the window leaves. -/
def keptAttempts (policy : DisplayCaptureRecoveryPolicy) (state : DisplayCaptureRecoveryState)
    (monotonicNowUsec : UInt64) : UInt32 :=
  if recoveryWindowExpired policy state monotonicNowUsec then 0
  else state.sameBackendRecoveryAttempts

section Known

variable {policy : DisplayCaptureRecoveryPolicy} {state : DisplayCaptureRecoveryState}
  {status : DisplayCaptureStatus} {backendId : String} {now : UInt64}

theorem sameBackend_self (hbackend : backendId ≠ "") : sameBackend backendId backendId = true := by
  simp [sameBackend, hbackend]

/-- A state about another backend has nothing in it yet. -/
theorem DisplayCaptureRecoveryState.Knows.nothing (h : state.Knows backendId)
    (hbackend : backendId ≠ "") (hother : sameBackend state.backendId backendId = false) :
    state.sameBackendRecoveryAttempts = 0 ∧ state.lastRecoveryAttemptUsec = 0 ∧
      state.cooldownUntilUsec = 0 := by
  refine h.resolve_left fun heq => ?_
  rw [heq, sameBackend_self hbackend] at hother
  cases hother

/-- **A delivered frame** takes the cooldown away, and the attempts only if the last one is too long
ago. -/
theorem recordFrameSuccess_eq (hbackend : backendId ≠ "") (h : state.Knows backendId) :
    recordDisplayCaptureFrameSuccess policy state backendId now =
      { backendId := backendId
        sameBackendRecoveryAttempts := keptAttempts policy state now
        lastRecoveryAttemptUsec :=
          if recoveryWindowExpired policy state now then 0 else state.lastRecoveryAttemptUsec } := by
  rw [recordDisplayCaptureFrameSuccess, keptAttempts]
  by_cases hexpired : recoveryWindowExpired policy state now = true
  · simp [hexpired]
  · cases hsame : sameBackend state.backendId backendId with
    | false =>
      obtain ⟨hattempts, hlast, -⟩ := h.nothing hbackend hsame
      simp [hexpired, hattempts, hlast]
    | true => simp [hexpired]

/-- **A failure** leaves the cooldown, and the attempts unless the last one is too long ago. -/
theorem failureState_eq (policy : DisplayCaptureRecoveryPolicy) (now : UInt64)
    (hbackend : backendId ≠ "") (h : state.Knows backendId) :
    (failureState policy state backendId now).backendId = backendId ∧
      (failureState policy state backendId now).sameBackendRecoveryAttempts =
        keptAttempts policy state now ∧
      (failureState policy state backendId now).lastRecoveryAttemptUsec =
        state.lastRecoveryAttemptUsec ∧
      (failureState policy state backendId now).cooldownUntilUsec = state.cooldownUntilUsec := by
  rw [failureState, keptAttempts]
  cases hsame : sameBackend state.backendId backendId with
  | false =>
    obtain ⟨hattempts, hlast, hcooldown⟩ := h.nothing hbackend hsame
    simp [hattempts, hlast, hcooldown]
  | true => simp

/-- The action of a plan is executed in the end only if the status is not `Ok` and the cooldown is
over. -/
theorem executable_of_plan (h : isExecutableDisplayCaptureRecoveryAction
    (selectDisplayCaptureRecoveryPlan policy state status backendId now).decision.action = true) :
    status.code ≠ .ok ∧ state.cooldownUntilUsec ≤ now := by
  unfold selectDisplayCaptureRecoveryPlan at h
  by_cases hok : status.code = .ok
  · rw [if_pos hok, decideDisplayCaptureRecovery, hok] at h
    cases h
  · rw [if_neg hok] at h
    refine ⟨hok, ?_⟩
    dsimp only at h
    split at h
    · cases h
    next hopen =>
      rw [not_and_or] at hopen
      refine UInt64.not_lt.1 (hopen.resolve_left fun hnot => ?_)
      split at h
      next hpromoted =>
        -- only the actions that are executable are promoted
        refine hnot ?_
        simp only [canPromote, Bool.and_eq_true, Bool.or_eq_true, beq_iff_eq] at hpromoted
        rcases hpromoted.1.2 with hbase | hbase
        · rw [hbase]; rfl
        · rw [hbase]; rfl
      · exact hnot h

/-- The state in a plan for a failure. -/
theorem planState_eq (policy : DisplayCaptureRecoveryPolicy) (now : UInt64)
    (hbackend : backendId ≠ "") (h : state.Knows backendId) (hfailed : status.code ≠ .ok) :
    let next := (selectDisplayCaptureRecoveryPlan policy state status backendId now).nextState
    next.backendId = backendId ∧ next.sameBackendRecoveryAttempts = keptAttempts policy state now ∧
      next.lastRecoveryAttemptUsec = state.lastRecoveryAttemptUsec ∧
      next.cooldownUntilUsec = state.cooldownUntilUsec := by
  have hnext := failureState_eq policy now hbackend h
  unfold selectDisplayCaptureRecoveryPlan
  rw [if_neg hfailed]
  dsimp only
  split
  · exact ⟨hnext.1, hnext.2.1, hnext.2.2.1, rfl⟩
  · split
    · exact hnext
    · exact hnext

end Known

/-! ## The service -/

/-- What the recovery reads of the options; `captureBackendFactory` says whether there is one. -/
structure DisplayRuntimeServiceOptions where
  targetFps : UInt32 := 15
  pumpAgentFrames : Bool := true
  captureBackendFactory : Bool := false
  allowCaptureBackendSwitch : Bool := true
  captureRecoveryPolicy : DisplayCaptureRecoveryPolicy := {}
  deriving DecidableEq, Repr

structure DisplayRuntimePumpResult where
  active : Bool := false
  skippedByFrameRate : Bool := false
  missingAgentModules : ℕ := 0
  frameAttempted : Bool := false
  frameSent : Bool := false
  captureRecoveryAction : DisplayCaptureRecoveryAction := .none
  captureRecoveryBlockedByCooldown : Bool := false
  captureRecoveryPromotedToSwitchBackend : Bool := false
  captureRecoveryCooldownRemainingUsec : UInt64 := 0
  captureRecoveryAttempted : Bool := false
  captureRecoverySucceeded : Bool := false
  deriving DecidableEq, Repr

/-- What the agent module comes to in a pump: whether `sendDeltaFrame` has sent its frame or dropped
it, the status and the backend of the capture behind it, and what a recovery comes to
(`reopenCapture`, or a capture of another backend and `replaceCapture`) and leaves as the backend. -/
structure AgentReport where
  frameSent : Bool := false
  frameDropped : Bool := false
  lastCaptureStatus : DisplayCaptureStatus := {}
  captureBackendId : String := ""
  recovered : Bool := false
  recoveredBackendId : String := ""
  deriving DecidableEq, Repr

structure DisplayRuntimeService where
  options : DisplayRuntimeServiceOptions := {}
  active : Bool := false
  captureRecoveryState : DisplayCaptureRecoveryState := {}
  lastFramePumpUsec : UInt64 := 0
  deriving DecidableEq, Repr

def shouldExecuteCaptureRecovery (action : DisplayCaptureRecoveryAction) : Bool :=
  action == .reopenCapture || action == .recreateCapture

def shouldExecuteCaptureBackendSwitch (action : DisplayCaptureRecoveryAction)
    (options : DisplayRuntimeServiceOptions) : Bool :=
  action == .switchBackend && options.allowCaptureBackendSwitch && options.captureBackendFactory

/-- **A plan to open or make the same capture again** has not reached the limit. -/
theorem attempts_lt_of_plan {policy : DisplayCaptureRecoveryPolicy}
    {state : DisplayCaptureRecoveryState} {status : DisplayCaptureStatus} {backendId : String}
    {now : UInt64} (hpromote : policy.promoteRepeatedSameBackendRecoveryToSwitch = true)
    (hlimit : policy.sameBackendRecoveryLimit > 0)
    (h : shouldExecuteCaptureRecovery
      (selectDisplayCaptureRecoveryPlan policy state status backendId now).decision.action = true) :
    (selectDisplayCaptureRecoveryPlan policy state status backendId
      now).nextState.sameBackendRecoveryAttempts < policy.sameBackendRecoveryLimit := by
  unfold selectDisplayCaptureRecoveryPlan at h ⊢
  by_cases hok : status.code = .ok
  · rw [if_pos hok, decideDisplayCaptureRecovery, hok] at h
    cases h
  · rw [if_neg hok] at h ⊢
    dsimp only at h ⊢
    split at h
    · cases h
    next hopen =>
      rw [if_neg hopen]
      split at h
      · cases h
      next hnot =>
        rw [if_neg hnot]
        rw [shouldExecuteCaptureRecovery] at h
        rw [canPromote, hpromote, h, decide_eq_true hlimit, Bool.true_and, Bool.true_and,
          Bool.true_and, decide_eq_true_eq] at hnot
        exact UInt32.not_le.1 hnot

namespace DisplayRuntimeService

/-- The constructor. -/
def create (options : DisplayRuntimeServiceOptions) : DisplayRuntimeService where
  options := { options with
    targetFps :=
      if options.targetFps = 0 then 15 else if options.targetFps > 120 then 120
      else options.targetFps }

/-- `start`, with a session that has an agent module or not. -/
def start (service : DisplayRuntimeService) (session agentModule : Bool) :
    Bool × DisplayRuntimeService :=
  if service.active then (true, service)
  else if session = false then (false, service)
  else if service.options.pumpAgentFrames = true ∧ agentModule = false then (false, service)
  else (true, { service with active := true })

def stop (service : DisplayRuntimeService) : DisplayRuntimeService :=
  { service with active := false }

def frameIntervalUsec (service : DisplayRuntimeService) : UInt64 :=
  1000000 / (if service.options.targetFps = 0 then 15 else service.options.targetFps).toUInt64

/-- The branch of `pumpOnce` in which no frame was sent and none dropped. -/
def recoverCapture (service : DisplayRuntimeService) (monotonicNow : UInt64)
    (agent : AgentReport) : DisplayRuntimePumpResult × DisplayRuntimeService :=
  let recovery := selectDisplayCaptureRecoveryPlan service.options.captureRecoveryPolicy
    service.captureRecoveryState agent.lastCaptureStatus agent.captureBackendId monotonicNow
  let result : DisplayRuntimePumpResult :=
    { active := true
      frameAttempted := true
      captureRecoveryAction := recovery.decision.action
      captureRecoveryBlockedByCooldown := recovery.blockedByCooldown
      captureRecoveryPromotedToSwitchBackend := recovery.promotedToSwitchBackend
      captureRecoveryCooldownRemainingUsec := recovery.cooldownRemainingUsec }
  if shouldExecuteCaptureRecovery recovery.decision.action ||
      shouldExecuteCaptureBackendSwitch recovery.decision.action service.options then
    ({ result with
       captureRecoveryAttempted := true
       captureRecoverySucceeded := agent.recovered },
      { service with
        captureRecoveryState := recordDisplayCaptureRecoveryAttempt
          service.options.captureRecoveryPolicy recovery agent.recovered agent.recoveredBackendId
          monotonicNow })
  else (result, { service with captureRecoveryState := recovery.nextState })

/-- `pumpOnce`; `agent` is nothing if the session has no agent module. -/
def pumpOnce (service : DisplayRuntimeService) (monotonicNow : UInt64)
    (agent : Option AgentReport) : DisplayRuntimePumpResult × DisplayRuntimeService :=
  if service.active = false then ({}, service)
  else if service.lastFramePumpUsec ≠ 0 ∧
      monotonicNow < service.lastFramePumpUsec + service.frameIntervalUsec then
    ({ active := true, skippedByFrameRate := true }, service)
  else
    let service := { service with lastFramePumpUsec := monotonicNow }
    if service.options.pumpAgentFrames = false then ({ active := true }, service)
    else
      match agent with
      | none => ({ active := true, missingAgentModules := 1 }, service)
      | some agent =>
        if agent.frameSent then
          ({ active := true, frameAttempted := true, frameSent := true },
            { service with
              captureRecoveryState := recordDisplayCaptureFrameSuccess
                service.options.captureRecoveryPolicy service.captureRecoveryState
                agent.captureBackendId monotonicNow })
        else if agent.frameDropped then ({ active := true, frameAttempted := true }, service)
        else service.recoverCapture monotonicNow agent

end DisplayRuntimeService

end CaptureRecovery
end Runtime
end FusionDesk
