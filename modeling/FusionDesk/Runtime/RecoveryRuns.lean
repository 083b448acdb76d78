import FusionDesk.General.AttemptWindow
import FusionDesk.General.Runs
import FusionDesk.Runtime.CaptureRecovery
import Mathlib.Algebra.Ring.Nat
import Mathlib.Order.MinMax

/-!
# The recovery of a capture over whole runs

A `DisplayRuntimeService` is started, stopped and pumped; what its agent comes to in a pump can be
anything, with one backend all along.  The state of a run keeps what was pumped (`PumpEvent`).

* `Effect`: what one pump does to the state of the recovery.
* `RateInv`, `GuardInv`: what every pump keeps of the attempts and of the cooldown.
* `captureRecovery_doesNotThrash`: after a failed attempt nothing is tried before its cooldown is
  over, the attempts stay within the limit, and more of them than the limit are not all close to each
  other.
-/

namespace FusionDesk
namespace Runtime
namespace CaptureRecovery

open AttemptWindow

/-! ## Runs -/

/-- A pump, with its time, what the agent came to and the result. -/
structure PumpEvent where
  now : UInt64
  agent : Option AgentReport
  result : DisplayRuntimePumpResult
  deriving DecidableEq, Repr

namespace PumpEvent

/-- A frame was delivered, or the status of the capture was seen to be `Ok`. -/
def Refreshes (e : PumpEvent) : Prop :=
  e.result.frameSent = true ∨ e.result.frameAttempted = true ∧
    ∃ agent ∈ e.agent, agent.frameDropped = false ∧ agent.lastCaptureStatus.code = .ok

/-- An attempt was executed, and it failed. -/
def FailedAttempt (e : PumpEvent) : Prop :=
  e.result.captureRecoveryAttempted = true ∧ e.result.captureRecoverySucceeded = false

/-- A reopen, a recreate or a switch was decided. -/
def Decides (e : PumpEvent) : Prop :=
  isExecutableDisplayCaptureRecoveryAction e.result.captureRecoveryAction = true

/-- The capture was to be opened or made again. -/
def Retries (e : PumpEvent) : Prop :=
  shouldExecuteCaptureRecovery e.result.captureRecoveryAction = true

instance (e : PumpEvent) : Decidable e.Retries := inferInstanceAs (Decidable (_ = true))

/-- An executed attempt, for the window: its time, or nothing for a switch. -/
def entry (e : PumpEvent) : Option ℕ := if e.Retries then some e.now.toNat else none

end PumpEvent

/-- The service, the time of the last pump, and the pumps so far. -/
structure RecoveryRun where
  service : DisplayRuntimeService
  now : UInt64 := 0
  history : List PumpEvent := []

inductive ServiceCall
  | start (session agentModule : Bool)
  | stop
  | pump (now : UInt64) (agent : Option AgentReport)
  deriving DecidableEq, Repr

namespace RecoveryRun

def step (s : RecoveryRun) : ServiceCall → RecoveryRun
  | .start session agentModule => { s with service := (s.service.start session agentModule).2 }
  | .stop => { s with service := s.service.stop }
  | .pump now agent =>
    let pumped := s.service.pumpOnce now agent
    { service := pumped.2, now := now, history := s.history ++ [⟨now, agent, pumped.1⟩] }

/-- A service that has just been made. -/
def fresh (options : DisplayRuntimeServiceOptions) : RecoveryRun where
  service := DisplayRuntimeService.create options

/-- The executed attempts. -/
def attempts (s : RecoveryRun) : List PumpEvent :=
  s.history.filter fun e => e.result.captureRecoveryAttempted

end RecoveryRun

/-- The policy of a run. -/
structure PolicyLimits (policy : DisplayCaptureRecoveryPolicy) : Prop where
  promote : policy.promoteRepeatedSameBackendRecoveryToSwitch = true
  limit_pos : policy.sameBackendRecoveryLimit > 0

/-- A pump at a positive time that is not before the last one and whose sums with the durations of
the policy fit in 64 bits, with the one backend. -/
def Orderly (policy : DisplayCaptureRecoveryPolicy) (backendId : String) (s : RecoveryRun) :
    ServiceCall → Prop
  | .pump now agent =>
    0 < now.toNat ∧ s.now.toNat ≤ now.toNat ∧
      now.toNat + policy.recoveryWindowUsec.toNat < 2 ^ 64 ∧
      now.toNat + policy.failedRecoveryCooldownUsec.toNat < 2 ^ 64 ∧
      ∀ report ∈ agent, report.captureBackendId = backendId ∧ report.recoveredBackendId = backendId
  | _ => True

/-! ## What one pump does -/

/-- What a pump with the event does to the state of the recovery. -/
inductive Effect (policy : DisplayCaptureRecoveryPolicy) (backendId : String)
    (state : DisplayCaptureRecoveryState) (e : PumpEvent) : DisplayCaptureRecoveryState → Prop
  /-- Nothing: a pump that was skipped, or one without a module, or a dropped frame. -/
  | idle (hrefreshes : ¬e.Refreshes) (hdecides : ¬e.Decides)
      (hattempted : e.result.captureRecoveryAttempted = false) : Effect policy backendId state e state
  /-- A delivered frame, or the status `Ok`. -/
  | refresh (hrefreshes : e.Refreshes) (hdecides : ¬e.Decides)
      (hattempted : e.result.captureRecoveryAttempted = false) :
      Effect policy backendId state e
        (recordDisplayCaptureFrameSuccess policy state backendId e.now)
  /-- A failure without an attempt. -/
  | failure {next : DisplayCaptureRecoveryState} (hrefreshes : ¬e.Refreshes)
      (hattempted : e.result.captureRecoveryAttempted = false)
      (hdecides : e.Decides → state.cooldownUntilUsec ≤ e.now)
      (hbackend : next.backendId = backendId)
      (hattempts : next.sameBackendRecoveryAttempts = keptAttempts policy state e.now)
      (hlast : next.lastRecoveryAttemptUsec = state.lastRecoveryAttemptUsec)
      (hcooldown : next.cooldownUntilUsec = state.cooldownUntilUsec) :
      Effect policy backendId state e next
  /-- An attempt. -/
  | attempt {next : DisplayCaptureRecoveryState} (hrefreshes : ¬e.Refreshes)
      (hattempted : e.result.captureRecoveryAttempted = true)
      (hopen : state.cooldownUntilUsec ≤ e.now)
      (hbackend : next.backendId = backendId)
      (hretry : e.Retries →
        keptAttempts policy state e.now < policy.sameBackendRecoveryLimit ∧
          next.sameBackendRecoveryAttempts = keptAttempts policy state e.now + 1)
      (hswitch : ¬e.Retries → next.sameBackendRecoveryAttempts = 0)
      (hlast : next.lastRecoveryAttemptUsec = e.now)
      (hcooldown : next.cooldownUntilUsec = if e.result.captureRecoverySucceeded then 0
        else e.now + policy.failedRecoveryCooldownUsec) :
      Effect policy backendId state e next

section Pump

variable {service : DisplayRuntimeService} {now : UInt64} {backendId : String}

/-- The state after an attempt on the one backend. -/
theorem recordAttempt_eq (policy : DisplayCaptureRecoveryPolicy) (now : UInt64)
    {plan : DisplayCaptureRecoveryPlan} (success : Bool) (hbackend : backendId ≠ "")
    (hplan : plan.nextState.backendId = backendId) :
    let next := recordDisplayCaptureRecoveryAttempt policy plan success backendId now
    next.backendId = backendId ∧ next.lastRecoveryAttemptUsec = now ∧
      next.cooldownUntilUsec =
        (if success then 0 else now + policy.failedRecoveryCooldownUsec) ∧
      (shouldExecuteCaptureRecovery plan.decision.action = true →
        next.sameBackendRecoveryAttempts = plan.nextState.sameBackendRecoveryAttempts + 1) ∧
      (plan.decision.action = .switchBackend → next.sameBackendRecoveryAttempts = 0) := by
  have hsame : sameBackend plan.nextState.backendId backendId = true := by
    rw [hplan, sameBackend_self hbackend]
  simp only [recordDisplayCaptureRecoveryAttempt, if_neg hbackend, hsame, Bool.true_eq_false,
    or_false, true_and]
  refine ⟨fun hretry => ?_, fun hswitch => if_pos hswitch⟩
  rw [shouldExecuteCaptureRecovery, Bool.or_eq_true, beq_iff_eq, beq_iff_eq] at hretry
  rw [if_neg, if_pos hretry]
  rcases hretry with haction | haction
  · rw [haction]
    decide
  · rw [haction]
    decide

/-- What is executed is executable. -/
theorem executable_of_executes {action : DisplayCaptureRecoveryAction}
    {options : DisplayRuntimeServiceOptions}
    (h : (shouldExecuteCaptureRecovery action ||
      shouldExecuteCaptureBackendSwitch action options) = true) :
    isExecutableDisplayCaptureRecoveryAction action = true ∧
      (shouldExecuteCaptureRecovery action = false → action = .switchBackend) := by
  cases action with
  | reopenCapture => exact ⟨rfl, nofun⟩
  | recreateCapture => exact ⟨rfl, nofun⟩
  | switchBackend => exact ⟨rfl, fun _ => rfl⟩
  | none => cases h
  | retryNextFrame => cases h
  | waitForPermission => cases h
  | stopCapture => cases h

/-- A failure, with an attempt or without one. -/
theorem effect_recoverCapture {agent : AgentReport}
    (hpolicy : PolicyLimits service.options.captureRecoveryPolicy) (hbackend : backendId ≠ "")
    (hknows : service.captureRecoveryState.Knows backendId)
    (hreported : agent.captureBackendId = backendId)
    (hrecovered : agent.recoveredBackendId = backendId)
    (hdropped : agent.frameDropped = false) :
    Effect service.options.captureRecoveryPolicy backendId service.captureRecoveryState
      ⟨now, some agent, (service.recoverCapture now agent).1⟩
      (service.recoverCapture now agent).2.captureRecoveryState := by
  subst hreported
  by_cases hok : agent.lastCaptureStatus.code = .ok
  · have hplan : selectDisplayCaptureRecoveryPlan service.options.captureRecoveryPolicy
        service.captureRecoveryState agent.lastCaptureStatus agent.captureBackendId now =
        { nextState := recordDisplayCaptureFrameSuccess service.options.captureRecoveryPolicy
            service.captureRecoveryState agent.captureBackendId now } := by
      rw [selectDisplayCaptureRecoveryPlan, if_pos hok, decideDisplayCaptureRecovery, hok]
    rw [DisplayRuntimeService.recoverCapture, hplan]
    exact Effect.refresh (Or.inr ⟨rfl, agent, rfl, hdropped, hok⟩) Bool.false_ne_true rfl
  · have hrefreshes : ∀ result : DisplayRuntimePumpResult, result.frameSent = false →
        ¬(PumpEvent.mk now (some agent) result).Refreshes := by
      rintro result hsent (hframe | ⟨-, report, hreport, -, hcode⟩)
      · rw [show (PumpEvent.mk now (some agent) result).result = result from rfl, hsent] at hframe
        cases hframe
      · obtain rfl := Option.mem_some_iff.1 hreport
        exact hok hcode
    have hstate := planState_eq service.options.captureRecoveryPolicy now hbackend hknows hok
    rw [DisplayRuntimeService.recoverCapture]
    dsimp only
    split
    next hexecutes =>
      obtain ⟨haction, hswitch⟩ := executable_of_executes hexecutes
      have hrecord := recordAttempt_eq service.options.captureRecoveryPolicy now agent.recovered
        hbackend hstate.1
      rw [hrecovered]
      refine Effect.attempt (hrefreshes _ rfl) rfl (executable_of_plan haction).2 hrecord.1
        (fun hretry => ⟨?_, ?_⟩) (fun hretry => ?_) hrecord.2.1 hrecord.2.2.1
      · rw [← hstate.2.1]
        exact attempts_lt_of_plan hpolicy.promote hpolicy.limit_pos hretry
      · rw [hrecord.2.2.2.1 hretry, hstate.2.1]
      · exact hrecord.2.2.2.2 (hswitch (Bool.eq_false_iff.2 hretry))
    next hexecutes =>
      exact Effect.failure (hrefreshes _ rfl) rfl (fun hdecides => (executable_of_plan hdecides).2)
        hstate.1 hstate.2.1 hstate.2.2.1 hstate.2.2.2

/-- **What a pump does** to the state of the recovery. -/
theorem effect_pumpOnce (now : UInt64) {agent : Option AgentReport}
    (hpolicy : PolicyLimits service.options.captureRecoveryPolicy) (hbackend : backendId ≠ "")
    (hknows : service.captureRecoveryState.Knows backendId)
    (hagent : ∀ report ∈ agent, report.captureBackendId = backendId ∧
      report.recoveredBackendId = backendId) :
    Effect service.options.captureRecoveryPolicy backendId service.captureRecoveryState
      ⟨now, agent, (service.pumpOnce now agent).1⟩
      (service.pumpOnce now agent).2.captureRecoveryState := by
  have hidle : ∀ result : DisplayRuntimePumpResult, result.frameSent = false →
      result.frameAttempted = false → ¬(PumpEvent.mk now agent result).Refreshes := by
    rintro result hsent hattempted (hframe | ⟨hframe, -⟩)
    · exact Bool.false_ne_true (hsent.symm.trans hframe)
    · exact Bool.false_ne_true (hattempted.symm.trans hframe)
  rw [DisplayRuntimeService.pumpOnce]
  split
  · exact Effect.idle (hidle _ rfl rfl) Bool.false_ne_true rfl
  split
  · exact Effect.idle (hidle _ rfl rfl) Bool.false_ne_true rfl
  dsimp only
  split
  · exact Effect.idle (hidle _ rfl rfl) Bool.false_ne_true rfl
  cases agent with
  | none => exact Effect.idle (hidle _ rfl rfl) Bool.false_ne_true rfl
  | some report =>
    obtain ⟨hreported, hrecovered⟩ := hagent report rfl
    dsimp only
    split
    · rw [hreported]
      exact Effect.refresh (Or.inl rfl) Bool.false_ne_true rfl
    split
    next hdropped =>
      refine Effect.idle ?_ Bool.false_ne_true rfl
      rintro (hframe | ⟨-, agent, hagent', hnotDropped, -⟩)
      · cases hframe
      · obtain rfl := Option.mem_some_iff.1 hagent'
        rw [hdropped] at hnotDropped
        cases hnotDropped
    next hdropped =>
      exact @effect_recoverCapture { service with lastFramePumpUsec := now } now backendId report
        hpolicy hbackend hknows hreported hrecovered (Bool.eq_false_iff.2 hdropped)

theorem options_pumpOnce (agent : Option AgentReport) :
    (service.pumpOnce now agent).2.options = service.options := by
  unfold DisplayRuntimeService.pumpOnce DisplayRuntimeService.recoverCapture
  split
  · rfl
  split
  · rfl
  dsimp only
  split
  · rfl
  cases agent with
  | none => rfl
  | some report =>
    dsimp only
    split
    · rfl
    split
    · rfl
    split
    · rfl
    · rfl

end Pump

/-- The backend is known after every effect. -/
theorem Effect.knows {policy : DisplayCaptureRecoveryPolicy} {backendId : String}
    {state next : DisplayCaptureRecoveryState} {e : PumpEvent}
    (h : Effect policy backendId state e next) (hknows : state.Knows backendId) :
    next.Knows backendId := by
  cases h with
  | idle => exact hknows
  | refresh => exact Or.inl rfl
  | failure _ _ _ hbackend => exact Or.inl hbackend
  | attempt _ _ _ hbackend => exact Or.inl hbackend

/-! ## The attempts -/

/-- The window of the policy is over, as it is meant: more than its duration has passed. -/
def TooLate (policy : DisplayCaptureRecoveryPolicy) (last now : ℕ) : Prop :=
  policy.recoveryWindowUsec ≠ 0 ∧ last + policy.recoveryWindowUsec.toNat < now

/-- The executed attempts of a run, for the window. -/
def RecoveryRun.entries (s : RecoveryRun) : List (Option ℕ) := s.attempts.map PumpEvent.entry

/-- What every pump keeps of the attempts: the executed ones, the state and the time. -/
structure RateInv (policy : DisplayCaptureRecoveryPolicy) (entries : List (Option ℕ))
    (state : DisplayCaptureRecoveryState) (now : ℕ) : Prop where
  covers : Covers (TooLate policy) entries state.sameBackendRecoveryAttempts.toNat
    state.lastRecoveryAttemptUsec.toNat now
  atMost : AtMost (TooLate policy) policy.sameBackendRecoveryLimit.toNat entries
  attempts_le : state.sameBackendRecoveryAttempts.toNat ≤ policy.sameBackendRecoveryLimit.toNat
  positive : some 0 ∉ entries
  fits : state.lastRecoveryAttemptUsec.toNat + policy.recoveryWindowUsec.toNat < 2 ^ 64

section Window

variable {policy : DisplayCaptureRecoveryPolicy} {state : DisplayCaptureRecoveryState}
  {now : UInt64}

/-- The check of the code is the one that is meant, if there has been an attempt. -/
theorem tooLate_of_expired
    (hfits : state.lastRecoveryAttemptUsec.toNat + policy.recoveryWindowUsec.toNat < 2 ^ 64)
    (hlast : state.lastRecoveryAttemptUsec.toNat ≠ 0)
    (h : recoveryWindowExpired policy state now = true) :
    TooLate policy state.lastRecoveryAttemptUsec.toNat now.toNat := by
  have hsum : (state.lastRecoveryAttemptUsec + policy.recoveryWindowUsec).toNat =
      state.lastRecoveryAttemptUsec.toNat + policy.recoveryWindowUsec.toNat := by
    rw [UInt64.toNat_add, Nat.mod_eq_of_lt hfits]
  rw [recoveryWindowExpired, if_neg fun hzero => hlast (by rw [hzero]; rfl)] at h
  split at h
  · cases h
  next hwindow =>
    refine ⟨hwindow, ?_⟩
    have hlater := UInt64.lt_iff_toNat_lt.1 (of_decide_eq_true h)
    rwa [hsum] at hlater

/-- **The window and the entries**: where it is over the attempts can be forgotten, and otherwise
they are still covered. -/
theorem covers_kept {entries : List (Option ℕ)} {before : ℕ}
    (h : Covers (TooLate policy) entries state.sameBackendRecoveryAttempts.toNat
      state.lastRecoveryAttemptUsec.toNat before)
    (hpositive : some 0 ∉ entries)
    (hfits : state.lastRecoveryAttemptUsec.toNat + policy.recoveryWindowUsec.toNat < 2 ^ 64)
    (hlater : before ≤ now.toNat) :
    Covers (TooLate policy) entries (keptAttempts policy state now).toNat
        state.lastRecoveryAttemptUsec.toNat now.toNat ∧
      (recoveryWindowExpired policy state now = true → ∀ count last,
        Covers (TooLate policy) entries count last now.toNat) := by
  have hnow : Covers (TooLate policy) entries state.sameBackendRecoveryAttempts.toNat
      state.lastRecoveryAttemptUsec.toNat now.toNat :=
    h.later fun final hexpired => ⟨hexpired.1, hexpired.2.trans_le hlater⟩
  have hrestart : recoveryWindowExpired policy state now = true → ∀ count last,
      Covers (TooLate policy) entries count last now.toNat := by
    intro hexpired
    refine hnow.restart fun hmem => tooLate_of_expired hfits (fun hzero => ?_) hexpired
    rw [hzero] at hmem
    exact hpositive hmem
  refine ⟨?_, hrestart⟩
  rw [keptAttempts]
  split
  next hexpired => exact hrestart hexpired _ _
  next hexpired => exact hnow

theorem keptAttempts_le : (keptAttempts policy state now).toNat ≤
    state.sameBackendRecoveryAttempts.toNat := by
  rw [keptAttempts]
  split
  · exact Nat.zero_le _
  · exact le_rfl

end Window

/-- The entries after a pump. -/
theorem entries_concat {s : RecoveryRun} (service : DisplayRuntimeService) {e : PumpEvent} :
    RecoveryRun.entries ⟨service, e.now, s.history ++ [e]⟩ =
      if e.result.captureRecoveryAttempted then s.entries ++ [e.entry] else s.entries := by
  rw [RecoveryRun.entries, RecoveryRun.attempts, List.filter_append, List.map_append]
  cases hattempted : e.result.captureRecoveryAttempted with
  | false =>
    have hnone : [e].filter (fun e => e.result.captureRecoveryAttempted) = [] := by
      simp [hattempted]
    rw [hnone, List.map_nil, List.append_nil, if_neg Bool.false_ne_true]
    rfl
  | true =>
    have hone : [e].filter (fun e => e.result.captureRecoveryAttempted) = [e] := by
      simp [hattempted]
    rw [hone, if_pos rfl]
    rfl

/-- **Every pump keeps it.** -/
theorem RateInv.pump {policy : DisplayCaptureRecoveryPolicy} {backendId : String}
    {entries : List (Option ℕ)} {state next : DisplayCaptureRecoveryState} {before : ℕ}
    {e : PumpEvent} (h : RateInv policy entries state before) (hbackend : backendId ≠ "")
    (hknows : state.Knows backendId) (heffect : Effect policy backendId state e next)
    (hpos : 0 < e.now.toNat) (hlater : before ≤ e.now.toNat)
    (hfits : e.now.toNat + policy.recoveryWindowUsec.toNat < 2 ^ 64) :
    RateInv policy
      (if e.result.captureRecoveryAttempted then entries ++ [e.entry] else entries) next
      e.now.toNat := by
  obtain ⟨hkept, hrestart⟩ := covers_kept h.covers h.positive h.fits hlater
  have hkeptLe : (keptAttempts policy state e.now).toNat ≤ policy.sameBackendRecoveryLimit.toNat :=
    keptAttempts_le.trans h.attempts_le
  cases heffect with
  | idle _ _ hattempted =>
    rw [hattempted, if_neg Bool.false_ne_true]
    exact ⟨h.covers.later fun final hexpired => ⟨hexpired.1, hexpired.2.trans_le hlater⟩, h.atMost,
      h.attempts_le, h.positive, h.fits⟩
  | refresh _ _ hattempted =>
    rw [hattempted, if_neg Bool.false_ne_true, recordFrameSuccess_eq hbackend hknows]
    refine ⟨?_, h.atMost, hkeptLe, h.positive, ?_⟩
    · dsimp only
      split
      next hexpired => exact hrestart hexpired _ _
      next hexpired => exact hkept
    · dsimp only
      split
      · have := policy.recoveryWindowUsec.toNat_lt
        rwa [UInt64.toNat_zero, Nat.zero_add]
      · exact h.fits
  | failure _ hattempted _ _ hattempts hlast _ =>
    rw [hattempted, if_neg Bool.false_ne_true]
    refine ⟨?_, h.atMost, ?_, h.positive, ?_⟩
    · rwa [hattempts, hlast]
    · rwa [hattempts]
    · rw [hlast]
      exact h.fits
  | attempt _ hattempted _ _ hretry hswitch hlast _ =>
    rw [hattempted, if_pos rfl, PumpEvent.entry]
    split
    next hretries =>
      obtain ⟨hlt, hattempts⟩ := hretry hretries
      have hlt := UInt32.lt_iff_toNat_lt.1 hlt
      have hcount : next.sameBackendRecoveryAttempts.toNat =
          (keptAttempts policy state e.now).toNat + 1 := by
        rw [hattempts, UInt32.toNat_add, UInt32.toNat_one, Nat.mod_eq_of_lt]
        have := policy.sameBackendRecoveryLimit.toNat_lt
        omega
      have hcovers : Covers (TooLate policy) (entries ++ [some e.now.toNat])
          next.sameBackendRecoveryAttempts.toNat next.lastRecoveryAttemptUsec.toNat
          e.now.toNat := by
        rw [hcount, hlast]
        exact hkept.attempt
      have hle : next.sameBackendRecoveryAttempts.toNat ≤
          policy.sameBackendRecoveryLimit.toNat := by omega
      refine ⟨hcovers, h.atMost.attempt hcovers hle fun htooLate => ?_, hle, ?_, by rwa [hlast]⟩
      · have := htooLate.2
        omega
      · rw [List.mem_append, List.mem_singleton, not_or]
        refine ⟨h.positive, fun hzero => ?_⟩
        have := Option.some_inj.1 hzero
        omega
    next hretries =>
      refine ⟨covers_interrupt entries _ _ _, h.atMost.interrupt, ?_, ?_, by rwa [hlast]⟩
      · rw [hswitch hretries]
        exact Nat.zero_le _
      · rw [List.mem_append, List.mem_singleton, not_or]
        exact ⟨h.positive, nofun⟩

/-! ## The cooldown -/

/-- What every pump keeps of the cooldown of a failed attempt, as long as nothing refreshes: it is
not over, or the time is past it; and where something was decided, the time was. -/
structure GuardInv (policy : DisplayCaptureRecoveryPolicy) (history : List PumpEvent)
    (state : DisplayCaptureRecoveryState) (now : ℕ) : Prop where
  guarded : ∀ before e between, history = before ++ e :: between → e.FailedAttempt →
    (∀ x ∈ between, ¬x.Refreshes) →
    e.now.toNat + policy.failedRecoveryCooldownUsec.toNat ≤ max state.cooldownUntilUsec.toNat now
  waits : ∀ before e between d after, history = before ++ e :: (between ++ d :: after) →
    e.FailedAttempt → (∀ x ∈ between, ¬x.Refreshes) → d.Decides →
    e.now.toNat + policy.failedRecoveryCooldownUsec.toNat ≤ d.now.toNat

section Guard

variable {policy : DisplayCaptureRecoveryPolicy} {backendId : String}
  {state next : DisplayCaptureRecoveryState} {e : PumpEvent}

/-- What is decided is decided behind the cooldown. -/
theorem Effect.cooldown_le (h : Effect policy backendId state e next) (hdecides : e.Decides) :
    state.cooldownUntilUsec ≤ e.now := by
  cases h with
  | idle _ hnot => exact absurd hdecides hnot
  | refresh _ hnot => exact absurd hdecides hnot
  | failure _ _ hopen => exact hopen hdecides
  | attempt _ _ hopen => exact hopen

/-- A cooldown that is not over is left, unless something refreshes. -/
theorem Effect.guards (h : Effect policy backendId state e next) (hrefreshes : ¬e.Refreshes)
    {deadline before : ℕ} (hbefore : before ≤ e.now.toNat)
    (hdeadline : deadline ≤ max state.cooldownUntilUsec.toNat before) :
    deadline ≤ max next.cooldownUntilUsec.toNat e.now.toNat := by
  cases h with
  | idle => exact hdeadline.trans (max_le_max le_rfl hbefore)
  | refresh hrefreshed => exact absurd hrefreshed hrefreshes
  | failure _ _ _ _ _ _ hcooldown =>
    rw [hcooldown]
    exact hdeadline.trans (max_le_max le_rfl hbefore)
  | attempt _ _ hopen =>
    have hopen := UInt64.le_iff_toNat_le.1 hopen
    exact (hdeadline.trans (max_le hopen hbefore)).trans (le_max_right _ _)

/-- The cooldown of a failed attempt. -/
theorem Effect.cooldown_of_failedAttempt (h : Effect policy backendId state e next)
    (hfailed : e.FailedAttempt)
    (hfits : e.now.toNat + policy.failedRecoveryCooldownUsec.toNat < 2 ^ 64) :
    next.cooldownUntilUsec.toNat = e.now.toNat + policy.failedRecoveryCooldownUsec.toNat := by
  have hattempted := hfailed.1
  cases h with
  | idle _ _ hnot => exact absurd (hnot.symm.trans hattempted) Bool.false_ne_true
  | refresh _ _ hnot => exact absurd (hnot.symm.trans hattempted) Bool.false_ne_true
  | failure _ hnot => exact absurd (hnot.symm.trans hattempted) Bool.false_ne_true
  | attempt _ _ _ _ _ _ _ hcooldown =>
    rw [hcooldown, hfailed.2, if_neg Bool.false_ne_true, UInt64.toNat_add, Nat.mod_eq_of_lt hfits]

/-- **Every pump keeps it.** -/
theorem GuardInv.pump {history : List PumpEvent} {before : ℕ}
    (h : GuardInv policy history state before) (heffect : Effect policy backendId state e next)
    (hlater : before ≤ e.now.toNat)
    (hfits : e.now.toNat + policy.failedRecoveryCooldownUsec.toNat < 2 ^ 64) :
    GuardInv policy (history ++ [e]) next e.now.toNat where
  guarded front failed between heq hfailed hquiet := by
    rcases Runs.split_of_concat heq with ⟨rest, hhistory, rfl⟩ | ⟨-, rfl, -⟩
    · have hold := h.guarded front failed rest hhistory hfailed fun x hx =>
        hquiet x (List.mem_append_left _ hx)
      exact heffect.guards (hquiet e List.mem_concat_self) hlater hold
    · rw [heffect.cooldown_of_failedAttempt hfailed hfits]
      exact le_max_left _ _
  waits front failed between d after heq hfailed hquiet hdecides := by
    rw [← List.cons_append, ← List.append_assoc] at heq
    rcases Runs.split_of_concat heq with ⟨rest, hhistory, -⟩ | ⟨hhistory, rfl, -⟩
    · refine h.waits front failed between d rest ?_ hfailed hquiet hdecides
      rw [hhistory, List.append_assoc, List.cons_append]
    · have hold := h.guarded front failed between hhistory.symm hfailed hquiet
      have hopen := UInt64.le_iff_toNat_le.1 (heffect.cooldown_le hdecides)
      exact hold.trans (max_le hopen hlater)

end Guard

/-! ## The whole run -/

/-- What holds after every run. -/
structure RunInv (policy : DisplayCaptureRecoveryPolicy) (backendId : String) (s : RecoveryRun) :
    Prop where
  policy_eq : s.service.options.captureRecoveryPolicy = policy
  knows : s.service.captureRecoveryState.Knows backendId
  rate : RateInv policy s.entries s.service.captureRecoveryState s.now.toNat
  guard : GuardInv policy s.history s.service.captureRecoveryState s.now.toNat

theorem runInv_fresh (options : DisplayRuntimeServiceOptions) (backendId : String) :
    RunInv options.captureRecoveryPolicy backendId (RecoveryRun.fresh options) := by
  refine ⟨rfl, Or.inr ⟨rfl, rfl, rfl⟩, ⟨covers_nil, atMost_nil, Nat.zero_le _, nofun, ?_⟩, ?_, ?_⟩
  · have := options.captureRecoveryPolicy.recoveryWindowUsec.toNat_lt
    exact (Nat.zero_add _).symm ▸ this
  · intro before e between heq
    exact absurd heq.symm (List.append_ne_nil_of_right_ne_nil _ (List.cons_ne_nil _ _))
  · intro before e between d after heq
    exact absurd heq.symm (List.append_ne_nil_of_right_ne_nil _ (List.cons_ne_nil _ _))

/-- A call that leaves the state of the recovery. -/
theorem RunInv.of_service {policy : DisplayCaptureRecoveryPolicy} {backendId : String}
    {s : RecoveryRun} (h : RunInv policy backendId s) {service : DisplayRuntimeService}
    (hoptions : service.options = s.service.options)
    (hstate : service.captureRecoveryState = s.service.captureRecoveryState) :
    RunInv policy backendId { s with service := service } := by
  refine ⟨?_, ?_, ?_, ?_⟩
  · rw [← h.policy_eq, ← hoptions]
  · exact hstate.symm ▸ h.knows
  · exact hstate.symm ▸ h.rate
  · exact hstate.symm ▸ h.guard

/-- **Every call keeps it.** -/
theorem RunInv.step {policy : DisplayCaptureRecoveryPolicy} {backendId : String} {s : RecoveryRun}
    (h : RunInv policy backendId s) (hpolicy : PolicyLimits policy) (hbackend : backendId ≠ "")
    {call : ServiceCall} (hcall : Orderly policy backendId s call) :
    RunInv policy backendId (s.step call) := by
  cases call with
  | start session agentModule =>
    refine h.of_service ?_ ?_
    · unfold DisplayRuntimeService.start
      split_ifs <;> rfl
    · unfold DisplayRuntimeService.start
      split_ifs <;> rfl
  | stop => exact h.of_service rfl rfl
  | pump now agent =>
    obtain ⟨hpos, hlater, hwindow, hcooldown, hagent⟩ := hcall
    obtain rfl := h.policy_eq
    have heffect := effect_pumpOnce now hpolicy hbackend h.knows hagent
    refine ⟨?_, heffect.knows h.knows, ?_, h.guard.pump heffect hlater hcooldown⟩
    · exact congrArg _ (options_pumpOnce agent)
    · have hrate := h.rate.pump hbackend h.knows heffect hpos hlater hwindow
      rwa [← entries_concat (s.service.pumpOnce now agent).2] at hrate

/-- **The recovery of a capture does not thrash.** -/
theorem captureRecovery_doesNotThrash {options : DisplayRuntimeServiceOptions}
    (hpolicy : PolicyLimits options.captureRecoveryPolicy) {backendId : String}
    (hbackend : backendId ≠ "") {calls : List ServiceCall}
    (hcalls : Runs.EveryStep RecoveryRun.step (Orderly options.captureRecoveryPolicy backendId)
      (RecoveryRun.fresh options) calls) :
    let policy := options.captureRecoveryPolicy
    let s := Runs.run RecoveryRun.step (RecoveryRun.fresh options) calls
    (∀ before e between d after, s.history = before ++ e :: (between ++ d :: after) →
      e.FailedAttempt → d.Decides →
      d.now.toNat < e.now.toNat + policy.failedRecoveryCooldownUsec.toNat →
      ∃ x ∈ between, x.Refreshes) ∧
    s.service.captureRecoveryState.sameBackendRecoveryAttempts ≤ policy.sameBackendRecoveryLimit ∧
    ∀ before block after, s.attempts = before ++ (block ++ after) → (∀ e ∈ block, e.Retries) →
      block.length = policy.sameBackendRecoveryLimit.toNat + 1 →
      policy.recoveryWindowUsec ≠ 0 ∧ ∃ front e d back, block = front ++ e :: d :: back ∧
        e.now.toNat + policy.recoveryWindowUsec.toNat < d.now.toNat := by
  intro policy s
  have h : RunInv policy backendId s :=
    Runs.run_invariant_of_everyStep (runInv_fresh options backendId)
      (fun _ _ hs hcall => hs.step hpolicy hbackend hcall) hcalls
  refine ⟨?_, UInt32.le_iff_toNat_le.2 h.rate.attempts_le, ?_⟩
  · intro before e between d after heq hfailed hdecides hearly
    by_contra hquiet
    have hwaits := h.guard.waits before e between d after heq hfailed
      (fun x hx hrefreshes => hquiet ⟨x, hx, hrefreshes⟩) hdecides
    omega
  · intro before block after heq hretries hlength
    have hblock : block.map PumpEvent.entry = (block.map fun e => e.now.toNat).map some := by
      rw [List.map_map]
      exact List.map_congr_left fun e he => if_pos (hretries e he)
    have hentries : s.entries = before.map PumpEvent.entry ++
        ((block.map fun e => e.now.toNat).map some ++ after.map PumpEvent.entry) := by
      rw [RecoveryRun.entries, heq, List.map_append, List.map_append, hblock]
    obtain ⟨front, earlier, later, back, hsplit, htooLate⟩ :=
      h.rate.atMost.exists_expired hentries (by rw [List.length_map]; omega)
    obtain ⟨front, behind, rfl, -, hbehind⟩ := List.map_eq_append_iff.1 hsplit
    obtain ⟨e, rest, rfl, rfl, hrest⟩ := List.map_eq_cons_iff.1 hbehind
    obtain ⟨d, back, rfl, rfl, -⟩ := List.map_eq_cons_iff.1 hrest
    exact ⟨htooLate.1, front, e, d, back, rfl, htooLate.2⟩

instance (policy : DisplayCaptureRecoveryPolicy) (backendId : String) (s : RecoveryRun)
    (call : ServiceCall) : Decidable (Orderly policy backendId s call) :=
  match call with
  | .pump _ _ => inferInstanceAs (Decidable (_ ∧ _ ∧ _ ∧ _ ∧ ∀ report ∈ _, _ ∧ _))
  | .start _ _ => isTrue trivial
  | .stop => isTrue trivial

/-- The device of the one backend is lost, and comes back or not. -/
def deviceLost (recovered : Bool) : Option AgentReport :=
  some { lastCaptureStatus := ⟨.deviceLost, true⟩
         captureBackendId := "windows.dxgi"
         recovered := recovered
         recoveredBackendId := "windows.dxgi" }

/-- The device is lost again and again: it is made again twice, with a pump in the cooldown of the
second time, and the next pump behind the cooldown switches. -/
def deviceLostCalls : List ServiceCall :=
  [.start true true, .pump 1000000 (deviceLost true), .pump 1100000 (deviceLost false),
    .pump 1200000 (deviceLost true), .pump 1400000 (deviceLost true)]

theorem captureRecovery_doesNotThrash_deviceLost :
    let s := Runs.run RecoveryRun.step (RecoveryRun.fresh { captureBackendFactory := true })
      deviceLostCalls
    s.history.map (fun e => e.result.captureRecoveryAction) =
        [.recreateCapture, .recreateCapture, .retryNextFrame, .switchBackend] ∧
      s.service.captureRecoveryState.sameBackendRecoveryAttempts ≤ 2 :=
  ⟨by decide, (@captureRecovery_doesNotThrash { captureBackendFactory := true }
    ⟨by decide, by decide⟩ "windows.dxgi" (by decide) deviceLostCalls (by decide)).2.1⟩

end CaptureRecovery
end Runtime
end FusionDesk
