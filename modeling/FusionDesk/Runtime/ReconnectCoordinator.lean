import FusionDesk.General.Runs
import FusionDesk.General.Stages
import FusionDesk.Runtime.ReconnectPlan
import FusionDesk.Runtime.TeardownService
import FusionDesk.Session.Session

/-!
# The reconnect coordinator

`ReconnectCoordinator`: it resolves the plan, has the replacements started on both sides, and then the
old transports torn down.  The executors are parameters, each with what it does to a world that they
share; what they throw is left out.

`trace` is not in the source: the calls of the executors, with what they have returned, and the steps
that have been reported, in their order.

* `phases_eq_run`: the phases that are switched on are stages.
* `attempt_cases`: what the attempt of a phase does.
* `reconnectCoordination_inOrder`: the law of a whole run.
-/

namespace FusionDesk
namespace Runtime

open Protocol Network
open FusionDesk.Session (ReconnectReport)
open Runs (split_of_append)

inductive ReconnectCoordinatorPhase
  | resolvePlan
  | startAgentReplacements
  | reconnectClientReplacements
  | dispatchClientTeardown
  | dispatchAgentTeardown
  deriving DecidableEq, Repr

structure ReconnectReplacementExecutionResult where
  ok : Bool := false
  channels : List ChannelKey := []
  messages : List String := []
  hasSessionReport : Bool := false
  sessionReport : ReconnectReport := {}

structure IReconnectReplacementExecutor (W : Type) where
  startAgentReplacements : ReconnectSidePlan → W → ReconnectReplacementExecutionResult × W
  reconnectClientReplacements : ReconnectSidePlan → W → ReconnectReplacementExecutionResult × W

structure IReconnectTeardownExecutor (W : Type) where
  dispatchTeardown : ReconnectSidePlan → UInt32 → W → ReconnectTeardownDispatchResult × W

structure ReconnectCoordinatorOptions where
  startAgentReplacements : Bool := true
  reconnectClientReplacements : Bool := true
  dispatchClientTeardown : Bool := true
  dispatchAgentTeardown : Bool := false
  teardownTimeoutMs : UInt32 := 1000

structure ReconnectCoordinatorStepReport where
  phase : ReconnectCoordinatorPhase := .resolvePlan
  attempted : Bool := false
  ok : Bool := false
  channels : List ChannelKey := []
  messages : List String := []

structure ReconnectCoordinatorRunResult where
  ok : Bool := false
  plan : ReconnectOrchestrationPlan := {}
  steps : List ReconnectCoordinatorStepReport := []
  clientTeardown : ReconnectTeardownDispatchResult := {}
  agentTeardown : ReconnectTeardownDispatchResult := {}
  hasSessionReport : Bool := false
  sessionReport : ReconnectReport := {}
  messages : List String := []

structure ReconnectCoordinator (W : Type) where
  replacementExecutor : IReconnectReplacementExecutor W
  teardownExecutor : Option (IReconnectTeardownExecutor W) := none

/-- What is in the trace of a run: a call of a replacement executor, one of the teardown executor, or
a step that is reported. -/
inductive CoordinatorEvent
  | replaced (phase : ReconnectCoordinatorPhase) (side : ReconnectSidePlan)
      (execution : ReconnectReplacementExecutionResult)
  | tornDown (phase : ReconnectCoordinatorPhase) (side : ReconnectSidePlan) (timeoutMs : UInt32)
      (teardown : ReconnectTeardownDispatchResult)
  | reported (step : ReconnectCoordinatorStepReport)

/-- A run that is under way. -/
structure Coordination (W : Type) where
  result : ReconnectCoordinatorRunResult := {}
  world : W
  trace : List CoordinatorEvent := []

/-! ## Steps -/

def resolveStep (planResult : ReconnectOrchestrationResult) : ReconnectCoordinatorStepReport where
  phase := .resolvePlan
  attempted := true
  ok := planResult.ok
  messages := planResult.messages
  channels := if planResult.ok then planResult.plan.client.degradedChannels else []

def replacementStep (phase : ReconnectCoordinatorPhase)
    (execution : ReconnectReplacementExecutionResult) : ReconnectCoordinatorStepReport where
  phase := phase
  attempted := true
  ok := execution.ok
  channels := execution.channels
  messages := execution.messages

def teardownStep (phase : ReconnectCoordinatorPhase)
    (teardown : ReconnectTeardownDispatchResult) : ReconnectCoordinatorStepReport where
  phase := phase
  attempted := true
  ok := teardown.ok
  messages := teardown.messages
  channels := teardown.summary.completedTargetChannels

/-- The step of a teardown without an executor. -/
def missingExecutorStep (phase : ReconnectCoordinatorPhase) : ReconnectCoordinatorStepReport where
  phase := phase
  attempted := true
  ok := false
  messages := ["reconnect coordinator requires a teardown executor"]

def stepOk (step : ReconnectCoordinatorStepReport) : Bool := step.attempted && step.ok

def copySessionReport (result : ReconnectCoordinatorRunResult)
    (execution : ReconnectReplacementExecutionResult) : ReconnectCoordinatorRunResult :=
  if execution.hasSessionReport = false then result
  else { result with hasSessionReport := true, sessionReport := execution.sessionReport }

namespace Coordination

variable {W : Type}

/-- `appendMessages` and `steps.push_back`. -/
def report (s : Coordination W) (step : ReconnectCoordinatorStepReport) : Coordination W :=
  { s with
    result := { s.result with
                messages := s.result.messages ++ step.messages
                steps := s.result.steps ++ [step] }
    trace := s.trace ++ [.reported step] }

/-- The end of a phase: the step is reported, and the run goes on if it is ok. -/
def endPhase (s : Coordination W) (step : ReconnectCoordinatorStepReport) :
    Except (Coordination W) (Coordination W) :=
  if stepOk step = false then .error (s.report step) else .ok (s.report step)

/-- A phase of replacements, with the call of its executor. -/
def replacementPhase (phase : ReconnectCoordinatorPhase)
    (execute : ReconnectSidePlan → W → ReconnectReplacementExecutionResult × W)
    (side : ReconnectSidePlan) (s : Coordination W) : Except (Coordination W) (Coordination W) :=
  let executed := execute side s.world
  let s : Coordination W := { s with
    result := copySessionReport s.result executed.1
    world := executed.2
    trace := s.trace ++ [.replaced phase side executed.1] }
  s.endPhase (replacementStep phase executed.1)

/-- A phase of teardown; `keep` puts what the executor returns into the result. -/
def teardownPhase (phase : ReconnectCoordinatorPhase)
    (executor : Option (IReconnectTeardownExecutor W))
    (keep : ReconnectTeardownDispatchResult → ReconnectCoordinatorRunResult →
      ReconnectCoordinatorRunResult)
    (side : ReconnectSidePlan) (timeoutMs : UInt32) (s : Coordination W) :
    Except (Coordination W) (Coordination W) :=
  match executor with
  | none => s.endPhase (missingExecutorStep phase)
  | some executor =>
    let dispatched := executor.dispatchTeardown side timeoutMs s.world
    let s : Coordination W := { s with
      result := keep dispatched.1 s.result
      world := dispatched.2
      trace := s.trace ++ [.tornDown phase side timeoutMs dispatched.1] }
    s.endPhase (teardownStep phase dispatched.1)

end Coordination

namespace ReconnectCoordinator

variable {W : Type} (coordinator : ReconnectCoordinator W) (options : ReconnectCoordinatorOptions)

def startAgentReplacements (s : Coordination W) : Except (Coordination W) (Coordination W) :=
  s.replacementPhase .startAgentReplacements coordinator.replacementExecutor.startAgentReplacements
    s.result.plan.agent

def reconnectClientReplacements (s : Coordination W) : Except (Coordination W) (Coordination W) :=
  s.replacementPhase .reconnectClientReplacements
    coordinator.replacementExecutor.reconnectClientReplacements s.result.plan.client

def dispatchClientTeardown (s : Coordination W) : Except (Coordination W) (Coordination W) :=
  s.teardownPhase .dispatchClientTeardown coordinator.teardownExecutor
    (fun teardown result => { result with clientTeardown := teardown }) s.result.plan.client
    options.teardownTimeoutMs

def dispatchAgentTeardown (s : Coordination W) : Except (Coordination W) (Coordination W) :=
  s.teardownPhase .dispatchAgentTeardown coordinator.teardownExecutor
    (fun teardown result => { result with agentTeardown := teardown }) s.result.plan.agent
    options.teardownTimeoutMs

/-- A phase, if its option is set. -/
def runIf (option : Bool) (phase : Coordination W → Except (Coordination W) (Coordination W))
    (s : Coordination W) : Except (Coordination W) (Coordination W) :=
  if option then phase s else .ok s

/-- The phases of `run` behind the plan, as far as the first `return`. -/
def phases (s : Coordination W) : Except (Coordination W) (Coordination W) := do
  let s ← runIf options.startAgentReplacements coordinator.startAgentReplacements s
  let s ← runIf options.reconnectClientReplacements coordinator.reconnectClientReplacements s
  let s ← runIf options.dispatchClientTeardown (coordinator.dispatchClientTeardown options) s
  runIf options.dispatchAgentTeardown (coordinator.dispatchAgentTeardown options) s

def run (request : ReconnectOrchestrationRequest) (world : W) : Coordination W :=
  let planned := resolveReconnectOrchestrationPlan request
  let s := Coordination.report { world := world } (resolveStep planned)
  if planned.ok = false then s
  else
    match coordinator.phases options { s with result := { s.result with plan := planned.plan } } with
    | .error s => s
    | .ok s => { s with result := { s.result with ok := true } }

end ReconnectCoordinator

/-! ## The law of a run -/

namespace ReconnectCoordinatorPhase

def isReplacement : ReconnectCoordinatorPhase → Bool
  | startAgentReplacements | reconnectClientReplacements => true
  | _ => false

def isTeardown : ReconnectCoordinatorPhase → Bool
  | dispatchClientTeardown | dispatchAgentTeardown => true
  | _ => false

theorem isTeardown_of_isReplacement {phase : ReconnectCoordinatorPhase}
    (h : phase.isReplacement = true) : phase.isTeardown = false := by
  cases phase with
  | startAgentReplacements => rfl
  | reconnectClientReplacements => rfl
  | _ => cases h

theorem isReplacement_of_isTeardown {phase : ReconnectCoordinatorPhase}
    (h : phase.isTeardown = true) : phase.isReplacement = false := by
  cases phase with
  | dispatchClientTeardown => rfl
  | dispatchAgentTeardown => rfl
  | _ => cases h

end ReconnectCoordinatorPhase

namespace ReconnectCoordinatorOptions

/-- The phase is switched on. -/
def enables (options : ReconnectCoordinatorOptions) : ReconnectCoordinatorPhase → Bool
  | .resolvePlan => true
  | .startAgentReplacements => options.startAgentReplacements
  | .reconnectClientReplacements => options.reconnectClientReplacements
  | .dispatchClientTeardown => options.dispatchClientTeardown
  | .dispatchAgentTeardown => options.dispatchAgentTeardown

/-- The phases behind the plan that are switched on, in their order. -/
def enabledBehindPlan (options : ReconnectCoordinatorOptions) : List ReconnectCoordinatorPhase :=
  [.startAgentReplacements, .reconnectClientReplacements, .dispatchClientTeardown,
    .dispatchAgentTeardown].filter options.enables

/-- The enabled phases, in their order. -/
def enabledPhases (options : ReconnectCoordinatorOptions) : List ReconnectCoordinatorPhase :=
  .resolvePlan :: options.enabledBehindPlan

end ReconnectCoordinatorOptions

namespace CoordinatorEvent

def step? : CoordinatorEvent → Option ReconnectCoordinatorStepReport
  | reported step => some step
  | _ => none

/-- The phase in which an executor is called. -/
def calledPhase? : CoordinatorEvent → Option ReconnectCoordinatorPhase
  | replaced phase _ _ => some phase
  | tornDown phase _ _ _ => some phase
  | reported _ => none

/-- The session report that a replacement phase returns. -/
def report? : CoordinatorEvent → Option ReconnectReport
  | replaced _ _ execution =>
    if execution.hasSessionReport then some execution.sessionReport else none
  | _ => none

def isTeardown : CoordinatorEvent → Bool
  | tornDown _ _ _ _ => true
  | _ => false

/-- An executor gets the side of the plan that its phase is about. -/
def OfPlan (plan : ReconnectOrchestrationPlan) (timeoutMs : UInt32) : CoordinatorEvent → Prop
  | replaced .startAgentReplacements side _ => side = plan.agent
  | replaced .reconnectClientReplacements side _ => side = plan.client
  | tornDown .dispatchClientTeardown side ms _ => side = plan.client ∧ ms = timeoutMs
  | tornDown .dispatchAgentTeardown side ms _ => side = plan.agent ∧ ms = timeoutMs
  | reported _ => True
  | _ => False

end CoordinatorEvent

/-- The session report that the result keeps. -/
def ReconnectCoordinatorRunResult.report? (result : ReconnectCoordinatorRunResult) :
    Option ReconnectReport :=
  if result.hasSessionReport then some result.sessionReport else none

/-- Each enabled phase of replacements is among the steps, and was ok. -/
def AllReplaced (options : ReconnectCoordinatorOptions)
    (steps : List ReconnectCoordinatorStepReport) : Prop :=
  ∀ phase ∈ options.enabledPhases, phase.isReplacement = true →
    ∃ step ∈ steps, step.phase = phase ∧ step.ok = true

variable {W : Type}

/-- The phase has an executor to call. -/
def ReconnectCoordinator.reaches (coordinator : ReconnectCoordinator W)
    (phase : ReconnectCoordinatorPhase) : Bool :=
  phase.isReplacement || (phase.isTeardown && coordinator.teardownExecutor.isSome)

/-- What holds of a trace and its result, also while the run is under way. -/
structure Traced (coordinator : ReconnectCoordinator W) (options : ReconnectCoordinatorOptions)
    (plan : ReconnectOrchestrationPlan) (s : Coordination W) : Prop where
  attempted : ∀ step ∈ s.result.steps, step.attempted = true
  steps : s.trace.filterMap CoordinatorEvent.step? = s.result.steps
  called : s.trace.filterMap CoordinatorEvent.calledPhase? =
    (s.result.steps.map fun step => step.phase).filter coordinator.reaches
  ofPlan : ∀ event ∈ s.trace, event.OfPlan plan options.teardownTimeoutMs
  report : s.result.report? = (s.trace.filterMap CoordinatorEvent.report?).getLast?
  /-- A step that is not ok is the end. -/
  failedLast : ∀ front step back, s.trace = front ++ .reported step :: back → step.ok = false →
    back = []
  /-- A transport is torn down when all replacements have been made. -/
  teardowns : ∀ front event back, s.trace = front ++ event :: back → event.isTeardown = true →
    AllReplaced options (front.filterMap CoordinatorEvent.step?)

/-- **The law of a run**, of what `run` returns. -/
structure InOrder (coordinator : ReconnectCoordinator W) (options : ReconnectCoordinatorOptions)
    (request : ReconnectOrchestrationRequest) (s : Coordination W) : Prop where
  traced : Traced coordinator options (resolveReconnectOrchestrationPlan request).plan s
  /-- The plan comes first. -/
  planFirst :
    s.trace.head? = some (.reported (resolveStep (resolveReconnectOrchestrationPlan request)))
  phases : (s.result.steps.map fun step => step.phase) <+: options.enabledPhases
  okBeforeLast : ∀ step ∈ s.result.steps.dropLast, step.ok = true
  ok_iff : s.result.ok = true ↔
    (s.result.steps.map fun step => step.phase) = options.enabledPhases ∧
      ∀ step ∈ s.result.steps, step.ok = true

/-! ## What the attempt of a phase does -/

/-- One phase behind the plan has been attempted, with at most a call of its executor. -/
structure Attempted (coordinator : ReconnectCoordinator W) (options : ReconnectCoordinatorOptions)
    (phase : ReconnectCoordinatorPhase) (call : Option CoordinatorEvent)
    (step : ReconnectCoordinatorStepReport) (s next : Coordination W) : Prop where
  trace : next.trace = s.trace ++ (call.toList ++ [.reported step])
  steps : next.result.steps = s.result.steps ++ [step]
  plan : next.result.plan = s.result.plan
  ok : next.result.ok = s.result.ok
  phase_eq : step.phase = phase
  attempted : step.attempted = true
  called : call.bind CoordinatorEvent.calledPhase? =
    if coordinator.reaches phase then some phase else none
  noStep : call.bind CoordinatorEvent.step? = none
  teardown : ∀ event ∈ call, event.isTeardown = phase.isTeardown
  ofPlan : ∀ event ∈ call, event.OfPlan s.result.plan options.teardownTimeoutMs
  report : next.result.report? = (call.bind CoordinatorEvent.report?).or s.result.report?

theorem report?_copySessionReport (result : ReconnectCoordinatorRunResult)
    (phase : ReconnectCoordinatorPhase) (side : ReconnectSidePlan)
    (execution : ReconnectReplacementExecutionResult) :
    (copySessionReport result execution).report? =
      (CoordinatorEvent.replaced phase side execution).report?.or result.report? := by
  rw [copySessionReport, CoordinatorEvent.report?]
  cases hreport : execution.hasSessionReport with
  | false => rfl
  | true => rfl

/-- A change of the result that leaves what the law is about. -/
structure SameLaw (result next : ReconnectCoordinatorRunResult) : Prop where
  steps : next.steps = result.steps
  plan : next.plan = result.plan
  ok : next.ok = result.ok

theorem sameLaw_copySessionReport (result : ReconnectCoordinatorRunResult)
    (execution : ReconnectReplacementExecutionResult) :
    SameLaw result (copySessionReport result execution) := by
  rw [copySessionReport]
  split
  · exact ⟨rfl, rfl, rfl⟩
  · exact ⟨rfl, rfl, rfl⟩

theorem endPhase_eq {s : Coordination W} {step : ReconnectCoordinatorStepReport}
    (h : step.attempted = true) :
    s.endPhase step = if step.ok then .ok (s.report step) else .error (s.report step) := by
  rw [Coordination.endPhase, stepOk, h, Bool.true_and]
  cases step.ok
  · rfl
  · rfl

section Attempts

variable (coordinator : ReconnectCoordinator W) (options : ReconnectCoordinatorOptions)
  (phase : ReconnectCoordinatorPhase) (side : ReconnectSidePlan) (s : Coordination W)

theorem replacementPhase_cases (hphase : phase.isReplacement = true)
    (execute : ReconnectSidePlan → W → ReconnectReplacementExecutionResult × W)
    (hside : ∀ execution, (CoordinatorEvent.replaced phase side execution).OfPlan s.result.plan
      options.teardownTimeoutMs) :
    ∃ call step next, Attempted coordinator options phase call step s next ∧
      s.replacementPhase phase execute side = if step.ok then .ok next else .error next := by
  have hteardown := ReconnectCoordinatorPhase.isTeardown_of_isReplacement hphase
  have hsame := sameLaw_copySessionReport s.result (execute side s.world).1
  refine ⟨some (.replaced phase side (execute side s.world).1),
    replacementStep phase (execute side s.world).1, _, ?_, endPhase_eq rfl⟩
  exact {
    trace := List.append_assoc _ _ _
    steps := congrArg (· ++ [_]) hsame.steps
    plan := hsame.plan
    ok := hsame.ok
    phase_eq := rfl
    attempted := rfl
    called := by
      rw [ReconnectCoordinator.reaches, hphase]
      rfl
    noStep := rfl
    teardown := by
      rintro event ⟨⟩
      exact hteardown.symm
    ofPlan := by
      rintro event ⟨⟩
      exact hside _
    report := report?_copySessionReport s.result phase side _ }

theorem teardownPhase_cases (hphase : phase.isTeardown = true)
    (keep : ReconnectTeardownDispatchResult → ReconnectCoordinatorRunResult →
      ReconnectCoordinatorRunResult)
    (hkeep : ∀ teardown result, SameLaw result (keep teardown result) ∧
      (keep teardown result).report? = result.report?)
    (hside : ∀ teardown, (CoordinatorEvent.tornDown phase side options.teardownTimeoutMs
      teardown).OfPlan s.result.plan options.teardownTimeoutMs) :
    ∃ call step next, Attempted coordinator options phase call step s next ∧
      s.teardownPhase phase coordinator.teardownExecutor keep side options.teardownTimeoutMs =
        if step.ok then .ok next else .error next := by
  have hreplacement := ReconnectCoordinatorPhase.isReplacement_of_isTeardown hphase
  have hreaches : coordinator.reaches phase = coordinator.teardownExecutor.isSome := by
    rw [ReconnectCoordinator.reaches, hreplacement, hphase, Bool.false_or, Bool.true_and]
  cases hexecutor : coordinator.teardownExecutor with
  | none =>
    refine ⟨none, missingExecutorStep phase, _, ?_, endPhase_eq rfl⟩
    exact {
      trace := rfl
      steps := rfl
      plan := rfl
      ok := rfl
      phase_eq := rfl
      attempted := rfl
      called := by
        rw [hreaches, hexecutor]
        rfl
      noStep := rfl
      teardown := fun event hevent => nomatch hevent
      ofPlan := fun event hevent => nomatch hevent
      report := rfl }
  | some executor =>
    obtain ⟨hsame, hreport⟩ := hkeep
      (executor.dispatchTeardown side options.teardownTimeoutMs s.world).1 s.result
    refine ⟨some (.tornDown phase side options.teardownTimeoutMs
        (executor.dispatchTeardown side options.teardownTimeoutMs s.world).1),
      teardownStep phase (executor.dispatchTeardown side options.teardownTimeoutMs s.world).1, _, ?_,
      endPhase_eq rfl⟩
    exact {
      trace := List.append_assoc _ _ _
      steps := congrArg (· ++ [_]) hsame.steps
      plan := hsame.plan
      ok := hsame.ok
      phase_eq := rfl
      attempted := rfl
      called := by
        rw [hreaches, hexecutor]
        rfl
      noStep := rfl
      teardown := by
        rintro event ⟨⟩
        exact hphase.symm
      ofPlan := by
        rintro event ⟨⟩
        exact hside _
      report := hreport }

end Attempts

/-- The phases behind the plan, as stages. -/
def ReconnectCoordinator.stage (coordinator : ReconnectCoordinator W)
    (options : ReconnectCoordinatorOptions) (phase : ReconnectCoordinatorPhase)
    (s : Coordination W) : Except (Coordination W) (Coordination W) :=
  match phase with
  | .resolvePlan => .ok s
  | .startAgentReplacements => coordinator.startAgentReplacements s
  | .reconnectClientReplacements => coordinator.reconnectClientReplacements s
  | .dispatchClientTeardown => coordinator.dispatchClientTeardown options s
  | .dispatchAgentTeardown => coordinator.dispatchAgentTeardown options s

/-- **What the attempt of a phase does.** -/
theorem attempt_cases (coordinator : ReconnectCoordinator W)
    (options : ReconnectCoordinatorOptions) {phase : ReconnectCoordinatorPhase}
    (hphase : phase ≠ .resolvePlan) (s : Coordination W) :
    ∃ call step next, Attempted coordinator options phase call step s next ∧
      coordinator.stage options phase s = if step.ok then .ok next else .error next := by
  cases phase with
  | resolvePlan => exact absurd rfl hphase
  | startAgentReplacements =>
    exact replacementPhase_cases coordinator options _ _ s rfl _ fun _ => rfl
  | reconnectClientReplacements =>
    exact replacementPhase_cases coordinator options _ _ s rfl _ fun _ => rfl
  | dispatchClientTeardown =>
    exact teardownPhase_cases coordinator options .dispatchClientTeardown _ s rfl
      (fun teardown result => { result with clientTeardown := teardown })
      (fun _ _ => ⟨⟨rfl, rfl, rfl⟩, rfl⟩) fun _ => ⟨rfl, rfl⟩
  | dispatchAgentTeardown =>
    exact teardownPhase_cases coordinator options .dispatchAgentTeardown _ s rfl
      (fun teardown result => { result with agentTeardown := teardown })
      (fun _ _ => ⟨⟨rfl, rfl, rfl⟩, rfl⟩) fun _ => ⟨rfl, rfl⟩

/-- **The phases behind the plan are the stages that are switched on.** -/
theorem phases_eq_run (coordinator : ReconnectCoordinator W)
    (options : ReconnectCoordinatorOptions) (s : Coordination W) :
    coordinator.phases options s =
      Stages.run (coordinator.stage options) options.enabledBehindPlan s := by
  rw [ReconnectCoordinatorOptions.enabledBehindPlan, Stages.run_filter]
  simp only [Stages.run_cons, Stages.run_nil, bind_pure]
  rfl

/-! ## What every attempt keeps -/

/-- What an attempt adds: its call, or the step at the end. -/
theorem call_or_last {α : Type} {call : Option α} {last event : α} {rest back : List α}
    (h : call.toList ++ [last] = rest ++ event :: back) :
    (call = some event ∧ rest = []) ∨ (event = last ∧ back = []) := by
  cases call with
  | none =>
    cases rest with
    | nil =>
      obtain ⟨hevent, hback⟩ := List.cons.inj h
      exact Or.inr ⟨hevent.symm, hback.symm⟩
    | cons _ rest =>
      exact absurd (List.cons.inj h).2.symm
        (List.append_ne_nil_of_right_ne_nil _ (List.cons_ne_nil _ _))
  | some first =>
    cases rest with
    | nil => exact Or.inl ⟨congrArg some (List.cons.inj h).1, rfl⟩
    | cons _ rest =>
      cases rest with
      | nil =>
        obtain ⟨hevent, hback⟩ := List.cons.inj (List.cons.inj h).2
        exact Or.inr ⟨hevent.symm, hback.symm⟩
      | cons _ rest =>
        exact absurd (List.cons.inj (List.cons.inj h).2).2.symm
          (List.append_ne_nil_of_right_ne_nil _ (List.cons_ne_nil _ _))

section Steps

variable {coordinator : ReconnectCoordinator W} {options : ReconnectCoordinatorOptions}
  {plan : ReconnectOrchestrationPlan} {phase : ReconnectCoordinatorPhase}
  {call : Option CoordinatorEvent} {step : ReconnectCoordinatorStepReport}
  {s next : Coordination W}

/-- **What an attempt keeps**, when all steps in front of it were ok, and, for a teardown, when all
replacements have been made. -/
theorem Traced.attempt (hs : Traced coordinator options plan s)
    (hok : ∀ step ∈ s.result.steps, step.ok = true) (hplan : s.result.plan = plan)
    (h : Attempted coordinator options phase call step s next)
    (hready : phase.isTeardown = true → AllReplaced options s.result.steps) :
    Traced coordinator options plan next := by
  have hcall : ∀ {β : Type} (f : CoordinatorEvent → Option β),
      call.toList.filterMap f = (call.bind f).toList := by
    intro β f
    cases call with
    | none => rfl
    | some event =>
      show List.filterMap f [event] = (f event).toList
      rw [List.filterMap_cons, List.filterMap_nil]
      cases f event
      · rfl
      · rfl
  constructor
  case attempted =>
    rw [h.steps, List.forall_mem_append, List.forall_mem_singleton]
    exact ⟨hs.attempted, h.attempted⟩
  case steps =>
    rw [h.trace, h.steps, List.filterMap_append, hs.steps, List.filterMap_append, hcall, h.noStep]
    rfl
  case called =>
    rw [h.trace, h.steps, List.filterMap_append, hs.called, List.filterMap_append, hcall, h.called,
      List.map_append, List.filter_append, List.map_singleton, h.phase_eq]
    cases hreaches : coordinator.reaches phase with
    | true =>
      rw [List.filter_cons_of_pos hreaches]
      rfl
    | false =>
      rw [List.filter_cons_of_neg (by rw [hreaches]; exact Bool.false_ne_true)]
      rfl
  case ofPlan =>
    intro event hevent
    rw [h.trace, List.mem_append, List.mem_append, Option.mem_toList, List.mem_singleton] at hevent
    rcases hevent with hevent | hevent | rfl
    · exact hs.ofPlan event hevent
    · exact hplan ▸ h.ofPlan event hevent
    · trivial
  case report =>
    rw [h.report, hs.report, h.trace, List.filterMap_append, List.filterMap_append, hcall,
      List.getLast?_append]
    cases call.bind CoordinatorEvent.report?
    · rfl
    · rfl
  case failedLast =>
    intro front failed back hsplit hfailed
    rw [h.trace] at hsplit
    rcases split_of_append hsplit with ⟨rest, htrace, -⟩ | ⟨rest, -, hnew⟩
    · -- All steps in front of the attempt were ok.
      have hmem : failed ∈ s.result.steps := by
        rw [← hs.steps, htrace, List.mem_filterMap]
        exact ⟨.reported failed, List.mem_append_right _ List.mem_cons_self, rfl⟩
      rw [hok failed hmem] at hfailed
      cases hfailed
    · rcases call_or_last hnew with ⟨hcalled, -⟩ | ⟨-, hback⟩
      · have hnone := h.noStep
        rw [hcalled] at hnone
        cases hnone
      · exact hback
  case teardowns =>
    intro front event back hsplit hevent
    rw [h.trace] at hsplit
    rcases split_of_append hsplit with ⟨rest, htrace, -⟩ | ⟨rest, hfront, hnew⟩
    · exact hs.teardowns front event rest htrace hevent
    · rcases call_or_last hnew with ⟨hcalled, hrest⟩ | ⟨hlast, -⟩
      · rw [h.teardown event hcalled] at hevent
        rw [hfront, hrest, List.append_nil, hs.steps]
        exact hready hevent
      · rw [hlast] at hevent
        cases hevent

/-- No replacement is behind a teardown. -/
theorem mem_done_of_isTeardown {done rest : List ReconnectCoordinatorPhase}
    (hsplit : done ++ phase :: rest = options.enabledBehindPlan) (hphase : phase.isTeardown = true)
    {other : ReconnectCoordinatorPhase} (hother : other ∈ options.enabledPhases)
    (hreplacement : other.isReplacement = true) : other ∈ done := by
  have horder : options.enabledBehindPlan.Pairwise fun first second =>
      ¬(first.isTeardown = true ∧ second.isReplacement = true) :=
    List.Pairwise.filter _ (by decide)
  rw [← hsplit, List.pairwise_append] at horder
  have hbehind := (List.pairwise_cons.mp horder.2.1).1
  rw [ReconnectCoordinatorOptions.enabledPhases, ← hsplit, List.mem_cons, List.mem_append,
    List.mem_cons] at hother
  rcases hother with rfl | hother | rfl | hother
  · cases hreplacement
  · exact hother
  · rw [ReconnectCoordinatorPhase.isReplacement_of_isTeardown hphase] at hreplacement
    cases hreplacement
  · exact absurd ⟨hphase, hreplacement⟩ (hbehind other hother)

/-- The run is under way, and these phases behind the plan have been attempted. -/
structure Progress (coordinator : ReconnectCoordinator W) (options : ReconnectCoordinatorOptions)
    (request : ReconnectOrchestrationRequest) (done : List ReconnectCoordinatorPhase)
    (s : Coordination W) : Prop where
  traced : Traced coordinator options (resolveReconnectOrchestrationPlan request).plan s
  plan : s.result.plan = (resolveReconnectOrchestrationPlan request).plan
  planFirst :
    s.trace.head? = some (.reported (resolveStep (resolveReconnectOrchestrationPlan request)))
  phases : (s.result.steps.map fun step => step.phase) = .resolvePlan :: done
  notOk : s.result.ok = false

variable {request : ReconnectOrchestrationRequest} {done rest : List ReconnectCoordinatorPhase}

theorem Progress.attempt (hs : Progress coordinator options request done s)
    (hok : ∀ step ∈ s.result.steps, step.ok = true)
    (hsplit : done ++ phase :: rest = options.enabledBehindPlan)
    (h : Attempted coordinator options phase call step s next) :
    Progress coordinator options request (done ++ [phase]) next where
  traced := by
    refine hs.traced.attempt hok hs.plan h fun hphase other hother hreplacement => ?_
    have hmem : other ∈ s.result.steps.map fun step => step.phase := by
      rw [hs.phases]
      exact List.mem_cons_of_mem _ (mem_done_of_isTeardown hsplit hphase hother hreplacement)
    obtain ⟨step, hstep, heq⟩ := List.mem_map.mp hmem
    exact ⟨step, hstep, heq, hok step hstep⟩
  plan := h.plan.trans hs.plan
  planFirst := by
    rw [h.trace, List.head?_append, hs.planFirst]
    rfl
  phases := by
    rw [h.steps, List.map_append, hs.phases, List.map_singleton, h.phase_eq]
    rfl
  notOk := h.ok.trans hs.notOk

end Steps

/-- The report of a plan. -/
theorem traced_plan (coordinator : ReconnectCoordinator W) (options : ReconnectCoordinatorOptions)
    (plan : ReconnectOrchestrationPlan) (planned : ReconnectOrchestrationResult) (world : W) :
    Traced coordinator options plan (Coordination.report { world := world } (resolveStep planned))
    where
  attempted := List.forall_mem_singleton.mpr rfl
  steps := rfl
  called := rfl
  ofPlan := List.forall_mem_singleton.mpr trivial
  report := rfl
  failedLast front step back hsplit _ := by
    have hnew : (none : Option CoordinatorEvent).toList ++ [.reported (resolveStep planned)] =
      front ++ .reported step :: back := hsplit
    rcases call_or_last hnew with ⟨hcall, -⟩ | ⟨-, hback⟩
    · cases hcall
    · exact hback
  teardowns front event back hsplit hevent := by
    have hnew : (none : Option CoordinatorEvent).toList ++ [.reported (resolveStep planned)] =
      front ++ event :: back := hsplit
    rcases call_or_last hnew with ⟨hcall, -⟩ | ⟨hlast, -⟩
    · cases hcall
    · rw [hlast] at hevent
      cases hevent

/-- The phases behind the plan: all of them have been attempted and were ok, or the last one that has
been attempted was not. -/
theorem progress_phases {coordinator : ReconnectCoordinator W}
    {options : ReconnectCoordinatorOptions} {request : ReconnectOrchestrationRequest}
    {s : Coordination W} (hs : Progress coordinator options request [] s)
    (hok : ∀ step ∈ s.result.steps, step.ok = true) :
    (∃ last, coordinator.phases options s = .ok last ∧
        Progress coordinator options request options.enabledBehindPlan last ∧
        ∀ step ∈ last.result.steps, step.ok = true) ∨
      ∃ done last, done <+: options.enabledBehindPlan ∧
        coordinator.phases options s = .error last ∧
        Progress coordinator options request done last ∧
        ∃ front failed, last.result.steps = front ++ [failed] ∧
          (∀ step ∈ front, step.ok = true) ∧ failed.ok = false := by
  rw [phases_eq_run]
  have hbehind : ∀ phase ∈ options.enabledBehindPlan, phase ≠ .resolvePlan := by
    intro phase hphase
    have hmem := List.mem_of_mem_filter hphase
    rintro rfl
    exact absurd hmem (by decide)
  have hattempt : ∀ done phase rest s, done ++ phase :: rest = options.enabledBehindPlan →
      ∃ call step next, Attempted coordinator options phase call step s next ∧
        coordinator.stage options phase s = if step.ok then .ok next else .error next := by
    intro done phase rest s hsplit
    refine attempt_cases coordinator options (hbehind phase ?_) s
    rw [← hsplit]
    exact List.mem_append_right _ List.mem_cons_self
  refine Stages.run_rule (I := fun done s => Progress coordinator options request done s ∧
    ∀ step ∈ s.result.steps, step.ok = true) (J := fun done last =>
      Progress coordinator options request done last ∧
        ∃ front failed, last.result.steps = front ++ [failed] ∧
          (∀ step ∈ front, step.ok = true) ∧ failed.ok = false) ?_ ?_ ⟨hs, hok⟩
  · rintro done phase rest s next hsplit ⟨hs, hok⟩ hstage
    obtain ⟨call, step, reached, hcases, heq⟩ := hattempt done phase rest s hsplit
    rw [heq] at hstage
    split at hstage
    next hstep =>
      cases hstage
      refine ⟨hs.attempt hok hsplit hcases, ?_⟩
      rw [hcases.steps, List.forall_mem_append, List.forall_mem_singleton]
      exact ⟨hok, hstep⟩
    · cases hstage
  · rintro done phase rest s last hsplit ⟨hs, hok⟩ hstage
    obtain ⟨call, step, reached, hcases, heq⟩ := hattempt done phase rest s hsplit
    rw [heq] at hstage
    split at hstage
    · cases hstage
    next hstep =>
      cases hstage
      exact ⟨hs.attempt hok hsplit hcases, s.result.steps, step, hcases.steps, hok,
        Bool.eq_false_iff.mpr hstep⟩

end Runtime
end FusionDesk
