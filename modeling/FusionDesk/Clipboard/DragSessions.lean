import FusionDesk.Clipboard.DragEvents
import FusionDesk.General.Runs

/-!
# Drag sessions

What goes on after the start of a drag names the drag that is on: a move, a drop or a cancel that the
drag sink is asked for is of the last start that the sink has accepted, and one that is sent to the
peer is of the last start that was sent.  The start was of the bundle of its time, and nothing has
ended the drag since.

* `since_remoteDrag`, `since_localDrag`: an active session has been started, and nothing has changed
  the drag since.
* `dragsWellFormed`: every step of every run.
-/

namespace FusionDesk
namespace Clipboard

open Protocol Network Runs
open FusionDesk.Module

/-! ## What starts and what changes a drag -/

/-- The session that a call of the drag sink goes on with. -/
def DragSinkCall.continued : DragSinkCall → Option DragSessionId
  | dragStart _ => none
  | dragMove id _ _ => some id
  | dragDrop id _ _ => some id
  | dragCancel id _ => some id

/-- An accepted call of this kind starts a drag or ends it. -/
def DragSinkCall.changesDrag : DragSinkCall → Bool
  | dragMove _ _ _ => false
  | _ => true

/-- A message that goes on with a drag. -/
def FdclMessage.continuesDrag (message : FdclMessage) : Bool :=
  message.operation == .dragMove || message.operation == .dragDrop ||
    message.operation == .dragCancel

/-- A message that starts a drag or ends it, an announcement included. -/
def FdclMessage.changesDrag (message : FdclMessage) : Bool :=
  message.operation == .dragStart || message.operation == .dragDrop ||
    message.operation == .dragCancel || message.operation == .formatList

namespace ClipboardModule

variable (m : ClipboardModule) (op : ClipboardOp × Surroundings)

/-- The call of the drag sink that a step makes. -/
def sinkCall : Option DragSinkCall := (m.perform op.2 op.1).sink

/-- The message goes out as an event. -/
def Sends (message : FdclMessage) : Prop :=
  (m.perform op.2 op.1).sentEvent op.2 = some message.encode

/-- The format list is accepted: it becomes the offer of the peer, also where the endpoint does not
take the offer then. -/
def acceptsFormatList (list : FdclFormatList) : Bool :=
  m.mayReceive list && !m.loops list && (filterFormatsByPolicy m.policy list).formats != [] &&
    (m.sourceRegistry.store (m.offeredBundle list)).1 == .ok

/-- The drag sink accepts the start of the drag, which is of the bundle that the peer offers. -/
def StartsRemoteDrag (id : DragSessionId) : Prop :=
  ∃ start, m.sinkCall op = some (.dragStart start) ∧ op.2.dragSink = .ok ∧
    start.dragSessionId = id ∧ dragStartMatchesBundle m.remoteBundle start = true

/-- The start of the drag goes out, and is of the bundle, which this side offers. -/
def StartsLocalDrag (id : DragSessionId) (bundle : TransferSourceBundle) : Prop :=
  ∃ start, m.Sends op (.dragStart start) ∧ start.start.dragSessionId = id ∧
    m.localBundle = bundle ∧ dragStartMatchesBundle bundle start.start = true

end ClipboardModule

/-- **What changes the drag of the peer**: an accepted start, drop or cancel, an accepted format
list, or an interruption. -/
inductive ChangesRemoteDrag (m : ClipboardModule) (op : ClipboardOp × Surroundings) : Prop
  | answered (call : DragSinkCall) (asked : m.sinkCall op = some call)
      (changes : call.changesDrag = true) (accepted : op.2.dragSink = .ok)
  | formatList (packet : PacketEnvelope) (list : FdclFormatList) (running : m.state = .running)
      (handled : op.1 = .handlePacket packet) (asked : received packet = .formatList list)
      (accepts : m.acceptsFormatList list = true)
  | interrupted (interrupts : op.1.interruptsDrags = true)

/-- **What changes the drag of this side**: a start, a drop, a cancel or an announcement that goes
out, or an interruption. -/
inductive ChangesLocalDrag (m : ClipboardModule) (op : ClipboardOp × Surroundings) : Prop
  | sent (message : FdclMessage) (sends : m.Sends op message)
      (changes : message.changesDrag = true)
  | interrupted (interrupts : op.1.interruptsDrags = true)

namespace ClipboardModule

variable {m : ClipboardModule} {op : ClipboardOp × Surroundings}

/-! ## One step -/

theorem dragMove_step (m : ClipboardModule) (op : ClipboardOp × Surroundings) :
    ∃ message, (m.perform op.2 op.1).sentEvent op.2 = message.map FdclMessage.encode ∧
      DragMove m (m.step op) op.2.dragSink (m.sinkCall op) message :=
  m.drags_perform op.2 op.1

/-- The message that goes out is one of those of `DragMove`. -/
theorem dragMove_of_sends {message : FdclMessage} (h : m.Sends op message) :
    ∃ sent, sent.encode = message.encode ∧
      DragMove m (m.step op) op.2.dragSink (m.sinkCall op) (some sent) := by
  obtain ⟨sent, hsent, hmove⟩ := m.dragMove_step op
  rw [Sends, hsent] at h
  obtain ⟨sent, rfl, hencode⟩ := Option.map_eq_some_iff.mp h
  exact ⟨sent, hencode, hmove⟩

/-- An interruption leaves no drag. -/
theorem sessions_of_interrupts (h : op.1.interruptsDrags = true) :
    (m.step op).activeRemoteDragSessionId = 0 ∧ (m.step op).activeLocalDragSessionId = 0 := by
  obtain ⟨op, surroundings⟩ := op
  cases op with
  | stop => exact ⟨rfl, rfl⟩
  | detach => exact ⟨rfl, rfl⟩
  | pauseForReconnect options =>
    have haffected : ¬affectsClipboardChannel options = false := by
      rw [Bool.not_eq_false]
      exact h
    have hstep : m.step (.pauseForReconnect options, surroundings) = m.pauseForReconnect options :=
      rfl
    rw [hstep, pauseForReconnect, if_neg haffected]
    exact ⟨rfl, rfl⟩
  | _ => cases h

/-- An accepted format list leaves no drag of the peer. -/
theorem session_of_acceptsFormatList {packet : PacketEnvelope} {list : FdclFormatList}
    (hrunning : m.state = .running) (hop : op.1 = .handlePacket packet)
    (hasked : received packet = .formatList list) (h : m.acceptsFormatList list = true) :
    (m.step op).activeRemoteDragSessionId = 0 := by
  obtain ⟨op, surroundings⟩ := op
  cases hop
  simp only [acceptsFormatList, Bool.and_eq_true, Bool.not_eq_true', bne_iff_ne, beq_iff_eq] at h
  obtain ⟨⟨⟨hmay, hloops⟩, hformats⟩, hstored⟩ := h
  have hstep : m.step (.handlePacket packet, surroundings) =
      (m.handlePacket surroundings packet).finish surroundings := rfl
  rw [hstep, m.handlePacket_eq surroundings packet hrunning, hasked]
  show (m.handleFormatList surroundings list).activeRemoteDragSessionId = 0
  rw [handleFormatList, if_neg (by simp [hmay]), if_neg (by simp [hloops]), if_neg hformats]
  simp only [hstored, ne_eq, not_true_eq_false, if_false]
  split
  · rfl
  · rfl

/-- What leaves a drag of the peer has not changed it, if no start, drop or cancel was accepted. -/
theorem not_changesRemoteDrag (hactive : (m.step op).activeRemoteDragSessionId ≠ 0)
    (hcall : ∀ call, m.sinkCall op = some call → call.changesDrag = true → op.2.dragSink ≠ .ok) :
    ¬ChangesRemoteDrag m op := by
  rintro (⟨call, hasked, hchanges, haccepted⟩ | ⟨packet, list, hrunning, hop, hasked, haccepts⟩ |
    hinterrupts)
  · exact hcall call hasked hchanges haccepted
  · exact hactive (session_of_acceptsFormatList hrunning hop hasked haccepts)
  · exact hactive (sessions_of_interrupts hinterrupts).1

theorem not_changesLocalDrag (hactive : (m.step op).activeLocalDragSessionId ≠ 0)
    (hsends : ∀ message, m.Sends op message → message.changesDrag = false) :
    ¬ChangesLocalDrag m op := by
  rintro (⟨message, hsent, hchanges⟩ | hinterrupts)
  · rw [hsends message hsent] at hchanges
    cases hchanges
  · exact hactive (sessions_of_interrupts hinterrupts).2

/-! ## Since when a drag is on -/

/-- **An active session of the peer was started for the bundle of its time, and nothing has changed
the drag since.** -/
theorem since_remoteDrag {first : ClipboardModule} (hfirst : first.activeRemoteDragSessionId = 0)
    {id : DragSessionId} (hid : id ≠ 0) {ops : List (ClipboardOp × Surroundings)}
    (h : (Runs.run step first ops).activeRemoteDragSessionId = id) :
    Since step (fun m op => m.StartsRemoteDrag op id) ChangesRemoteDrag first ops := by
  refine since_of_run (H := fun m => m.activeRemoteDragSessionId = id) ?_ ?_ h
  · rw [hfirst]
    exact hid.symm
  intro m op hactive
  have hnonzero : (m.step op).activeRemoteDragSessionId ≠ 0 := hactive ▸ hid
  obtain ⟨message, -, hmove⟩ := m.dragMove_step op
  -- the session is the one of before, and no call of the sink that changes drags was accepted
  have hkept : (m.step op).activeRemoteDragSessionId = m.activeRemoteDragSessionId →
      (∀ call, m.sinkCall op = some call → call.changesDrag = true → op.2.dragSink ≠ .ok) →
      m.activeRemoteDragSessionId = id ∧ ¬ChangesRemoteDrag m op := fun hsame hcall =>
    ⟨hsame.symm.trans hactive, not_changesRemoteDrag hnonzero hcall⟩
  generalize hcall : m.sinkCall op = call at hmove hkept
  have hnone : call = none → ∀ asked, call = some asked → asked.changesDrag = true →
      op.2.dragSink ≠ .ok := by
    rintro rfl asked hasked
    cases hasked
  cases hmove with
  | kept drags => exact Or.inr (hkept (congrArg (·.2.1) drags) (hnone rfl))
  | interrupted remote here => exact absurd remote hnonzero
  | listTaken remote here => exact absurd remote hnonzero
  | started start may ofBundle remote here =>
    by_cases hanswer : op.2.dragSink = .ok
    · rw [if_pos hanswer] at remote
      exact Or.inl ⟨start, hcall, hanswer, remote.symm.trans hactive, ofBundle⟩
    · rw [if_neg hanswer] at remote
      exact Or.inr (hkept remote fun _ _ _ => hanswer)
  | moved id point action may nonzero active drags =>
    refine Or.inr (hkept (congrArg (·.2.1) drags) ?_)
    rintro asked ⟨⟩ hchanges
    cases hchanges
  | dropped id point action may nonzero active remote here =>
    by_cases hanswer : op.2.dragSink = .ok
    · rw [if_pos hanswer] at remote
      exact absurd remote hnonzero
    · rw [if_neg hanswer] at remote
      exact Or.inr (hkept remote fun _ _ _ => hanswer)
  | cancelled id reason may nonzero active remote here =>
    by_cases hanswer : op.2.dragSink = .ok
    · rw [if_pos hanswer] at remote
      exact absurd remote hnonzero
    · rw [if_neg hanswer] at remote
      exact Or.inr (hkept remote fun _ _ _ => hanswer)
  | announced list here remote => exact Or.inr (hkept remote (hnone rfl))
  | sentStart start may ofBundle drags =>
    exact Or.inr (hkept (congrArg (·.2.1) drags) (hnone rfl))
  | sentMove move may nonzero active drags =>
    exact Or.inr (hkept (congrArg (·.2.1) drags) (hnone rfl))
  | sentDrop drop may nonzero active drags =>
    exact Or.inr (hkept (congrArg (·.2.1) drags) (hnone rfl))
  | sentCancel cancel may nonzero active drags =>
    exact Or.inr (hkept (congrArg (·.2.1) drags) (hnone rfl))

/-- **An active session of this side was started for the bundle that it still offers, and nothing has
changed the drag since.** -/
theorem since_localDrag {first : ClipboardModule} (hfirst : first.activeLocalDragSessionId = 0)
    {id : DragSessionId} {bundle : TransferSourceBundle} (hid : id ≠ 0)
    {ops : List (ClipboardOp × Surroundings)} (h : (Runs.run step first ops).localDrag = (id, bundle)) :
    Since step (fun m op => m.StartsLocalDrag op id bundle) ChangesLocalDrag first ops := by
  refine since_of_run (H := fun m => m.localDrag = (id, bundle)) ?_ ?_ h
  · intro heq
    exact hid ((congrArg Prod.fst heq).symm.trans hfirst)
  intro m op hactive
  have hnonzero : (m.step op).activeLocalDragSessionId ≠ 0 := by
    rw [show (m.step op).activeLocalDragSessionId = id from congrArg Prod.fst hactive]
    exact hid
  obtain ⟨message, hsent, hmove⟩ := m.dragMove_step op
  have hkept : (m.step op).localDrag = m.localDrag →
      (∀ message, m.Sends op message → message.changesDrag = false) →
      m.localDrag = (id, bundle) ∧ ¬ChangesLocalDrag m op := fun hsame hsends =>
    ⟨hsame.symm.trans hactive, not_changesLocalDrag hnonzero hsends⟩
  have hsilent : message = none → ∀ message, m.Sends op message → message.changesDrag = false := by
    rintro rfl message hsends
    rw [Sends, hsent] at hsends
    cases hsends
  have hlocal : (m.step op).drags = m.drags → (m.step op).localDrag = m.localDrag := fun hdrags =>
    congrArg (fun drags => (drags.1, drags.2.2)) hdrags
  generalize m.sinkCall op = call at hmove
  cases hmove with
  | kept drags => exact Or.inr (hkept (hlocal drags) (hsilent rfl))
  | interrupted remote here => exact absurd here hnonzero
  | listTaken remote here => exact Or.inr (hkept here (hsilent rfl))
  | started start may ofBundle remote here => exact Or.inr (hkept here (hsilent rfl))
  | moved id point action may nonzero active drags =>
    exact Or.inr (hkept (hlocal drags) (hsilent rfl))
  | dropped id point action may nonzero active remote here =>
    exact Or.inr (hkept here (hsilent rfl))
  | cancelled id reason may nonzero active remote here =>
    exact Or.inr (hkept here (hsilent rfl))
  | announced list here remote => exact absurd here hnonzero
  | sentStart start may ofBundle drags =>
    have hstarted : (m.step op).localDrag = (start.start.dragSessionId, m.localBundle) :=
      congrArg (fun drags => (drags.1, drags.2.2)) drags
    obtain ⟨hsession, hbundle⟩ := Prod.mk.inj (hstarted.symm.trans hactive)
    exact Or.inl ⟨start, hsent, hsession, hbundle, hbundle ▸ ofBundle⟩
  | sentMove move may nonzero active drags =>
    refine Or.inr (hkept (hlocal drags) fun message hsends => ?_)
    rw [Sends, hsent] at hsends
    have hoperation := FdclMessage.operation_eq_of_encode_eq (Option.some_inj.mp hsends)
    rw [FdclMessage.changesDrag, ← hoperation]
    rfl
  | sentDrop drop may nonzero active drags => exact absurd (congrArg (·.1) drags) hnonzero
  | sentCancel cancel may nonzero active drags => exact absurd (congrArg (·.1) drags) hnonzero

/-! ## What is asked of the sink and what is sent -/

theorem allowDrag_of_mayTakeDrag (h : m.mayTakeDrag = true) : m.policy.allowDrag = true := by
  rw [mayTakeDrag, Bool.and_eq_true, Bool.and_eq_true] at h
  exact h.1.2

theorem allowDrag_of_maySendDrag (h : m.maySendDrag = true) : m.policy.allowDrag = true := by
  rw [maySendDrag, Bool.and_eq_true] at h
  exact h.2

/-- The policy of a run is that of its start. -/
theorem policy_run (first : ClipboardModule) (ops : List (ClipboardOp × Surroundings)) :
    (Runs.run step first ops).policy = first.policy := by
  have hfixed : (Runs.run step first ops).dependencies = first.dependencies :=
    run_invariant (I := fun m : ClipboardModule => m.dependencies = first.dependencies) rfl
      (fun (m : ClipboardModule) op hm =>
        ((m.leaves_dependencies op.2 op.1).finish op.2).trans hm) ops
  exact congrArg ClipboardModuleDependencies.policy hfixed

/-- **The drag sink is asked only where the policy allows drags, and to go on only with the session
that is active.** -/
theorem allowed_of_sinkCall {call : DragSinkCall} (h : m.sinkCall op = some call) :
    m.policy.allowDrag = true ∧
      ∀ id ∈ call.continued, id ≠ 0 ∧ m.activeRemoteDragSessionId = id := by
  obtain ⟨message, -, hmove⟩ := m.dragMove_step op
  rw [h] at hmove
  cases hmove with
  | started start may ofBundle remote here => exact ⟨allowDrag_of_mayTakeDrag may, nofun⟩
  | moved id point action may nonzero active drags =>
    refine ⟨allowDrag_of_mayTakeDrag may, ?_⟩
    rintro id ⟨⟩
    exact ⟨nonzero, active⟩
  | dropped id point action may nonzero active remote here =>
    refine ⟨allowDrag_of_mayTakeDrag may, ?_⟩
    rintro id ⟨⟩
    exact ⟨nonzero, active⟩
  | cancelled id reason may nonzero active remote here =>
    refine ⟨may, ?_⟩
    rintro id ⟨⟩
    exact ⟨nonzero, active⟩

/-- **A message about a drag goes out only where the policy allows drags, and goes on only with the
session that is active.** -/
theorem allowed_of_sends {message : FdclMessage} (h : m.Sends op message) {id : DragSessionId}
    (hid : id ∈ message.dragSession) :
    m.policy.allowDrag = true ∧
      (message.continuesDrag = true → id ≠ 0 ∧ m.activeLocalDragSessionId = id) := by
  obtain ⟨sent, hencode, hmove⟩ := dragMove_of_sends h
  have hoperation := FdclMessage.operation_eq_of_encode_eq hencode
  have hsession : ∀ sentId ∈ sent.dragSession, sentId = id := fun sentId hsent =>
    FdclMessage.dragSession_eq_of_encode_eq hencode hsent hid
  generalize m.sinkCall op = call at hmove
  cases hmove with
  | announced list here remote =>
    cases message with
    | dragStart start => cases hoperation
    | dragMove move => cases hoperation
    | dragDrop drop => cases hoperation
    | dragCancel cancel => cases hoperation
    | _ => cases hid
  | sentStart start may ofBundle drags =>
    refine ⟨allowDrag_of_maySendDrag may, fun hcontinues => ?_⟩
    rw [FdclMessage.continuesDrag, ← hoperation] at hcontinues
    cases hcontinues
  | sentMove move may nonzero active drags =>
    have hsame := hsession _ rfl
    exact ⟨allowDrag_of_maySendDrag may, fun _ => hsame ▸ ⟨nonzero, active⟩⟩
  | sentDrop drop may nonzero active drags =>
    have hsame := hsession _ rfl
    exact ⟨allowDrag_of_maySendDrag may, fun _ => hsame ▸ ⟨nonzero, active⟩⟩
  | sentCancel cancel may nonzero active drags =>
    have hsame := hsession _ rfl
    exact ⟨allowDrag_of_maySendDrag may, fun _ => hsame ▸ ⟨nonzero, active⟩⟩

end ClipboardModule

open ClipboardModule

/-- **The drags of one more step of a run are well formed.** -/
structure DragsWellFormed (first : ClipboardModule) (ops : List (ClipboardOp × Surroundings))
    (op : ClipboardOp × Surroundings) : Prop where
  sinkAllowed : ∀ call, (Runs.run step first ops).sinkCall op = some call →
    first.policy.allowDrag = true
  /-- A move, a drop or a cancel that the sink is asked for is of the last drag that it accepted. -/
  sinkSession : ∀ call, (Runs.run step first ops).sinkCall op = some call →
    ∀ id ∈ call.continued,
      Since step (fun m op => m.StartsRemoteDrag op id) ChangesRemoteDrag first ops
  eventAllowed : ∀ message, (Runs.run step first ops).Sends op message →
    ∀ id ∈ message.dragSession, first.policy.allowDrag = true
  /-- A move, a drop or a cancel that goes out is of the last drag whose start went out. -/
  eventSession : ∀ message, (Runs.run step first ops).Sends op message →
    message.continuesDrag = true → ∀ id ∈ message.dragSession,
      Since step (fun m op => m.StartsLocalDrag op id (Runs.run step first ops).localBundle)
        ChangesLocalDrag first ops

/-- **Drag sessions are well formed in every run.** -/
theorem dragsWellFormed (dependencies : ClipboardModuleDependencies)
    (largeDataWindow : Option ClipboardLargeDataWindow) (ops : List (ClipboardOp × Surroundings))
    (op : ClipboardOp × Surroundings) :
    DragsWellFormed (construct dependencies largeDataWindow) ops op := by
  have hpolicy := policy_run (construct dependencies largeDataWindow) ops
  refine ⟨fun call hcall => ?_, fun call hcall id hid => ?_, fun message hsends id hid => ?_,
    fun message hsends hcontinues id hid => ?_⟩
  · rw [← hpolicy]
    exact (allowed_of_sinkCall hcall).1
  · obtain ⟨hnonzero, hactive⟩ := (allowed_of_sinkCall hcall).2 id hid
    exact since_remoteDrag rfl hnonzero hactive
  · rw [← hpolicy]
    exact (allowed_of_sends hsends hid).1
  · obtain ⟨hnonzero, hactive⟩ := (allowed_of_sends hsends hid).2 hcontinues
    exact since_localDrag rfl hnonzero (Prod.ext hactive rfl)

end Clipboard
end FusionDesk
