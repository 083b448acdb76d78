import FusionDesk.General.Runs
import FusionDesk.Runtime.TeardownService

/-!
# The responses to several dispatches

The dispatcher has one active plan and one list of responses, which every dispatch begins anew; the
handlers of earlier requests that still wait for a response stay with the tracker.

* `Sound`: what holds between the steps as long as no response comes too late.
* `Sound.summaryDone`: a plan whose commands have all been answered is done.
* `Sound.completeTracked`: what a response does to the invariant.
-/

namespace FusionDesk
namespace Runtime
namespace ReconnectTeardownService

open Protocol Network

/-! ## Vocabulary -/

/-- The message ids of the active plan. -/
def activeIds (s : ReconnectTeardownService) : List MessageId :=
  s.activePlan.commands.map ReconnectTeardownCommand.messageId

/-- The terminal responses that commands have received since the last dispatch has begun. -/
def answered (s : ReconnectTeardownService) : List (ReconnectTeardownCommand × PacketEnvelope) :=
  s.received.filter fun r => terminalMessageKind r.2.messageKind

/-- The terminal responses that a command of the active plan has received. -/
def answersTo (s : ReconnectTeardownService) (command : ReconnectTeardownCommand) :
    List PacketEnvelope :=
  (s.answered.filter fun r => r.1.messageId == command.messageId).map Prod.snd

/-- Every command of the active plan has received exactly one terminal response, which is Ok. -/
structure AllAnswered (s : ReconnectTeardownService) : Prop where
  commands : s.activePlan.commands ≠ []
  answered : ∀ command ∈ s.activePlan.commands, ∃ packet, Answers command packet ∧
    s.answersTo command = [packet]

/-- The summary says that exactly the channels of the active plan are done. -/
structure SummaryDone (s : ReconnectTeardownService) : Prop where
  complete : s.summary.complete = true
  ok : s.summary.ok = true
  channels : s.summary.completedTargetChannels.Perm
    (s.activePlan.commands.map ReconnectTeardownCommand.targetChannel)

/-- The message ids of a dispatch are freshly assigned: its commands come without ids, and no id
that the tracker gives has been given before. -/
def FreshIds (s : ReconnectTeardownService) : TeardownOp → Prop
  | .dispatch plan options => options.assignMissingMessageIds = true ∧ plan.commands ≠ [] ∧
      ∀ command ∈ plan.commands, command.messageId = 0
  | .dispatchSide _ _ options => options.assignMissingMessageIds = true
  | .sendNext => s.freshId ∉ s.handedOut
  | _ => True

instance (s : ReconnectTeardownService) : ∀ op, Decidable (s.FreshIds op)
  | .dispatch _ _ => inferInstanceAs (Decidable (_ ∧ _ ∧ _))
  | .dispatchSide _ _ _ => inferInstanceAs (Decidable (_ = true))
  | .sendNext => inferInstanceAs (Decidable (¬_))
  | .sendReturned _ => isTrue trivial
  | .arrive _ => isTrue trivial
  | .takeId => isTrue trivial

/-- No terminal response arrives for a request that is still pending from an earlier plan. -/
def Timely (s : ReconnectTeardownService) : TeardownOp → Prop
  | .arrive response => terminalMessageKind response.messageKind = true →
      s.tracker.pending[response.responseTo]?.isSome = true → response.responseTo ∈ s.activeIds
  | _ => True

instance (s : ReconnectTeardownService) : ∀ op, Decidable (s.Timely op)
  | .arrive _ => inferInstanceAs (Decidable (_ → _ → _))
  | .dispatch _ _ => isTrue trivial
  | .dispatchSide _ _ _ => isTrue trivial
  | .sendNext => isTrue trivial
  | .sendReturned _ => isTrue trivial
  | .takeId => isTrue trivial

/-- The plans do not disturb each other in the step. -/
structure Undisturbed (s : ReconnectTeardownService) (op : TeardownOp) : Prop where
  /-- A plan whose commands have been answered is done. -/
  done : (s.step op).AllAnswered → (s.step op).SummaryDone
  /-- A response to a command of an earlier plan leaves the summary alone. -/
  earlier : ∀ response, op = .arrive response → response.responseTo ∉ s.activeIds →
    (s.step op).summary = s.summary
  /-- A response to a command of the active plan completes no command of an earlier one. -/
  later : ∀ response, op = .arrive response → response.responseTo ∈ s.activeIds →
    (∀ id ∉ s.activeIds, (s.step op).tracker.pending[id]? = s.tracker.pending[id]?) ∧
    ((s.step op).received = s.received ∨
      ∃ command ∈ s.activePlan.commands, (s.step op).received = s.received ++ [(command, response)])

/-! ## The invariant -/

/-- What holds as long as responses are timely. -/
structure Sound (s : ReconnectTeardownService) : Prop where
  keyed : ∀ id pending, s.tracker.pending[id]? = some pending →
    pending.handler.messageId = id ∧ id ≠ 0 ∧ id ∈ s.handedOut
  waiting : ∀ command ∈ s.waiting, command.messageId = 0
  assigned : ∀ command ∈ s.assigned, command.messageId ≠ 0 ∧ command.messageId ∈ s.handedOut
  distinct : (s.assigned.map ReconnectTeardownCommand.messageId).Nodup
  own : ∀ command ∈ s.assigned, ∀ pending,
    s.tracker.pending[command.messageId]? = some pending → pending.handler = command
  terminal : s.terminalResponses =
    s.answered.map fun r => reconnectTeardownResponseFromPacket r.1 r.2
  answered : ∀ r ∈ s.answered, r.1 ∈ s.assigned ∧ s.tracker.pending[r.1.messageId]? = none
  once : (s.answered.map fun r => r.1.messageId).Nodup
  assigning : ∀ dispatching ∈ s.dispatching, dispatching.options.assignMissingMessageIds = true
  sending : ∀ dispatching ∈ s.dispatching, ∀ request ∈ dispatching.sending,
    ∃ command ∈ s.assigned, command.messageId = request.messageId
  planned : s.activePlan.commands = [] → ∀ id : MessageId, s.tracker.pending[id]? = none

section

variable {s : ReconnectTeardownService}

/-- A pending id of the active plan is that of a command that has gone through the loop. -/
theorem Sound.exists_assigned (h : s.Sound) {id : MessageId}
    (hpending : s.tracker.pending[id]?.isSome) (hid : id ∈ s.activeIds) : ∃ command ∈ s.assigned, command.messageId = id := by
  obtain ⟨pending, hpending⟩ := Option.isSome_iff_exists.mp hpending
  obtain ⟨command, hcommand, hcommandId⟩ := List.mem_map.mp hid
  rcases List.mem_append.mp hcommand with hassigned | hwaiting
  · exact ⟨command, hassigned, hcommandId⟩
  · have hzero := h.waiting command hwaiting
    exact absurd (hcommandId.symm.trans hzero) (h.keyed id pending hpending).2.1

/-- **A plan whose commands have all been answered is done.** -/
theorem Sound.summaryDone (h : s.Sound) (hall : s.AllAnswered) : s.SummaryDone := by
  have hanswersTo : ∀ command ∈ s.activePlan.commands, ∃ r ∈ s.answered,
      r.1.messageId = command.messageId := by
    intro command hcommand
    obtain ⟨packet, -, hpackets⟩ := hall.answered command hcommand
    have hpacket : packet ∈ s.answersTo command := by
      rw [hpackets]
      exact List.mem_singleton_self _
    obtain ⟨r, hr, -⟩ := List.mem_map.mp hpacket
    obtain ⟨hr, hid⟩ := List.mem_filter.mp hr
    exact ⟨r, hr, beq_iff_eq.mp hid⟩
  have hwaiting : s.waiting = [] := by
    refine List.eq_nil_iff_forall_not_mem.mpr fun command hcommand => ?_
    obtain ⟨r, hr, hid⟩ := hanswersTo command (List.mem_append_right _ hcommand)
    rw [h.waiting command hcommand] at hid
    exact (h.assigned r.1 (h.answered r hr).1).1 hid
  have hplan : s.activePlan.commands = s.assigned := by
    rw [activePlan, hwaiting, List.append_nil]
  have hnodup : (s.activePlan.commands.map ReconnectTeardownCommand.messageId).Nodup := by
    rw [hplan]
    exact h.distinct
  have hanswers : ∀ r ∈ s.answered, r.1 ∈ s.activePlan.commands ∧ Answers r.1 r.2 := by
    intro r hr
    have hcommand : r.1 ∈ s.activePlan.commands := by
      rw [hplan]
      exact (h.answered r hr).1
    obtain ⟨packet, hanswer, hpackets⟩ := hall.answered r.1 hcommand
    have hpacket : r.2 ∈ s.answersTo r.1 :=
      List.mem_map_of_mem (List.mem_filter.mpr ⟨hr, beq_self_eq_true _⟩)
    rw [hpackets, List.mem_singleton] at hpacket
    rw [hpacket]
    exact ⟨hcommand, hanswer⟩
  have hperm : (s.answered.map Prod.fst).Perm s.activePlan.commands := by
    have honce : (s.answered.map Prod.fst).Nodup := by
      refine List.Nodup.of_map ReconnectTeardownCommand.messageId ?_
      rw [List.map_map]
      exact h.once
    refine (List.perm_ext_iff_of_nodup honce (List.Nodup.of_map _ hnodup)).mpr fun command => ?_
    constructor
    · intro hcommand
      obtain ⟨r, hr, rfl⟩ := List.mem_map.mp hcommand
      exact (hanswers r hr).1
    · intro hcommand
      obtain ⟨r, hr, hid⟩ := hanswersTo command hcommand
      have hsame := eq_of_messageId_eq hnodup (hanswers r hr).1 hcommand hid
      rw [← hsame]
      exact List.mem_map_of_mem hr
  have hsummary := summarize_of_answers hall.commands hnodup hanswers hperm
  rw [← h.terminal] at hsummary
  have hchannels := hperm.map ReconnectTeardownCommand.targetChannel
  rw [List.map_map] at hchannels
  constructor
  · rw [summary, hsummary]
  · rw [summary, hsummary]
  · rw [summary, hsummary]
    exact hchannels

/-! ## Responses -/

theorem answered_recordTrackedResponse (command : ReconnectTeardownCommand)
    (response : PacketEnvelope) :
    (s.recordTrackedResponse command response).answered =
      if terminalMessageKind response.messageKind then s.answered ++ [(command, response)]
      else s.answered := by
  unfold recordTrackedResponse
  dsimp only
  split
  next hterminal =>
    rw [answered, List.filter_append, answered]
    simp [hterminal]
  next hinterim =>
    rw [answered, List.filter_append, answered]
    simp [hinterim]

/-- What a response comes to: nothing, or it goes to the command that waits for it. -/
theorem Sound.completeTracked_cases (h : s.Sound) (response : PacketEnvelope) :
    ((s.completeTracked response).2 = s ∧ s.tracker.pending[response.responseTo]? = none) ∨
      ∃ pending, s.tracker.pending[response.responseTo]? = some pending ∧
        (s.completeTracked response).2 =
          { s.recordTrackedResponse pending.handler response with
            tracker := if terminalMessageKind response.messageKind then
                s.tracker.erase response.responseTo else s.tracker } := by
  rcases s.tracker.complete_cases response with ⟨hcomplete, hnone⟩ | ⟨pending, hpending, hcomplete⟩
  · have hsame : (s.completeTracked response).2 = s := by
      rw [completeTracked, hcomplete]
      rfl
    refine Or.inl ⟨hsame, hnone.elim (fun hzero => ?_) id⟩
    cases hpending : s.tracker.pending[response.responseTo]? with
    | none => rfl
    | some pending => exact absurd hzero (h.keyed _ pending hpending).2.1
  · refine Or.inr ⟨pending, hpending, ?_⟩
    rw [completeTracked, hcomplete]
    rfl

/-- An interim response changes nothing of what the invariant is about. -/
theorem Sound.record_interim (h : s.Sound) {response : PacketEnvelope}
    (hinterim : terminalMessageKind response.messageKind = false)
    (command : ReconnectTeardownCommand) : (s.recordTrackedResponse command response).Sound := by
  have hanswered := answered_recordTrackedResponse (s := s) command response
  rw [hinterim, if_neg Bool.false_ne_true] at hanswered
  have hrecorded : s.recordTrackedResponse command response =
      { s with
        received := s.received ++ [(command, response)]
        interimResponses := s.interimResponses ++
          [reconnectTeardownResponseFromPacket command response] } := by
    rw [recordTrackedResponse, hinterim]
    rfl
  have hterminal := h.terminal
  have hlisted := h.answered
  have honce := h.once
  rw [← hanswered] at hterminal hlisted honce
  rw [hrecorded] at hterminal hlisted honce ⊢
  exact ⟨h.keyed, h.waiting, h.assigned, h.distinct, h.own, hterminal, hlisted, honce, h.assigning,
    h.sending, h.planned⟩

/-- A terminal response to a command that waits for it ends the command. -/
theorem Sound.record_terminal (h : s.Sound) {response : PacketEnvelope}
    {command : ReconnectTeardownCommand}
    (hterminal : terminalMessageKind response.messageKind = true) (hcommand : command ∈ s.assigned)
    (hpending : s.tracker.pending[command.messageId]?.isSome) :
    ({ s.recordTrackedResponse command response with
      tracker := s.tracker.erase command.messageId } : ReconnectTeardownService).Sound := by
  have hanswered := answered_recordTrackedResponse (s := s) command response
  rw [hterminal, if_pos rfl] at hanswered
  have hrecorded : s.recordTrackedResponse command response =
      { s with
        received := s.received ++ [(command, response)]
        terminalResponses := s.terminalResponses ++
          [reconnectTeardownResponseFromPacket command response] } := by
    rw [recordTrackedResponse, hterminal]
    rfl
  have herased : ∀ {id : MessageId} {pending},
      (s.tracker.erase command.messageId).pending[id]? = some pending →
        s.tracker.pending[id]? = some pending := by
    intro id pending hfound
    rw [RequestTracker.pending_erase] at hfound
    split at hfound
    · cases hfound
    · exact hfound
  have hlist : ({ s.recordTrackedResponse command response with
      tracker := s.tracker.erase command.messageId } : ReconnectTeardownService).answered =
        s.answered ++ [(command, response)] := hanswered
  rw [hrecorded] at hlist ⊢
  refine ⟨fun id pending hfound => h.keyed id pending (herased hfound), h.waiting, h.assigned,
    h.distinct, fun c hc pending hfound => h.own c hc pending (herased hfound), ?_, ?_, ?_,
    h.assigning, h.sending, fun hnone id => ?_⟩
  · rw [hlist, List.map_append, ← h.terminal]
    rfl
  · intro r hr
    rw [hlist] at hr
    show r.1 ∈ s.assigned ∧ (s.tracker.erase command.messageId).pending[r.1.messageId]? = none
    rw [RequestTracker.pending_erase]
    rcases List.mem_append.mp hr with hr | hr
    · refine ⟨(h.answered r hr).1, ?_⟩
      rw [(h.answered r hr).2, ite_self]
    · rw [List.mem_singleton] at hr
      subst hr
      exact ⟨hcommand, if_pos rfl⟩
  · rw [hlist, List.map_append]
    refine List.nodup_append.mpr ⟨h.once, List.nodup_singleton _, ?_⟩
    intro id hid other hother
    obtain ⟨r, hr, rfl⟩ := List.mem_map.mp hid
    rw [List.map_singleton, List.mem_singleton] at hother
    rintro hsame
    rw [← hother, ← hsame, (h.answered r hr).2] at hpending
    cases hpending
  · have hempty := h.planned hnone id
    show (s.tracker.erase command.messageId).pending[id]? = none
    rw [RequestTracker.pending_erase, hempty, ite_self]

/-- **A timely response keeps the invariant.** -/
theorem Sound.completeTracked (h : s.Sound) {response : PacketEnvelope}
    (htimely : terminalMessageKind response.messageKind = true →
      s.tracker.pending[response.responseTo]?.isSome = true → response.responseTo ∈ s.activeIds) :
    (s.completeTracked response).2.Sound := by
  rcases h.completeTracked_cases response with ⟨hsame, -⟩ | ⟨pending, hpending, hresult⟩
  · rwa [hsame]
  · have hsome : s.tracker.pending[response.responseTo]?.isSome = true := by
      rw [hpending]
      rfl
    rw [hresult]
    cases hkind : terminalMessageKind response.messageKind with
    | false =>
      have htracker : (s.recordTrackedResponse pending.handler response).tracker = s.tracker := by
        rw [recordTrackedResponse, hkind]
        rfl
      rw [if_neg Bool.false_ne_true, ← htracker]
      exact h.record_interim hkind pending.handler
    | true =>
      obtain ⟨command, hcommand, hid⟩ := h.exists_assigned hsome (htimely hkind hsome)
      have hown : pending.handler = command := by
        refine h.own command hcommand pending ?_
        rw [hid]
        exact hpending
      rw [if_pos rfl, hown, ← hid]
      refine h.record_terminal hkind hcommand ?_
      rwa [hid]

end

end ReconnectTeardownService
end Runtime
end FusionDesk
