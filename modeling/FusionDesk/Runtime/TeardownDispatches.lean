import FusionDesk.Runtime.TeardownRuns

/-!
# Dispatches one after the other

Do two dispatches disturb each other?  They do when a response to the first comes after the second
has begun: it is recorded among those to the second, whose summary then fails.

* `Sound.step`: a step keeps the invariant, if its ids are fresh and its response is not too late.
* `undisturbed_iff`: exactly when the dispatches of a run do not disturb each other.
* `late_response_fails_second`: the order of `ReconnectCoordinator::run` when both answers come late.
-/

namespace FusionDesk
namespace Runtime
namespace ReconnectTeardownService

open Protocol Network

section

variable {s : ReconnectTeardownService}

/-! ## The steps of a dispatch -/

/-- The invariant reads no result, and of a dispatch its options and the request being sent. -/
theorem Sound.withDispatching (h : s.Sound) {dispatching : Option Dispatching}
    {lastResult : ReconnectTeardownDispatchResult}
    (hassigning : ∀ d ∈ dispatching, d.options.assignMissingMessageIds = true)
    (hsending : ∀ d ∈ dispatching, ∀ request ∈ d.sending,
      ∃ command ∈ s.assigned, command.messageId = request.messageId) :
    ({ s with dispatching := dispatching, lastResult := lastResult } :
      ReconnectTeardownService).Sound :=
  ⟨h.keyed, h.waiting, h.assigned, h.distinct, h.own, h.terminal, h.answered, h.once, hassigning,
    hsending, h.planned⟩

theorem Sound.endRound (h : s.Sound) {dispatching : Dispatching}
    (hassigning : dispatching.options.assignMissingMessageIds = true) :
    (s.endRound dispatching).Sound := by
  unfold ReconnectTeardownService.endRound
  split
  · refine h.withDispatching ?_ ?_
    · rintro _ ⟨⟩
    · rintro _ ⟨⟩
  · refine h.withDispatching ?_ ?_
    · rintro _ ⟨⟩
      exact hassigning
    · rintro _ ⟨⟩ _ ⟨⟩

/-- A dispatch begins with a plan none of whose commands has been sent. -/
theorem Sound.beginDispatch (h : s.Sound) {plan : ReconnectTeardownPlan}
    {options : ReconnectTeardownDispatchOptions} (hassign : options.assignMissingMessageIds = true)
    (hcommands : plan.commands ≠ []) (hmissing : ∀ command ∈ plan.commands, command.messageId = 0) :
    (s.beginDispatch plan options).Sound := by
  have hsome : ¬plan.commands.isEmpty = true := mt List.isEmpty_iff.mp hcommands
  unfold ReconnectTeardownService.beginDispatch
  by_cases hactive : s.active = false
  · rw [if_pos hactive]
    exact h.withDispatching h.assigning h.sending
  · rw [if_neg hactive]
    dsimp only
    rw [if_neg hsome]
    refine ⟨h.keyed, hmissing, ?_, List.nodup_nil, ?_, rfl, ?_, List.nodup_nil, ?_, ?_, ?_⟩
    · exact fun command hcommand => absurd hcommand List.not_mem_nil
    · exact fun command hcommand => absurd hcommand List.not_mem_nil
    · exact fun r hr => absurd hr List.not_mem_nil
    · rintro _ ⟨⟩
      exact hassign
    · rintro _ ⟨⟩ _ ⟨⟩
    · exact fun hnone => absurd hnone hcommands

theorem Sound.beginSideDispatch (h : s.Sound) {sidePlan : ReconnectOrchestrationSidePlan}
    {timeoutMs : UInt32} {options : ReconnectTeardownDispatchOptions}
    (hassign : options.assignMissingMessageIds = true) :
    (s.beginSideDispatch sidePlan timeoutMs options).Sound := by
  unfold ReconnectTeardownService.beginSideDispatch
  split
  · exact h.withDispatching h.assigning h.sending
  · dsimp only
    split
    · exact h.withDispatching h.assigning h.sending
    next hok =>
      rw [Bool.not_eq_false] at hok
      refine h.beginDispatch hassign ?_ ?_
      · exact mt List.map_eq_nil_iff.mp (commands_ne_nil_of_ok hok)
      · intro command hcommand
        obtain ⟨planned, -, rfl⟩ := List.mem_map.mp hcommand
        rfl

theorem freshId_ne_zero (s : ReconnectTeardownService) : s.freshId ≠ 0 := by
  unfold freshId
  split
  · decide
  · assumption

/-- A command without an id gets one that has not been given before. -/
theorem assignIds_of_missing {options : ReconnectTeardownDispatchOptions}
    (hassign : options.assignMissingMessageIds = true) {command : ReconnectTeardownCommand}
    (hmissing : command.messageId = 0) :
    s.assignIds options command =
      ({ command with messageId := s.freshId, correlationId := s.freshId }, s.takeId) :=
  if_pos ⟨hassign, hmissing⟩

/-- **The next command of the plan gets a fresh id, and may wait for its response.** -/
theorem Sound.assign (h : s.Sound) (hfresh : s.freshId ∉ s.handedOut)
    {command assigned : ReconnectTeardownCommand} {waiting : List ReconnectTeardownCommand}
    (hwaiting : s.waiting = command :: waiting) (hid : assigned.messageId = s.freshId)
    {tracker : RequestTracker ReconnectTeardownCommand}
    (htracker : ∀ id pending, tracker.pending[id]? = some pending →
      s.tracker.pending[id]? = some pending ∨ (id = s.freshId ∧ pending.handler = assigned)) :
    ({ s.takeId with
      assigned := s.assigned ++ [assigned], waiting := waiting, tracker := tracker } :
        ReconnectTeardownService).Sound := by
  have hgiven : ∀ {id}, id ∈ s.handedOut → id ∈ s.handedOut ++ [s.freshId] := fun hmem =>
    List.mem_append_left _ hmem
  have hfreshGiven : s.freshId ∈ s.handedOut ++ [s.freshId] :=
    List.mem_append_right _ (List.mem_singleton_self _)
  -- the commands in front of it have ids of their own
  have hne : ∀ c ∈ s.assigned, c.messageId ≠ s.freshId := by
    intro c hc hsame
    exact hfresh (hsame ▸ (h.assigned c hc).2)
  refine ⟨?_, ?_, ?_, ?_, ?_, h.terminal, ?_, h.once, h.assigning, ?_, ?_⟩
  · intro id pending hpending
    rcases htracker id pending hpending with hold | ⟨rfl, hhandler⟩
    · obtain ⟨hkey, hzero, hmem⟩ := h.keyed id pending hold
      exact ⟨hkey, hzero, hgiven hmem⟩
    · exact ⟨(congrArg _ hhandler).trans hid, s.freshId_ne_zero, hfreshGiven⟩
  · intro c hc
    exact h.waiting c (hwaiting ▸ List.mem_cons_of_mem _ hc)
  · intro c hc
    rcases List.mem_append.mp hc with hc | hc
    · exact ⟨(h.assigned c hc).1, hgiven (h.assigned c hc).2⟩
    · rw [List.mem_singleton.mp hc, hid]
      exact ⟨s.freshId_ne_zero, hfreshGiven⟩
  · rw [List.map_append]
    refine List.nodup_append.mpr ⟨h.distinct, List.nodup_singleton _, ?_⟩
    intro id hmem other hother
    obtain ⟨c, hc, rfl⟩ := List.mem_map.mp hmem
    rw [List.map_singleton, List.mem_singleton] at hother
    rw [hother, hid]
    exact hne c hc
  · intro c hc pending hpending
    rcases List.mem_append.mp hc with hc | hc
    · rcases htracker _ pending hpending with hold | ⟨hsame, -⟩
      · exact h.own c hc pending hold
      · exact absurd hsame (hne c hc)
    · obtain rfl := List.mem_singleton.mp hc
      rcases htracker _ pending hpending with hold | ⟨-, hhandler⟩
      · rw [hid] at hold
        exact absurd (h.keyed _ pending hold).2.2 hfresh
      · exact hhandler
  · intro r hr
    obtain ⟨hmem, hnone⟩ := h.answered r hr
    refine ⟨List.mem_append_left _ hmem, ?_⟩
    refine Option.eq_none_iff_forall_ne_some.mpr fun pending hpending => ?_
    rcases htracker _ pending hpending with hold | ⟨hsame, -⟩
    · rw [hnone] at hold
      cases hold
    · exact hne r.1 hmem hsame
  · intro dispatching hdispatching request hrequest
    obtain ⟨c, hc, hsame⟩ := h.sending dispatching hdispatching request hrequest
    exact ⟨c, List.mem_append_left _ hc, hsame⟩
  · intro hnone
    have hassigned := (List.append_eq_nil_iff.mp hnone).1
    exact absurd hassigned (List.append_ne_nil_of_right_ne_nil _ (List.cons_ne_nil _ _))

theorem Sound.sendNext (h : s.Sound) (hfresh : s.freshId ∉ s.handedOut) : s.sendNext.Sound := by
  unfold ReconnectTeardownService.sendNext
  split
  next options result command waiting hdispatching hwaiting =>
    have hassign := h.assigning _ hdispatching
    have hmissing : command.messageId = 0 := by
      refine h.waiting command ?_
      rw [hwaiting]
      exact List.mem_cons_self
    rw [assignIds_of_missing hassign hmissing]
    dsimp only
    generalize hassigned :
      ({ command with messageId := s.freshId, correlationId := s.freshId } :
        ReconnectTeardownCommand) = assigned
    have hid : assigned.messageId = s.freshId := by rw [← hassigned]
    generalize hrequest : makeReconnectTeardownRequestPacket assigned _ = request
    have hrequestId : request.messageId = assigned.messageId := by
      rw [← hrequest]
      rfl
    have hcases := s.tracker.track_cases request (some assigned)
    generalize s.tracker.track request (some assigned) = tracked at hcases ⊢
    have htracker : ∀ id pending, tracked.2.pending[id]? = some pending →
        s.tracker.pending[id]? = some pending ∨ (id = s.freshId ∧ pending.handler = assigned) := by
      intro id pending hpending
      rcases hcases with ⟨-, -, hsame⟩ | ⟨handler, hhandler, -, hinserted⟩
      · exact Or.inl (hsame ▸ hpending)
      · rw [hinserted] at hpending
        dsimp only at hpending
        rw [Std.ExtTreeMap.getElem?_insert, hrequestId, hid] at hpending
        simp only [Std.LawfulEqOrd.compare_eq_iff_eq] at hpending
        split at hpending
        next hnew =>
          cases hpending
          exact Or.inr ⟨hnew.symm, (Option.some.inj hhandler).symm⟩
        next => exact Or.inl hpending
    have hsound := h.assign hfresh hwaiting hid htracker
    split
    · exact hsound.endRound hassign
    · refine hsound.withDispatching ?_ ?_
      · rintro _ ⟨⟩
        exact hassign
      · rintro _ ⟨⟩ _ ⟨⟩
        exact ⟨assigned, List.mem_append_right _ (List.mem_singleton_self _), hrequestId.symm⟩
  next => exact h

theorem Sound.sendReturned (h : s.Sound) (sent : SendResult) : (s.sendReturned sent).Sound := by
  unfold ReconnectTeardownService.sendReturned
  split
  next options request result hdispatching =>
    have hassign := h.assigning _ hdispatching
    dsimp only
    split
    · refine Sound.endRound (Sound.completeTracked h fun _ _ => ?_) hassign
      -- the response that the dispatcher makes up is to a command of the active plan
      obtain ⟨command, hcommand, hid⟩ := h.sending _ hdispatching request rfl
      exact List.mem_map.mpr ⟨command, List.mem_append_left _ hcommand, hid⟩
    · exact h.endRound hassign
  next => exact h

theorem Sound.takeId (h : s.Sound) : s.takeId.Sound := by
  refine ⟨?_, h.waiting, ?_, h.distinct, h.own, h.terminal, h.answered, h.once, h.assigning,
    h.sending, h.planned⟩
  · intro id pending hpending
    obtain ⟨hkey, hzero, hmem⟩ := h.keyed id pending hpending
    exact ⟨hkey, hzero, List.mem_append_left _ hmem⟩
  · intro command hcommand
    obtain ⟨hzero, hmem⟩ := h.assigned command hcommand
    exact ⟨hzero, List.mem_append_left _ hmem⟩

/-- A response of another kind is not looked at. -/
theorem complete_cases (s : ReconnectTeardownService) (response : PacketEnvelope) :
    ((s.complete response).2 = s ∧ terminalMessageKind response.messageKind = false) ∨
      (s.complete response).2 = (s.completeTracked response).2 := by
  unfold complete
  split
  next => exact Or.inr rfl
  next hkind =>
    refine Or.inl ⟨rfl, ?_⟩
    rw [Bool.not_eq_true, responseMessageKind] at hkind
    simp only [Bool.or_eq_false_iff] at hkind
    rw [terminalMessageKind, hkind.1.1.2, hkind.1.2, hkind.2]
    rfl

/-- **A step whose ids are fresh and whose response is not too late keeps the invariant.** -/
theorem Sound.step (h : s.Sound) {op : TeardownOp} (hfresh : s.FreshIds op) (htimely : s.Timely op) :
    (s.step op).Sound := by
  cases op with
  | dispatch plan options =>
    show (if s.dispatching.isSome then s else s.beginDispatch plan options).Sound
    split
    · exact h
    · exact h.beginDispatch hfresh.1 hfresh.2.1 hfresh.2.2
  | dispatchSide sidePlan timeoutMs options =>
    show (if s.dispatching.isSome then s else s.beginSideDispatch sidePlan timeoutMs options).Sound
    split
    · exact h
    · exact h.beginSideDispatch hfresh
  | sendNext => exact h.sendNext hfresh
  | sendReturned sent => exact h.sendReturned sent
  | arrive response =>
    show (s.complete response).2.Sound
    rcases s.complete_cases response with ⟨hsame, -⟩ | hsame
    · rwa [hsame]
    · rw [hsame]
      exact h.completeTracked htimely
  | takeId => exact h.takeId

/-! ## What disturbs a plan -/

/-- A response that reaches a command is recorded, and the plan stays. -/
theorem summary_completeTracked (h : s.Sound) {response : PacketEnvelope}
    {pending : PendingRequest ReconnectTeardownCommand}
    (hpending : s.tracker.pending[response.responseTo]? = some pending) :
    (s.completeTracked response).2.summary =
      summarizeReconnectTeardownResponses s.activePlan
        (if terminalMessageKind response.messageKind then
          s.terminalResponses ++ [reconnectTeardownResponseFromPacket pending.handler response]
        else s.terminalResponses) := by
  rcases h.completeTracked_cases response with ⟨-, hnone⟩ | ⟨found, hfound, hresult⟩
  · rw [hnone] at hpending
    cases hpending
  · obtain rfl := Option.some.inj (hfound.symm.trans hpending)
    rw [hresult, recordTrackedResponse]
    cases terminalMessageKind response.messageKind with
    | false => rfl
    | true => rfl

/-- A late response shows in the summary of the active plan. -/
theorem Sound.timely_of_undisturbed (h : s.Sound) {op : TeardownOp} (hop : s.Undisturbed op) :
    s.Timely op := by
  cases op with
  | arrive response =>
    intro hterminal hsome
    by_contra hlate
    obtain ⟨pending, hpending⟩ := Option.isSome_iff_exists.mp hsome
    have hplan : s.activePlan.commands ≠ [] := by
      intro hnone
      rw [h.planned hnone] at hpending
      cases hpending
    have hcomplete : (s.complete response).2 = (s.completeTracked response).2 := by
      rcases s.complete_cases response with ⟨-, hinterim⟩ | hsame
      · rw [hterminal] at hinterim
        cases hinterim
      · exact hsame
    have hsummary : (s.complete response).2.summary = s.summary := hop.earlier response rfl hlate
    rw [hcomplete, summary_completeTracked h hpending, hterminal, if_pos rfl] at hsummary
    refine summarize_concat_ne_of_unknown hplan ?_ _ hsummary
    intro command hcommand hid
    exact hlate (List.mem_map.mpr ⟨command, hcommand, hid⟩)
  | dispatch _ _ => trivial
  | dispatchSide _ _ _ => trivial
  | sendNext => trivial
  | sendReturned _ => trivial
  | takeId => trivial

/-- An interim response to an earlier plan is kept apart from the summary. -/
theorem Sound.summary_arrive (h : s.Sound) {response : PacketEnvelope}
    (htimely : s.Timely (.arrive response)) (hearlier : response.responseTo ∉ s.activeIds) :
    (s.complete response).2.summary = s.summary := by
  rcases s.complete_cases response with ⟨hsame, -⟩ | hcomplete
  · rw [hsame]
  · rw [hcomplete]
    cases hpending : s.tracker.pending[response.responseTo]? with
    | none =>
      rcases h.completeTracked_cases response with ⟨hsame, -⟩ | ⟨pending, hsome, -⟩
      · rw [hsame]
      · rw [hpending] at hsome
        cases hsome
    | some pending =>
      rw [summary_completeTracked h hpending]
      cases hkind : terminalMessageKind response.messageKind with
      | false => rfl
      | true => exact absurd (htimely hkind (hpending ▸ rfl)) hearlier

/-- A response to the active plan reaches the command of that plan, and no other. -/
theorem Sound.arrive_active (h : s.Sound) {response : PacketEnvelope}
    (hactive : response.responseTo ∈ s.activeIds) :
    (∀ id ∉ s.activeIds,
      (s.complete response).2.tracker.pending[id]? = s.tracker.pending[id]?) ∧
    ((s.complete response).2.received = s.received ∨
      ∃ command ∈ s.activePlan.commands,
        (s.complete response).2.received = s.received ++ [(command, response)]) := by
  rcases s.complete_cases response with ⟨hsame, -⟩ | hcomplete
  · rw [hsame]
    exact ⟨fun _ _ => rfl, Or.inl rfl⟩
  rw [hcomplete]
  rcases h.completeTracked_cases response with ⟨hsame, -⟩ | ⟨pending, hpending, hresult⟩
  · rw [hsame]
    exact ⟨fun _ _ => rfl, Or.inl rfl⟩
  rw [hresult]
  refine ⟨fun id hid => ?_, Or.inr ⟨pending.handler, ?_, ?_⟩⟩
  · have hne : response.responseTo ≠ id := by
      rintro rfl
      exact hid hactive
    show (if terminalMessageKind response.messageKind then s.tracker.erase response.responseTo
      else s.tracker).pending[id]? = s.tracker.pending[id]?
    split
    · rw [RequestTracker.pending_erase, if_neg hne]
    · rfl
  · obtain ⟨command, hcommand, hid⟩ := h.exists_assigned (hpending ▸ rfl) hactive
    rw [h.own command hcommand pending (hid ▸ hpending)]
    exact List.mem_append_left _ hcommand
  · show (s.recordTrackedResponse pending.handler response).received = _
    unfold recordTrackedResponse
    dsimp only
    split
    · rfl
    · rfl

/-- **A step disturbs a plan exactly when its response comes too late.** -/
theorem Sound.undisturbed_iff_timely (h : s.Sound) {op : TeardownOp} (hfresh : s.FreshIds op) :
    s.Undisturbed op ↔ s.Timely op := by
  refine ⟨h.timely_of_undisturbed, fun htimely => ⟨?_, ?_, ?_⟩⟩
  · exact (h.step hfresh htimely).summaryDone
  · rintro response rfl hearlier
    exact h.summary_arrive htimely hearlier
  · rintro response rfl hactive
    exact h.arrive_active hactive

end

/-! ## Runs -/

theorem sound_empty : Sound {} where
  keyed := by
    intro id pending hpending
    rw [Std.ExtTreeMap.getElem?_empty] at hpending
    cases hpending
  waiting command hcommand := absurd hcommand List.not_mem_nil
  assigned command hcommand := absurd hcommand List.not_mem_nil
  distinct := List.nodup_nil
  own command hcommand := absurd hcommand List.not_mem_nil
  terminal := rfl
  answered r hr := absurd hr List.not_mem_nil
  once := List.nodup_nil
  assigning := by rintro _ ⟨⟩
  sending := by rintro _ ⟨⟩
  planned _ _ := Std.ExtTreeMap.getElem?_empty

/-- **The dispatches of a run do not disturb each other exactly when no terminal response comes,
after a later dispatch has begun, for a request of an earlier plan that still waits for one.** -/
theorem undisturbed_iff {ops : List TeardownOp} (hfresh : Runs.EveryStep step FreshIds {} ops) :
    Runs.EveryStep step Undisturbed {} ops ↔ Runs.EveryStep step Timely {} ops := by
  have hiff : ∀ s op, Sound s → FreshIds s op → (Timely s op ↔ Undisturbed s op) :=
    fun s op hs hop => (hs.undisturbed_iff_timely hop).symm
  exact (Runs.everyStep_iff_of_everyStep sound_empty (fun s op hs => hs.step) hiff hfresh).symm

/-- A plan that closes one channel, with ids to be assigned. -/
def closing (channelId : ChannelId) : ReconnectTeardownPlan :=
  ⟨[{ sessionId := 1, targetChannel := ⟨channelId, .control⟩, timeoutMs := 1000 }]⟩

/-- The Ok response to the request with the id. -/
def okResponse (id : MessageId) : PacketEnvelope :=
  { sessionId := 1, messageKind := .response, responseTo := id, correlationId := id }

/-- A dispatch whose request is sent. -/
def dispatched (channelId : ChannelId) : List TeardownOp :=
  [.dispatch (closing channelId) {}, .sendNext, .sendReturned { status := .sent }]

/-- Each plan is answered before the next one is dispatched. -/
def timelyRun : List TeardownOp :=
  dispatched 1 ++ [.arrive (okResponse 1)] ++ dispatched 2 ++ [.arrive (okResponse 2)]

theorem undisturbed_iff_timelyRun : Runs.EveryStep step Undisturbed {} timelyRun :=
  (undisturbed_iff (by decide +kernel)).mpr (by decide +kernel)

/-- Both plans are dispatched, and then both are answered. -/
def lateRun : List TeardownOp :=
  dispatched 1 ++ dispatched 2 ++ [.arrive (okResponse 1)] ++ [.arrive (okResponse 2)]

/-- **Every command of the second plan has its one Ok response, and its summary is not ok**: the
late response to the first plan is among its responses. -/
theorem late_response_fails_second :
    Runs.EveryStep step FreshIds {} lateRun ∧ ¬Runs.EveryStep step Undisturbed {} lateRun := by
  refine ⟨by decide +kernel, fun hrun => ?_⟩
  have hlast := (Runs.everyStep_concat.mp hrun).2
  have hanswered : AllAnswered (Runs.run step {} lateRun) := by
    refine ⟨by decide +kernel, fun command hcommand => ⟨okResponse 2, ?_, ?_⟩⟩
    · have hplan : (Runs.run step {} lateRun).activePlan.commands =
          [{ sessionId := 1, targetChannel := ⟨2, .control⟩, messageId := 2, correlationId := 2,
             timeoutMs := 1000 }] := by decide +kernel
      rw [hplan, List.mem_singleton] at hcommand
      subst hcommand
      exact ⟨rfl, rfl, rfl, rfl, by decide, rfl⟩
    · revert command
      decide +kernel
  have hok : (Runs.run step {} lateRun).summary.ok = false := by decide +kernel
  have hdone := (hlast.done ?_).ok
  · have hsame : (step (Runs.run step {} (dispatched 1 ++ dispatched 2 ++
        [.arrive (okResponse 1)])) (.arrive (okResponse 2))).summary.ok = true := hdone
    exact Bool.false_ne_true (hok.symm.trans hsame)
  · exact hanswered

end ReconnectTeardownService
end Runtime
end FusionDesk
