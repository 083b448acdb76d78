import FusionDesk.General.Matching
import FusionDesk.General.Runs
import FusionDesk.Runtime.TeardownWire
import Mathlib.Data.List.Pairwise
import Mathlib.Data.List.Perm.Subperm

/-!
# The teardown acknowledgement is exact

A teardown plan has one command for each channel, and the summary of the responses says no more and no
less than the responses do: which commands have been answered, whether all of them and nothing else
was, and for which channels the first answer was a success.

* `messageIds_buildCommands`: the commands of a plan count up from the first message id.
* `Accounted`: what the loop of the summary has found, in terms of the responses it has seen.
* `teardownExact`: the plan, its requests and its summaries together.
-/

namespace FusionDesk
namespace Runtime

open Protocol Network Matching

/-! ## The plan -/

/-- **A request for a teardown that can be planned and sent.** -/
structure TeardownRequestFits (request : ReconnectTeardownPlanRequest) (reason : ByteBuffer) :
    Prop where
  sessionId : request.sessionId ≠ 0
  channels : request.channels ≠ []
  nodup : request.channels.Nodup
  channelIds : ∀ channel ∈ request.channels, channel.channelId ≠ 0
  channelTypes : ∀ channel ∈ request.channels, isKnownChannelType channel.channelType = true
  firstMessageId : request.firstMessageId ≠ 0
  messageIds : request.firstMessageId.toNat + request.channels.length ≤ 2 ^ 64
  timeoutMs : request.timeoutMs ≠ 0
  text : request.reason = payloadToString reason
  short : reason.length < 2 ^ 32

/-- The text of the plan. -/
def plannedReason (request : ReconnectTeardownPlanRequest) : String :=
  if request.reason = "" then "reconnect old transport teardown" else request.reason

theorem beforeDuplicate_of_nodup {channels seen : List ChannelKey} (hnodup : channels.Nodup)
    (hnew : ∀ channel ∈ channels, channel ∉ seen) : beforeDuplicate seen channels = channels := by
  induction channels generalizing seen with
  | nil => rfl
  | cons channel channels ih =>
    rw [List.nodup_cons] at hnodup
    rw [beforeDuplicate, if_neg (hnew channel List.mem_cons_self), ih hnodup.2]
    intro other hother hseen
    rcases List.mem_cons.mp hseen with rfl | hold
    · exact hnodup.1 hother
    · exact hnew other (List.mem_cons_of_mem _ hother) hold

theorem buildReconnectTeardownPlan_of_fits {request : ReconnectTeardownPlanRequest}
    {reason : ByteBuffer} (h : TeardownRequestFits request reason) :
    buildReconnectTeardownPlan request =
      { ok := true
        plan := ⟨buildCommands request (plannedReason request) request.firstMessageId
          request.channels⟩ } := by
  have hmessages : planRequestMessages request = [] := by
    rw [planRequestMessages, if_neg h.sessionId, if_neg (mt List.isEmpty_iff.mp h.channels),
      if_neg h.firstMessageId, if_neg h.timeoutMs]
    rfl
  have hchannels : beforeDuplicate [] request.channels = request.channels :=
    beforeDuplicate_of_nodup h.nodup fun _ _ => List.not_mem_nil
  rw [buildReconnectTeardownPlan, if_neg (by rw [hmessages]; decide)]
  simp only [hchannels, ne_eq, not_true_eq_false, if_false]
  rfl

section Commands

variable (request : ReconnectTeardownPlanRequest) (reason : String)

theorem targetChannels_buildCommands (channels : List ChannelKey) (first : MessageId) :
    (buildCommands request reason first channels).map (·.targetChannel) = channels := by
  induction channels generalizing first with
  | nil => rfl
  | cons channel channels ih => rw [buildCommands, List.map_cons, ih]

/-- **The message ids count up**, while they stay below `2 ^ 64`. -/
theorem messageIds_buildCommands {channels : List ChannelKey} {first : MessageId}
    (h : first.toNat + channels.length ≤ 2 ^ 64) :
    (buildCommands request reason first channels).map (·.messageId.toNat) =
      List.range' first.toNat channels.length := by
  induction channels generalizing first with
  | nil => rfl
  | cons channel channels ih =>
    rw [List.length_cons] at h
    rw [buildCommands, List.map_cons, List.length_cons, List.range'_succ]
    cases channels with
    | nil => rfl
    | cons next channels =>
      rw [List.length_cons] at h
      have hnext : (first + 1).toNat = first.toNat + 1 := by
        rw [UInt64.toNat_add, UInt64.toNat_one, Nat.mod_eq_of_lt (by omega)]
      rw [ih (by rw [hnext, List.length_cons]; omega), hnext]

variable {request reason} in
/-- What every command of the plan has. -/
theorem mem_buildCommands {channels : List ChannelKey} {first : MessageId}
    {command : ReconnectTeardownCommand}
    (h : command ∈ buildCommands request reason first channels) :
    command.sessionId = request.sessionId ∧ command.targetChannel ∈ channels ∧
      command.correlationId = command.messageId ∧ command.timeoutMs = request.timeoutMs ∧
      command.reason = reason := by
  induction channels generalizing first with
  | nil => cases h
  | cons channel channels ih =>
    rcases List.mem_cons.mp h with rfl | hrest
    · exact ⟨rfl, List.mem_cons_self, rfl, rfl, rfl⟩
    · obtain ⟨hsession, hchannel, hfields⟩ := ih hrest
      exact ⟨hsession, List.mem_cons_of_mem _ hchannel, hfields⟩

end Commands

/-- The message ids of a plan are apart, and none is zero. -/
theorem messageIds_of_fits {request : ReconnectTeardownPlanRequest} {reason : ByteBuffer}
    (h : TeardownRequestFits request reason) :
    let commands := (buildReconnectTeardownPlan request).plan.commands
    (commands.map ReconnectTeardownCommand.messageId).Nodup ∧
      ∀ command ∈ commands, command.messageId ≠ 0 := by
  rw [buildReconnectTeardownPlan_of_fits h]
  simp only
  have hids := messageIds_buildCommands request (plannedReason request) h.messageIds
  constructor
  · refine List.Nodup.of_map UInt64.toNat ?_
    rw [List.map_map]
    exact hids ▸ List.nodup_range'
  · intro command hcommand hzero
    have hmem : command.messageId.toNat ∈
        List.range' request.firstMessageId.toNat request.channels.length :=
      hids ▸ List.mem_map_of_mem (f := fun command : ReconnectTeardownCommand =>
        command.messageId.toNat) hcommand
    have hfirst : request.firstMessageId.toNat ≠ 0 := fun hnat =>
      h.firstMessageId (UInt64.toNat_inj.mp hnat)
    rw [hzero, List.mem_range'_1] at hmem
    simp only [UInt64.toNat_zero] at hmem
    omega

/-- Every command of the plan can be sent. -/
theorem commandFits_of_fits {request : ReconnectTeardownPlanRequest} {reason : ByteBuffer}
    (h : TeardownRequestFits request reason) {command : ReconnectTeardownCommand}
    (hcommand : command ∈ (buildReconnectTeardownPlan request).plan.commands) :
    ∃ sent, CommandFits command sent := by
  have hid := (messageIds_of_fits h).2 command hcommand
  rw [buildReconnectTeardownPlan_of_fits h] at hcommand
  obtain ⟨hsession, hchannel, hcorrelation, htimeout, hreason⟩ := mem_buildCommands hcommand
  have htext : ∃ sent : ByteBuffer, plannedReason request = payloadToString sent ∧
      sent.length < 2 ^ 32 := by
    by_cases hempty : request.reason = ""
    · refine ⟨stringToPayload "reconnect old transport teardown", ?_, by decide⟩
      rw [plannedReason, if_pos hempty]
      rfl
    · exact ⟨reason, by rw [plannedReason, if_neg hempty, h.text], h.short⟩
  obtain ⟨sent, hsent, hshort⟩ := htext
  exact ⟨sent, hsession ▸ h.sessionId, h.channelIds _ hchannel, h.channelTypes _ hchannel, hid,
    hcorrelation ▸ hid, htimeout ▸ h.timeoutMs, hreason.trans hsent, hshort⟩

/-! ## Responses to commands -/

/-- The response is to the command. -/
def ReconnectTeardownResponse.matchesCommand (response : ReconnectTeardownResponse)
    (command : ReconnectTeardownCommand) : Bool :=
  command.sessionId == response.sessionId && command.targetChannel == response.targetChannel &&
    command.messageId == response.responseTo && command.correlationId == response.correlationId

/-- The response is to the command, and is the last one. -/
def ReconnectTeardownResponse.settles (response : ReconnectTeardownResponse)
    (command : ReconnectTeardownCommand) : Bool :=
  response.matchesCommand command && terminalResponse response.messageKind

/-- The response says that it was done. -/
def ReconnectTeardownResponse.succeeds (response : ReconnectTeardownResponse) : Bool :=
  (response.messageKind == .response || response.messageKind == .streamEnd) &&
    response.responseStatus == .ok

/-- The first response that settles the command is a success. -/
def firstSucceeds (responses : List ReconnectTeardownResponse)
    (command : ReconnectTeardownCommand) : Bool :=
  (responses.find? (·.settles command)).any (·.succeeds)

/-- **Each response is a success of a command, and no two are to one command.** -/
structure AllSucceed (commands : List ReconnectTeardownCommand)
    (responses : List ReconnectTeardownResponse) : Prop where
  each : ∀ response ∈ responses, response.succeeds = true ∧
    ∃ command ∈ commands, response.matchesCommand command = true
  apart : responses.Pairwise fun first second => ∀ command ∈ commands,
    ¬(first.matchesCommand command = true ∧ second.matchesCommand command = true)

theorem terminal_of_succeeds {response : ReconnectTeardownResponse}
    (h : response.succeeds = true) : terminalResponse response.messageKind = true := by
  simp only [ReconnectTeardownResponse.succeeds, Bool.and_eq_true, Bool.or_eq_true] at h
  simp only [terminalResponse, Bool.or_eq_true]
  tauto

/-- What is asked of a terminal response before it counts. -/
theorem succeeds_iff {response : ReconnectTeardownResponse}
    (h : terminalResponse response.messageKind = true) :
    response.succeeds = true ↔ ¬(response.messageKind = .error ∨ response.responseStatus ≠ .ok) := by
  simp only [terminalResponse, Bool.or_eq_true, beq_iff_eq] at h
  simp only [ReconnectTeardownResponse.succeeds, Bool.and_eq_true, Bool.or_eq_true, beq_iff_eq]
  constructor
  · rintro ⟨hkind, hstatus⟩ (herror | hfailed)
    · rw [herror] at hkind
      exact hkind.elim nofun nofun
    · exact hfailed hstatus
  · intro hgood
    rw [not_or, not_not] at hgood
    exact ⟨by tauto, hgood.2⟩

section Summary

variable {plan : ReconnectTeardownPlan}
  (hnodup : (plan.commands.map ReconnectTeardownCommand.messageId).Nodup)
  {response : ReconnectTeardownResponse} {command : ReconnectTeardownCommand}
include hnodup

/-- A response is to one command of a plan at most. -/
theorem eq_of_matchesCommand {other : ReconnectTeardownCommand} (hcommand : command ∈ plan.commands)
    (hother : other ∈ plan.commands) (h : response.matchesCommand command = true)
    (h' : response.matchesCommand other = true) : command = other := by
  simp only [ReconnectTeardownResponse.matchesCommand, Bool.and_eq_true, beq_iff_eq] at h h'
  exact eq_of_messageId_eq hnodup hcommand hother (h.1.2.trans h'.1.2.symm)

omit hnodup in
theorem findCommand_some (h : findCommand plan response = some command) :
    command ∈ plan.commands ∧ response.matchesCommand command = true := by
  have hmatches := List.find?_some h
  exact ⟨List.mem_of_find?_eq_some h, hmatches⟩

omit hnodup in
theorem findCommand_none (h : findCommand plan response = none) (hcommand : command ∈ plan.commands) :
    response.matchesCommand command = false := by
  have hnone := List.find?_eq_none.mp h command hcommand
  exact Bool.eq_false_of_not_eq_true hnone

/-! ## The loop of the summary -/

omit hnodup in
/-- **What the loop has found**, once it has seen some responses. -/
structure Accounted (plan : ReconnectTeardownPlan) (seen : List ReconnectTeardownResponse)
    (state : SummaryState) : Prop where
  nodup : state.completedMessages.Nodup
  planned : ∀ id ∈ state.completedMessages,
    id ∈ plan.commands.map ReconnectTeardownCommand.messageId
  completed : ∀ command ∈ plan.commands, command.messageId ∈ state.completedMessages ↔
    ∃ response ∈ seen, response.settles command = true
  targets : ∃ done : List ReconnectTeardownCommand, done.Nodup ∧
    state.completedTargetChannels = done.map (·.targetChannel) ∧
    ∀ command, command ∈ done ↔ command ∈ plan.commands ∧ firstSucceeds seen command = true
  messages : state.messages = [] ↔ AllSucceed plan.commands seen

variable {seen : List ReconnectTeardownResponse} {state : SummaryState}

omit hnodup in
theorem settles_iff : response.settles command = true ↔
    response.matchesCommand command = true ∧ terminalResponse response.messageKind = true :=
  Bool.and_eq_true_iff

omit hnodup in
theorem exists_settles_concat : (∃ other ∈ seen ++ [response], other.settles command = true) ↔
    (∃ other ∈ seen, other.settles command = true) ∨ response.settles command = true := by
  constructor
  · rintro ⟨other, hother, hsettles⟩
    rcases List.mem_append.mp hother with hold | hlast
    · exact Or.inl ⟨other, hold, hsettles⟩
    · exact Or.inr (List.mem_singleton.mp hlast ▸ hsettles)
  · rintro (⟨other, hother, hsettles⟩ | hsettles)
    · exact ⟨other, List.mem_append_left _ hother, hsettles⟩
    · exact ⟨response, List.mem_append_right _ (List.mem_singleton_self response), hsettles⟩

omit hnodup in
/-- One more response does not matter to a command that has been settled, or that it does not
settle. -/
theorem firstSucceeds_concat_of_old
    (h : (∃ other ∈ seen, other.settles command = true) ∨ response.settles command = false) :
    firstSucceeds (seen ++ [response]) command = firstSucceeds seen command := by
  rw [firstSucceeds, firstSucceeds, List.find?_append]
  rcases h with hold | hnot
  · rw [Option.or_of_isSome]
    exact List.find?_isSome.mpr hold
  · rw [List.find?_singleton, hnot]
    simp

omit hnodup in
/-- The first response that settles a command. -/
theorem firstSucceeds_concat_of_new (hnew : ¬∃ other ∈ seen, other.settles command = true)
    (h : response.settles command = true) :
    firstSucceeds (seen ++ [response]) command = response.succeeds := by
  have hnone : seen.find? (·.settles command) = none := by
    refine List.find?_eq_none.mpr fun other hother hsettles => ?_
    exact hnew ⟨other, hother, hsettles⟩
  rw [firstSucceeds, List.find?_append, hnone, Option.none_or, List.find?_singleton, if_pos h]
  rfl

omit hnodup in
theorem allSucceed_concat : AllSucceed plan.commands (seen ++ [response]) ↔
    AllSucceed plan.commands seen ∧ response.succeeds = true ∧
      (∃ command ∈ plan.commands, response.matchesCommand command = true) ∧
      ∀ other ∈ seen, ∀ command ∈ plan.commands,
        ¬(other.matchesCommand command = true ∧ response.matchesCommand command = true) := by
  constructor
  · intro h
    have hparts := List.pairwise_append.mp h.apart
    obtain ⟨hsucceeds, hcommand⟩ :=
      h.each response (List.mem_append_right _ (List.mem_singleton_self response))
    exact ⟨⟨fun other hother => h.each other (List.mem_append_left _ hother), hparts.1⟩, hsucceeds,
      hcommand, fun other hother => hparts.2.2 other hother response (List.mem_singleton_self _)⟩
  · rintro ⟨hseen, hsucceeds, hcommand, happart⟩
    refine ⟨fun other hother => ?_, List.pairwise_append.mpr ⟨hseen.apart,
      List.pairwise_singleton _ _, fun other hother last hlast => ?_⟩⟩
    · rcases List.mem_append.mp hother with hold | hlast
      · exact hseen.each other hold
      · exact List.mem_singleton.mp hlast ▸ ⟨hsucceeds, hcommand⟩
    · exact List.mem_singleton.mp hlast ▸ happart other hother

omit hnodup in
/-- A response that settles no command, or one that is settled already, and is reported. -/
theorem Accounted.fail (h : Accounted plan seen state)
    (hold : ∀ command ∈ plan.commands,
      (∃ other ∈ seen, other.settles command = true) ∨ response.settles command = false)
    (hbad : ¬AllSucceed plan.commands (seen ++ [response])) (message : String) :
    Accounted plan (seen ++ [response]) (state.fail message) where
  nodup := h.nodup
  planned := h.planned
  completed command hcommand := by
    have hlast : response.settles command = true → ∃ other ∈ seen, other.settles command = true := by
      intro hsettles
      rcases hold command hcommand with hearlier | hnot
      · exact hearlier
      · rw [hnot] at hsettles
        cases hsettles
    rw [exists_settles_concat]
    exact (h.completed command hcommand).trans (or_iff_left_of_imp hlast).symm
  targets := by
    obtain ⟨done, hdone, hchannels, hmem⟩ := h.targets
    refine ⟨done, hdone, hchannels, fun command => (hmem command).trans ?_⟩
    refine and_congr_right fun hcommand => ?_
    rw [firstSucceeds_concat_of_old (hold command hcommand)]
  messages := iff_of_false (by simp [SummaryState.fail]) hbad

/-- A response that is the first to settle a command. -/
theorem Accounted.settled (h : Accounted plan seen state) (hcommand : command ∈ plan.commands)
    (hsettles : response.settles command = true) (hdone : command.messageId ∉ state.completedMessages)
    (hother : ∀ other ∈ plan.commands, other ≠ command → response.matchesCommand other = false) :
    Accounted plan (seen ++ [response])
      (let state := { state with
        completedMessages := state.completedMessages ++ [command.messageId] }
      if response.messageKind = .error ∨ response.responseStatus ≠ .ok then
        state.fail (if response.message = "" then "reconnect teardown response failed"
          else response.message)
      else
        { state with
          completedTargetChannels := state.completedTargetChannels ++ [command.targetChannel] }) := by
  obtain ⟨hmatches, hterminal⟩ := settles_iff.mp hsettles
  have hnew : ¬∃ other ∈ seen, other.settles command = true :=
    mt (h.completed command hcommand).mpr hdone
  have hunsettled : ∀ other ∈ plan.commands, other ≠ command → response.settles other = false := by
    intro other hmem hne
    rw [ReconnectTeardownResponse.settles, hother other hmem hne, Bool.false_and]
  have hids : (state.completedMessages ++ [command.messageId]).Nodup := by
    rw [List.nodup_append_comm, List.singleton_append, List.nodup_cons]
    exact ⟨hdone, h.nodup⟩
  have hplanned : ∀ id ∈ state.completedMessages ++ [command.messageId],
      id ∈ plan.commands.map ReconnectTeardownCommand.messageId := by
    intro id hid
    rcases List.mem_append.mp hid with hold | hlast
    · exact h.planned id hold
    · rw [List.mem_singleton.mp hlast]
      exact List.mem_map_of_mem hcommand
  have hcompleted : ∀ other ∈ plan.commands,
      (other.messageId ∈ state.completedMessages ++ [command.messageId] ↔
        ∃ first ∈ seen ++ [response], first.settles other = true) := by
    intro other hmem
    rw [exists_settles_concat, List.mem_append, h.completed other hmem, List.mem_singleton]
    refine or_congr_right ⟨fun hid => ?_, fun hlast => ?_⟩
    · rw [eq_of_messageId_eq hnodup hmem hcommand hid]
      exact hsettles
    · by_contra hne
      rw [hunsettled other hmem (fun heq => hne (heq ▸ rfl))] at hlast
      cases hlast
  have hfirst : firstSucceeds (seen ++ [response]) command = response.succeeds :=
    firstSucceeds_concat_of_new hnew hsettles
  have hseen : firstSucceeds seen command = false := by
    have hnone : seen.find? (·.settles command) = none :=
      List.find?_eq_none.mpr fun other hmem hsame => hnew ⟨other, hmem, hsame⟩
    rw [firstSucceeds, hnone]
    rfl
  have hold : ∀ other ∈ plan.commands, other ≠ command →
      firstSucceeds (seen ++ [response]) other = firstSucceeds seen other :=
    fun other hmem hne => firstSucceeds_concat_of_old (Or.inr (hunsettled other hmem hne))
  obtain ⟨done, hdoneNodup, hchannels, hmem⟩ := h.targets
  by_cases hfailed : response.messageKind = .error ∨ response.responseStatus ≠ .ok
  · have hsucceeds : response.succeeds = false :=
      Bool.eq_false_of_not_eq_true fun hgood => (succeeds_iff hterminal).mp hgood hfailed
    simp only [if_pos hfailed]
    refine ⟨hids, hplanned, hcompleted, ⟨done, hdoneNodup, hchannels, fun other =>
      (hmem other).trans (and_congr_right fun hother' => ?_)⟩, ?_⟩
    · by_cases hsame : other = command
      · rw [hsame, hfirst, hseen, hsucceeds]
      · rw [hold other hother' hsame]
    · refine iff_of_false (by simp [SummaryState.fail]) fun hall => ?_
      rw [(allSucceed_concat.mp hall).2.1] at hsucceeds
      cases hsucceeds
  · have hsucceeds : response.succeeds = true := (succeeds_iff hterminal).mpr hfailed
    simp only [if_neg hfailed]
    refine ⟨hids, hplanned, hcompleted, ⟨done ++ [command], ?_, ?_, fun other => ?_⟩, ?_⟩
    · rw [List.nodup_append_comm, List.singleton_append, List.nodup_cons]
      refine ⟨fun hin => ?_, hdoneNodup⟩
      rw [((hmem command).mp hin).2] at hseen
      cases hseen
    · rw [hchannels, List.map_append, List.map_singleton]
    · rw [List.mem_append, List.mem_singleton, hmem other]
      by_cases hsame : other = command
      · rw [hsame, hfirst]
        exact iff_of_true (Or.inr rfl) ⟨hcommand, hsucceeds⟩
      · rw [or_iff_left hsame]
        exact and_congr_right fun hother' => by rw [hold other hother' hsame]
    · show state.messages = [] ↔ _
      rw [h.messages, allSucceed_concat]
      refine ⟨fun hall => ⟨hall, hsucceeds, ⟨command, hcommand, hmatches⟩, ?_⟩, And.left⟩
      rintro first hfirstMem other hother' ⟨hfirstMatches, hlastMatches⟩
      have hsame : other = command :=
        eq_of_matchesCommand hnodup hother' hcommand hlastMatches hmatches
      have hterminalFirst := terminal_of_succeeds (hall.each first hfirstMem).1
      exact hnew ⟨first, hfirstMem, settles_iff.mpr ⟨hsame ▸ hfirstMatches, hterminalFirst⟩⟩

/-- **One more response.** -/
theorem Accounted.step (h : Accounted plan seen state) (response : ReconnectTeardownResponse) :
    Accounted plan (seen ++ [response]) (summarizeResponse plan state response) := by
  unfold summarizeResponse
  cases hfound : findCommand plan response with
  | none =>
    have hnone : ∀ command ∈ plan.commands, response.matchesCommand command = false :=
      fun command hcommand => findCommand_none hfound hcommand
    refine h.fail (fun command hcommand => Or.inr ?_) (fun hall => ?_) _
    · rw [ReconnectTeardownResponse.settles, hnone command hcommand, Bool.false_and]
    · obtain ⟨command, hcommand, hmatches⟩ := (allSucceed_concat.mp hall).2.2.1
      rw [hnone command hcommand] at hmatches
      cases hmatches
  | some command =>
    obtain ⟨hcommand, hmatches⟩ := findCommand_some hfound
    have hother : ∀ other ∈ plan.commands, other ≠ command →
        response.matchesCommand other = false := by
      intro other hmem hne
      refine Bool.eq_false_of_not_eq_true fun hsame => ?_
      exact hne (eq_of_matchesCommand hnodup hmem hcommand hsame hmatches)
    simp only
    by_cases hterminal : terminalResponse response.messageKind = false
    · rw [if_pos hterminal]
      refine h.fail (fun other _ => Or.inr ?_) (fun hall => ?_) _
      · rw [ReconnectTeardownResponse.settles, hterminal, Bool.and_false]
      · rw [terminal_of_succeeds (allSucceed_concat.mp hall).2.1] at hterminal
        cases hterminal
    rw [if_neg hterminal]
    rw [Bool.not_eq_false] at hterminal
    have hsettles : response.settles command = true := settles_iff.mpr ⟨hmatches, hterminal⟩
    by_cases hdone : command.messageId ∈ state.completedMessages
    · rw [if_pos hdone]
      have hearlier := (h.completed command hcommand).mp hdone
      refine h.fail (fun other hmem => ?_) (fun hall => ?_) _
      · by_cases hsame : other = command
        · exact Or.inl (hsame ▸ hearlier)
        · rw [ReconnectTeardownResponse.settles, hother other hmem hsame, Bool.false_and]
          exact Or.inr rfl
      · obtain ⟨first, hfirst, hfirstSettles⟩ := hearlier
        exact (allSucceed_concat.mp hall).2.2.2 first hfirst command hcommand
          ⟨(settles_iff.mp hfirstSettles).1, hmatches⟩
    rw [if_neg hdone]
    exact h.settled hnodup hcommand hsettles hdone hother

/-- **What the loop has found in the end.** -/
theorem accounted_foldl (responses : List ReconnectTeardownResponse) :
    Accounted plan responses (responses.foldl (summarizeResponse plan) {}) := by
  refine Runs.foldl_of_append ?_ (fun seen state response h => h.step hnodup response) responses
  refine ⟨List.nodup_nil, nofun, fun command _ => iff_of_false nofun nofun,
    ⟨[], List.nodup_nil, rfl, fun command => ?_⟩, iff_of_true rfl ⟨nofun, List.Pairwise.nil⟩⟩
  exact iff_of_false nofun fun h => nomatch h.2

/-! ## The summary -/

omit hnodup in
/-- All ids are there if as many are. -/
theorem Accounted.length_eq_iff (h : Accounted plan seen state)
    (hnodup : (plan.commands.map ReconnectTeardownCommand.messageId).Nodup) :
    state.completedMessages.length = plan.commands.length ↔
      ∀ command ∈ plan.commands, ∃ response ∈ seen, response.settles command = true := by
  have hsubperm := h.nodup.subperm h.planned
  constructor
  · intro hlength command hcommand
    have hperm := hsubperm.perm_of_length_le (by rw [List.length_map, hlength])
    exact (h.completed command hcommand).mp
      (hperm.symm.subset (List.mem_map_of_mem hcommand))
  · intro hall
    have hsubset : plan.commands.map ReconnectTeardownCommand.messageId ⊆
        state.completedMessages := by
      intro id hid
      obtain ⟨command, hcommand, rfl⟩ := List.mem_map.mp hid
      exact (h.completed command hcommand).mpr (hall command hcommand)
    have hback := hnodup.subperm hsubset
    have hlength := Nat.le_antisymm hsubperm.length_le hback.length_le
    rw [hlength, List.length_map]

/-- Responses to the commands one by one are to different commands. -/
theorem pairwise_of_forall₂ {answers : List ReconnectTeardownResponse}
    (h : List.Forall₂ (fun command response =>
      ReconnectTeardownResponse.matchesCommand response command = true) plan.commands answers) :
    answers.Pairwise fun first second => ∀ command ∈ plan.commands,
      ¬(first.matchesCommand command = true ∧ second.matchesCommand command = true) := by
  obtain ⟨hlength, hmatches⟩ := List.forall₂_iff_get.mp h
  refine List.pairwise_iff_getElem.mpr fun i j hi hj hij command hcommand hboth => ?_
  have hi' : i < plan.commands.length := hlength ▸ hi
  have hj' : j < plan.commands.length := hlength ▸ hj
  have hfirst := eq_of_matchesCommand hnodup hcommand (List.getElem_mem hi') hboth.1
    (hmatches i hi' hi)
  have hsecond := eq_of_matchesCommand hnodup hcommand (List.getElem_mem hj') hboth.2
    (hmatches j hj' hj)
  have hsame := (List.Nodup.of_map _ hnodup).getElem_inj_iff.mp (hfirst.symm.trans hsecond)
  omega

/-- **The responses are one success for each command, in some order, and nothing else.** -/
theorem exists_perm_iff {responses : List ReconnectTeardownResponse} :
    (∃ answers, answers.Perm responses ∧ List.Forall₂ (fun command response =>
        ReconnectTeardownResponse.matchesCommand response command = true ∧
          response.succeeds = true) plan.commands answers) ↔
      AllSucceed plan.commands responses ∧
        ∀ command ∈ plan.commands, ∃ response ∈ responses, response.settles command = true := by
  have hsymmetric : Std.Symm fun first second : ReconnectTeardownResponse =>
      ∀ command ∈ plan.commands,
        ¬(first.matchesCommand command = true ∧ second.matchesCommand command = true) :=
    ⟨fun first second h command hcommand hboth => h command hcommand hboth.symm⟩
  constructor
  · rintro ⟨answers, hperm, hanswers⟩
    refine ⟨⟨fun response hresponse => ?_, ?_⟩, fun command hcommand => ?_⟩
    · obtain ⟨command, hcommand, hmatches, hsucceeds⟩ :=
        exists_left_of_forall₂ hanswers (hperm.symm.subset hresponse)
      exact ⟨hsucceeds, command, hcommand, hmatches⟩
    · have happart := pairwise_of_forall₂ hnodup (hanswers.imp fun _ _ h => h.1)
      exact hperm.pairwise happart (hsymmetric.symm _ _)
    · obtain ⟨response, hresponse, hmatches, hsucceeds⟩ :=
        exists_left_of_forall₂ hanswers.flip hcommand
      exact ⟨response, hperm.subset hresponse,
        settles_iff.mpr ⟨hmatches, terminal_of_succeeds hsucceeds⟩⟩
  · rintro ⟨hall, hcovered⟩
    obtain ⟨answers, hanswers⟩ := exists_forall₂ (R := fun command response =>
      response ∈ responses ∧ ReconnectTeardownResponse.settles response command = true) hcovered
    have hmatches : List.Forall₂ (fun command response =>
        ReconnectTeardownResponse.matchesCommand response command = true) plan.commands answers :=
      hanswers.imp fun _ _ h => (settles_iff.mp h.2).1
    have hmem : ∀ response ∈ answers, response ∈ responses := by
      intro response hresponse
      obtain ⟨command, -, hin, -⟩ := exists_left_of_forall₂ hanswers hresponse
      exact hin
    -- a response is to some command, so it is not apart from itself
    have hne : ∀ responses' : List ReconnectTeardownResponse,
        (∀ response ∈ responses', response ∈ responses) →
        (responses'.Pairwise fun first second => ∀ command ∈ plan.commands,
          ¬(first.matchesCommand command = true ∧ second.matchesCommand command = true)) →
        responses'.Nodup := by
      intro responses' hsub happart
      refine happart.imp_of_mem fun {first second} hfirst _ h => ?_
      rintro rfl
      obtain ⟨command, hcommand, hsame⟩ := (hall.each first (hsub first hfirst)).2
      exact h command hcommand ⟨hsame, hsame⟩
    refine ⟨answers, ?_, ?_⟩
    · refine (List.perm_ext_iff_of_nodup (hne answers hmem (pairwise_of_forall₂ hnodup hmatches))
        (hne responses (fun _ h => h) hall.apart)).mpr fun response => ⟨hmem response, ?_⟩
      intro hresponse
      obtain ⟨command, hcommand, hsame⟩ := (hall.each response hresponse).2
      obtain ⟨answer, hanswer, hin, hsettles⟩ := exists_left_of_forall₂ hanswers.flip hcommand
      by_contra hmissing
      have hdifferent : answer ≠ response := fun heq => hmissing (heq ▸ hanswer)
      exact hall.apart.forall hin hresponse hdifferent command hcommand
        ⟨(settles_iff.mp hsettles).1, hsame⟩
    · exact hanswers.imp fun command response h =>
        ⟨(settles_iff.mp h.2).1, (hall.each response h.1).1⟩

omit hnodup in
/-- **The summary says exactly what the responses say.** -/
structure SummaryExact (plan : ReconnectTeardownPlan)
    (responses : List ReconnectTeardownResponse) : Prop where
  complete : (summarizeReconnectTeardownResponses plan responses).complete = true ↔
    ∀ command ∈ plan.commands, ∃ response ∈ responses, response.settles command = true
  ok : (summarizeReconnectTeardownResponses plan responses).ok = true ↔
    ∃ answers, answers.Perm responses ∧ List.Forall₂ (fun command response =>
      ReconnectTeardownResponse.matchesCommand response command = true ∧
        response.succeeds = true) plan.commands answers
  targets : (summarizeReconnectTeardownResponses plan responses).completedTargetChannels.Perm
    ((plan.commands.filter (firstSucceeds responses)).map (·.targetChannel))

theorem summaryExact (hplan : plan.commands ≠ []) (responses : List ReconnectTeardownResponse) :
    SummaryExact plan responses := by
  have hfold := accounted_foldl hnodup responses
  have hcommands : ¬plan.commands.isEmpty = true := mt List.isEmpty_iff.mp hplan
  have hcomplete : (summarizeReconnectTeardownResponses plan responses).complete = true ↔
      ∀ command ∈ plan.commands, ∃ response ∈ responses, response.settles command = true := by
    rw [← hfold.length_eq_iff hnodup, summarizeReconnectTeardownResponses, if_neg hcommands]
    exact beq_iff_eq
  refine ⟨hcomplete, ?_, ?_⟩
  · rw [exists_perm_iff hnodup, ← hcomplete, ← hfold.messages, and_comm, ← List.isEmpty_iff,
      ← Bool.and_eq_true, summarizeReconnectTeardownResponses, if_neg hcommands]
  · obtain ⟨done, hdone, hchannels, hmem⟩ := hfold.targets
    have htargets : (summarizeReconnectTeardownResponses plan responses).completedTargetChannels =
        done.map (·.targetChannel) := by
      rw [summarizeReconnectTeardownResponses, if_neg hcommands]
      exact hchannels
    rw [htargets]
    refine List.Perm.map _ ((List.perm_ext_iff_of_nodup hdone
      ((List.Nodup.of_map _ hnodup).filter _)).mpr fun command => ?_)
    rw [hmem, List.mem_filter]

end Summary

/-! ## The acknowledgement -/

/-- **The teardown acknowledgement is exact**: the plan has one command for each channel, in order and
under ids of their own, each command comes back from its request, and the summaries say exactly what
the responses say. -/
structure TeardownExact (request : ReconnectTeardownPlanRequest) : Prop where
  ok : (buildReconnectTeardownPlan request).ok = true
  channels : (buildReconnectTeardownPlan request).plan.commands.map (·.targetChannel) =
    request.channels
  messageIds : ((buildReconnectTeardownPlan request).plan.commands.map (·.messageId)).Nodup
  requests : ∀ command ∈ (buildReconnectTeardownPlan request).plan.commands, ∀ options,
    decodeReconnectTeardownCommandPacket (makeReconnectTeardownRequestPacket command options) =
      { ok := true, command := command }
  summaries : ∀ responses, SummaryExact (buildReconnectTeardownPlan request).plan responses

theorem teardownExact {request : ReconnectTeardownPlanRequest} {reason : ByteBuffer}
    (h : TeardownRequestFits request reason) : TeardownExact request := by
  have hplan := buildReconnectTeardownPlan_of_fits h
  have hids := (messageIds_of_fits h).1
  have hok : (buildReconnectTeardownPlan request).ok = true := by rw [hplan]
  refine ⟨hok, ?_, hids, fun command hcommand options => ?_, fun responses => ?_⟩
  · rw [hplan]
    exact targetChannels_buildCommands _ _ _ _
  · obtain ⟨sent, hsent⟩ := commandFits_of_fits h hcommand
    exact decode_makeReconnectTeardownRequestPacket hsent options
  · exact summaryExact hids (commands_ne_nil_of_ok hok) responses

/-- The teardown of two channels, up to the last message id. -/
def lastTwo : ReconnectTeardownPlanRequest where
  sessionId := 7
  channels := [⟨300, .bulk⟩, ⟨301, .video⟩]
  firstMessageId := 0xfffffffffffffffe
  reason := payloadToString [0x62, 0xff]

theorem lastTwo_fits : TeardownRequestFits lastTwo [0x62, 0xff] :=
  ⟨by decide, by decide, by decide, by decide, by decide, by decide, by decide, by decide, rfl,
    by decide⟩

theorem teardownExact_lastTwo : TeardownExact lastTwo := teardownExact lastTwo_fits

end Runtime
end FusionDesk
