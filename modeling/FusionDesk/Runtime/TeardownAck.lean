import FusionDesk.Network.Channel
import FusionDesk.Protocol.CapabilityPayloadCodec
import FusionDesk.Protocol.Types
import Mathlib.Data.List.Nodup

/-!
# Teardown of the old transport: commands, packets and the summary

`reconnect_teardown_ack.h` and `reconnect_teardown_ack.cpp`: a plan of commands, one for each channel
that is to be closed, the packets that carry them, and the summary of the responses.  What the peer
does with a command is left out.

A `std::string` has one character for each of its bytes.

* `summarize_of_answers`: the summary of responses that answer commands of the plan, each once.
* `summarize_concat_ne_of_unknown`: a response to no command of the plan shows in the summary.
-/

namespace FusionDesk
namespace Runtime

open Protocol Network

/-! ## Types -/

structure ReconnectTeardownPlanRequest where
  sessionId : SessionId := 0
  channels : List ChannelKey := []
  firstMessageId : MessageId := 1
  timeoutMs : UInt32 := 1000
  reason : String := "reconnect old transport teardown"

structure ReconnectTeardownCommand where
  sessionId : SessionId := 0
  targetChannel : ChannelKey := {}
  messageId : MessageId := 0
  correlationId : MessageId := 0
  timeoutMs : UInt32 := 0
  reason : String := ""
  deriving DecidableEq, Repr

structure ReconnectTeardownPlan where
  commands : List ReconnectTeardownCommand := []
  deriving DecidableEq, Repr

structure ReconnectTeardownPlanResult where
  ok : Bool := false
  plan : ReconnectTeardownPlan := {}
  messages : List String := []

structure ReconnectTeardownResponse where
  sessionId : SessionId := 0
  targetChannel : ChannelKey := {}
  responseTo : MessageId := 0
  correlationId : MessageId := 0
  messageKind : MessageKind := .response
  responseStatus : ResponseStatus := .ok
  message : String := ""
  deriving DecidableEq, Repr

structure ReconnectTeardownResponseSummary where
  complete : Bool := false
  ok : Bool := false
  completedTargetChannels : List ChannelKey := []
  messages : List String := []
  deriving DecidableEq, Repr

/-- `struct ReconnectTeardownWireOptions`.  The control channel is left out, as the default takes the
place of every other one. -/
structure ReconnectTeardownWireOptions where
  traceId : TraceId := 0
  sequence : UInt64 := 0
  monotonicTimestampUsec : UInt64 := 0
  priority : PacketPriority := .critical

/-- `struct ReconnectTeardownWireResponseOptions`. -/
structure ReconnectTeardownWireResponseOptions where
  messageId : MessageId := 0
  sequence : UInt64 := 0
  monotonicTimestampUsec : UInt64 := 0
  status : ResponseStatus := .ok
  message : String := ""

/-- Of `struct ReconnectOrchestrationSidePlan`, what a teardown uses. -/
structure ReconnectOrchestrationSidePlan where
  sessionId : SessionId := 0
  teardownAfterSuccessfulRebind : List ChannelKey := []
  reason : String := ""

/-! ## Plans -/

/-- The loop of `buildReconnectTeardownPlan` over the channels, from a message id on. -/
def buildCommands (request : ReconnectTeardownPlanRequest) (reason : String) :
    MessageId → List ChannelKey → List ReconnectTeardownCommand
  | _, [] => []
  | nextMessageId, channel :: channels =>
    { sessionId := request.sessionId
      targetChannel := channel
      messageId := nextMessageId
      correlationId := nextMessageId
      timeoutMs := request.timeoutMs
      reason := reason } :: buildCommands request reason (nextMessageId + 1) channels

/-- The commands for the channels in front of the first one that comes again. -/
def beforeDuplicate : List ChannelKey → List ChannelKey → List ChannelKey
  | _, [] => []
  | seen, channel :: channels =>
    if channel ∈ seen then [] else channel :: beforeDuplicate (channel :: seen) channels

def planRequestMessages (request : ReconnectTeardownPlanRequest) : List String :=
  (if request.sessionId = 0 then ["reconnect teardown plan requires session id"] else []) ++
  (if request.channels.isEmpty then ["reconnect teardown plan requires channels"] else []) ++
  (if request.firstMessageId = 0 then
    ["reconnect teardown plan requires first message id"] else []) ++
  (if request.timeoutMs = 0 then ["reconnect teardown plan requires timeout"] else [])

def buildReconnectTeardownPlan (request : ReconnectTeardownPlanRequest) :
    ReconnectTeardownPlanResult :=
  if (planRequestMessages request).isEmpty = false then { messages := planRequestMessages request }
  else
    let reason := if request.reason = "" then "reconnect old transport teardown" else request.reason
    let channels := beforeDuplicate [] request.channels
    let plan := ⟨buildCommands request reason request.firstMessageId channels⟩
    if channels ≠ request.channels then
      { plan := plan, messages := ["reconnect teardown plan has duplicate channels"] }
    else { ok := true, plan := plan }

/-- `buildReconnectTeardownPlan`, for a side. -/
def buildSideTeardownPlan (sidePlan : ReconnectOrchestrationSidePlan) (firstMessageId : MessageId)
    (timeoutMs : UInt32) : ReconnectTeardownPlanResult :=
  buildReconnectTeardownPlan {
    sessionId := sidePlan.sessionId
    channels := sidePlan.teardownAfterSuccessfulRebind
    firstMessageId := firstMessageId
    timeoutMs := timeoutMs
    reason :=
      if sidePlan.reason = "" then "reconnect old transport teardown" else sidePlan.reason }

/-- A plan that has been accepted has commands. -/
theorem commands_ne_nil_of_ok {request : ReconnectTeardownPlanRequest}
    (hok : (buildReconnectTeardownPlan request).ok = true) :
    (buildReconnectTeardownPlan request).plan.commands ≠ [] := by
  unfold buildReconnectTeardownPlan at hok ⊢
  split
  next hmessages =>
    rw [if_pos hmessages] at hok
    cases hok
  next hmessages =>
    rw [if_neg hmessages] at hok
    have hchannels : request.channels ≠ [] := by
      intro hnone
      rw [planRequestMessages, hnone] at hmessages
      simp at hmessages
    dsimp only at hok ⊢
    split
    next hduplicate =>
      rw [if_pos hduplicate] at hok
      cases hok
    next hall =>
      rw [not_not.mp hall]
      cases hlist : request.channels with
      | nil => exact absurd hlist hchannels
      | cons channel channels => exact List.cons_ne_nil _ _

/-! ## Packets -/

def stringToPayload (message : String) : ByteBuffer :=
  message.toList.map fun c => UInt8.ofNat c.toNat

def payloadToString (payload : ByteBuffer) : String :=
  String.ofList (payload.map fun byte => Char.ofNat byte.toNat)

def reconnectTeardownPayloadMagic : UInt32 := 0x46445254
def reconnectTeardownPayloadVersion : UInt16 := 1
def reconnectTeardownPayloadHeaderSize : UInt16 := 16

def encodeReconnectTeardownCommandPayload (command : ReconnectTeardownCommand) : ByteBuffer :=
  let reason := stringToPayload command.reason
  if reason.length ≥ 2 ^ 32 then []
  else
    let output := CapabilityPayload.writeU32 [] reconnectTeardownPayloadMagic
    let output := CapabilityPayload.writeU16 output reconnectTeardownPayloadVersion
    let output := CapabilityPayload.writeU16 output reconnectTeardownPayloadHeaderSize
    let output := CapabilityPayload.writeU16 output command.targetChannel.channelId
    let output := CapabilityPayload.writeU16 output command.targetChannel.channelType.raw
    let output := CapabilityPayload.writeU32 output (UInt32.ofNat reason.length)
    output ++ reason

def reconnectTeardownDefaultControlChannel : ChannelKey := ⟨ChannelIdValue.userAuthMain, .control⟩

def makeReconnectTeardownRequestPacket (command : ReconnectTeardownCommand)
    (options : ReconnectTeardownWireOptions) : PacketEnvelope where
  sessionId := command.sessionId
  traceId := options.traceId
  messageId := command.messageId
  correlationId := if command.correlationId ≠ 0 then command.correlationId else command.messageId
  channelId := reconnectTeardownDefaultControlChannel.channelId
  channelType := reconnectTeardownDefaultControlChannel.channelType
  packetType := .control
  messageKind := .request
  priority := options.priority
  sequence := options.sequence
  monotonicTimestampUsec := options.monotonicTimestampUsec
  timeoutMs := command.timeoutMs
  flags := packetFlagResponseRequired
  payload := encodeReconnectTeardownCommandPayload command

def responseKindForStatus (status : ResponseStatus) : MessageKind :=
  if status = .ok then .response
  else if status = .accepted then .ack
  else if status = .progress then .progress
  else .error

def responseMessageId (request : PacketEnvelope) (configuredMessageId : MessageId) : MessageId :=
  if configuredMessageId ≠ 0 then configuredMessageId
  else if request.messageId ≠ 0xFFFFFFFFFFFFFFFF then request.messageId + 1
  else 1

def makeReconnectTeardownResponsePacket (request : PacketEnvelope)
    (options : ReconnectTeardownWireResponseOptions) : PacketEnvelope where
  protocolMajor := request.protocolMajor
  protocolMinor := request.protocolMinor
  sessionId := request.sessionId
  traceId := request.traceId
  messageId := responseMessageId request options.messageId
  correlationId := if request.correlationId ≠ 0 then request.correlationId else request.messageId
  responseTo := request.messageId
  channelId := request.channelId
  channelType := request.channelType
  packetType := .control
  messageKind := responseKindForStatus options.status
  priority := .critical
  responseStatus := options.status
  sequence := options.sequence
  monotonicTimestampUsec := options.monotonicTimestampUsec
  payload := stringToPayload options.message

def reconnectTeardownResponseFromPacket (command : ReconnectTeardownCommand)
    (packet : PacketEnvelope) : ReconnectTeardownResponse where
  sessionId := packet.sessionId
  targetChannel := command.targetChannel
  responseTo := packet.responseTo
  correlationId := packet.correlationId
  messageKind := packet.messageKind
  responseStatus := packet.responseStatus
  message := payloadToString packet.payload

/-! ## The summary -/

def findCommand (plan : ReconnectTeardownPlan) (response : ReconnectTeardownResponse) :
    Option ReconnectTeardownCommand :=
  plan.commands.find? fun command =>
    command.sessionId == response.sessionId && command.targetChannel == response.targetChannel &&
      command.messageId == response.responseTo && command.correlationId == response.correlationId

def terminalResponse (messageKind : MessageKind) : Bool :=
  messageKind == .response || messageKind == .error || messageKind == .streamEnd

/-- What the loop of the summary has found: `completedMessages`, the channels and the messages. -/
structure SummaryState where
  completedMessages : List MessageId := []
  completedTargetChannels : List ChannelKey := []
  messages : List String := []

def SummaryState.fail (state : SummaryState) (message : String) : SummaryState :=
  { state with messages := state.messages ++ [message] }

/-- One round of the loop. -/
def summarizeResponse (plan : ReconnectTeardownPlan) (state : SummaryState)
    (response : ReconnectTeardownResponse) : SummaryState :=
  match findCommand plan response with
  | none => state.fail "reconnect teardown response does not match a command"
  | some command =>
    if terminalResponse response.messageKind = false then
      state.fail "reconnect teardown response is not terminal"
    else if command.messageId ∈ state.completedMessages then
      state.fail "reconnect teardown response is duplicated"
    else
      let state := { state with
        completedMessages := state.completedMessages ++ [command.messageId] }
      if response.messageKind = .error ∨ response.responseStatus ≠ .ok then
        state.fail (if response.message = "" then "reconnect teardown response failed"
          else response.message)
      else
        { state with
          completedTargetChannels := state.completedTargetChannels ++ [command.targetChannel] }

def summarizeReconnectTeardownResponses (plan : ReconnectTeardownPlan)
    (responses : List ReconnectTeardownResponse) : ReconnectTeardownResponseSummary :=
  if plan.commands.isEmpty then
    { messages := ["reconnect teardown response summary requires commands"] }
  else
    let state := responses.foldl (summarizeResponse plan) {}
    let complete := state.completedMessages.length == plan.commands.length
    { complete := complete
      ok := complete && state.messages.isEmpty
      completedTargetChannels := state.completedTargetChannels
      messages :=
        if complete then state.messages
        else state.messages ++ ["reconnect teardown responses are incomplete"] }

/-! ## What the summary says -/

/-- The packet is a response to the command that says it is done. -/
structure Answers (command : ReconnectTeardownCommand) (packet : PacketEnvelope) : Prop where
  sessionId : packet.sessionId = command.sessionId
  responseTo : packet.responseTo = command.messageId
  correlationId : packet.correlationId = command.correlationId
  terminal : terminalResponse packet.messageKind = true
  notError : packet.messageKind ≠ .error
  status : packet.responseStatus = .ok

section Summary

variable {plan : ReconnectTeardownPlan}

/-- The message ids of a plan tell its commands apart. -/
theorem eq_of_messageId_eq {commands : List ReconnectTeardownCommand}
    (hnodup : (commands.map ReconnectTeardownCommand.messageId).Nodup)
    {command other : ReconnectTeardownCommand} (hcommand : command ∈ commands)
    (hother : other ∈ commands) (hid : command.messageId = other.messageId) : command = other :=
  List.inj_on_of_nodup_map hnodup hcommand hother hid

theorem findCommand_of_answers
    (hnodup : (plan.commands.map ReconnectTeardownCommand.messageId).Nodup)
    {command : ReconnectTeardownCommand} (hcommand : command ∈ plan.commands)
    {packet : PacketEnvelope} (hanswers : Answers command packet) :
    findCommand plan (reconnectTeardownResponseFromPacket command packet) = some command := by
  have hmatches : (command.sessionId == packet.sessionId &&
      command.targetChannel == command.targetChannel && command.messageId == packet.responseTo &&
      command.correlationId == packet.correlationId) = true := by
    simp [hanswers.sessionId, hanswers.responseTo, hanswers.correlationId]
  rw [findCommand]
  cases hfound : plan.commands.find? _ with
  | none => exact absurd hmatches (List.find?_eq_none.mp hfound command hcommand)
  | some other =>
    have hother := List.find?_some hfound
    simp only [Bool.and_eq_true, beq_iff_eq] at hother
    have hid : other.messageId = command.messageId := hother.1.2.trans hanswers.responseTo
    rw [eq_of_messageId_eq hnodup (List.mem_of_find?_eq_some hfound) hcommand hid]

/-- **A response to no command of the plan is a failure.** -/
theorem summarizeResponse_of_unknown {response : ReconnectTeardownResponse}
    (hunknown : ∀ command ∈ plan.commands, command.messageId ≠ response.responseTo)
    (state : SummaryState) :
    summarizeResponse plan state response =
      state.fail "reconnect teardown response does not match a command" := by
  have hnone : findCommand plan response = none := by
    refine List.find?_eq_none.mpr fun command hcommand hmatches => ?_
    simp only [Bool.and_eq_true, beq_iff_eq] at hmatches
    exact hunknown command hcommand hmatches.1.2
  rw [summarizeResponse, hnone]

/-- Responses that answer commands of the plan, each once. -/
theorem foldl_summarizeResponse
    (hnodup : (plan.commands.map ReconnectTeardownCommand.messageId).Nodup)
    {answers : List (ReconnectTeardownCommand × PacketEnvelope)}
    (hanswers : ∀ answer ∈ answers, answer.1 ∈ plan.commands ∧ Answers answer.1 answer.2)
    (honce : (answers.map fun answer => answer.1.messageId).Nodup) :
    (answers.map fun answer => reconnectTeardownResponseFromPacket answer.1 answer.2).foldl
        (summarizeResponse plan) {} =
      { completedMessages := answers.map fun answer => answer.1.messageId
        completedTargetChannels := answers.map fun answer => answer.1.targetChannel } := by
  induction answers using List.reverseRecOn with
  | nil => rfl
  | append_singleton answers answer ih =>
    obtain ⟨hmem, hanswer⟩ := hanswers answer (List.mem_append_right _ (List.mem_singleton_self _))
    rw [List.map_append, List.nodup_append] at honce
    have hnew : answer.1.messageId ∉ answers.map fun answer => answer.1.messageId := by
      intro hold
      exact honce.2.2 _ hold _ (List.mem_singleton_self _) rfl
    have hrest := ih (fun a ha => hanswers a (List.mem_append_left _ ha)) honce.1
    rw [List.map_append, List.foldl_append, hrest, List.map_singleton, List.foldl_cons,
      List.foldl_nil, summarizeResponse, findCommand_of_answers hnodup hmem hanswer]
    dsimp only
    have hkind : (reconnectTeardownResponseFromPacket answer.1 answer.2).messageKind =
        answer.2.messageKind := rfl
    have hstatus : (reconnectTeardownResponseFromPacket answer.1 answer.2).responseStatus =
        answer.2.responseStatus := rfl
    rw [hkind, hstatus, hanswer.terminal, if_neg (by simp), if_neg hnew,
      if_neg (by simp [hanswer.notError, hanswer.status])]
    simp

/-- **The summary of a plan whose commands have all been answered**, each once. -/
theorem summarize_of_answers (hplan : plan.commands ≠ [])
    (hnodup : (plan.commands.map ReconnectTeardownCommand.messageId).Nodup)
    {answers : List (ReconnectTeardownCommand × PacketEnvelope)}
    (hanswers : ∀ answer ∈ answers, answer.1 ∈ plan.commands ∧ Answers answer.1 answer.2)
    (hall : (answers.map Prod.fst).Perm plan.commands) :
    summarizeReconnectTeardownResponses plan
        (answers.map fun answer => reconnectTeardownResponseFromPacket answer.1 answer.2) =
      { complete := true
        ok := true
        completedTargetChannels := answers.map fun answer => answer.1.targetChannel } := by
  have honce : (answers.map fun answer => answer.1.messageId).Nodup := by
    have hperm := hall.map ReconnectTeardownCommand.messageId
    rw [List.map_map] at hperm
    exact hperm.nodup_iff.mpr hnodup
  have hlength : answers.length = plan.commands.length := by
    rw [← hall.length_eq, List.length_map]
  rw [summarizeReconnectTeardownResponses, if_neg (by simpa using hplan),
    foldl_summarizeResponse hnodup hanswers honce]
  simp [hlength]

/-- **A response to no command of the plan shows in the summary.** -/
theorem summarize_concat_ne_of_unknown (hplan : plan.commands ≠ [])
    {response : ReconnectTeardownResponse}
    (hunknown : ∀ command ∈ plan.commands, command.messageId ≠ response.responseTo)
    (responses : List ReconnectTeardownResponse) :
    summarizeReconnectTeardownResponses plan (responses ++ [response]) ≠
      summarizeReconnectTeardownResponses plan responses := by
  intro hsame
  have hcommands : ¬plan.commands.isEmpty = true := mt List.isEmpty_iff.mp hplan
  have hmessages := congrArg (fun summary => summary.messages.length) hsame
  rw [summarizeReconnectTeardownResponses, summarizeReconnectTeardownResponses,
    if_neg hcommands, if_neg hcommands, List.foldl_append, List.foldl_cons, List.foldl_nil,
    summarizeResponse_of_unknown hunknown] at hmessages
  dsimp only [SummaryState.fail] at hmessages
  split at hmessages
  · rw [List.length_append, List.length_singleton] at hmessages
    omega
  · simp only [List.length_append, List.length_singleton] at hmessages
    omega

end Summary

end Runtime
end FusionDesk
