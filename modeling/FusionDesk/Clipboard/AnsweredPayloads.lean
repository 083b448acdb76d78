import FusionDesk.Clipboard.FdclAccepted
import FusionDesk.Clipboard.Outgoing

/-!
# Answers that the peer accepts

What a module answers is bounded by its policy, what the peer accepts by the constants of its
decoder, and nothing holds the policy below the constants.  So an answer has a payload that is
accepted if the content it is about is within the limits of the decoder (`AnswerFits`); what the
module adds itself, ids of the request and texts of its own, always is.

* `decodes_handleReadRequest`, `decodes_handleFileRangeRequest`, `decodes_handleObjectLockRequest`
  and `decodes_handleObjectUnlockRequest`: one for each request of the peer.
-/

namespace FusionDesk
namespace Clipboard

open Protocol Network FirstMatch
open FusionDesk.Module

/-- A packet with a payload that is accepted; an acknowledgement has none. -/
def PayloadAccepted (packet : PacketEnvelope) : Prop :=
  packet.messageKind ≠ .ack → (decodeFdclPayload packet.payload).ok = true

instance : DecidablePred PayloadAccepted := fun packet =>
  inferInstanceAs (Decidable (packet.messageKind ≠ .ack → (decodeFdclPayload packet.payload).ok = true))

/-- **The call sends a payload that is accepted**, if it sends one. -/
abbrev Call.Decodes {α : Type} (call : Call α) : Prop :=
  call.SendsOnly fun outgoing => PayloadAccepted outgoing.packet

open Call

/-! ## What is within the limits -/

/-- What a source and the transcoder answer to a read: a short text with an error, and within the
limits what the policy lets through. -/
structure ContentFits (policy : ClipboardPolicy) (request : TransferReadRequest)
    (result : TransferReadResult) : Prop where
  message : result.ok = false → StringLimits result.message
  content : (enforceReadResultPolicy policy result).ok = true →
    (request.acceptedMaxBytes ≠ 0 → result.bytes.length ≤ request.acceptedMaxBytes.toNat) →
    validEncodingMode result.encoding = true ∧ NameLimits result.canonicalFormat ∧
      result.bytes.length ≤ maxInlineBytes

/-- A result that a read response or an error can carry. -/
structure Answerable (result : TransferReadResult) : Prop where
  message : result.ok = false → StringLimits result.message
  content : result.ok = true → validEncodingMode result.encoding = true ∧
    NameLimits result.canonicalFormat ∧ result.bytes.length ≤ maxInlineBytes

/-- What a source answers to a request for a range of a file. -/
structure RangeFits (policy : ClipboardPolicy) (result : TransferFileRangeResult) : Prop where
  message : result.ok = false → StringLimits result.message
  content : result.ok = true → result.bytes.length ≤ (effectiveMaxFileRangeBytes policy).toNat →
    result.bytes.length ≤ maxFileRangeBytes

/-- What the large_data channel says when it is blocked. -/
def ChannelTextFits (channels : Option ChannelRegistry) : Prop :=
  ∀ registry ∈ channels, ∀ entry ∈ registry.find clipboardLargeDataChannelKey,
    pressureBlocksBulk entry.snapshot.pressure.level = true → ShortText entry.snapshot.message

namespace ClipboardModule

variable (m : ClipboardModule) (surroundings : Surroundings) (packet : PacketEnvelope)

/-- A read that the policy lets through is of a source that answers within the limits. -/
def ReadFits (request : FdclReadFormatRequest) : Prop :=
  policyAllowsReadRequest m.policy surroundings.moment m.localBundle request = true →
    let readRequest := localReadRequest m.policy request
    ∀ source, (m.sourceRegistry.lookupSource readRequest).source = some source →
      ∀ descriptor ∈ findReadDescriptor surroundings.moment source readRequest,
        ContentFits m.policy readRequest (sourceAnswer m.dependencies.transcoder
          surroundings.moment source descriptor readRequest)

/-- A range of a file that is offered is of a source that answers within the limits, and the channel
has a short text. -/
structure ReadRangeFits (request : FdclFileRangeRequest) : Prop where
  source : (validateFileRangeRequestAgainstBundle surroundings.moment m.localBundle request).1 = .ok →
    ∀ source ∈ m.localBundle.findSource request.sourceId,
      ∀ readFileRange ∈ source.readFileRange, RangeFits m.policy
        (readFileRange surroundings.moment (localFileRangeRequest m.policy request))
  channels : ChannelTextFits surroundings.channels

/-- The source of a file that is to be locked gives a short text with an error. -/
def LockFits (request : FdclObjectLock) : Prop :=
  ∀ entry ∈ m.sourceRegistry.entries, entry.bundle.offerId = request.offerId →
    ∀ source ∈ entry.bundle.findSource request.sourceId,
      StringLimits (validateFileObjectForLock surroundings.moment source
        (makeTransferObjectLockRequest request)).message

/-- What a received packet asks for is answered within the limits, if the policy lets content out. -/
def AnswerFits : Received → Prop
  | .readRequest request => m.policy.allowSendContent = true → m.ReadFits surroundings request
  | .fileRangeRequest request =>
    m.policy.allowSendContent = true → m.policy.allowFileContents = true →
      m.ReadRangeFits surroundings request
  | .lockObject request =>
    m.policy.allowSendContent = true → m.policy.allowFileContents = true →
      m.LockFits surroundings request
  | _ => True

/-! ## Responses -/

theorem decodes_sendErrorResponse {status : ResponseStatus} {message : StdString}
    (h : StringLimits message) : (m.sendErrorResponse packet status message).Decodes :=
  sendsOnly_sending fun _ =>
    @decodeFdclPayload_ok (.errorDetail { status := status, message := message }) h

theorem decodes_sendReadResponse {request : FdclReadFormatRequest} {result : TransferReadResult}
    (hrequest : ¬(request.bundleId = 0 ∨ request.offerId = 0 ∨ request.ownerEpoch = 0 ∨
      request.sourceId = 0 ∨ request.formatId = 0))
    (hresult : Answerable result) : (m.sendReadResponse packet request result).Decodes := by
  refine sendsOnly_ite (fun hfailed => m.decodes_sendErrorResponse packet (hresult.message hfailed))
    fun hok => sendsOnly_sending fun _ => ?_
  obtain ⟨hencoding, hname, hbytes⟩ := hresult.content (Bool.eq_true_of_not_eq_false hok)
  exact @decodeFdclPayload_ok (.readFormatResponse (readResponseOf request result))
    ⟨hencoding, hrequest, hname, hbytes⟩

theorem stringLimits_nil : StringLimits [] := by decide

/-- A lookup finds a source, or it has an error with a short text. -/
theorem lookupSource_cases (registry : InMemoryTransferSourceRegistry)
    (request : TransferReadRequest) :
    (∃ source, (registry.lookupSource request).source = some source ∧
        (registry.lookupSource request).found = true) ∨
      (registry.lookupSource request).source = none ∧
        (registry.lookupSource request).status ≠ .ok ∧
        StringLimits (registry.lookupSource request).message := by
  unfold InMemoryTransferSourceRegistry.lookupSource
  split
  · exact Or.inr ⟨rfl, by decide, by decide⟩
  split
  · exact Or.inr ⟨rfl, by decide, by decide⟩
  split
  · exact Or.inr ⟨rfl, by decide, by decide⟩
  split
  · exact Or.inl ⟨_, rfl, rfl⟩
  · exact Or.inr ⟨rfl, by decide, by decide⟩

/-- What the policy says against content is short. -/
theorem stringLimits_enforceReadResultPolicy {policy : ClipboardPolicy} {result : TransferReadResult}
    (hmessage : result.ok = false → StringLimits result.message)
    (h : (enforceReadResultPolicy policy result).ok = false) :
    StringLimits (enforceReadResultPolicy policy result).message := by
  by_cases hfailed : result.ok = false
  · rw [enforceReadResultPolicy, if_pos hfailed]
    exact hmessage hfailed
  unfold enforceReadResultPolicy at h ⊢
  rw [if_neg hfailed] at h ⊢
  by_cases hdenied : policyAllowsCanonicalFormat policy result.canonicalFormat = false
  · rw [if_pos hdenied]
    show StringLimits (bytesOf "clipboard format denied by policy")
    decide
  rw [if_neg hdenied] at h ⊢
  by_cases hlarge : result.bytes.length > policy.maxInlineBytes.toNat
  · rw [if_pos hlarge]
    show StringLimits (bytesOf "clipboard read exceeds policy max inline bytes")
    decide
  rw [if_neg hlarge] at h ⊢
  by_cases hfiles : result.canonicalFormat = fdclFileListFormat
  · rw [if_pos hfiles] at h ⊢
    by_cases hvalid : (validateFileListPolicy policy result.bytes).1 ≠ .ok
    · simp only [if_pos hvalid]
      exact stringLimits_validateFileListPolicy policy result.bytes
    · simp only [if_neg hvalid] at h
      exact absurd h hfailed
  · rw [if_neg hfiles] at h
    exact absurd h hfailed

theorem answerable_refused {status : ResponseStatus} {message : StdString} (hstatus : status ≠ .ok)
    (hmessage : StringLimits message) :
    Answerable { status := status, message := message } :=
  ⟨fun _ => hmessage, fun hok => absurd (eq_of_beq hok) hstatus⟩

/-- What a source answers within the limits is answerable when the policy has been asked. -/
theorem answerable_readSource {policy : ClipboardPolicy} {transcoder : TransferTranscoder}
    {now : Moment} {source : TransferSource} {request : TransferReadRequest}
    (h : ∀ descriptor ∈ findReadDescriptor now source request,
      ContentFits policy request (sourceAnswer transcoder now source descriptor request)) :
    Answerable (readSource policy transcoder now source request) := by
  unfold readSource
  cases hfind : findReadDescriptor now source request with
  | none => exact answerable_refused (by decide) (by decide)
  | some descriptor =>
    have hfits := h descriptor hfind
    simp only
    generalize sourceAnswer transcoder now source descriptor request = result at hfits
    by_cases hlarge : result.ok = true ∧ request.acceptedMaxBytes ≠ 0 ∧
        result.bytes.length > request.acceptedMaxBytes.toNat
    · rw [if_pos hlarge]
      have hrefused : ∀ text : StdString, StringLimits text →
          Answerable (enforceReadResultPolicy policy (result.refused .tooLarge text)) := by
        intro text htext
        have hfailed : (result.refused .tooLarge text).ok = false := rfl
        rw [enforceReadResultPolicy, if_pos hfailed]
        exact ⟨fun _ => htext, nofun⟩
      exact hrefused _ (by decide)
    · rw [if_neg hlarge]
      refine ⟨stringLimits_enforceReadResultPolicy hfits.message, fun hok => ?_⟩
      have hsame : enforceReadResultPolicy policy result = result :=
        (passes_of_enforced hok).1
      have hcontent := hfits.content hok
      rw [hsame] at hok ⊢
      refine hcontent fun hmax => ?_
      by_contra hlong
      exact hlarge ⟨hok, hmax, not_le.mp hlong⟩

/-- **What a read of the local bundle comes to is answerable**, if what the source answers is. -/
theorem answerable_readLocal {request : FdclReadFormatRequest}
    (h : m.ReadFits surroundings request) : Answerable (m.readLocal surroundings request) := by
  unfold readLocal Clipboard.readLocal
  split
  · exact answerable_refused (by decide) (by decide)
  split
  · exact answerable_refused (by decide) (by decide)
  next hallowed =>
  have hread := h (Bool.eq_true_of_not_eq_false hallowed)
  simp only
  rcases lookupSource_cases m.sourceRegistry (localReadRequest m.policy request) with
    ⟨source, hsource, hfound⟩ | ⟨hsource, hstatus, hmessage⟩
  · rw [hsource]
    simp only [hfound, Bool.true_eq_false, if_false]
    exact answerable_readSource (hread source hsource)
  · rw [hsource]
    exact answerable_refused hstatus hmessage

theorem decodes_handleReadRequest {request : FdclReadFormatRequest}
    (hrequest : ¬(request.bundleId = 0 ∨ request.offerId = 0 ∨ request.ownerEpoch = 0 ∨
      request.sourceId = 0 ∨ request.formatId = 0))
    (h : m.policy.allowSendContent = true → m.ReadFits surroundings request) :
    (m.handleReadRequest surroundings packet request).Decodes :=
  sendsOnly_ite (fun _ => m.decodes_sendErrorResponse packet (by decide)) fun hsend =>
    sendsOnly_ite (fun _ => m.decodes_sendErrorResponse packet (by decide)) fun _ =>
      m.decodes_sendReadResponse packet hrequest
        (m.answerable_readLocal surroundings (h (Bool.eq_true_of_not_eq_false hsend)))

/-! ## File ranges -/

/-- What a validation says against a request is short, if its texts are. -/
theorem stringLimits_validateStreaming {texts : StreamingTexts} (hstale : StringLimits texts.stale)
    (hstreaming : StringLimits texts.streaming) (hnoFileList : StringLimits texts.noFileList)
    (hnoSource : StringLimits texts.noSource) (now : Moment) (bundle : TransferSourceBundle)
    (bundleId : TransferBundleId) (offerId : TransferOfferId) (ownerEpoch : UInt64)
    (sourceId : TransferSourceId) :
    StringLimits (validateStreaming texts now bundle bundleId offerId ownerEpoch sourceId).2 := by
  unfold validateStreaming
  split
  · exact hstale
  simp only
  split
  · split
    · exact hstreaming
    · exact stringLimits_nil
  · show StringLimits (if _ then _ else _)
    split
    · exact hnoFileList
    · exact hnoSource

/-- A result that a file range response or an error can carry. -/
structure RangeAnswerable (result : TransferFileRangeResult) : Prop where
  message : result.ok = false → StringLimits result.message
  content : result.ok = true → result.bytes.length ≤ maxFileRangeBytes

theorem rangeAnswerable_refused {status : ResponseStatus} {message : StdString}
    (hstatus : status ≠ .ok) (hmessage : StringLimits message) :
    RangeAnswerable { status := status, message := message } :=
  ⟨fun _ => hmessage, fun hok => absurd (eq_of_beq hok) hstatus⟩

theorem rangeAnswerable_readLocalFileRange {request : FdclFileRangeRequest}
    (h : m.ReadRangeFits surroundings request) :
    RangeAnswerable (m.readLocalFileRange surroundings request) := by
  unfold readLocalFileRange Clipboard.readLocalFileRange
  split
  · exact rangeAnswerable_refused (by decide) (by decide)
  split
  · exact rangeAnswerable_refused (by decide) (by decide)
  simp only
  split
  · next hinvalid =>
    refine rangeAnswerable_refused hinvalid ?_
    exact stringLimits_validateStreaming (by decide) (by decide) (by decide) (by decide) _ _ _ _ _ _
  next hvalid =>
  cases hsource : m.localBundle.findSource request.sourceId with
  | none => exact rangeAnswerable_refused (by decide) (by decide)
  | some source =>
    simp only
    cases hreader : source.readFileRange with
    | none => exact rangeAnswerable_refused (by decide) (by decide)
    | some readFileRange =>
      have hfits := h.source (not_not.mp hvalid) source hsource readFileRange hreader
      simp only
      generalize readFileRange surroundings.moment (localFileRangeRequest m.policy request) = result
        at hfits
      by_cases hlarge : result.ok = true ∧
          result.bytes.length > (effectiveMaxFileRangeBytes m.policy).toNat
      · rw [if_pos hlarge]
        refine ⟨fun _ => ?_, nofun⟩
        show StringLimits (bytesOf "clipboard file range exceeds policy max bytes")
        decide
      · rw [if_neg hlarge]
        refine ⟨hfits.message, fun hok => hfits.content hok ?_⟩
        by_contra hlong
        exact hlarge ⟨hok, not_le.mp hlong⟩

/-- What the registry says against a packet is short. -/
theorem shortText_validatePacket (registry : ChannelRegistry) (packet : PacketEnvelope) :
    ShortText (registry.validatePacket packet).message := by
  unfold ChannelRegistry.validatePacket
  split
  · show ShortText "channel is not registered"
    decide
  simp only
  split
  · unfold NegotiatedCapabilities.validate
    split
    · show ShortText "channel type is not negotiated"
      decide
    split
    · show ShortText "packet type is not negotiated"
      decide
    split
    · show ShortText "message kind is not negotiated"
      decide
    · exact shortText_empty
  split
  · show ShortText "packet type is not allowed on channel"
    decide
  split
  · show ShortText "channel is not ready"
    decide
  · exact shortText_empty

/-- Why a response gets no channel is said in a short text. -/
theorem stringLimits_schedule {channels : Option ChannelRegistry} (h : ChannelTextFits channels)
    (response : PacketEnvelope) (payloadBytes : UInt64)
    (options : ClipboardLargeDataScheduleOptions) :
    StringLimits (scheduleClipboardBulkResponse channels response payloadBytes options).message := by
  unfold scheduleClipboardBulkResponse
  split
  · exact stringLimits_nil
  cases channels with
  | none => exact stringLimits_nil
  | some registry =>
    simp only
    split
    · split
      · next hblocked =>
        split
        · decide
        · cases hfind : registry.find clipboardLargeDataChannelKey with
          | none => exact stringLimits_nil
          | some entry =>
            rw [hfind] at hblocked
            exact h registry rfl entry hfind hblocked
      · split
        · show StringLimits (bytesOf "clipboard large_data window is full")
          decide
        · exact stringLimits_nil
    · generalize (if options.smallDataFallbackBytes = 0 then 1024 * 1024
        else options.smallDataFallbackBytes) = fallbackBytes
      split
      · exact stringLimits_nil
      · show StringLimits (if _ then _ else _)
        split
        · decide
        · exact shortText_validatePacket _ _

theorem decodes_sendScheduledRange {response : PacketEnvelope} (h : PayloadAccepted response)
    (usesLargeData : Bool) : (m.sendScheduledRange packet response usesLargeData).Decodes := by
  unfold sendScheduledRange
  split
  · exact sendsOnly_sending h
  next window _ =>
  refine sendsOnly_ite (fun hfull => m.decodes_sendErrorResponse packet ?_) fun _ => ?_
  · unfold ClipboardLargeDataWindow.reserve at hfull ⊢
    by_cases hblocked : window.maxInFlightBytes ≠ 0 ∧
        (window.inFlightBytes ≥ window.maxInFlightBytes ∨
          UInt64.ofNat response.payload.length > window.maxInFlightBytes - window.inFlightBytes)
    · rw [if_pos hblocked]
      show StringLimits (bytesOf "clipboard large_data window is full")
      decide
    · rw [if_neg hblocked] at hfull
      cases hfull
  · rintro outgoing ⟨⟩
    exact h

theorem decodes_handleFileRangeRequest {request : FdclFileRangeRequest}
    (hrequest : ¬(request.bundleId = 0 ∨ request.offerId = 0 ∨ request.ownerEpoch = 0 ∨
      request.sourceId = 0 ∨ request.objectId = 0))
    (h : m.policy.allowSendContent = true → m.policy.allowFileContents = true →
      m.ReadRangeFits surroundings request) :
    (m.handleFileRangeRequest surroundings packet request).Decodes := by
  refine sendsOnly_ite (fun _ => m.decodes_sendErrorResponse packet (by decide)) fun hsend =>
    sendsOnly_ite (fun _ => m.decodes_sendErrorResponse packet (by decide)) fun hfiles => ?_
  have h := h (Bool.eq_true_of_not_eq_false hsend) (Bool.eq_true_of_not_eq_false hfiles)
  have hanswer := m.rangeAnswerable_readLocalFileRange surroundings h
  generalize m.readLocalFileRange surroundings request = result at hanswer
  refine sendsOnly_ite (fun hfailed => m.decodes_sendErrorResponse packet (hanswer.message hfailed))
    fun hok => sendsOnly_ite (fun _ => m.decodes_sendErrorResponse packet (by decide)) fun _ =>
    sendsOnly_ite (fun _ => decodes_sendErrorResponse _ packet
      (stringLimits_schedule h.channels _ _ _)) fun _ =>
    decodes_sendScheduledRange _ packet (fun _ => ?_) _
  exact @decodeFdclPayload_ok (.fileRangeResponse (fileRangeResponseOf request result))
    ⟨hrequest, hanswer.content (Bool.eq_true_of_not_eq_false hok)⟩

/-! ## Locks -/

/-- Why a file is not locked is said in a short text. -/
theorem stringLimits_lockObject {request : FdclObjectLock} (h : m.LockFits surroundings request) :
    StringLimits (m.sourceRegistry.lockObject surroundings.moment
      (makeTransferObjectLockRequest request)).1.message := by
  unfold InMemoryTransferSourceRegistry.lockObject
  split
  · show StringLimits (bytesOf "transfer object lock identity is invalid")
    decide
  cases hfind : m.sourceRegistry.entries.find? fun entry =>
      entry.bundle.offerId == (makeTransferObjectLockRequest request).offerId with
  | none =>
    rw [updateFirst_of_none hfind]
    show StringLimits (bytesOf "transfer object lock offer is not found")
    decide
  | some entry =>
    obtain ⟨before, behind, hentries, -, hentry, hupdate⟩ := exists_split_of_find? hfind
    rw [hupdate]
    have hmem : entry ∈ m.sourceRegistry.entries := by
      rw [hentries]
      exact List.mem_append_right _ List.mem_cons_self
    have hsource := h entry hmem (eq_of_beq hentry)
    show StringLimits (m.sourceRegistry.lockEntry surroundings.moment
      (makeTransferObjectLockRequest request) entry).1.1.message
    unfold InMemoryTransferSourceRegistry.lockEntry
    split
    · show StringLimits (bytesOf "transfer object lock offer is retired")
      decide
    split
    · show StringLimits (bytesOf "transfer object lock offer is stale")
      decide
    split
    · show StringLimits (bytesOf "transfer object lock id is already active")
      decide
    cases hfound : entry.bundle.findSource (makeTransferObjectLockRequest request).sourceId with
    | none =>
      show StringLimits (bytesOf "transfer object lock source is not found")
      decide
    | some source =>
      simp only
      split
      · exact hsource source hfound
      · exact hsource source hfound

/-- What an unlocking comes to: an error with a short text, or the id of the request. -/
theorem unlockObject_cases (registry : InMemoryTransferSourceRegistry)
    (request : TransferObjectLockRequest) :
    StringLimits (registry.unlockObject request).1.message ∧
      ((registry.unlockObject request).1.ok = true →
        (registry.unlockObject request).1.lockId ≠ 0) := by
  have hrefused : ∀ (status : ResponseStatus) (text : StdString), status ≠ .ok →
      StringLimits text → StringLimits (objectLockError status text).message ∧
        ((objectLockError status text).ok = true → (objectLockError status text).lockId ≠ 0) :=
    fun status text hstatus htext => ⟨htext, fun hok => absurd (eq_of_beq hok) hstatus⟩
  unfold InMemoryTransferSourceRegistry.unlockObject
  split
  · exact hrefused _ _ (by decide) (by decide)
  next hvalid =>
  cases hfind : registry.entries.find? fun entry => entry.bundle.offerId == request.offerId with
  | none =>
    rw [updateFirst_of_none hfind]
    exact hrefused _ _ (by decide) (by decide)
  | some entry =>
    obtain ⟨before, behind, -, -, -, hupdate⟩ := exists_split_of_find? hfind
    rw [hupdate]
    show StringLimits (InMemoryTransferSourceRegistry.unlockEntry request entry).1.message ∧
      ((InMemoryTransferSourceRegistry.unlockEntry request entry).1.ok = true →
        (InMemoryTransferSourceRegistry.unlockEntry request entry).1.lockId ≠ 0)
    unfold InMemoryTransferSourceRegistry.unlockEntry
    split
    · exact hrefused _ _ (by decide) (by decide)
    cases hlock : entry.locks.find? (InMemoryTransferSourceRegistry.isLockOf request) with
    | none => exact hrefused _ _ (by decide) (by decide)
    | some lock =>
      have hsame : lock.lockId = request.lockId := by
        have := List.find?_some hlock
        simp only [InMemoryTransferSourceRegistry.isLockOf, Bool.and_eq_true, beq_iff_eq] at this
        exact this.1.1.1
      refine ⟨stringLimits_nil, fun _ => ?_⟩
      show lock.lockId ≠ 0
      rw [hsame]
      tauto

theorem decodes_sendObjectLockResponse {operation : FdclOperation} {request : FdclObjectLock}
    {result : TransferObjectLockResult} (hoperation : operation = .lockObject ∨ operation = .unlockObject)
    (hrequest : ¬(request.bundleId = 0 ∨ request.offerId = 0 ∨ request.ownerEpoch = 0 ∨
      request.sourceId = 0 ∨ request.objectId = 0))
    (hmessage : StringLimits result.message)
    (hlock : operation = .unlockObject → result.ok = true → result.lockId ≠ 0) :
    (m.sendObjectLockResponse packet operation request result).Decodes := by
  refine sendsOnly_ite (fun _ => m.decodes_sendErrorResponse packet hmessage) fun hok =>
    sendsOnly_sending fun _ => ?_
  have hok : result.ok = true := Bool.eq_true_of_not_eq_false hok
  rcases hoperation with rfl | rfl
  · exact @decodeFdclPayload_ok (.lockObject _) ⟨hrequest, fun hunlock => by cases hunlock.1⟩
  · exact @decodeFdclPayload_ok (.unlockObject _)
      ⟨hrequest, fun hzero => hlock rfl hok hzero.2⟩

theorem decodes_handleObjectLockRequest {request : FdclObjectLock}
    (hrequest : ¬(request.bundleId = 0 ∨ request.offerId = 0 ∨ request.ownerEpoch = 0 ∨
      request.sourceId = 0 ∨ request.objectId = 0))
    (h : m.policy.allowSendContent = true → m.policy.allowFileContents = true →
      m.LockFits surroundings request) :
    (m.handleObjectLockRequest surroundings packet request).Decodes := by
  refine sendsOnly_ite (fun _ => m.decodes_sendErrorResponse packet (by decide)) fun hmay => ?_
  obtain ⟨hsend, hfiles⟩ := not_or.mp hmay
  have h := h (Bool.eq_true_of_not_eq_false hsend) (Bool.eq_true_of_not_eq_false hfiles)
  exact decodes_sendObjectLockResponse _ packet (Or.inl rfl) hrequest
    (m.stringLimits_lockObject surroundings h) nofun

theorem decodes_handleObjectUnlockRequest {request : FdclObjectLock}
    (hrequest : ¬(request.bundleId = 0 ∨ request.offerId = 0 ∨ request.ownerEpoch = 0 ∨
      request.sourceId = 0 ∨ request.objectId = 0)) :
    (m.handleObjectUnlockRequest packet request).Decodes := by
  obtain ⟨hmessage, hlock⟩ :=
    unlockObject_cases m.sourceRegistry (makeTransferObjectLockRequest request)
  exact sendsOnly_ite (fun _ => m.decodes_sendErrorResponse packet (by decide)) fun _ =>
    decodes_sendObjectLockResponse _ packet (Or.inr rfl) hrequest hmessage fun _ => hlock

end ClipboardModule

end Clipboard
end FusionDesk
