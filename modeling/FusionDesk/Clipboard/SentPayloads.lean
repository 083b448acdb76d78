import FusionDesk.Clipboard.AnsweredPayloads
import FusionDesk.Clipboard.LocalReads

/-!
# Payloads that the peer accepts

Every packet that a module sends, its answers included.  A call sends a payload that is accepted if
the bundle, the request or the content it is about is within the limits of the decoder
(`MessageFits`).

* `decodes_perform`: the payload of a call whose message fits is accepted.
* `payloadAccepted_of_mem_sentPackets`: so are those of a run of such calls.
-/

namespace FusionDesk
namespace Clipboard

open Protocol Network Call
open FusionDesk.Module

/-! ## What is within the limits -/

/-- The formats of a bundle that a policy lets through. -/
def allowedFormats (policy : ClipboardPolicy) (now : Moment) (bundle : TransferSourceBundle) :
    List (TransferSource × TransferFormatDescriptor) :=
  (bundle.sources.reduceOption.flatMap fun source =>
    (source.formats now).map fun descriptor => (source, descriptor)).filter fun item =>
      policyAllowsCanonicalFormat policy item.2.canonicalFormat

/-- A bundle whose allowed formats and presentation are within the limits. -/
structure BundleFits (policy : ClipboardPolicy) (now : Moment) (bundle : TransferSourceBundle) :
    Prop where
  count : (allowedFormats policy now bundle).length ≤ maxFormatRecords
  formats : ∀ item ∈ allowedFormats policy now bundle,
    FormatRecordLimits (formatRecordOf item.1 item.2)
  presentation : policy.allowPresentationMetadata = true →
    ∀ presentation ∈ bundle.presentation, PresentationLimits presentation.written

/-- A file range request with its ids, for some bytes and not too many: its own number of bytes, or
the greatest of the policy where it asks for none or for more. -/
structure RangeRequestFits (policy : ClipboardPolicy) (request : FdclFileRangeRequest) : Prop where
  identity : ¬(request.bundleId = 0 ∨ request.offerId = 0 ∨ request.ownerEpoch = 0 ∨
    request.sourceId = 0 ∨ request.objectId = 0)
  nonempty : effectiveMaxFileRangeBytes policy ≠ 0
  bytes : request.requestedBytes ≠ 0 → request.requestedBytes ≤ effectiveMaxFileRangeBytes policy →
    request.requestedBytes.toNat ≤ maxFileRangeBytes
  maximum : request.requestedBytes = 0 ∨ request.requestedBytes > effectiveMaxFileRangeBytes policy →
    (effectiveMaxFileRangeBytes policy).toNat ≤ maxFileRangeBytes

namespace ClipboardModule

variable (m : ClipboardModule) (surroundings : Surroundings)

/-- What a call of a running module is about is within the limits of the decoder. -/
def RunningMessageFits : ClipboardOp → Prop
  | .handlePacket packet => m.AnswerFits surroundings (received packet)
  | .announceLocalBundle bundle =>
    m.reachesRegistry surroundings bundle = true → BundleFits m.policy surroundings.moment bundle
  | .resumeAfterReconnect _ =>
    m.reachesRegistry surroundings m.localBundle = true →
      BundleFits m.policy surroundings.moment m.localBundle
  | .requestRemoteFormat request _ _ =>
    m.policy.allowReceive = true →
      policyAllowsReadRequest m.policy surroundings.moment m.remoteBundle request = true →
        ReadRequestLimits request
  | .requestRemoteFileRange request _ _ =>
    m.policy.allowReceive = true → m.policy.allowFileContents = true →
      (validateFileRangeRequestAgainstBundle surroundings.moment m.remoteBundle request).1 = .ok →
        RangeRequestFits m.policy request
  | .requestRemoteObjectLock request _ _ =>
    m.policy.allowReceive = true → m.policy.allowFileContents = true →
      (validateObjectLockAgainstBundle surroundings.moment m.remoteBundle request).1 = .ok →
        ObjectLockLimits .lockObject request
  | .requestRemoteObjectUnlock request _ _ =>
    m.policy.allowReceive = true → m.policy.allowFileContents = true → request.lockId ≠ 0 →
      ObjectLockLimits .unlockObject request
  | .sendCancel cancel _ _ =>
    ¬(cancel.correlationId = 0 ∨ cancel.bundleId = 0 ∨ cancel.offerId = 0 ∨
      cancel.ownerEpoch = 0) → StringLimits cancel.message
  | .sendRemoteDragStart start =>
    m.maySendDrag = true → (FdclMessage.dragStart start).written.WithinLimits
  | .sendRemoteDragMove move =>
    m.maySendDrag = true → (FdclMessage.dragMove move).written.WithinLimits
  | .sendRemoteDragDrop drop =>
    m.maySendDrag = true → (FdclMessage.dragDrop drop).written.WithinLimits
  | .sendRemoteDragCancel cancel => m.maySendDrag = true → DragCancelLimits cancel
  | _ => True

/-- **What a call is about is within the limits of the decoder.** -/
def MessageFits (op : ClipboardOp) : Prop :=
  m.state = .running → m.RunningMessageFits surroundings op

/-! ## Announcements -/

/-- The formats of an announcement are the records of the allowed formats, those of file lists maybe
without streaming. -/
theorem formats_announcedList (bundle : TransferSourceBundle) :
    (m.announcedList surroundings.moment bundle).formats =
      (allowedFormats m.policy surroundings.moment bundle).map fun item =>
        let record := formatRecordOf item.1 item.2
        if m.policy.allowFileContents = false ∧ record.canonicalFormat = fdclFileListFormat then
          { record with canStream := false }
        else record := by
  have hrecords : (makeFormatListFromBundle surroundings.moment (m.announcedForm bundle)).formats =
      (bundle.sources.reduceOption.flatMap fun source =>
        (source.formats surroundings.moment).map fun descriptor => (source, descriptor)).map
          fun item => formatRecordOf item.1 item.2 := by
    simp only [makeFormatListFromBundle, announcedForm, List.map_flatMap, List.map_map]
    rfl
  have hallowed : (makeFormatListFromBundle surroundings.moment (m.announcedForm bundle)).formats.filter
      (fun record => policyAllowsCanonicalFormat m.policy record.canonicalFormat) =
        (allowedFormats m.policy surroundings.moment bundle).map
          fun item => formatRecordOf item.1 item.2 := by
    rw [hrecords, List.filter_map]
    rfl
  simp only [announcedList, filterFormatsByPolicy, hallowed]
  cases m.policy.allowFileContents <;> simp

theorem running_of_reaches {bundle : TransferSourceBundle} {m : ClipboardModule}
    {surroundings : Surroundings} (h : m.reachesRegistry surroundings bundle = true) :
    m.state = .running := by
  simp only [reachesRegistry, Bool.and_eq_true, decide_eq_true_eq] at h
  exact h.1.1

/-- **An announcement of a bundle within the limits is accepted.** -/
theorem decodes_announceLocalBundle {bundle : TransferSourceBundle}
    (h : m.reachesRegistry surroundings bundle = true →
      BundleFits m.policy surroundings.moment bundle) :
    (m.announceLocalBundle surroundings bundle).Decodes := by
  cases hreaches : m.reachesRegistry surroundings bundle with
  | false =>
    rw [announceLocalBundle_of_not_reaches hreaches]
    exact sendsOnly_refused
  | true =>
    by_cases hok : (m.sourceRegistry.store (m.announcedForm bundle)).1 = .ok
    · have hfits := h hreaches
      have hids : ¬(bundle.bundleId = 0 ∨ bundle.offerId = 0) := fun hzero => by
        have hinvalid : (m.sourceRegistry.store (m.announcedForm bundle)).1 = .invalidArgument := by
          rw [InMemoryTransferSourceRegistry.store, if_pos (show (m.announcedForm bundle).bundleId = 0 ∨
            (m.announcedForm bundle).offerId = 0 from hzero)]
        rw [hinvalid] at hok
        cases hok
      have hformats := m.formats_announcedList surroundings bundle
      have hnonempty : (m.announcedList surroundings.moment bundle).formats ≠ [] := by
        simp only [reachesRegistry, Bool.and_eq_true, Bool.not_eq_true',
          List.isEmpty_eq_false_iff] at hreaches
        exact hreaches.2
      rw [announceLocalBundle_of_stored hreaches hok]
      refine sendsOnly_returning fun _ =>
        @decodeFdclPayload_ok (.formatList (m.announcedList surroundings.moment bundle))
          ⟨hids, hnonempty, ?_, fun record hrecord => ?_, fun presentation hpresentation => ?_⟩
      · show (m.announcedList surroundings.moment bundle).formats.length ≤ maxFormatRecords
        rw [hformats, List.length_map]
        exact hfits.count
      · rw [show ({ m.announcedList surroundings.moment bundle with presentation := _ } :
          FdclFormatList).formats = (m.announcedList surroundings.moment bundle).formats from rfl,
          hformats] at hrecord
        obtain ⟨item, hitem, rfl⟩ := List.mem_map.mp hrecord
        have hlimits := hfits.formats item hitem
        simp only
        split
        · exact ⟨hlimits.encoding, hlimits.canonicalFormat, hlimits.nativeFormatName,
            hlimits.identity⟩
        · exact hlimits
      · obtain ⟨original, horiginal, rfl⟩ := Option.map_eq_some_iff.mp hpresentation
        have hshown : (if m.policy.allowPresentationMetadata then bundle.presentation else none) =
          some original := horiginal
        cases hallowed : m.policy.allowPresentationMetadata with
        | false => simp [hallowed] at hshown
        | true =>
          rw [hallowed, if_pos rfl] at hshown
          exact hfits.presentation hallowed original hshown
    · rw [announceLocalBundle_of_refused hreaches hok]
      exact sendsOnly_refused

/-! ## Requests, cancels and drags -/

theorem decodes_dispatch {handler : ReadHandler} {payload : ByteBuffer} {timeoutMs : UInt32}
    {nowUsec : UInt64} {unavailable : StdString} (h : (decodeFdclPayload payload).ok = true) :
    (m.dispatch surroundings handler payload timeoutMs nowUsec unavailable).Decodes := by
  refine sendsOnly_ite (fun _ => sendsOnly_denied) fun _ => ?_
  rintro outgoing ⟨⟩
  exact fun _ => h

theorem decodes_requestRemoteFormatTracked {request : FdclReadFormatRequest} {timeoutMs : UInt32}
    {nowUsec : UInt64}
    (h : m.MessageFits surroundings (.requestRemoteFormat request timeoutMs nowUsec)) :
    (m.requestRemoteFormatTracked surroundings request timeoutMs nowUsec).Decodes := by
  refine sendsOnly_ite (fun _ => sendsOnly_of_none rfl) fun hrunning =>
    sendsOnly_ite (fun _ => sendsOnly_denied) fun hreceive =>
    sendsOnly_ite (fun _ => sendsOnly_denied) fun hallowed => ?_
  have hlimits := h (not_not.mp hrunning) (Bool.eq_true_of_not_eq_false hreceive)
    (Bool.eq_true_of_not_eq_false hallowed)
  exact m.decodes_dispatch surroundings (@decodeFdclPayload_ok (.readFormatRequest request) hlimits)

/-- The request that goes out asks for bytes within the limits. -/
theorem fileRangeRequestLimits_effective {policy : ClipboardPolicy} {request : FdclFileRangeRequest}
    (h : RangeRequestFits policy request) :
    FileRangeRequestLimits (effectiveFileRangeRequest policy request) := by
  unfold effectiveFileRangeRequest
  split
  · next hmaximum => exact ⟨h.identity, h.nonempty, h.maximum hmaximum⟩
  · next hown =>
    obtain ⟨hzero, hlarge⟩ := not_or.mp hown
    exact ⟨h.identity, hzero, h.bytes hzero (UInt64.not_lt.mp hlarge)⟩

theorem decodes_requestRemoteFileRangeTracked {request : FdclFileRangeRequest} {timeoutMs : UInt32}
    {nowUsec : UInt64}
    (h : m.MessageFits surroundings (.requestRemoteFileRange request timeoutMs nowUsec)) :
    (m.requestRemoteFileRangeTracked surroundings request timeoutMs nowUsec).Decodes := by
  refine sendsOnly_ite (fun _ => sendsOnly_of_none rfl) fun hrunning =>
    sendsOnly_ite (fun _ => sendsOnly_denied) fun hreceive =>
    sendsOnly_ite (fun _ => sendsOnly_denied) fun hfiles =>
    sendsOnly_ite (fun _ => sendsOnly_denied) fun hvalid => ?_
  have hlimits := h (not_not.mp hrunning) (Bool.eq_true_of_not_eq_false hreceive)
    (Bool.eq_true_of_not_eq_false hfiles) (not_not.mp hvalid)
  exact m.decodes_dispatch surroundings (@decodeFdclPayload_ok
    (.fileRangeRequest (effectiveFileRangeRequest m.policy request))
    (fileRangeRequestLimits_effective hlimits))

theorem decodes_requestRemoteObjectLockTracked {request : FdclObjectLock} {timeoutMs : UInt32}
    {nowUsec : UInt64}
    (h : m.MessageFits surroundings (.requestRemoteObjectLock request timeoutMs nowUsec)) :
    (m.requestRemoteObjectLockTracked surroundings request timeoutMs nowUsec).Decodes := by
  refine sendsOnly_ite (fun _ => sendsOnly_of_none rfl) fun hrunning =>
    sendsOnly_ite (fun _ => sendsOnly_denied) fun hmay =>
    sendsOnly_ite (fun _ => sendsOnly_denied) fun hvalid => ?_
  obtain ⟨hreceive, hfiles⟩ := not_or.mp hmay
  have hlimits := h (not_not.mp hrunning) (Bool.eq_true_of_not_eq_false hreceive)
    (Bool.eq_true_of_not_eq_false hfiles) (not_not.mp hvalid)
  exact m.decodes_dispatch surroundings (@decodeFdclPayload_ok (.lockObject request) hlimits)

theorem decodes_requestRemoteObjectUnlockTracked {request : FdclObjectLock} {timeoutMs : UInt32}
    {nowUsec : UInt64}
    (h : m.MessageFits surroundings (.requestRemoteObjectUnlock request timeoutMs nowUsec)) :
    (m.requestRemoteObjectUnlockTracked surroundings request timeoutMs nowUsec).Decodes := by
  refine sendsOnly_ite (fun _ => sendsOnly_of_none rfl) fun hrunning =>
    sendsOnly_ite (fun _ => sendsOnly_denied) fun hlock =>
    sendsOnly_ite (fun _ => sendsOnly_denied) fun hmay => ?_
  obtain ⟨hreceive, hfiles⟩ := not_or.mp hmay
  have hlimits := h (not_not.mp hrunning) (Bool.eq_true_of_not_eq_false hreceive)
    (Bool.eq_true_of_not_eq_false hfiles) hlock
  exact m.decodes_dispatch surroundings (@decodeFdclPayload_ok (.unlockObject request) hlimits)

theorem decodes_sendCancel {cancel : FdclCancel} {timeoutMs : UInt32} {nowUsec : UInt64}
    (h : m.MessageFits surroundings (.sendCancel cancel timeoutMs nowUsec)) :
    (m.sendCancel surroundings cancel timeoutMs nowUsec).Decodes :=
  sendsOnly_ite (fun _ => sendsOnly_refused) fun hrunning =>
    sendsOnly_ite (fun _ => sendsOnly_refused) fun hvalid =>
    sendsOnly_returning fun _ => @decodeFdclPayload_ok (.cancel cancel)
      ⟨h (not_not.mp hrunning) hvalid, hvalid⟩

theorem decodes_sendDragEvent {payload : ByteBuffer} {rest : AfterSend}
    (h : (decodeFdclPayload payload).ok = true) :
    (m.sendDragEvent surroundings payload rest).Decodes :=
  sendsOnly_returning fun _ => h

theorem decodes_sendRemoteDragStart {start : FdclDragStart}
    (h : m.MessageFits surroundings (.sendRemoteDragStart start)) :
    (m.sendRemoteDragStart surroundings start).Decodes :=
  sendsOnly_ite (fun _ => sendsOnly_refused) fun hrunning =>
    sendsOnly_ite (fun _ => sendsOnly_refused) fun hmay =>
    sendsOnly_ite (fun _ => sendsOnly_refused) fun _ =>
    m.decodes_sendDragEvent surroundings (@decodeFdclPayload_ok (.dragStart start)
      (h (not_not.mp hrunning) (Bool.eq_true_of_not_eq_false hmay)))

theorem decodes_sendRemoteDragMove {move : FdclDragMove}
    (h : m.MessageFits surroundings (.sendRemoteDragMove move)) :
    (m.sendRemoteDragMove surroundings move).Decodes :=
  sendsOnly_ite (fun _ => sendsOnly_refused) fun hrunning =>
    sendsOnly_ite (fun _ => sendsOnly_refused) fun hmay =>
    sendsOnly_ite (fun _ => sendsOnly_refused) fun _ => sendsOnly_ite (fun _ => sendsOnly_refused) fun _ =>
    m.decodes_sendDragEvent surroundings (@decodeFdclPayload_ok (.dragMove move)
      (h (not_not.mp hrunning) (Bool.eq_true_of_not_eq_false hmay)))

theorem decodes_sendRemoteDragDrop {drop : FdclDragDrop}
    (h : m.MessageFits surroundings (.sendRemoteDragDrop drop)) :
    (m.sendRemoteDragDrop surroundings drop).Decodes :=
  sendsOnly_ite (fun _ => sendsOnly_refused) fun hrunning =>
    sendsOnly_ite (fun _ => sendsOnly_refused) fun hmay =>
    sendsOnly_ite (fun _ => sendsOnly_refused) fun _ => sendsOnly_ite (fun _ => sendsOnly_refused) fun _ =>
    m.decodes_sendDragEvent surroundings (@decodeFdclPayload_ok (.dragDrop drop)
      (h (not_not.mp hrunning) (Bool.eq_true_of_not_eq_false hmay)))

theorem decodes_sendRemoteDragCancel {cancel : FdclDragCancel}
    (h : m.MessageFits surroundings (.sendRemoteDragCancel cancel)) :
    (m.sendRemoteDragCancel surroundings cancel).Decodes :=
  sendsOnly_ite (fun _ => sendsOnly_refused) fun hrunning =>
    sendsOnly_ite (fun _ => sendsOnly_refused) fun hmay =>
    sendsOnly_ite (fun _ => sendsOnly_refused) fun _ => sendsOnly_ite (fun _ => sendsOnly_refused) fun _ =>
    m.decodes_sendDragEvent surroundings (@decodeFdclPayload_ok (.dragCancel cancel)
      (h (not_not.mp hrunning) (Bool.eq_true_of_not_eq_false hmay)))

end ClipboardModule

/-! ## Packets -/

/-- What the decoder has seen to in what is received: the ids that an answer repeats, and a short
text. -/
def Received.Checked : Received → Prop
  | .readRequest request => ¬(request.bundleId = 0 ∨ request.offerId = 0 ∨ request.ownerEpoch = 0 ∨
      request.sourceId = 0 ∨ request.formatId = 0)
  | .fileRangeRequest request => ¬(request.bundleId = 0 ∨ request.offerId = 0 ∨
      request.ownerEpoch = 0 ∨ request.sourceId = 0 ∨ request.objectId = 0)
  | .lockObject request => ¬(request.bundleId = 0 ∨ request.offerId = 0 ∨ request.ownerEpoch = 0 ∨
      request.sourceId = 0 ∨ request.objectId = 0)
  | .unlockObject request => ¬(request.bundleId = 0 ∨ request.offerId = 0 ∨
      request.ownerEpoch = 0 ∨ request.sourceId = 0 ∨ request.objectId = 0)
  | .badRequest _ message => StringLimits message
  | _ => True

theorem checked_ite {c : Prop} [Decidable c] {first second : Received} (hfirst : c → first.Checked)
    (hsecond : second.Checked) : (if c then first else second).Checked := by
  by_cases h : c
  · rw [if_pos h]
    exact hfirst h
  · rw [if_neg h]
    exact hsecond

theorem checked_receivedDecoded (packet : PacketEnvelope) {decoded : FdclDecodeResult}
    (h : RequestIdentities decoded) : (receivedDecoded packet decoded).Checked :=
  checked_ite (fun _ => trivial) <| checked_ite (fun _ => trivial) <|
    checked_ite (fun _ => trivial) <| checked_ite (fun _ => trivial) <|
    checked_ite (fun _ => trivial) <| checked_ite (fun _ => trivial) <|
    checked_ite (fun hasked => h.readRequest hasked.2) <|
    checked_ite (fun hasked => h.fileRangeRequest hasked.2) <|
    checked_ite (fun hasked => h.objectLock (Or.inl hasked.2)) <|
    checked_ite (fun hasked => h.objectLock (Or.inr hasked.2)) <|
    checked_ite (fun _ => show StringLimits (bytesOf "FDCL operation is unsupported") by decide)
      trivial

/-- **What is received has been checked by the decoder.** -/
theorem checked_received (packet : PacketEnvelope) : (received packet).Checked := by
  refine checked_ite (fun _ => trivial) (checked_ite (fun _ => trivial)
    (checked_ite (fun _ => trivial) ?_))
  cases hok : (decodeFdclPayload packet.payload).ok with
  | false =>
    simp only [hok, if_true]
    exact checked_ite (fun _ => shortText_decodeFdclPayload packet.payload) trivial
  | true =>
    simp only [hok, Bool.true_eq_false, if_false]
    exact checked_receivedDecoded packet (resultIdentities_decodeFdclPayload hok).request

namespace ClipboardModule

variable (m : ClipboardModule) (surroundings : Surroundings) (packet : PacketEnvelope)

/-- The handler of a response sends an acknowledgement or nothing. -/
theorem decodes_completeRead : (m.completeRead surroundings packet).Decodes := by
  intro outgoing hout hkind
  obtain ⟨-, hack, -⟩ := m.outgoing_completeRead surroundings packet hout
  have hkinds := kinds_received outgoing.packet
  rw [hack] at hkinds
  exact absurd (eq_of_beq hkinds) hkind

theorem decodes_handle {asked : Received} (hchecked : asked.Checked)
    (h : m.AnswerFits surroundings asked) : (m.handle surroundings packet asked).Decodes := by
  cases asked with
  | ignored => exact sendsOnly_silent
  | ack => exact sendsOnly_silent
  | answer => exact decodes_completeRead _ surroundings packet
  | formatList list => exact sendsOnly_silent
  | dragStart start =>
    exact sendsOnly_ite (fun _ => sendsOnly_silent) fun _ => sendsOnly_ite (fun _ => sendsOnly_silent)
      fun _ => m.sendsOnly_askSink surroundings
  | dragMove move =>
    exact sendsOnly_ite (fun _ => sendsOnly_silent) fun _ => sendsOnly_ite (fun _ => sendsOnly_silent)
      fun _ => m.sendsOnly_askSink surroundings
  | dragDrop drop =>
    exact sendsOnly_ite (fun _ => sendsOnly_silent) fun _ => sendsOnly_ite (fun _ => sendsOnly_silent)
      fun _ => m.sendsOnly_askSink surroundings
  | dragCancel cancel =>
    exact sendsOnly_ite (fun _ => sendsOnly_silent) fun _ => sendsOnly_ite (fun _ => sendsOnly_silent)
      fun _ => m.sendsOnly_askSink surroundings
  | cancel cancel => exact m.decodes_completeRead surroundings _
  | readRequest request => exact m.decodes_handleReadRequest surroundings packet hchecked h
  | fileRangeRequest request =>
    exact m.decodes_handleFileRangeRequest surroundings packet hchecked h
  | lockObject request => exact m.decodes_handleObjectLockRequest surroundings packet hchecked h
  | unlockObject request => exact m.decodes_handleObjectUnlockRequest packet hchecked
  | badRequest status message => exact m.decodes_sendErrorResponse packet hchecked

/-- **A call sends a payload that is accepted, if what it is about is within the limits.** -/
theorem decodes_perform {op : ClipboardOp} (h : m.MessageFits surroundings op) :
    (m.perform surroundings op).Decodes := by
  cases op with
  | attach runtime => exact sendsOnly_silent
  | start => exact sendsOnly_silent
  | stop => exact sendsOnly_silent
  | detach => exact sendsOnly_silent
  | pauseForReconnect options => exact sendsOnly_silent
  | resumeAfterReconnect options =>
    refine sendsOnly_ite (fun hresume => ?_) fun _ => sendsOnly_silent
    exact (m.decodes_announceLocalBundle surroundings (h hresume.1)).discard
  | handlePacket packet =>
    show (m.handlePacket surroundings packet).Decodes
    by_cases hrunning : m.state = .running
    · rw [m.handlePacket_eq surroundings packet hrunning]
      exact m.decodes_handle surroundings packet (checked_received packet) (h hrunning)
    · rw [m.handlePacket_of_not_running surroundings packet hrunning]
      exact sendsOnly_silent
  | announceLocalBundle bundle =>
    refine (m.decodes_announceLocalBundle surroundings fun hreaches => ?_).discard
    exact h (running_of_reaches hreaches) hreaches
  | requestRemoteFormat request timeoutMs nowUsec =>
    exact (m.decodes_requestRemoteFormatTracked surroundings h).discard
  | requestRemoteFileRange request timeoutMs nowUsec =>
    exact (m.decodes_requestRemoteFileRangeTracked surroundings h).discard
  | requestRemoteObjectLock request timeoutMs nowUsec =>
    exact (m.decodes_requestRemoteObjectLockTracked surroundings h).discard
  | requestRemoteObjectUnlock request timeoutMs nowUsec =>
    exact (m.decodes_requestRemoteObjectUnlockTracked surroundings h).discard
  | sendCancel cancel timeoutMs nowUsec => exact (m.decodes_sendCancel surroundings h).discard
  | sendRemoteDragStart start => exact (m.decodes_sendRemoteDragStart surroundings h).discard
  | sendRemoteDragMove move => exact (m.decodes_sendRemoteDragMove surroundings h).discard
  | sendRemoteDragDrop drop => exact (m.decodes_sendRemoteDragDrop surroundings h).discard
  | sendRemoteDragCancel cancel => exact (m.decodes_sendRemoteDragCancel surroundings h).discard
  | expirePendingReads nowUsec => exact sendsOnly_silent

/-- The packets that go out in a run. -/
def sentPackets (m : ClipboardModule) : List (ClipboardOp × Surroundings) → List PacketEnvelope
  | [] => []
  | op :: ops => ((m.perform op.2 op.1).sentPacket op.2).toList ++ (m.step op).sentPackets ops

end ClipboardModule

/-- **Every packet of a run whose calls are about messages within the limits is accepted**, whatever
the module has been through before. -/
theorem payloadAccepted_of_mem_sentPackets (m : ClipboardModule)
    (ops : List (ClipboardOp × Surroundings))
    (h : Runs.EveryStep ClipboardModule.step (fun m op => m.MessageFits op.2 op.1) m ops) :
    ∀ packet ∈ m.sentPackets ops, PayloadAccepted packet := by
  induction ops generalizing m with
  | nil => nofun
  | cons op ops ih =>
    intro packet hpacket
    rcases List.mem_append.mp hpacket with hfirst | hlater
    · obtain ⟨outgoing, houtgoing, rfl⟩ := exists_outgoing_of_mem_sentPacket hfirst
      exact m.decodes_perform op.2 h.1 outgoing houtgoing
    · exact ih (m.step op) h.2 packet hlater

/-! ### A run -/

theorem payloadAccepted_announcedText :
    (ClipboardModule.construct textDependencies none).sentPackets announcedText ≠ [] ∧
      ∀ packet ∈ (ClipboardModule.construct textDependencies none).sentPackets announcedText,
        PayloadAccepted packet := by
  refine ⟨by decide +kernel, payloadAccepted_of_mem_sentPackets _ announcedText
    ⟨nofun, nofun, fun _ _ => ⟨by decide, fun item hitem => ?_, fun _ _ => nofun⟩, trivial⟩⟩
  have hitem : item ∈ [(textSource, { canonicalFormat := textPlainUtf8Format, formatId := 5 })] :=
    hitem
  rw [List.mem_singleton.mp hitem]
  exact ⟨by decide, by unfold NameLimits; decide, by decide, by decide⟩

/-- A policy that takes eight megabytes of a file at once. -/
def wideDependencies : ClipboardModuleDependencies :=
  { textDependencies with policy := { maxFileRangeBytes := 8 * 1024 * 1024 } }

/-- The peer offers a file. -/
def fileOffer : PacketEnvelope :=
  peerPacket .event (encodeFdclFormatList {
    bundleId := 7
    offerId := 3
    ownerEpoch := 1
    originSessionId := 9
    formats := [{
      sourceId := 4
      formatId := 5
      canStream := true
      canonicalFormat := fdclFileListFormat }] })

/-- The first bytes of the file are asked for, as many as the policy takes. -/
def fileRangeAsked : FdclFileRangeRequest where
  bundleId := 7
  offerId := 3
  ownerEpoch := 1
  sourceId := 4
  objectId := 6

/-- The module dispatches a request for more bytes than the decoder lets through. -/
theorem wide_request_not_accepted :
    let m := ClipboardModule.run wideDependencies none
      [(.attach { sessionId := 1, traceId := 1, network := true }, {}), (.start, {}),
        (.handlePacket fileOffer, {})]
    ((m.requestRemoteFileRangeTracked {} fileRangeAsked 0 0).value {}).dispatched = true ∧
      ¬∀ packet ∈ m.sentPackets [(.requestRemoteFileRange fileRangeAsked 0 0, {})],
        PayloadAccepted packet := by
  decide +kernel

end Clipboard
end FusionDesk

