import FusionDesk.Clipboard.AnsweredPayloads
import FusionDesk.Clipboard.FileListPaths
import FusionDesk.Clipboard.Link
import FusionDesk.Clipboard.LocalReads
import FusionDesk.Clipboard.TransferRegistryRuns

/-!
# What content goes out

A peer asks for content by a read or by a request for a range of a file.  The module answers with
content only what its policy lets through and what is offered by the bundle that it announced last;
everything else it answers with an error, or not at all.  The sources and the transcoder answer as
they like, and while a send is under way the module can be called again.

* `readAllowed_of_ok`, `rangeAllowed_of_ok`: what has passed all checks.
* `AnnouncedHistory`: a module, with the bundle of the last announcement that was sent.
* `content_gate`: every packet of every run.
-/

namespace FusionDesk
namespace Clipboard

open Protocol Network FirstMatch
open FusionDesk.Module

/-! ## Payloads with content -/

/-- The payload is that of a read response or of a file range response. -/
def CarriesContent (packet : PacketEnvelope) : Prop :=
  (∃ response, packet.payload = encodeFdclReadFormatResponse response) ∨
    ∃ response, packet.payload = encodeFdclFileRangeResponse response

/-- The first ten bytes of a payload name its operation. -/
theorem take_wrap (operation : FdclOperation) (body : ByteBuffer) :
    (wrap operation body).take 10 = (wrap operation []).take 10 := rfl

theorem take_encodeFdclReadFormatResponse (response : FdclReadFormatResponse) :
    (encodeFdclReadFormatResponse response).take 10 = (wrap .readFormatResponse []).take 10 := by
  unfold encodeFdclReadFormatResponse
  exact take_wrap _ _

theorem take_encodeFdclFileRangeResponse (response : FdclFileRangeResponse) :
    (encodeFdclFileRangeResponse response).take 10 = (wrap .fileRangeResponse []).take 10 := by
  unfold encodeFdclFileRangeResponse
  exact take_wrap _ _

/-- A payload of another operation carries none. -/
theorem not_carriesContent (operation : FdclOperation) {packet : PacketEnvelope}
    (h : packet.payload.take 10 = (wrap operation []).take 10)
    (hread : (wrap operation []).take 10 ≠ (wrap .readFormatResponse []).take 10)
    (hrange : (wrap operation []).take 10 ≠ (wrap .fileRangeResponse []).take 10) :
    ¬CarriesContent packet := by
  rintro (⟨response, heq⟩ | ⟨response, heq⟩)
  · rw [heq, take_encodeFdclReadFormatResponse] at h
    exact hread h.symm
  · rw [heq, take_encodeFdclFileRangeResponse] at h
    exact hrange h.symm

/-! ## What is allowed -/

/-- A read response that the policy lets through, from the bundle that is offered.  A maximum of zero
for single files is none. -/
structure ReadAllowed (policy : ClipboardPolicy) (offered : TransferSourceBundle) (now : Moment)
    (request : FdclReadFormatRequest) (response : FdclReadFormatResponse) : Prop where
  bundleId : request.bundleId = offered.bundleId
  offerId : request.offerId = offered.offerId
  ownerEpoch : request.ownerEpoch = offered.ownerEpoch
  send : policy.allowSendContent = true
  requested : policyAllowsCanonicalFormat policy (requestedCanonicalFormat now offered request) =
    true
  returned : policyAllowsCanonicalFormat policy response.canonicalFormat = true
  inline : response.bytes.length ≤ policy.maxInlineBytes.toNat
  accepted : request.acceptedMaxBytes ≠ 0 →
    response.bytes.length ≤ request.acceptedMaxBytes.toNat
  files : response.canonicalFormat = fdclFileListFormat →
    let decoded := decodeTransferFileList response.bytes policy.maxFileCount.toNat
      defaultMaxNameBytes
    decoded.ok = true ∧ decoded.fileList.files.length ≤ policy.maxFileCount.toNat ∧
      ∀ file ∈ decoded.fileList.files, file.directory = false → policy.maxSingleFileBytes ≠ 0 →
        file.sizeBytes ≤ policy.maxSingleFileBytes

/-- A file range response that the policy lets through, from the bundle that is offered. -/
structure RangeAllowed (policy : ClipboardPolicy) (offered : TransferSourceBundle)
    (request : FdclFileRangeRequest) (response : FdclFileRangeResponse) : Prop where
  bundleId : request.bundleId = offered.bundleId
  offerId : request.offerId = offered.offerId
  ownerEpoch : request.ownerEpoch = offered.ownerEpoch
  send : policy.allowSendContent = true
  fileContents : policy.allowFileContents = true
  range : response.bytes.length ≤ (effectiveMaxFileRangeBytes policy).toNat

/-- **The packet is an answer to the request, with content that is allowed.** -/
inductive ContentAllowed (policy : ClipboardPolicy) (offered : TransferSourceBundle) (now : Moment)
    (request packet : PacketEnvelope) : Prop
  | read {read : FdclReadFormatRequest} {response : FdclReadFormatResponse}
      (asked : received request = .readRequest read)
      (payload : packet.payload = encodeFdclReadFormatResponse response)
      (allowed : ReadAllowed policy offered now read response) :
      ContentAllowed policy offered now request packet
  | range {range : FdclFileRangeRequest} {response : FdclFileRangeResponse}
      (asked : received request = .fileRangeRequest range)
      (payload : packet.payload = encodeFdclFileRangeResponse response)
      (allowed : RangeAllowed policy offered range response) :
      ContentAllowed policy offered now request packet

theorem carriesContent_of_allowed {policy : ClipboardPolicy} {offered : TransferSourceBundle}
    {now : Moment} {request packet : PacketEnvelope}
    (h : ContentAllowed policy offered now request packet) : CarriesContent packet := by
  cases h with
  | read asked payload allowed => exact Or.inl ⟨_, payload⟩
  | range asked payload allowed => exact Or.inr ⟨_, payload⟩

/-! ## The checks -/

/-- A list that passes the policy is decoded, and is within its limits. -/
theorem fileList_of_validateFileListPolicy {policy : ClipboardPolicy} {bytes : ByteBuffer}
    (h : (validateFileListPolicy policy bytes).1 = .ok) :
    let decoded := decodeTransferFileList bytes policy.maxFileCount.toNat defaultMaxNameBytes
    decoded.ok = true ∧ decoded.fileList.files.length ≤ policy.maxFileCount.toNat ∧
      ∀ file ∈ decoded.fileList.files, file.directory = false → policy.maxSingleFileBytes ≠ 0 →
        file.sizeBytes ≤ policy.maxSingleFileBytes := by
  intro decoded
  unfold validateFileListPolicy at h
  split at h
  · cases h
  dsimp only at h
  split at h
  next hfailed => exact absurd h (status_decodeTransferFileList hfailed)
  next hdecoded =>
  split at h
  · cases h
  next hsizes =>
  have hok : decoded.ok = true := Bool.eq_true_of_not_eq_false hdecoded
  have hlist := yields_decodeTransferFileList (yields_readFileList
    (fun minor => yields_readFileEntry minor defaultMaxNameBytes) policy.maxFileCount.toNat) hok
  refine ⟨hok, hlist.1.trans (Nat.min_le_left _ _), fun file hfile hdirectory hmax => ?_⟩
  by_contra hlarge
  refine hsizes (List.any_eq_true.mpr ⟨file, hfile, ?_⟩)
  simp [hdirectory, hmax, UInt64.not_le.mp hlarge]

/-- No more is accepted than the peer accepts, and no more than the policy lets through. -/
theorem acceptedMaxBytes_localReadRequest (policy : ClipboardPolicy)
    (request : FdclReadFormatRequest) :
    (localReadRequest policy request).acceptedMaxBytes =
      if request.acceptedMaxBytes = 0 ∨ request.acceptedMaxBytes > policy.maxInlineBytes then
        policy.maxInlineBytes
      else request.acceptedMaxBytes := by
  unfold localReadRequest makeTransferReadRequest
  dsimp only
  split
  · rfl
  · rfl

theorem bundleId_localReadRequest (policy : ClipboardPolicy) (request : FdclReadFormatRequest) :
    (localReadRequest policy request).bundleId = request.bundleId := by
  unfold localReadRequest makeTransferReadRequest
  dsimp only
  split
  · rfl
  · rfl

/-- **Content that is read from a source has passed all checks.** -/
theorem passes_readSource {policy : ClipboardPolicy} {transcoder : TransferTranscoder}
    {now : Moment} {source : TransferSource} {request : FdclReadFormatRequest}
    {result : TransferReadResult}
    (hread : readSource policy transcoder now source (localReadRequest policy request) = result)
    (hok : result.ok = true) :
    Passes policy result ∧
      (request.acceptedMaxBytes ≠ 0 → result.bytes.length ≤ request.acceptedMaxBytes.toNat) := by
  subst hread
  unfold readSource at hok ⊢
  split at hok
  · cases hok
  next descriptor hdescriptor =>
  dsimp only at hok ⊢
  generalize sourceAnswer transcoder now source descriptor (localReadRequest policy request) =
    answer at hok ⊢
  obtain ⟨hsame, hanswer, hpasses⟩ := passes_of_enforced hok
  rw [hsame]
  refine ⟨hpasses, fun haccepted => ?_⟩
  split at hanswer
  · cases hanswer
  next hsize =>
  rw [if_neg hsize] at hpasses ⊢
  rw [acceptedMaxBytes_localReadRequest] at hsize
  by_cases hlarge : request.acceptedMaxBytes > policy.maxInlineBytes
  · exact hpasses.inline.trans (UInt64.le_iff_toNat_le.mp (UInt64.le_of_lt hlarge))
  · rw [if_neg (not_or.mpr ⟨haccepted, hlarge⟩)] at hsize
    by_contra hmore
    exact hsize ⟨hanswer, haccepted, not_le.mp hmore⟩

namespace ClipboardModule

variable (m : ClipboardModule) (surroundings : Surroundings) (packet : PacketEnvelope)

/-- **What a module reads for the peer is allowed**, and of a bundle with an id. -/
theorem readAllowed_of_ok (hsend : m.policy.allowSendContent = true)
    (request : FdclReadFormatRequest) (hok : (m.readLocal surroundings request).ok = true) :
    m.localBundle.bundleId ≠ 0 ∧ ReadAllowed m.policy m.localBundle surroundings.moment request
      (readResponseOf request (m.readLocal surroundings request)) := by
  have hread : Clipboard.readLocal m.policy m.dependencies.transcoder m.sourceRegistry
    m.localBundle surroundings.moment request = m.readLocal surroundings request := rfl
  generalize m.readLocal surroundings request = result at hok hread ⊢
  unfold Clipboard.readLocal at hread
  split at hread
  · subst hread
    cases hok
  next hcurrent =>
  push Not at hcurrent
  split at hread
  · subst hread
    cases hok
  next hallowed =>
  dsimp only at hread
  rcases lookupSource_cases m.sourceRegistry (localReadRequest m.policy request) with
    ⟨source, hsource, hfound⟩ | ⟨hsource, hstatus, -⟩
  · rw [hsource] at hread
    simp only [hfound, Bool.true_eq_false, if_false] at hread
    obtain ⟨hpasses, haccepted⟩ := passes_readSource hread hok
    have hbundle : request.bundleId ≠ 0 := by
      intro hzero
      have hinvalid : (localReadRequest m.policy request).bundleId = 0 := by
        rw [bundleId_localReadRequest, hzero]
      rw [InMemoryTransferSourceRegistry.lookupSource, if_pos (Or.inl hinvalid)] at hsource
      cases hsource
    have hrequested : policyAllowsReadRequest m.policy surroundings.moment m.localBundle request =
        true := Bool.eq_true_of_not_eq_false hallowed
    refine ⟨hcurrent.1 ▸ hbundle, ⟨hcurrent.1.symm, hcurrent.2.1.symm, hcurrent.2.2.symm, hsend,
      (Bool.and_eq_true_iff.mp hrequested).2, hpasses.returned, hpasses.inline, haccepted,
      fun hlist => fileList_of_validateFileListPolicy (hpasses.files hlist)⟩⟩
  · rw [hsource] at hread
    subst hread
    exact absurd (eq_of_beq hok) hstatus

/-- **So is what it reads of a file**, and the bundle has a source. -/
theorem rangeAllowed_of_ok (hsend : m.policy.allowSendContent = true)
    (request : FdclFileRangeRequest) (hok : (m.readLocalFileRange surroundings request).ok = true) :
    m.localBundle.sources ≠ [] ∧ RangeAllowed m.policy m.localBundle request
      (fileRangeResponseOf request (m.readLocalFileRange surroundings request)) := by
  have hread : Clipboard.readLocalFileRange m.policy m.localBundle surroundings.moment request =
    m.readLocalFileRange surroundings request := rfl
  generalize m.readLocalFileRange surroundings request = result at hok hread ⊢
  unfold Clipboard.readLocalFileRange at hread
  split at hread
  · subst hread
    cases hok
  next hcurrent =>
  push Not at hcurrent
  split at hread
  · subst hread
    cases hok
  next hcontents =>
  dsimp only at hread
  split at hread
  next hinvalid =>
    subst hread
    exact absurd (eq_of_beq hok) hinvalid
  split at hread
  · subst hread
    cases hok
  next source hsource =>
  split at hread
  · subst hread
    cases hok
  next readFileRange hprovider =>
  have hsources : m.localBundle.sources ≠ [] := by
    intro hnone
    rw [TransferSourceBundle.findSource, hnone] at hsource
    cases hsource
  split at hread
  · subst hread
    cases hok
  next hsize =>
  subst hread
  refine ⟨hsources, hcurrent.1.symm, hcurrent.2.1.symm, hcurrent.2.2.symm, hsend,
    Bool.eq_true_of_not_eq_false hcontents, ?_⟩
  by_contra hmore
  exact hsize ⟨hok, not_le.mp hmore⟩

/-! ## Answers -/

/-- An error, without content. -/
structure ErrorAnswer (request packet : PacketEnvelope) : Prop where
  kind : packet.messageKind = .error
  responseTo : packet.responseTo = request.messageId
  noContent : ¬CarriesContent packet

/-- A response with content that is allowed; the local bundle is not the empty one of the start. -/
structure ContentAnswer (request packet : PacketEnvelope) : Prop where
  kind : packet.messageKind = .response
  responseTo : packet.responseTo = request.messageId
  offered : m.localBundle.bundleId ≠ 0 ∨ m.localBundle.sources ≠ []
  allowed : ContentAllowed m.policy m.localBundle surroundings.moment request packet

/-- **What answers a request for content.** -/
def Answers (request packet : PacketEnvelope) : Prop :=
  ErrorAnswer request packet ∨ m.ContentAnswer surroundings request packet

theorem noContent_sendErrorResponse (m' : ClipboardModule) (status : ResponseStatus)
    (message : StdString) : (m'.sendErrorResponse packet status message).SendsOnly
      fun outgoing => ¬CarriesContent outgoing.packet := by
  have hpayload : (encodeFdclErrorDetail { status := status, message := message }).take 10 =
      (wrap .errorDetail []).take 10 := take_wrap _ _
  exact Call.sendsOnly_sending (not_carriesContent .errorDetail hpayload (by decide) (by decide))

theorem answers_sendErrorResponse (m' : ClipboardModule) (status : ResponseStatus)
    (message : StdString) : (m'.sendErrorResponse packet status message).SendsOnly
      fun outgoing => m.Answers surroundings packet outgoing.packet :=
  Call.sendsOnly_sending (Or.inl ⟨rfl, rfl,
    noContent_sendErrorResponse packet m' status message _ rfl⟩)

theorem answers_handleReadRequest {request : FdclReadFormatRequest}
    (hasked : received packet = .readRequest request) :
    (m.handleReadRequest surroundings packet request).SendsOnly
      fun outgoing => m.Answers surroundings packet outgoing.packet := by
  refine Call.sendsOnly_ite (fun _ => m.answers_sendErrorResponse surroundings packet m _ _)
    fun hsend => Call.sendsOnly_ite
      (fun _ => m.answers_sendErrorResponse surroundings packet m _ _) fun _ => Call.sendsOnly_ite
      (fun _ => m.answers_sendErrorResponse surroundings packet m _ _) fun hok => ?_
  obtain ⟨hbundle, hallowed⟩ := m.readAllowed_of_ok surroundings
    (Bool.eq_true_of_not_eq_false hsend) request (Bool.eq_true_of_not_eq_false hok)
  exact Call.sendsOnly_sending (Or.inr ⟨rfl, rfl, Or.inl hbundle, .read hasked rfl hallowed⟩)

theorem answers_handleFileRangeRequest {request : FdclFileRangeRequest}
    (hasked : received packet = .fileRangeRequest request) :
    (m.handleFileRangeRequest surroundings packet request).SendsOnly
      fun outgoing => m.Answers surroundings packet outgoing.packet := by
  refine Call.sendsOnly_ite (fun _ => m.answers_sendErrorResponse surroundings packet m _ _)
    fun hsend => Call.sendsOnly_ite
      (fun _ => m.answers_sendErrorResponse surroundings packet m _ _) fun _ => Call.sendsOnly_ite
      (fun _ => m.answers_sendErrorResponse surroundings packet m _ _) fun hok => Call.sendsOnly_ite
      (fun _ => m.answers_sendErrorResponse surroundings packet m _ _) fun _ => Call.sendsOnly_ite
      (fun _ => m.answers_sendErrorResponse surroundings packet _ _ _) fun _ => ?_
  obtain ⟨hsources, hallowed⟩ := m.rangeAllowed_of_ok surroundings
    (Bool.eq_true_of_not_eq_false hsend) request (Bool.eq_true_of_not_eq_false hok)
  unfold sendScheduledRange
  split
  · exact Call.sendsOnly_sending (Or.inr ⟨rfl, rfl, Or.inr hsources, .range hasked rfl hallowed⟩)
  · exact Call.sendsOnly_ite (fun _ => m.answers_sendErrorResponse surroundings packet _ _ _)
      fun _ => Call.sendsOnly_of_some rfl
        (Or.inr ⟨rfl, rfl, Or.inr hsources, .range hasked rfl hallowed⟩)

/-- What answers a request about a lock carries no content. -/
theorem noContent_sendObjectLockResponse (m' : ClipboardModule) (operation : FdclOperation)
    (request : FdclObjectLock) (result : TransferObjectLockResult) :
    (m'.sendObjectLockResponse packet operation request result).SendsOnly
      fun outgoing => ¬CarriesContent outgoing.packet := by
  refine Call.sendsOnly_ite (fun _ => Call.sendsOnly_sending ?_)
    fun _ => Call.sendsOnly_sending ?_
  · exact noContent_sendErrorResponse packet m' result.status result.message _ rfl
  · have hlock : ∀ payload, (encodeFdclLockObject payload).take 10 =
        (wrap .lockObject []).take 10 := fun payload => take_wrap _ _
    have hunlock : ∀ payload, (encodeFdclUnlockObject payload).take 10 =
        (wrap .unlockObject []).take 10 := fun payload => take_wrap _ _
    by_cases hoperation : operation = .unlockObject
    · refine not_carriesContent .unlockObject ?_ (by decide) (by decide)
      show List.take 10 (if operation = FdclOperation.unlockObject then
        encodeFdclUnlockObject _ else encodeFdclLockObject _) = _
      rw [if_pos hoperation]
      exact hunlock _
    · refine not_carriesContent .lockObject ?_ (by decide) (by decide)
      show List.take 10 (if operation = FdclOperation.unlockObject then
        encodeFdclUnlockObject _ else encodeFdclLockObject _) = _
      rw [if_neg hoperation]
      exact hlock _

/-- **A response with content answers a request for content**, whatever is called. -/
theorem answers_of_content (op : ClipboardOp) :
    (m.perform surroundings op).SendsOnly fun outgoing =>
      outgoing.packet.messageKind = .response → CarriesContent outgoing.packet →
        ∃ request, op = .handlePacket request ∧
          m.ContentAnswer surroundings request outgoing.packet := by
  intro outgoing hout hresponse hcontent
  -- a response comes of a packet that is handled
  obtain ⟨request, rfl, hkind⟩ : ∃ request, op = .handlePacket request ∧
      request.messageKind = .request := by
    cases m.sentBy_perform surroundings op outgoing hout with
    | event kind plain =>
      rw [kind] at hresponse
      cases hresponse
    | cancel kind plain =>
      rw [kind] at hresponse
      cases hresponse
    | request kind =>
      rw [show _ = MessageKind.request from kind] at hresponse
      cases hresponse
    | answer asked kind responseTo plain => exact ⟨_, rfl, asked⟩
    | range bytes asked kind large responseTo => exact ⟨_, rfl, asked⟩
    | @ack response ack terminal result answer kind responseTo =>
      have hack := kinds_received ack
      rw [kind, show ack.messageKind = .response from hresponse] at hack
      cases hack
  refine ⟨request, rfl, ?_⟩
  have hrunning : m.state = .running := by
    by_contra hnot
    have hsilent : m.perform surroundings (.handlePacket request) = .silent m :=
      m.handlePacket_of_not_running surroundings request hnot
    rw [hsilent] at hout
    cases hout
  have hperform : m.perform surroundings (.handlePacket request) =
      m.handle surroundings request (received request) :=
    m.handlePacket_eq surroundings request hrunning
  rw [hperform] at hout
  have hreceived := kinds_received request
  rw [hkind] at hreceived
  cases hasked : received request with
  | readRequest read =>
    rw [hasked] at hout
    rcases m.answers_handleReadRequest surroundings request hasked outgoing hout with
      herror | hanswer
    · exact absurd hcontent herror.noContent
    · exact hanswer
  | fileRangeRequest range =>
    rw [hasked] at hout
    rcases m.answers_handleFileRangeRequest surroundings request hasked outgoing hout with
      herror | hanswer
    · exact absurd hcontent herror.noContent
    · exact hanswer
  | lockObject lock =>
    rw [hasked] at hout
    refine absurd hcontent (Call.sendsOnly_ite
      (fun _ => noContent_sendErrorResponse request m _ _)
      (fun _ => noContent_sendObjectLockResponse request _ _ _ _) outgoing hout)
  | unlockObject lock =>
    rw [hasked] at hout
    refine absurd hcontent (Call.sendsOnly_ite
      (fun _ => noContent_sendErrorResponse request m _ _)
      (fun _ => noContent_sendObjectLockResponse request _ _ _ _) outgoing hout)
  | badRequest status message =>
    rw [hasked] at hout
    exact absurd hcontent (noContent_sendErrorResponse request m status message outgoing hout)
  | ignored =>
    rw [hasked] at hout
    cases hout
  | _ =>
    rw [hasked] at hreceived
    cases hreceived

/-- **What is sent while a request for content is handled answers it.** -/
theorem answers_of_asksForContent {request : PacketEnvelope}
    (hasks : (received request).asksForContent = true) :
    (m.perform surroundings (.handlePacket request)).SendsOnly
      fun outgoing => m.Answers surroundings request outgoing.packet := by
  show (m.handlePacket surroundings request).SendsOnly _
  by_cases hrunning : m.state = .running
  · rw [m.handlePacket_eq surroundings request hrunning]
    cases hasked : received request with
    | readRequest read => exact m.answers_handleReadRequest surroundings request hasked
    | fileRangeRequest range => exact m.answers_handleFileRangeRequest surroundings request hasked
    | _ =>
      rw [hasked] at hasks
      cases hasks
  · rw [m.handlePacket_of_not_running surroundings request hrunning]
    exact Call.sendsOnly_silent

/-! ## The bundle that was announced last -/

theorem localBundle_handle (asked : Received) :
    (m.handle surroundings packet asked).after.localBundle = m.localBundle := by
  have hite : ∀ {c : Prop} [Decidable c] {first second : Call Unit},
      first.after.localBundle = m.localBundle → second.after.localBundle = m.localBundle →
      (if c then first else second).after.localBundle = m.localBundle := by
    intro c _ first second hfirst hsecond
    by_cases h : c
    · rwa [if_pos h]
    · rwa [if_neg h]
  cases habout : asked.aboutOffers with
  | false =>
    exact (leaves_handle (f := fun m => m.localBundle) m surroundings packet (fun _ _ => rfl)
      (fun _ _ _ => rfl) (fun _ _ _ => rfl) (fun _ _ _ _ _ _ _ _ _ => rfl) (fun _ _ _ => rfl)
      habout).before
  | true =>
  cases asked with
  | formatList list =>
    show (m.handleFormatList surroundings list).localBundle = _
    unfold handleFormatList
    split
    · rfl
    split
    · rfl
    split
    · rfl
    dsimp only
    split
    · rfl
    split
    · rfl
    · rfl
  | lockObject request => exact hite rfl (hite rfl rfl)
  | unlockObject request => exact hite rfl (hite rfl rfl)
  | _ => cases habout

/-- A call leaves the local bundle alone, up to its send. -/
theorem localBundle_perform (op : ClipboardOp) :
    (m.perform surroundings op).after.localBundle = m.localBundle := by
  have hresults : IgnoresResults fun m => m.localBundle := fun _ _ _ _ _ _ _ _ _ => rfl
  have htracker : IgnoresTracker fun m => m.localBundle := fun _ _ _ => rfl
  have hdrags : IgnoresDrags fun m => m.localBundle := fun _ _ _ => rfl
  have hcounter : IgnoresCounter fun m => m.localBundle := fun _ _ => rfl
  have hwindow : IgnoresWindow fun m => m.localBundle := fun _ _ _ => rfl
  have hannounce : ∀ bundle,
      (m.announceLocalBundle surroundings bundle).after.localBundle = m.localBundle := by
    intro bundle
    unfold announceLocalBundle
    split
    · rfl
    split
    · rfl
    dsimp only
    split
    · rfl
    split
    · rfl
    · rfl
  cases habout : op.aboutOffers with
  | false => exact (m.leaves_perform hcounter hdrags htracker hresults hwindow surroundings habout).before
  | true =>
  cases op with
  | attach runtime => rfl
  | start =>
    show m.start.localBundle = _
    unfold ClipboardModule.start
    split
    · rfl
    · rfl
  | stop => rfl
  | detach => rfl
  | pauseForReconnect options =>
    show (m.pauseForReconnect options).localBundle = _
    unfold ClipboardModule.pauseForReconnect
    split
    · rfl
    · exact settleAll_eq _ hresults _
  | resumeAfterReconnect options =>
    show (m.resumeAfterReconnect surroundings options).after.localBundle = _
    unfold resumeAfterReconnect
    split
    · exact hannounce m.localBundle
    · rfl
  | handlePacket packet =>
    show (m.handlePacket surroundings packet).after.localBundle = _
    by_cases hrunning : m.state = .running
    · rw [m.handlePacket_eq surroundings packet hrunning]
      exact m.localBundle_handle surroundings packet _
    · rw [m.handlePacket_of_not_running surroundings packet hrunning]
      rfl
  | announceLocalBundle bundle => exact hannounce bundle
  | _ => cases habout

end ClipboardModule

/-! ## Runs -/

/-- The bundle that a call has announced whose send has returned. -/
def SuspendedCall.announced (call : SuspendedCall) : Option TransferSourceBundle :=
  match call.rest with
  | .announced bundle => if call.sent then some bundle else none
  | _ => none

/-- **An announcement that was sent changes the local bundle**, and nothing else does. -/
theorem localBundle_afterSend (m : ClipboardModule) (call : SuspendedCall) :
    (m.afterSend call.sent call.rest).localBundle = call.announced.getD m.localBundle := by
  obtain ⟨rest, sent⟩ := call
  have hresults : IgnoresResults fun m => m.localBundle := fun _ _ _ _ _ _ _ _ _ => rfl
  have htracker : IgnoresTracker fun m => m.localBundle := fun _ _ _ => rfl
  cases rest with
  | nothing => rfl
  | announced bundle =>
    cases sent with
    | true => rfl
    | false => rfl
  | requested packet => exact ClipboardModule.leaves_requested packet htracker hresults m sent
  | rangeSent messageId bytes =>
    cases sent with
    | true =>
      show (m.trackLargeDataReservation messageId bytes).localBundle = _
      unfold ClipboardModule.trackLargeDataReservation
      split
      · rfl
      · rfl
    | false => rfl
  | acknowledged responseTo terminal result => rfl
  | dragStarted dragSessionId =>
    cases sent with
    | true => rfl
    | false => rfl
  | dragEnded =>
    cases sent with
    | true => rfl
    | false => rfl

/-- A call, or the return of the send of the innermost call. -/
inductive PartyOp
  | call (op : ClipboardOp) (surroundings : Surroundings)
  | sendReturns

/-- A module, and the bundle of the last announcement that was sent. -/
structure AnnouncedHistory where
  party : Party
  announced : Option TransferSourceBundle := none

namespace AnnouncedHistory

def start (dependencies : ClipboardModuleDependencies)
    (largeDataWindow : Option ClipboardLargeDataWindow) : AnnouncedHistory where
  party := { clipboard := ClipboardModule.construct dependencies largeDataWindow }

def step (history : AnnouncedHistory) : PartyOp → AnnouncedHistory
  | .call op surroundings =>
    { history with party :=
        history.party.enter (history.party.clipboard.perform surroundings op) surroundings }
  | .sendReturns =>
    match history.party.suspended with
    | [] => history
    | call :: rest =>
      { party := history.party.sendReturns call rest
        announced := call.announced.or history.announced }

/-- The local bundle is the one that was announced last, or the empty one. -/
theorem localBundle_step {history : AnnouncedHistory}
    (h : history.party.clipboard.localBundle = history.announced.getD {}) (op : PartyOp) :
    (history.step op).party.clipboard.localBundle = (history.step op).announced.getD {} := by
  cases op with
  | call op surroundings =>
    exact (history.party.clipboard.localBundle_perform surroundings op).trans h
  | sendReturns =>
    cases hsuspended : history.party.suspended with
    | nil =>
      have hsame : history.step .sendReturns = history := by simp only [step, hsuspended]
      rw [hsame, h]
    | cons call rest =>
      have hstep : history.step .sendReturns =
          { party := history.party.sendReturns call rest
            announced := call.announced.or history.announced } := by simp only [step, hsuspended]
      have hafter := localBundle_afterSend history.party.clipboard call
      rw [hstep]
      show (history.party.clipboard.afterSend call.sent call.rest).localBundle = _
      rw [hafter, h]
      cases call.announced with
      | none => rfl
      | some bundle => rfl

end AnnouncedHistory

/-- **What a packet that is sent is asked for.**  A response with content answers a request with
content that is allowed by the bundle that was announced last, and every other answer to a request
for content is an error without any. -/
structure Gated (policy : ClipboardPolicy) (announced : Option TransferSourceBundle) (now : Moment)
    (op : ClipboardOp) (packet : PacketEnvelope) : Prop where
  content : packet.messageKind = .response → CarriesContent packet →
    ∃ request bundle, op = .handlePacket request ∧ packet.responseTo = request.messageId ∧
      announced = some bundle ∧ ContentAllowed policy bundle now request packet
  answers : ∀ request, op = .handlePacket request → (received request).asksForContent = true →
    packet.responseTo = request.messageId ∧
      (packet.messageKind = .error ∧ ¬CarriesContent packet ∨
        packet.messageKind = .response ∧ CarriesContent packet)

/-- **Every packet of every run is gated**: of the module's calls, in any order, and made again while
a send is under way. -/
theorem content_gate (dependencies : ClipboardModuleDependencies)
    (largeDataWindow : Option ClipboardLargeDataWindow) (ops : List PartyOp) (op : ClipboardOp)
    (surroundings : Surroundings) :
    let history := Runs.run AnnouncedHistory.step (.start dependencies largeDataWindow) ops
    ∀ packet ∈ (history.party.clipboard.perform surroundings op).sentPacket surroundings,
      Gated history.party.clipboard.policy history.announced surroundings.moment op packet := by
  intro history packet hpacket
  obtain ⟨outgoing, hout, rfl⟩ := Call.exists_outgoing_of_mem_sentPacket
    (Option.mem_toList.mpr hpacket)
  have hlocal : history.party.clipboard.localBundle = history.announced.getD {} :=
    Runs.run_invariant (I := fun history : AnnouncedHistory =>
      history.party.clipboard.localBundle = history.announced.getD {}) rfl
      (fun _ op h => AnnouncedHistory.localBundle_step h op) ops
  constructor
  · intro hresponse hcontent
    obtain ⟨request, hop, hanswer⟩ :=
      history.party.clipboard.answers_of_content surroundings op outgoing hout hresponse hcontent
    obtain ⟨bundle, hannounced⟩ : ∃ bundle, history.announced = some bundle := by
      cases hannounced : history.announced with
      | some bundle => exact ⟨bundle, rfl⟩
      | none =>
        have hoffered := hanswer.offered
        rw [hlocal, hannounced] at hoffered
        rcases hoffered with hbundle | hsources
        · exact absurd rfl hbundle
        · exact absurd rfl hsources
    have hallowed := hanswer.allowed
    rw [hlocal, hannounced] at hallowed
    exact ⟨request, bundle, hop, hanswer.responseTo, hannounced, hallowed⟩
  · rintro request rfl hasks
    rcases history.party.clipboard.answers_of_asksForContent surroundings hasks outgoing hout with
      herror | hanswer
    · exact ⟨herror.responseTo, Or.inl ⟨herror.kind, herror.noContent⟩⟩
    · exact ⟨hanswer.responseTo, Or.inr ⟨hanswer.kind, carriesContent_of_allowed hanswer.allowed⟩⟩

/-! ### No maximum for single files -/

/-- The policy that bounds no file. -/
def unboundedDependencies : ClipboardModuleDependencies :=
  { textDependencies with policy := { maxSingleFileBytes := 0 } }

/-- The peer reads the list of the file that was announced. -/
def fileListRead : PacketEnvelope :=
  peerPacket .request (encodeFdclReadFormatRequest {
    bundleId := 1
    offerId := 2
    ownerEpoch := 1
    sourceId := 3
    formatId := 5
    canonicalFormat := fdclFileListFormat })

/-- The module announces a file. -/
def fileAnnounced : List PartyOp :=
  [.call (.attach { sessionId := 1, traceId := 1, network := true }) {}, .call .start {},
    .call (.announceLocalBundle oneFileBundle) {}, .sendReturns]

/-- The list of the file is sent, and is gated. -/
theorem content_gate_fileListRead :
    let history := Runs.run AnnouncedHistory.step (.start textDependencies none) fileAnnounced
    ∃ packet ∈ (history.party.clipboard.perform {} (.handlePacket fileListRead)).sentPacket {},
      Gated history.party.clipboard.policy history.announced 0 (.handlePacket fileListRead)
        packet := by
  intro history
  obtain ⟨packet, hpacket⟩ := Option.isSome_iff_exists.mp (show ((history.party.clipboard.perform {}
    (.handlePacket fileListRead)).sentPacket {}).isSome = true by decide +kernel)
  exact ⟨packet, hpacket, content_gate textDependencies none fileAnnounced
    (.handlePacket fileListRead) {} packet hpacket⟩

/-- **A maximum of zero bounds no file**: a list is sent with a file of one byte. -/
theorem file_above_maximum_sent :
    let history := Runs.run AnnouncedHistory.step (.start unboundedDependencies none) fileAnnounced
    ((history.party.clipboard.perform {} (.handlePacket fileListRead)).sentPacket {}).any
      (fun packet =>
        let bytes := (decodeFdclPayload packet.payload).readResponse.bytes
        packet.messageKind == .response &&
          (decodeTransferFileList bytes 1024 255).fileList.files.any fun file =>
            !file.directory &&
              decide (file.sizeBytes > history.party.clipboard.policy.maxSingleFileBytes)) =
      true := by
  decide +kernel

end Clipboard
end FusionDesk
