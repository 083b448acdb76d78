import FusionDesk.Clipboard.OwnErrors
import FusionDesk.Clipboard.PendingReads

/-!
# What a call does to the reads

The reads of a module are its pending requests and the results of the last responses.  A call that is
no answer of the peer leaves them alone, ends requests with errors of the module's own, or tracks one
request more; so no result of a read becomes `Ok` without an answer (`ReadMove`).

* `readMove_perform`: every call that is no answer.
* `FailsReads`: what an error of the module's own does.
-/

namespace FusionDesk
namespace Clipboard

open Protocol Network RequestTracker
open FusionDesk.Module

/-- A request for content. -/
inductive TrackedRead
  | format (request : FdclReadFormatRequest)
  | range (request : FdclFileRangeRequest)
  deriving DecidableEq

/-- The request for content that a call sends, if it sends one. -/
def ClipboardOp.trackedRead (policy : ClipboardPolicy) : ClipboardOp → Option TrackedRead
  | .requestRemoteFormat request _ _ => some (.format request)
  | .requestRemoteFileRange request _ _ =>
    some (.range (ClipboardModule.effectiveFileRangeRequest policy request))
  | _ => none

/-- A handler of content belongs to a request for such content. -/
def ReadHandler.Belongs : ReadHandler → Option TrackedRead → Prop
  | .readResponse, read => ∃ request, read = some (.format request)
  | .fileRangeResponse, read => ∃ request, read = some (.range request)
  | .objectLockResponse, _ => True
  | .objectUnlockResponse, _ => True

namespace ClipboardModule

variable (m : ClipboardModule) (surroundings : Surroundings) (packet : PacketEnvelope)

/-- The requests and the results of reads. -/
def readPart (m : ClipboardModule) :
    RequestTracker ReadHandler × Option TransferReadResult × Option TransferFileRangeResult :=
  (m.readRequests, m.lastReadResult, m.lastFileRangeResult)

/-- The operation is an answer of the peer, and the module takes it. -/
def TakesAnswer (op : ClipboardOp) : Prop :=
  ∃ packet, op = .handlePacket packet ∧ m.state = .running ∧ received packet = .answer

/-! ## Errors of the module's own -/

/-- **Nothing that is pending is new, and no result that is `Ok`.** -/
structure FailsReads (m m' : ClipboardModule) : Prop where
  pending : KeepsPending m'.readRequests m.readRequests
  read : ∀ result ∈ m'.lastReadResult, result.ok = true → m.lastReadResult = some result
  range : ∀ result ∈ m'.lastFileRangeResult, result.ok = true → m.lastFileRangeResult = some result

variable {m} in
theorem FailsReads.of_eq {m' : ClipboardModule} (h : m'.readPart = m.readPart) :
    FailsReads m m' := by
  simp only [readPart, Prod.mk.injEq] at h
  obtain ⟨htracker, hread, hrange⟩ := h
  refine ⟨KeepsPending.of_eq htracker.symm, fun result hresult _ => ?_, fun result hresult _ => ?_⟩
  · exact hread ▸ hresult
  · exact hrange ▸ hresult

theorem FailsReads.trans {m m' m'' : ClipboardModule} (h : FailsReads m m')
    (h' : FailsReads m' m'') : FailsReads m m'' :=
  ⟨fun id pending hpending => h.pending id pending (h'.pending id pending hpending),
    fun result hresult hok => h.read result (h'.read result hresult hok) hok,
    fun result hresult hok => h.range result (h'.range result hresult hok) hok⟩

/-- What is forgotten is not new. -/
theorem keepsPending_erase (tracker : RequestTracker ReadHandler) (id : MessageId) :
    KeepsPending (tracker.erase id) tracker := by
  intro id' pending hpending
  rw [pending_erase] at hpending
  split at hpending
  · cases hpending
  · exact hpending

theorem keepsPending_complete (tracker : RequestTracker ReadHandler) (response : PacketEnvelope) :
    KeepsPending (tracker.complete response).2.2 tracker := by
  rcases tracker.complete_cases response with ⟨hmissed, -⟩ | ⟨pending, -, hcompleted⟩
  · rw [hmissed]
    exact KeepsPending.of_eq rfl
  · rw [hcompleted]
    simp only
    split
    · exact keepsPending_erase tracker _
    · exact KeepsPending.of_eq rfl

/-- A handler takes an error for what it is. -/
theorem failsReads_settle (h : OwnError packet) (handler : ReadHandler) :
    FailsReads m (m.settle packet handler) := by
  cases handler with
  | readResponse =>
    refine ⟨KeepsPending.of_eq rfl, fun result hresult hok => ?_, fun _ hresult _ => hresult⟩
    cases hresult
    rw [h.trackedReadResult_ok] at hok
    cases hok
  | fileRangeResponse =>
    refine ⟨KeepsPending.of_eq rfl, fun _ hresult _ => hresult, fun result hresult hok => ?_⟩
    cases hresult
    rw [h.trackedFileRangeResult_ok] at hok
    cases hok
  | objectLockResponse => exact FailsReads.of_eq rfl
  | objectUnlockResponse => exact FailsReads.of_eq rfl

/-- The tracker of a module loses requests. -/
theorem FailsReads.withTracker {m m' : ClipboardModule} (h : FailsReads m m')
    {tracker : RequestTracker ReadHandler} (hpending : KeepsPending tracker m.readRequests) :
    FailsReads m { m' with readRequests := tracker } :=
  ⟨hpending, h.read, h.range⟩

/-- **A request that is completed with an error fails.** -/
theorem failsReads_completeRead (h : OwnError packet) :
    FailsReads m (m.completeRead surroundings packet).after := by
  have hpending := keepsPending_complete m.readRequests packet
  unfold completeRead
  split
  · exact FailsReads.of_eq rfl
  next hcompleted =>
  rw [hcompleted] at hpending
  simp only
  split
  · exact (m.failsReads_settle packet h _).withTracker hpending
  · exact FailsReads.of_eq rfl

/-- A sweep calls the handlers with packets that the tracker makes up. -/
theorem mem_calls_sweep {tracker : RequestTracker ReadHandler}
    {ends : PendingRequest ReadHandler → Bool} {status : ResponseStatus}
    {call : HandlerCall ReadHandler} (h : call ∈ (tracker.sweep ends status).2.1) :
    ∃ pending, call = endCall status pending := by
  rw [calls_sweep] at h
  obtain ⟨id, -, hcall⟩ := List.mem_filterMap.mp h
  obtain ⟨pending, -, rfl⟩ := Option.map_eq_some_iff.mp hcall
  exact ⟨pending, rfl⟩

/-- **So the requests that are swept fail.** -/
theorem failsReads_sweep (ends : PendingRequest ReadHandler → Bool) {status : ResponseStatus}
    (h : status ≠ .ok) : FailsReads m (m.settleAll (m.readRequests.sweep ends status)) := by
  have hkept : KeepsPending (m.readRequests.sweep ends status).2.2 m.readRequests := by
    intro id pending hpending
    rw [pending_sweep] at hpending
    exact (Option.filter_eq_some_iff.mp hpending).1
  have hcalls : ∀ (calls : List (HandlerCall ReadHandler)) (m : ClipboardModule),
      (∀ call ∈ calls, OwnError call.response) →
        FailsReads m (calls.foldl (fun m call => m.settle call.response call.handler) m) := by
    intro calls
    induction calls with
    | nil => exact fun m _ => FailsReads.of_eq rfl
    | cons call calls ih =>
      intro m hown
      exact (m.failsReads_settle call.response (hown call List.mem_cons_self) call.handler).trans
        (ih _ fun call' hcall' => hown call' (List.mem_cons_of_mem _ hcall'))
  have hforgets : FailsReads m { m with readRequests := (m.readRequests.sweep ends status).2.2 } :=
    (FailsReads.of_eq rfl).withTracker hkept
  refine hforgets.trans (hcalls _ _ fun call hcall => ?_)
  obtain ⟨pending, rfl⟩ := mem_calls_sweep hcall
  exact ownError_synthetic pending h

/-! ## The three moves -/

/-- **What a call does to the reads**, if it is no answer of the peer. -/
inductive ReadMove (m : ClipboardModule) (op : ClipboardOp) (call : Call Unit) : Prop
  | kept (leaves : call.Leaves readPart m)
      (untracked : call.outgoing.isSome = true → op.trackedRead m.policy = none)
  | failed (fails : FailsReads m call.after) (silent : call.outgoing = none)
  | tracked {packet : PacketEnvelope} {handler : ReadHandler}
      (outgoing : call.outgoing = some { packet := packet, rest := .requested packet })
      (plain : NoErrorDetail packet.payload)
      (free : m.readRequests.pending[m.readMessageId]? = none)
      (pending : ∀ id, call.after.readRequests.pending[id]? =
        if m.readMessageId = id then some ⟨packet, handler, deadlineOf packet⟩
        else m.readRequests.pending[id]?)
      (read : call.after.lastReadResult = m.lastReadResult)
      (range : call.after.lastFileRangeResult = m.lastFileRangeResult)
      (belongs : handler.Belongs (op.trackedRead m.policy))

variable {op : ClipboardOp}

variable {m} in
theorem ReadMove.of_leaves {call : Call Unit} (h : call.Leaves readPart m)
    (hop : op.trackedRead m.policy = none) : ReadMove m op call :=
  .kept h fun _ => hop

theorem readMove_ite {α : Type} {c : Prop} [Decidable c] {first second : Call α}
    (hfirst : ReadMove m op first.discard) (hsecond : ReadMove m op second.discard) :
    ReadMove m op (if c then first else second).discard := by
  by_cases h : c
  · rwa [if_pos h]
  · rwa [if_neg h]

theorem readMove_denied (status : ResponseStatus) (message : StdString) :
    ReadMove m op (Call.denied m status message).discard :=
  .kept (Call.leaves_denied rfl).discard nofun

/-- A request is tracked, or refused by the tracker. -/
theorem readMove_dispatch {handler : ReadHandler} {payload : ByteBuffer}
    (hplain : NoErrorDetail payload) (hbelongs : handler.Belongs (op.trackedRead m.policy))
    (timeoutMs : UInt32) (nowUsec : UInt64) (unavailable : StdString) :
    ReadMove m op
      (m.dispatch surroundings handler payload timeoutMs nowUsec unavailable).discard := by
  have htracked := m.readRequests.track_cases
    (m.requestPacket surroundings payload timeoutMs nowUsec) (some handler)
  unfold dispatch
  rcases htracked with ⟨hrefused, -, hsame⟩ | ⟨handler', hhandler, htrackable, htracked⟩
  · simp only [hrefused, if_true]
    refine .kept (Call.leaves_denied ?_).discard nofun
    simp only [readPart, hsame]
  · cases hhandler
    simp only [htracked]
    refine .tracked rfl hplain htrackable.notPending (fun id => ?_) rfl rfl hbelongs
    show (m.readRequests.pending.insert m.readMessageId _)[id]? = _
    rw [Std.ExtTreeMap.getElem?_insert]
    simp only [Std.LawfulEqOrd.compare_eq_iff_eq]

theorem readMove_handle {asked : Received} (hasked : asked ≠ .answer) :
    ReadMove m (.handlePacket packet) (m.handle surroundings packet asked) := by
  have hcounter : IgnoresCounter readPart := fun _ _ => rfl
  have hdrags : IgnoresDrags readPart := fun _ _ _ => rfl
  have hoffers : IgnoresOffers readPart := fun _ _ _ _ => rfl
  have hwindow : IgnoresWindow readPart := fun _ _ _ => rfl
  cases asked with
  | ignored => exact .of_leaves (Call.leaves_silent rfl) rfl
  | ack => exact .of_leaves (Call.leaves_silent (m.handleLargeDataAck_eq packet hwindow)) rfl
  | answer => exact absurd rfl hasked
  | formatList list =>
    exact .of_leaves (Call.leaves_silent (m.handleFormatList_eq surroundings hoffers hdrags list)) rfl
  | dragStart start => exact .of_leaves (m.leaves_handleDragStart surroundings hdrags start) rfl
  | dragMove move => exact .of_leaves (m.leaves_handleDragMove surroundings move) rfl
  | dragDrop drop => exact .of_leaves (m.leaves_handleDragDrop surroundings hdrags drop) rfl
  | dragCancel cancel => exact .of_leaves (m.leaves_handleDragCancel surroundings hdrags cancel) rfl
  | cancel cancel =>
    exact .failed (m.failsReads_completeRead surroundings _ (ownError_cancelledPacket m cancel))
      (m.outgoing_handleCancel surroundings cancel)
  | readRequest request =>
    exact .of_leaves (m.leaves_handleReadRequest surroundings packet hcounter request) rfl
  | fileRangeRequest request =>
    exact .of_leaves (m.leaves_handleFileRangeRequest surroundings packet hcounter hwindow request) rfl
  | lockObject request =>
    exact .of_leaves (m.leaves_handleObjectLockRequest surroundings packet hcounter hoffers request) rfl
  | unlockObject request =>
    exact .of_leaves (m.leaves_handleObjectUnlockRequest packet hcounter hoffers request) rfl
  | badRequest status message =>
    exact .of_leaves (m.leaves_sendErrorResponse packet hcounter status message) rfl

/-- **Every call that is no answer of the peer** does one of the three things to the reads. -/
theorem readMove_perform (hop : ¬m.TakesAnswer op) : ReadMove m op (m.perform surroundings op) := by
  have hcounter : IgnoresCounter readPart := fun _ _ => rfl
  have hdrags : IgnoresDrags readPart := fun _ _ _ => rfl
  have hoffers : IgnoresOffers readPart := fun _ _ _ _ => rfl
  cases op with
  | attach runtime => exact .of_leaves (Call.leaves_silent rfl) rfl
  | start =>
    refine .of_leaves (Call.leaves_silent ?_) rfl
    unfold ClipboardModule.start
    split
    · rfl
    · rfl
  | stop => exact .of_leaves (Call.leaves_silent rfl) rfl
  | detach => exact .of_leaves (Call.leaves_silent rfl) rfl
  | pauseForReconnect options =>
    by_cases haffects : affectsClipboardChannel options = false
    · have hsame : m.pauseForReconnect options = m := if_pos haffects
      exact .of_leaves (Call.leaves_silent (congrArg readPart hsame)) rfl
    · refine .failed ?_ rfl
      have hfails := m.releaseAllLargeDataReservations.failsReads_sweep
        (onChannel clipboardSmallDataChannelKey.channelId clipboardSmallDataChannelKey.channelType)
        (by decide : ResponseStatus.channelUnavailable ≠ .ok)
      show FailsReads m (m.pauseForReconnect options)
      rw [ClipboardModule.pauseForReconnect, if_neg haffects]
      exact ⟨hfails.pending, hfails.read, hfails.range⟩
  | resumeAfterReconnect options =>
    exact .of_leaves (m.leaves_resumeAfterReconnect surroundings hoffers hdrags options) rfl
  | handlePacket packet =>
    show ReadMove m _ (m.handlePacket surroundings packet)
    by_cases hrunning : m.state = .running
    · rw [m.handlePacket_eq surroundings packet hrunning]
      exact m.readMove_handle surroundings packet fun hanswer =>
        hop ⟨packet, rfl, hrunning, hanswer⟩
    · rw [m.handlePacket_of_not_running surroundings packet hrunning]
      exact .of_leaves (Call.leaves_silent rfl) rfl
  | announceLocalBundle bundle =>
    exact .of_leaves (m.leaves_announceLocalBundle surroundings hoffers hdrags bundle).discard rfl
  | requestRemoteFormat request timeoutMs nowUsec =>
    have hbelongs : ReadHandler.readResponse.Belongs (ClipboardOp.trackedRead m.policy
        (.requestRemoteFormat request timeoutMs nowUsec)) := ⟨request, rfl⟩
    exact m.readMove_ite (.kept ⟨rfl, fun _ hout => nomatch hout⟩ nofun) <|
      m.readMove_ite (m.readMove_denied _ _) <| m.readMove_ite (m.readMove_denied _ _) <|
      m.readMove_dispatch surroundings (noErrorDetail_readRequest request) hbelongs _ _ _
  | requestRemoteFileRange request timeoutMs nowUsec =>
    have hbelongs : ReadHandler.fileRangeResponse.Belongs (ClipboardOp.trackedRead m.policy
        (.requestRemoteFileRange request timeoutMs nowUsec)) := ⟨_, rfl⟩
    exact m.readMove_ite (.kept ⟨rfl, fun _ hout => nomatch hout⟩ nofun) <|
      m.readMove_ite (m.readMove_denied _ _) <| m.readMove_ite (m.readMove_denied _ _) <|
      m.readMove_ite (m.readMove_denied _ _) <|
      m.readMove_dispatch surroundings (noErrorDetail_fileRangeRequest _) hbelongs _ _ _
  | requestRemoteObjectLock request timeoutMs nowUsec =>
    have hbelongs : ReadHandler.objectLockResponse.Belongs (ClipboardOp.trackedRead m.policy
        (.requestRemoteObjectLock request timeoutMs nowUsec)) := trivial
    exact m.readMove_ite (.kept ⟨rfl, fun _ hout => nomatch hout⟩ nofun) <|
      m.readMove_ite (m.readMove_denied _ _) <| m.readMove_ite (m.readMove_denied _ _) <|
      m.readMove_dispatch surroundings (noErrorDetail_objectLock request (Or.inl rfl)) hbelongs _ _ _
  | requestRemoteObjectUnlock request timeoutMs nowUsec =>
    have hbelongs : ReadHandler.objectUnlockResponse.Belongs (ClipboardOp.trackedRead m.policy
        (.requestRemoteObjectUnlock request timeoutMs nowUsec)) := trivial
    exact m.readMove_ite (.kept ⟨rfl, fun _ hout => nomatch hout⟩ nofun) <|
      m.readMove_ite (m.readMove_denied _ _) <| m.readMove_ite (m.readMove_denied _ _) <|
      m.readMove_dispatch surroundings (noErrorDetail_objectLock request (Or.inr rfl)) hbelongs _ _ _
  | sendCancel cancel timeoutMs nowUsec =>
    exact .of_leaves (m.leaves_sendCancel surroundings hcounter cancel timeoutMs nowUsec).discard rfl
  | sendRemoteDragStart start =>
    exact .of_leaves (m.leaves_sendRemoteDragStart surroundings hdrags start).discard rfl
  | sendRemoteDragMove move => exact .of_leaves (m.leaves_sendRemoteDragMove surroundings move).discard rfl
  | sendRemoteDragDrop drop =>
    exact .of_leaves (m.leaves_sendRemoteDragDrop surroundings hdrags drop).discard rfl
  | sendRemoteDragCancel cancel =>
    exact .of_leaves (m.leaves_sendRemoteDragCancel surroundings hdrags cancel).discard rfl
  | expirePendingReads nowUsec =>
    exact .failed (m.failsReads_sweep _ (by decide)) rfl

/-! ## Answers -/

/-- **What an answer of the peer does to the reads**: nothing, if no request is pending that it
names; else its handler is called, at once or up to the acknowledgement that it sends. -/
inductive AnswerMove (m : ClipboardModule) (packet : PacketEnvelope) (call : Call Unit) : Prop
  | missed (calls : (m.readRequests.complete packet).2.1 = [])
      (part : call.after.readPart = m.readPart) (silent : call.outgoing = none)
  | settled {pending : PendingRequest ReadHandler}
      (pending_eq : m.readRequests.pending[packet.responseTo]? = some pending)
      (calls : (m.readRequests.complete packet).2.1 = [⟨pending.handler, packet⟩])
      (part : call.after.readPart = { m.settle packet pending.handler with
        readRequests := (m.readRequests.complete packet).2.2 }.readPart)
      (silent : call.outgoing = none)
  | acknowledged {pending : PendingRequest ReadHandler} {ack : PacketEnvelope} {terminal : Bool}
      (pending_eq : m.readRequests.pending[packet.responseTo]? = some pending)
      (range : pending.handler = .fileRangeResponse)
      (calls : (m.readRequests.complete packet).2.1 = [⟨pending.handler, packet⟩])
      (part : call.after.readPart = m.readPart)
      (outgoing : call.outgoing = some {
        packet := ack
        rest := .acknowledged packet.responseTo terminal
          (trackedFileRangeResult m.policy packet) })

/-- **Every answer does one of the three.** -/
theorem answerMove_handleReadResponse :
    AnswerMove m packet (m.handleReadResponse surroundings packet) := by
  unfold handleReadResponse completeRead
  dsimp only
  rcases m.readRequests.complete_cases packet with
    ⟨hmissed, -⟩ | ⟨pending, hpending, hcompleted⟩
  · rw [hmissed]
    exact .missed (by rw [hmissed]) rfl rfl
  · have hcalls : (m.readRequests.complete packet).2.1 = [⟨pending.handler, packet⟩] := by
      rw [hcompleted]
    have htracker : (m.readRequests.complete packet).2.2 =
        if isTerminalResponse packet.messageKind then m.readRequests.erase packet.responseTo
        else m.readRequests := by
      rw [hcompleted]
    rw [hcompleted]
    simp only
    split
    next hsmall =>
      refine .settled hpending hcalls ?_ rfl
      rw [htracker]
      cases hhandler : pending.handler with
      | _ => rfl
    next ack hack =>
      refine .acknowledged hpending ?_ hcalls rfl rfl
      by_contra hother
      rw [if_neg hother] at hack
      cases hack

end ClipboardModule

end Clipboard
end FusionDesk
