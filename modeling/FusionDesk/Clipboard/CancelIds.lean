import FusionDesk.Clipboard.LocalReads
import FusionDesk.Clipboard.PendingReads

/-!
# Cancels and the ids of the two ends

Each end numbers its requests from one, and a cancel carries nothing but a number.  The end that gets
it takes the number for one of its own: a cancel that finds the id of a pending request of the
receiver ends that request.  Without such a cancel a pending request ends by what is its own.

* `OwnAnswers`: what is under way answers a request of the end that it is under way to.
* `requests_end_by_their_own`: requests end by what is their own exactly in the runs whose cancels
  miss.
-/

namespace FusionDesk
namespace Clipboard

open Protocol Network
open FusionDesk.Module

/-! ## The reader -/

/-- `cancelFromTransferRead`. -/
def cancelFromTransferRead (request : TransferReadRequest) (messageId : MessageId)
    (reason : FdclCancelReason) (message : StdString) : FdclCancel where
  correlationId := messageId
  bundleId := request.bundleId
  offerId := request.offerId
  ownerEpoch := request.ownerEpoch
  sourceId := request.sourceId
  formatId := request.formatId
  reason := reason
  message := message

/-- `cancelFromTransferFileRange`. -/
def cancelFromTransferFileRange (request : TransferFileRangeRequest) (messageId : MessageId)
    (reason : FdclCancelReason) (message : StdString) : FdclCancel where
  correlationId := messageId
  bundleId := request.bundleId
  offerId := request.offerId
  ownerEpoch := request.ownerEpoch
  sourceId := request.sourceId
  reason := reason
  message := message

/-- What `readRemoteFormat` looks at after each poll: its read has ended by a timeout, so that it
sends a cancel. -/
def readTimedOut (m : ClipboardModule) (messageId : MessageId) : Bool :=
  m.lastReadResponseTo == messageId &&
    m.lastReadResult.any fun result => result.status == .timeout

/-! ## Whose answer -/

/-- The end has sent a request with the id. -/
def Party.HasAsked (party : Party) (id : MessageId) : Prop :=
  ∃ request ∈ party.sent, request.messageKind = .request ∧ request.messageId = id

theorem Party.HasAsked.enter {party : Party} {id : MessageId} (h : party.HasAsked id)
    (call : Call Unit) (surroundings : Surroundings) :
    (party.enter call surroundings).HasAsked id := by
  obtain ⟨request, hrequest, hkind, hid⟩ := h
  exact ⟨request, List.mem_append_left _ hrequest, hkind, hid⟩

theorem not_isAnswer {packet : PacketEnvelope} {kind : MessageKind}
    (hkind : packet.messageKind = kind) (hother : (kind == .response || kind == .error) = false) :
    ¬isAnswer packet = true := by
  rw [isAnswer, hkind, hother]
  exact Bool.false_ne_true

theorem messageKind_of_ack {packet : PacketEnvelope} (h : received packet = .ack) :
    packet.messageKind = .ack := by
  have hkinds := kinds_received packet
  rw [h] at hkinds
  exact eq_of_beq hkinds

theorem isAnswer_of_answer {packet : PacketEnvelope} (h : received packet = .answer) :
    isAnswer packet = true := by
  have hkinds := kinds_received packet
  rwa [h] at hkinds

theorem SentBy.of_isAnswer {op : ClipboardOp} {outgoing : Outgoing} (h : SentBy op outgoing)
    (hanswer : isAnswer outgoing.packet = true) :
    ∃ request, op = .handlePacket request ∧ request.messageKind = .request ∧
      outgoing.packet.responseTo = request.messageId := by
  cases h with
  | event kind plain => exact absurd hanswer (not_isAnswer kind rfl)
  | cancel kind plain => exact absurd hanswer (not_isAnswer kind rfl)
  | request kind => exact absurd hanswer (not_isAnswer kind rfl)
  | answer asked kind responseTo plain => exact ⟨_, rfl, asked, responseTo⟩
  | range bytes asked kind large responseTo => exact ⟨_, rfl, asked, responseTo⟩
  | ack terminal result answer kind responseTo =>
    exact absurd hanswer (not_isAnswer (messageKind_of_ack kind) rfl)

theorem SentBy.of_acknowledged {op : ClipboardOp} {outgoing : Outgoing} (h : SentBy op outgoing)
    {id : MessageId} {terminal : Bool} {result : TransferFileRangeResult}
    (hrest : outgoing.rest = .acknowledged id terminal result) :
    ∃ response, op = .handlePacket response ∧ isAnswer response = true ∧
      response.responseTo = id := by
  cases h with
  | event kind plain => simp [hrest, AfterSend.isPlain] at plain
  | cancel kind plain => simp [hrest, AfterSend.isPlain] at plain
  | request kind => cases hrest
  | answer asked kind responseTo plain => simp [hrest, AfterSend.isPlain] at plain
  | range bytes asked kind large responseTo => cases hrest
  | ack terminal result answer kind responseTo =>
    cases hrest
    exact ⟨_, rfl, isAnswer_of_answer answer, rfl⟩

/-- **What is under way was sent by the other end, and an answer is to a request of this end**; so
is a response whose acknowledgement is being sent. -/
structure OwnAnswers (link : Link) : Prop where
  sent : ∀ side, ∀ packet ∈ (link side).incoming, packet ∈ (link side.other).sent
  answers : ∀ side, ∀ packet ∈ (link side).incoming, isAnswer packet = true →
    (link side).HasAsked packet.responseTo
  acknowledged : ∀ side, ∀ call ∈ (link side).suspended, ∀ id terminal result,
    call.rest = .acknowledged id terminal result → (link side).HasAsked id

namespace OwnAnswers

variable {link : Link}

theorem start (dependencies : Side → ClipboardModuleDependencies)
    (largeDataWindow : Side → Option ClipboardLargeDataWindow) :
    OwnAnswers (Link.start dependencies largeDataWindow) :=
  ⟨fun _ _ hpacket => (nomatch hpacket), fun _ _ hpacket => (nomatch hpacket),
    fun _ _ hcall => (nomatch hcall)⟩

/-- A change of one end that adds nothing to what is under way to it or suspended. -/
theorem put (h : OwnAnswers link) {side : Side} {party : Party}
    (hsent : party.sent = (link side).sent) (hincoming : party.incoming ⊆ (link side).incoming)
    (hsuspended : party.suspended ⊆ (link side).suspended) : OwnAnswers (link.put side party) := by
  have hasked : ∀ id, (link side).HasAsked id → party.HasAsked id := by
    rintro id ⟨request, hrequest, hkind, hid⟩
    exact ⟨request, hsent ▸ hrequest, hkind, hid⟩
  refine ⟨(Link.forall_side side).mpr ⟨?_, ?_⟩, (Link.forall_side side).mpr ⟨?_, ?_⟩,
    (Link.forall_side side).mpr ⟨?_, ?_⟩⟩
  · simp only [Link.put_self, Link.put_other]
    exact fun packet hpacket => h.sent side packet (hincoming hpacket)
  · simp only [Link.put_other, Side.other_other, Link.put_self, hsent]
    exact fun packet hpacket => by simpa using h.sent side.other packet hpacket
  · simp only [Link.put_self]
    exact fun packet hpacket hanswer => hasked _ (h.answers side packet (hincoming hpacket) hanswer)
  · simp only [Link.put_other]
    exact h.answers side.other
  · simp only [Link.put_self]
    exact fun call hcall id terminal result hrest =>
      hasked _ (h.acknowledged side call (hsuspended hcall) id terminal result hrest)
  · simp only [Link.put_other]
    exact h.acknowledged side.other

/-- A call, of a packet of the other end or of anything else. -/
theorem call (h : OwnAnswers link) {side : Side} {op : ClipboardOp}
    (hop : ∀ packet, op = .handlePacket packet → packet ∈ (link side.other).sent ∧
      (isAnswer packet = true → (link side).HasAsked packet.responseTo))
    (surroundings : Surroundings) : OwnAnswers (link.call side op surroundings) := by
  have hsentBy := (link side).clipboard.sentBy_perform surroundings op
  refine ⟨(Link.forall_side side).mpr ⟨?_, ?_⟩, (Link.forall_side side).mpr ⟨?_, ?_⟩,
    (Link.forall_side side).mpr ⟨?_, ?_⟩⟩
  · simp only [Link.call_self, Link.call_other]
    exact fun packet hpacket => h.sent side packet hpacket
  · simp only [Link.call_other, Side.other_other, Link.call_self]
    intro packet hpacket
    rcases List.mem_append.mp hpacket with hold | hnew
    · exact List.mem_append_left _ (by simpa using h.sent side.other packet hold)
    · exact List.mem_append_right _ hnew
  · simp only [Link.call_self]
    exact fun packet hpacket hanswer => (h.answers side packet hpacket hanswer).enter _ _
  · simp only [Link.call_other]
    intro packet hpacket hanswer
    rcases List.mem_append.mp hpacket with hold | hnew
    · exact h.answers side.other packet hold hanswer
    · obtain ⟨outgoing, houtgoing, rfl⟩ := Call.exists_outgoing_of_mem_sentPacket hnew
      obtain ⟨request, hrequest, hkind, hto⟩ := (hsentBy outgoing houtgoing).of_isAnswer hanswer
      exact ⟨request, (hop request hrequest).1, hkind, hto.symm⟩
  · simp only [Link.call_self]
    intro call hcall id terminal result hrest
    refine Party.HasAsked.enter ?_ _ _
    rcases List.mem_append.mp hcall with hnew | hold
    · obtain ⟨outgoing, houtgoing, rfl⟩ := Option.map_eq_some_iff.mp (Option.mem_toList.mp hnew)
      obtain ⟨response, hresponse, hanswer, rfl⟩ :=
        (hsentBy outgoing houtgoing).of_acknowledged hrest
      exact (hop response hresponse).2 hanswer
    · exact h.acknowledged side call hold id terminal result hrest
  · simp only [Link.call_other]
    exact h.acknowledged side.other

/-- **Every step keeps it.** -/
theorem step (h : OwnAnswers link) (op : LinkOp) : OwnAnswers (link.step op) := by
  cases op with
  | call side op surroundings =>
    unfold Link.step
    simp only
    split
    · exact h
    next hop =>
    refine h.call (fun packet hpacket => ?_) surroundings
    rw [hpacket] at hop
    exact absurd rfl hop
  | deliver side index surroundings =>
    cases hpacket : (link side).incoming[index]? with
    | none => rwa [Link.step_deliver_of_none hpacket]
    | some packet =>
    rw [Link.step_deliver hpacket]
    have hmem : packet ∈ (link side).incoming := List.mem_of_getElem? hpacket
    have htaken : OwnAnswers (link.put side ((link side).take index packet)) :=
      h.put rfl (fun _ => List.mem_of_mem_eraseIdx) (List.Subset.refl _)
    refine htaken.call ?_ surroundings
    rintro _ ⟨⟩
    simp only [Link.put_self, Link.put_other]
    exact ⟨h.sent side packet hmem, h.answers side packet hmem⟩
  | lose side index =>
    cases hpacket : (link side).incoming[index]? with
    | none => rwa [Link.step_lose_of_none hpacket]
    | some packet =>
      rw [Link.step_lose hpacket]
      exact h.put rfl (fun _ => List.mem_of_mem_eraseIdx) (List.Subset.refl _)
  | sendReturns side =>
    cases hsuspended : (link side).suspended with
    | nil => rwa [Link.step_sendReturns_of_nil hsuspended]
    | cons call rest =>
    rw [Link.step_sendReturns hsuspended]
    refine h.put rfl (List.Subset.refl _) ?_
    rw [hsuspended]
    exact List.subset_cons_self _ _

end OwnAnswers

/-! ## How requests end -/

/-- **What ends a pending request and is its own**: a response to it, or the acknowledgement of one;
its deadline; its send that fails; a pause for a reconnect. -/
inductive OwnEnd (link : Link) (side : Side) (id : MessageId) : LinkOp → Prop
  | response {index : ℕ} {packet : PacketEnvelope} {surroundings : Surroundings}
      (arrives : (link side).incoming[index]? = some packet) (answer : isAnswer packet = true)
      (responseTo : packet.responseTo = id) (asked : (link side).HasAsked id) :
      OwnEnd link side id (.deliver side index surroundings)
  | acknowledged {result : TransferFileRangeResult} {sent : Bool} {rest : List SuspendedCall}
      (returns : (link side).suspended =
        { rest := .acknowledged id true result, sent := sent } :: rest)
      (asked : (link side).HasAsked id) : OwnEnd link side id (.sendReturns side)
  | expiry {nowUsec : UInt64} {pending : PendingRequest ReadHandler} {surroundings : Surroundings}
      (pending_eq : (link side).pending id = some pending)
      (expired : pending.deadlineUsec ≤ nowUsec) :
      OwnEnd link side id (.call side (.expirePendingReads nowUsec) surroundings)
  | failedSend {request : PacketEnvelope} {rest : List SuspendedCall}
      (returns : (link side).suspended = { rest := .requested request, sent := false } :: rest)
      (own : request.messageId = id) : OwnEnd link side id (.sendReturns side)
  | reconnect {options : ModuleReconnectOptions} {surroundings : Surroundings}
      (affects : affectsClipboardChannel options = true) :
      OwnEnd link side id (.call side (.pauseForReconnect options) surroundings)

/-- Every pending request that a step ends, at either end, it ends by what is its own. -/
def EndsOwn (link : Link) (op : LinkOp) : Prop :=
  ∀ side id pending, (link side).pending id = some pending →
    (link.step op side).pending id = none → OwnEnd link side id op

/-- A cancel that a running module gets does not carry the id of a request that this module has
pending. -/
def CancelMisses (link : Link) : LinkOp → Prop
  | .deliver side index _ =>
    (link side).clipboard.state = .running → ∀ packet ∈ (link side).incoming[index]?,
      ∀ cancel, received packet = .cancel cancel → cancel.correlationId ≠ 0 →
        (link side).pending cancel.correlationId = none
  | _ => True

section Steps

variable {link : Link} {side s : Side} {id : MessageId} {pending : PendingRequest ReadHandler}

/-- A call ends only requests of the end that it is made at. -/
theorem pending_call {op : ClipboardOp} {surroundings : Surroundings}
    (h : (link s).pending id = some pending)
    (hended : (link.call side op surroundings s).pending id = none) :
    s = side ∧ (link side).clipboard.EndedBy id op := by
  by_cases hs : s = side
  · subst hs
    rw [Link.call_self] at hended
    exact ⟨rfl, (link s).clipboard.endedBy_perform surroundings op h hended⟩
  · rw [Side.eq_other_of_ne hs, Link.call_other] at hended
    rw [Side.eq_other_of_ne hs] at h
    exact absurd (h.symm.trans hended) nofun

/-- So does a change of one end. -/
theorem pending_put {party : Party} (h : (link s).pending id = some pending)
    (hended : (link.put side party s).pending id = none) : s = side ∧ party.pending id = none := by
  by_cases hs : s = side
  · subst hs
    rw [Link.put_self] at hended
    exact ⟨rfl, hended⟩
  · rw [Side.eq_other_of_ne hs, Link.put_other] at hended
    rw [Side.eq_other_of_ne hs] at h
    exact absurd (h.symm.trans hended) nofun

/-- **A step that ends requests by what is not their own is the delivery of a cancel that finds
one.** -/
theorem endsOwn_of_cancelMisses (h : OwnAnswers link) {op : LinkOp} (hmisses : CancelMisses link op) :
    EndsOwn link op := by
  intro s id pending hpending hended
  cases op with
  | call side op surroundings =>
    unfold Link.step at hended
    simp only at hended
    split at hended
    · exact absurd (hpending.symm.trans hended) nofun
    next hdelivery =>
    obtain ⟨rfl, hends⟩ := pending_call hpending hended
    cases hends with
    | answer running answer responseTo => exact absurd rfl hdelivery
    | cancel running cancelled correlationId nonzero => exact absurd rfl hdelivery
    | expiry pending_eq expired => exact .expiry pending_eq expired
    | reconnect affects => exact .reconnect affects
  | deliver side index surroundings =>
    cases hpacket : (link side).incoming[index]? with
    | none =>
      rw [Link.step_deliver_of_none hpacket] at hended
      exact absurd (hpending.symm.trans hended) nofun
    | some packet =>
    rw [Link.step_deliver hpacket] at hended
    have hmem : packet ∈ (link side).incoming := List.mem_of_getElem? hpacket
    have htaken : (link.put side ((link side).take index packet) s).pending id = some pending := by
      by_cases hs : s = side
      · subst hs
        rw [Link.put_self]
        exact hpending
      · rw [Side.eq_other_of_ne hs, Link.put_other, ← Side.eq_other_of_ne hs]
        exact hpending
    obtain ⟨rfl, hends⟩ := pending_call htaken hended
    rw [Link.put_self] at hends
    cases hends with
    | answer running answer responseTo =>
      have hanswer := isAnswer_of_answer answer
      exact .response hpacket hanswer responseTo (responseTo ▸ h.answers s packet hmem hanswer)
    | cancel running cancelled correlationId nonzero =>
      have hmissed := hmisses running packet hpacket _ cancelled nonzero
      rw [correlationId] at hmissed
      exact absurd (hpending.symm.trans hmissed) nofun
  | lose side index =>
    cases hpacket : (link side).incoming[index]? with
    | none =>
      rw [Link.step_lose_of_none hpacket] at hended
      exact absurd (hpending.symm.trans hended) nofun
    | some packet =>
      rw [Link.step_lose hpacket] at hended
      obtain ⟨rfl, hsame⟩ := pending_put hpending hended
      exact absurd (hpending.symm.trans hsame) nofun
  | sendReturns side =>
    cases hsuspended : (link side).suspended with
    | nil =>
      rw [Link.step_sendReturns_of_nil hsuspended] at hended
      exact absurd (hpending.symm.trans hended) nofun
    | cons call rest =>
    rw [Link.step_sendReturns hsuspended] at hended
    obtain ⟨rfl, hsame⟩ := pending_put hpending hended
    obtain ⟨rest', sent⟩ := call
    rcases (link s).clipboard.endedBy_afterSend sent rest' hpending hsame with
      ⟨request, rfl, rfl, hid⟩ | ⟨result, rfl⟩
    · exact .failedSend hsuspended hid
    · have hmem : { rest := .acknowledged id true result, sent := sent } ∈ (link s).suspended := by
        rw [hsuspended]
        exact List.mem_cons_self
      exact .acknowledged hsuspended (h.acknowledged s _ hmem id true result rfl)

/-- **A cancel that finds a request ends it.** -/
theorem cancelMisses_of_endsOwn {op : LinkOp} (h : EndsOwn link op) : CancelMisses link op := by
  cases op with
  | deliver side index surroundings =>
    intro hrunning packet hpacket cancel hcancel hnonzero
    have hpacket : (link side).incoming[index]? = some packet := hpacket
    by_contra hfound
    obtain ⟨pending, hpending⟩ := Option.ne_none_iff_exists'.mp hfound
    have hended : (link.step (.deliver side index surroundings) side).pending
        cancel.correlationId = none := by
      rw [Link.step_deliver hpacket, Link.call_self, Link.put_self]
      show ((link side).clipboard.handlePacket surroundings packet).after.readRequests.pending[
        cancel.correlationId]? = none
      rw [ClipboardModule.handlePacket_eq _ surroundings packet hrunning, hcancel]
      exact ClipboardModule.pending_handleCancel _ surroundings hnonzero
    have hown := h side _ pending hpending hended
    have hkinds := kinds_received packet
    rw [hcancel] at hkinds
    cases hown with
    | response arrives answer responseTo asked =>
      rw [hpacket] at arrives
      cases arrives
      exact not_isAnswer (eq_of_beq hkinds) rfl answer
  | call side op surroundings => trivial
  | lose side index => trivial
  | sendReturns side => trivial

end Steps

/-- **In a run of two modules every pending request ends by what is its own, if and only if no cancel
that is delivered finds a request of the module that gets it.** -/
theorem requests_end_by_their_own (dependencies : Side → ClipboardModuleDependencies)
    (largeDataWindow : Side → Option ClipboardLargeDataWindow) (ops : List LinkOp) :
    Runs.EveryStep Link.step EndsOwn (Link.start dependencies largeDataWindow) ops ↔
      Runs.EveryStep Link.step CancelMisses (Link.start dependencies largeDataWindow) ops :=
  Runs.everyStep_iff_of_invariant (OwnAnswers.start dependencies largeDataWindow)
    (fun _ op h _ => h.step op) fun _ _ h => ⟨cancelMisses_of_endsOwn, endsOwn_of_cancelMisses h⟩

/-! ### Crossing reads -/

/-- Both ends may offer a text. -/
def textLink : Link := Link.start (fun _ => textDependencies) fun _ => none

/-- The read of the text that is offered under the id. -/
def textReadOf (offerId : TransferOfferId) : TransferReadRequest where
  bundleId := 1
  offerId := offerId
  ownerEpoch := 1
  sourceId := 3
  formatId := 5
  canonicalFormat := textPlainUtf8Format

def fdclReadOf (offerId : TransferOfferId) : FdclReadFormatRequest where
  bundleId := 1
  offerId := offerId
  ownerEpoch := 1
  sourceId := 3
  formatId := 5
  canonicalFormat := textPlainUtf8Format

/-- Each end offers a text and reads that of the other, both under the id `1`; the read of the near
end times out, and its reader cancels it. -/
def crossingReads : List LinkOp :=
  [.call .near (.attach { sessionId := 1, traceId := 1, network := true }) {},
    .call .near .start {},
    .call .far (.attach { sessionId := 9, traceId := 1, network := true }) {},
    .call .far .start {},
    .call .near (.announceLocalBundle (textBundle 2)) {}, .sendReturns .near,
    .call .far (.announceLocalBundle (textBundle 3)) {}, .sendReturns .far,
    .deliver .far 0 {}, .deliver .near 0 {},
    .call .near (.requestRemoteFormat (fdclReadOf 3) 0 0) {}, .sendReturns .near,
    .call .far (.requestRemoteFormat (fdclReadOf 2) 0 0) {}, .sendReturns .far,
    .call .near (.expirePendingReads 2000000) {}]

/-- The cancel comes behind the request that it is about. -/
def crossingCancel : List LinkOp :=
  [.call .near (.sendCancel (cancelFromTransferRead (textReadOf 3) 1 .timeout
      (bytesOf "clipboard remote read timed out")) 0 2000000) {}, .sendReturns .near,
    .deliver .far 0 {}, .sendReturns .far]

/-- **The cancel of one end ends the read of the other.** -/
theorem cancel_ends_other_read :
    readTimedOut (Runs.run Link.step textLink crossingReads .near).clipboard 1 = true ∧
      ¬Runs.EveryStep Link.step EndsOwn textLink
        (crossingReads ++ crossingCancel ++ [.deliver .far 0 {}]) := by
  refine ⟨by decide +kernel, fun h => ?_⟩
  have hlast := (Runs.everyStep_concat.mp h).2
  obtain ⟨pending, hpending⟩ := Option.isSome_iff_exists.mp (show ((Runs.run Link.step textLink
    (crossingReads ++ crossingCancel) .far).pending 1).isSome = true by decide +kernel)
  have hanswer : ((Runs.run Link.step textLink (crossingReads ++ crossingCancel) .far).incoming[
    0]?).any isAnswer = false := by decide +kernel
  cases hlast .far 1 pending hpending (by rw [← Option.isNone_iff_eq_none]; decide +kernel) with
  | response arrives answer responseTo asked =>
    rw [arrives, Option.any_some, answer] at hanswer
    cases hanswer

end Clipboard
end FusionDesk
