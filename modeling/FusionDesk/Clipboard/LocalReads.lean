import FusionDesk.Clipboard.LocalOffers

/-!
# The answers to reads

What a module answers when the peer reads its local bundle, after a format list of the peer and
after an announcement that fails.

A read is answered from the local bundle and from the source that the registry finds under the offer
id of the local bundle.  So an answer is lost where the entry of this id is: by a format list with
the id, and by an announcement with the id that is stored and then not sent.

* `offers_undisturbed`: format lists with other ids change no answer, and no source of the peer is
  ever asked.
* `failed_announcement`: an announcement that fails changes no answer, unless it has the id and is
  stored.
-/

namespace FusionDesk
namespace Clipboard

open Protocol Network
open FusionDesk.Module
open InMemoryTransferSourceRegistry

/-- A read, or a request for a range of a file. -/
def Received.asksForContent : Received → Bool
  | .readRequest _ => true
  | .fileRangeRequest _ => true
  | _ => false

/-- A packet, its id apart. -/
def withoutId (packet : PacketEnvelope) : PacketEnvelope := { packet with messageId := 0 }

namespace Call

variable {α : Type} {call call' : Call α} {surroundings : Surroundings}

/-- The packet that a call sends, its id apart. -/
def answer (call : Call α) (surroundings : Surroundings) : Option PacketEnvelope :=
  (call.sentPacket surroundings).map withoutId

theorem answer_congr (hsends : call.sends surroundings = call'.sends surroundings)
    (hpacket : (call.outgoing.map (·.packet)).map withoutId =
      (call'.outgoing.map (·.packet)).map withoutId) :
    call.answer surroundings = call'.answer surroundings := by
  unfold answer sentPacket
  rw [hsends]
  split
  · exact hpacket
  · rfl

theorem answer_silent (m : ClipboardModule) : (silent m).answer surroundings = none := by
  unfold answer sentPacket
  split <;> rfl

end Call

namespace ClipboardModule

/-- What a module answers to a packet. -/
def answer (m : ClipboardModule) (surroundings : Surroundings) (packet : PacketEnvelope) :
    Option PacketEnvelope :=
  (m.handlePacket surroundings packet).answer surroundings

variable {s t m : ClipboardModule} {surroundings : Surroundings} {packet : PacketEnvelope}

/-! ## What an answer hangs on -/

theorem answer_makeResponse (hruntime : s.runtime = t.runtime) (kind : MessageKind)
    (status : ResponseStatus) (payload : ByteBuffer) :
    (Call.sending s.countResponse (s.makeResponse kind packet status payload)).answer
        surroundings =
      (Call.sending t.countResponse (t.makeResponse kind packet status payload)).answer
        surroundings := by
  refine Call.answer_congr ?_ ?_
  · show (s.runtime.network && surroundings.sent) = (t.runtime.network && surroundings.sent)
    rw [hruntime]
  · simp only [Call.sending, Option.map_some, withoutId, makeResponse, makePacket, hruntime]

theorem answer_sendErrorResponse (hruntime : s.runtime = t.runtime) (status : ResponseStatus)
    (message : StdString) :
    (s.sendErrorResponse packet status message).answer surroundings =
      (t.sendErrorResponse packet status message).answer surroundings :=
  answer_makeResponse hruntime _ _ _

theorem answer_sendReadResponse (hruntime : s.runtime = t.runtime)
    (request : FdclReadFormatRequest) (result : TransferReadResult) :
    (s.sendReadResponse packet request result).answer surroundings =
      (t.sendReadResponse packet request result).answer surroundings := by
  unfold sendReadResponse
  by_cases hfailed : result.ok = false
  · rw [if_pos hfailed, if_pos hfailed]
    exact answer_sendErrorResponse hruntime _ _
  · rw [if_neg hfailed, if_neg hfailed]
    exact answer_makeResponse hruntime _ _ _

/-- **A read of the local bundle hangs on what the registry finds under its offer id.** -/
theorem readLocal_congr {policy : ClipboardPolicy} {transcoder : TransferTranscoder}
    {r r' : InMemoryTransferSourceRegistry} {bundle : TransferSourceBundle} {now : Moment}
    (hlookup : ∀ request : TransferReadRequest, request.offerId = bundle.offerId →
      r.lookupSource request = r'.lookupSource request) (request : FdclReadFormatRequest) :
    Clipboard.readLocal policy transcoder r bundle now request =
      Clipboard.readLocal policy transcoder r' bundle now request := by
  unfold Clipboard.readLocal
  by_cases hstale : bundle.bundleId ≠ request.bundleId ∨ bundle.offerId ≠ request.offerId ∨
      bundle.ownerEpoch ≠ request.ownerEpoch
  · rw [if_pos hstale, if_pos hstale]
  · rw [if_neg hstale, if_neg hstale]
    have hoffer : (localReadRequest policy request).offerId = bundle.offerId := by
      push Not at hstale
      rw [hstale.2.1]
      simp only [localReadRequest]
      split <;> rfl
    simp only [hlookup _ hoffer]

theorem answer_of_readRequest (hdependencies : s.dependencies = t.dependencies)
    (hruntime : s.runtime = t.runtime) (hstate : s.state = t.state)
    (hlocal : s.localBundle = t.localBundle)
    (hlookup : ∀ request : TransferReadRequest, request.offerId = s.localBundle.offerId →
      s.sourceRegistry.lookupSource request = t.sourceRegistry.lookupSource request)
    {request : FdclReadFormatRequest} (hread : received packet = .readRequest request) :
    s.answer surroundings packet = t.answer surroundings packet := by
  unfold answer
  by_cases hrunning : s.state = .running
  · rw [handlePacket_eq s surroundings packet hrunning,
      handlePacket_eq t surroundings packet (hstate ▸ hrunning), hread]
    have hpolicy : t.policy = s.policy := by rw [policy, policy, hdependencies]
    have hresult : t.readLocal surroundings request = s.readLocal surroundings request := by
      rw [readLocal, readLocal, hpolicy, ← hdependencies, ← hlocal]
      exact (readLocal_congr hlookup request).symm
    simp only [handle, handleReadRequest, hpolicy, ← hlocal, hresult]
    by_cases hdenied : s.policy.allowSendContent = false
    · rw [if_pos hdenied, if_pos hdenied]
      exact answer_sendErrorResponse hruntime _ _
    rw [if_neg hdenied, if_neg hdenied]
    by_cases hformat :
        policyAllowsReadRequest s.policy surroundings.moment s.localBundle request = false
    · rw [if_pos hformat, if_pos hformat]
      exact answer_sendErrorResponse hruntime _ _
    · rw [if_neg hformat, if_neg hformat]
      exact answer_sendReadResponse hruntime _ _
  · rw [handlePacket_of_not_running s surroundings packet hrunning,
      handlePacket_of_not_running t surroundings packet fun ht => hrunning (hstate.trans ht)]
    rw [Call.answer_silent, Call.answer_silent]

/-- **A file range is answered without the registry.** -/
theorem outgoing_fileRangeRequest (m : ClipboardModule) (r : InMemoryTransferSourceRegistry)
    (request : FdclFileRangeRequest) :
    ({ m with sourceRegistry := r }.handleFileRangeRequest surroundings packet request).outgoing =
      (m.handleFileRangeRequest surroundings packet request).outgoing := by
  have hscheduled : ∀ (m : ClipboardModule) (response : PacketEnvelope) (usesLargeData : Bool),
      ({ m with sourceRegistry := r }.sendScheduledRange packet response usesLargeData).outgoing =
        (m.sendScheduledRange packet response usesLargeData).outgoing := by
    intro m response usesLargeData
    unfold sendScheduledRange
    simp only
    cases if usesLargeData = true then m.largeDataWindow else none with
    | none => rfl
    | some window =>
      simp only [apply_ite Call.outgoing]
      rfl
  simp only [handleFileRangeRequest, sendFileRangeResponse, apply_ite Call.outgoing]
  have hlast := hscheduled m.countResponse
  simp only [countResponse] at hlast ⊢
  simp only [hlast]
  rfl

/-- **An answer to a request for content hangs on the registry only through the local bundle's
offer id.** -/
theorem answer_of_asksForContent {r : InMemoryTransferSourceRegistry}
    (hlookup : ∀ request : TransferReadRequest, request.offerId = m.localBundle.offerId →
      r.lookupSource request = m.sourceRegistry.lookupSource request)
    (hasks : (received packet).asksForContent = true) :
    { m with sourceRegistry := r }.answer surroundings packet = m.answer surroundings packet := by
  cases hreceived : received packet with
  | readRequest request => exact answer_of_readRequest rfl rfl rfl rfl hlookup hreceived
  | fileRangeRequest request =>
    unfold answer
    by_cases hrunning : m.state = .running
    · rw [handlePacket_eq m surroundings packet hrunning,
        handlePacket_eq { m with sourceRegistry := r } surroundings packet hrunning, hreceived]
      have hruntime : ∀ n : ClipboardModule,
          (n.handleFileRangeRequest surroundings packet request).after.runtime = n.runtime := fun n =>
        (n.leaves_handleFileRangeRequest surroundings packet (f := runtime) (fun _ _ => rfl)
          (fun _ _ _ => rfl) request).before
      refine Call.answer_congr ?_ ?_
      · exact congrArg (·.network && surroundings.sent)
          ((hruntime { m with sourceRegistry := r }).trans (hruntime m).symm)
      · exact congrArg (fun outgoing => (outgoing.map (·.packet)).map withoutId)
          (outgoing_fileRangeRequest m r request)
    · rw [handlePacket_of_not_running m surroundings packet hrunning,
        handlePacket_of_not_running { m with sourceRegistry := r } surroundings packet hrunning,
        Call.answer_silent, Call.answer_silent]
  | _ => simp [hreceived, Received.asksForContent] at hasks

end ClipboardModule

/-! ## Format lists of the peer -/

/-- Every entry of the local bundle's offer is the local bundle's. -/
def ServesLocal (m : ClipboardModule) : Prop :=
  ∀ entry ∈ m.sourceRegistry.entries, entry.bundle.offerId = m.localBundle.offerId →
    entry.bundle = m.localBundle

namespace ServesLocal

open ClipboardModule

variable {m m' : ClipboardModule} {surroundings : Surroundings}

/-- No bundle is added. -/
theorem of_keeps (h : ServesLocal m) (hlocal : m'.localBundle = m.localBundle)
    (hkeeps : Keeps m.sourceRegistry m'.sourceRegistry) : ServesLocal m' := by
  intro entry hentry hoffer
  obtain ⟨old, hold, hbundle⟩ := hkeeps entry hentry
  rw [hlocal] at hoffer ⊢
  rw [← hbundle]
  exact h old hold (hbundle ▸ hoffer)

theorem of_localSide (h : ServesLocal m) (hsame : m'.localSide = m.localSide) : ServesLocal m' := by
  have hregistry : m'.sourceRegistry = m.sourceRegistry := congrArg (·.sourceRegistry) hsame
  refine h.of_keeps (congrArg (·.localBundle) hsame) ?_
  rw [hregistry]
  exact Keeps.refl _

theorem of_empty (hempty : m'.sourceRegistry.entries = []) : ServesLocal m' := by
  intro entry hentry
  rw [hempty] at hentry
  cases hentry

/-- **A list under another id adds no entry of the local bundle's offer.** -/
theorem handleFormatList (h : ServesLocal m) {list : FdclFormatList}
    (hother : list.offerId ≠ m.localBundle.offerId) :
    ServesLocal (m.handleFormatList surroundings list) := by
  have hstored : ∀ entry ∈ (m.sourceRegistry.store (m.offeredBundle list)).2.entries,
      entry.bundle.offerId = m.localBundle.offerId → entry.bundle = m.localBundle := by
    intro entry hentry hoffer
    rcases bundle_mem_store hentry with ⟨old, hold, hbundle⟩ | hnew
    · rw [← hbundle]
      exact h old hold (hbundle ▸ hoffer)
    · rw [hnew] at hoffer
      exact absurd hoffer hother
  unfold ClipboardModule.handleFormatList
  split
  · exact h
  split
  · exact h
  split
  · exact h
  simp only
  split
  · exact hstored
  split
  · intro entry hentry hoffer
    obtain ⟨old, hold, hbundle⟩ := keeps_clearOffer _ _ entry hentry
    rw [← hbundle]
    exact hstored old hold (hbundle ▸ hoffer)
  · exact hstored

/-- **An announced bundle has its entry to itself.** -/
theorem announceLocalBundle (h : ServesLocal m) (bundle : TransferSourceBundle) :
    ServesLocal ((m.announceLocalBundle surroundings bundle).finish surroundings) := by
  cases hreached : m.reachesRegistry surroundings bundle with
  | false =>
    rw [announceLocalBundle_of_not_reaches hreached]
    exact h
  | true =>
    by_cases hok : (m.sourceRegistry.store (m.announcedForm bundle)).1 = .ok
    · rw [announceLocalBundle_of_stored hreached hok]
      simp only [Call.finish, Call.returning, Call.sends]
      cases m.runtime.network && surroundings.sent with
      | true =>
        intro entry hentry hoffer
        rw [eq_of_mem_store hok hentry hoffer]
        rfl
      | false => exact h.of_keeps rfl (keeps_store_clearOffer hok)
    · rw [announceLocalBundle_of_refused hreached hok]
      exact h.of_keeps rfl (keeps_store_refused hok)

theorem handleObjectLockRequest (h : ServesLocal m) (packet : PacketEnvelope)
    (request : FdclObjectLock) :
    ServesLocal ((m.handleObjectLockRequest surroundings packet request).finish surroundings) := by
  unfold ClipboardModule.handleObjectLockRequest
  split
  · exact h
  · refine of_localSide ?_
      ((leaves_sendObjectLockResponse _ packet (f := localSide) (fun _ _ => rfl) _ _ _).finish
        surroundings)
    exact h.of_keeps rfl (keeps_lockObject _ _ _)

theorem handleObjectUnlockRequest (h : ServesLocal m) (packet : PacketEnvelope)
    (request : FdclObjectLock) :
    ServesLocal ((m.handleObjectUnlockRequest packet request).finish surroundings) := by
  unfold ClipboardModule.handleObjectUnlockRequest
  split
  · exact h
  · refine of_localSide ?_
      ((leaves_sendObjectLockResponse _ packet (f := localSide) (fun _ _ => rfl) _ _ _).finish
        surroundings)
    exact h.of_keeps rfl (keeps_unlockObject _ _)

end ServesLocal

/-- The format list that a call brings. -/
def ClipboardOp.offered : ClipboardOp → Option FdclFormatList
  | .handlePacket packet =>
    match received packet with
    | .formatList list => some list
    | _ => none
  | _ => none

/-- **The condition on a call**: a format list has none of the ids of the module's own offers. -/
def OfferHistory.KeepsOff (history : OfferHistory) (op : ClipboardOp × Surroundings) : Prop :=
  ∀ list ∈ op.1.offered, list.offerId ∉ history.announced

/-- **A call under the condition leaves the local bundle's entries to it.** -/
theorem ServesLocal.step {history : OfferHistory} (h : ServesLocal history.current)
    (hown : history.current.localBundle.offerId ∈ history.announced)
    {op : ClipboardOp × Surroundings} (hoff : history.KeepsOff op) :
    ServesLocal (history.step op).current := by
  obtain ⟨op, surroundings⟩ := op
  show ServesLocal ((history.current.perform surroundings op).finish surroundings)
  cases hoffers : op.aboutOffers with
  | false =>
    exact h.of_localSide
      ((history.current.leaves_localSide surroundings hoffers).finish surroundings)
  | true =>
    cases op with
    | attach runtime => exact h
    | start =>
      show ServesLocal history.current.start
      unfold ClipboardModule.start
      split
      · exact h
      · exact h
    | stop => exact of_empty (congrArg (·.entries) (entries_clearAll_releaseAllLocks _))
    | detach => exact of_empty (congrArg (·.entries) (entries_clearAll_releaseAllLocks _))
    | pauseForReconnect options =>
      show ServesLocal (history.current.pauseForReconnect options)
      unfold ClipboardModule.pauseForReconnect
      split
      · exact h
      · exact of_empty (congrArg (·.entries) (entries_clearAll_releaseAllLocks _))
    | resumeAfterReconnect options =>
      simp only [ClipboardModule.perform, ClipboardModule.resumeAfterReconnect]
      split
      · exact h.announceLocalBundle _
      · exact h
    | handlePacket packet =>
      show ServesLocal ((history.current.handlePacket surroundings packet).finish surroundings)
      by_cases hrunning : history.current.state = .running
      · rw [ClipboardModule.handlePacket_eq _ surroundings packet hrunning]
        cases hasked : received packet with
        | formatList list =>
          have hoffered : list ∈ (ClipboardOp.handlePacket packet).offered := by
            simp [ClipboardOp.offered, hasked]
          exact h.handleFormatList fun heq => hoff list hoffered (heq ▸ hown)
        | lockObject request => exact h.handleObjectLockRequest packet request
        | unlockObject request => exact h.handleObjectUnlockRequest packet request
        | _ => simp [ClipboardOp.aboutOffers, hasked, Received.aboutOffers] at hoffers
      · rw [ClipboardModule.handlePacket_of_not_running _ surroundings packet hrunning]
        exact h
    | announceLocalBundle bundle => exact h.announceLocalBundle bundle
    | _ => cases hoffers

namespace OfferHistory

variable (dependencies : ClipboardModuleDependencies)
  (largeDataWindow : Option ClipboardLargeDataWindow)

/-- **In the runs under the condition the entries of the local bundle's offer are the local
bundle's.** -/
theorem servesLocal_run {ops : List (ClipboardOp × Surroundings)}
    (h : Runs.EveryStep step KeepsOff (start dependencies largeDataWindow) ops) :
    ServesLocal (Runs.run step (start dependencies largeDataWindow) ops).current := by
  have hinvariant := Runs.run_invariant_of_everyStep
    (I := fun history : OfferHistory => ServesLocal history.current ∧
      Undisturbed history.announced history.current history.current)
    (s := start dependencies largeDataWindow)
    ⟨ServesLocal.of_empty rfl, undisturbed_self dependencies largeDataWindow []⟩
    (fun history op hinv hoff => ⟨hinv.1.step hinv.2.localOwn hoff, hinv.2.step op⟩) h
  exact hinvariant.1

end OfferHistory

/-- **A format list under an id of its own changes no answer to a read of the local bundle, and in
the runs of such lists no source of the peer is ever asked.** -/
theorem offers_undisturbed (dependencies : ClipboardModuleDependencies)
    (largeDataWindow : Option ClipboardLargeDataWindow) :
    (∀ (before after : List (ClipboardOp × Surroundings)) (packet : PacketEnvelope)
        (surroundings : Surroundings) (list : FdclFormatList),
      received packet = .formatList list →
      list.offerId ∉
        (Runs.run OfferHistory.step (.start dependencies largeDataWindow) before).announced →
      ∀ (surroundings' : Surroundings) (read : PacketEnvelope) (request : FdclReadFormatRequest),
        received read = .readRequest request →
        (ClipboardModule.run dependencies largeDataWindow
          (before ++ (.handlePacket packet, surroundings) :: after)).answer surroundings' read =
        (ClipboardModule.run dependencies largeDataWindow (before ++ after)).answer
          surroundings' read) ∧
    ∀ ops : List (ClipboardOp × Surroundings),
      Runs.EveryStep OfferHistory.step OfferHistory.KeepsOff (.start dependencies largeDataWindow)
        ops →
      let m := ClipboardModule.run dependencies largeDataWindow ops
      ∀ (request : TransferReadRequest) (source : TransferSource),
        request.offerId = m.localBundle.offerId →
        (m.sourceRegistry.lookupSource request).source = some source →
        some source ∈ m.localBundle.sources := by
  constructor
  · intro before after packet surroundings list hlist hforeign surroundings' read request hread
    have hself := OfferHistory.undisturbed_self dependencies largeDataWindow before
    generalize hhistory :
      Runs.run OfferHistory.step (.start dependencies largeDataWindow) before = history
      at hself hforeign
    have hcurrent : Runs.run ClipboardModule.step
        (ClipboardModule.construct dependencies largeDataWindow) before = history.current := by
      rw [← hhistory, OfferHistory.current_run]
      rfl
    have hoffer : Undisturbed history.announced
        (history.current.step (.handlePacket packet, surroundings)) history.current := by
      show Undisturbed history.announced
        ((history.current.handlePacket surroundings packet).finish surroundings) history.current
      by_cases hrunning : history.current.state = .running
      · rw [ClipboardModule.handlePacket_eq _ surroundings packet hrunning, hlist]
        exact hself.handleFormatList_foreign hforeign
      · rw [ClipboardModule.handlePacket_of_not_running _ surroundings packet hrunning]
        exact hself
    have hrun := @OfferHistory.undisturbed_run
      ⟨history.current.step (.handlePacket packet, surroundings), history.announced⟩ _ hoffer after
    rw [OfferHistory.current_run] at hrun
    rw [ClipboardModule.run, ClipboardModule.run, List.foldl_append, List.foldl_append,
      List.foldl_cons]
    simp only [Runs.run] at hrun hcurrent
    rw [hcurrent]
    refine ClipboardModule.answer_of_readRequest hrun.dependencies_eq hrun.runtime_eq hrun.state_eq
      hrun.localBundle_eq (fun lookup hlookup => ?_) hread
    exact hrun.offers.lookupSource_eq (hlookup ▸ hrun.localOwn)
  · intro ops hops m request source hoffer hsource
    have hserves := OfferHistory.servesLocal_run dependencies largeDataWindow hops
    rw [OfferHistory.current_run] at hserves
    obtain ⟨bundle, hfind, hmem⟩ := exists_of_lookupSource hsource
    obtain ⟨entry, hentry, hentryOffer, rfl⟩ := exists_of_findBundle hfind
    have hbundle := hserves entry hentry (hentryOffer.trans hoffer)
    exact hbundle ▸ hmem

/-! ### A list under the id of the local bundle -/

/-- A source of the text `hi`. -/
def textSource : TransferSource where
  id := 3
  formats _ := [{ canonicalFormat := textPlainUtf8Format, formatId := 5 }]
  read _ _ := { status := .ok, canonicalFormat := textPlainUtf8Format, bytes := bytesOf "hi" }

def textBundle (offerId : TransferOfferId) : TransferSourceBundle where
  bundleId := 1
  offerId := offerId
  ownerEpoch := 1
  sources := [some textSource]

def textDependencies : ClipboardModuleDependencies where
  transcoder := { canTranscode := fun _ => false, transcode := fun _ => {} }

/-- A module that runs and has announced the text under the id `2`. -/
def announcedText : List (ClipboardOp × Surroundings) :=
  [(.attach { sessionId := 1, traceId := 1, network := true }, {}), (.start, {}),
    (.announceLocalBundle (textBundle 2), {})]

def peerPacket (kind : MessageKind) (payload : ByteBuffer) : PacketEnvelope where
  messageId := 1
  packetType := .clipboard
  messageKind := kind
  payload := payload

/-- The peer offers a text of its own. -/
def textList (offerId : TransferOfferId) : FdclFormatList where
  bundleId := 7
  offerId := offerId
  ownerEpoch := 1
  originSessionId := 9
  formats := [{ sourceId := 4, formatId := 5, canonicalFormat := textPlainUtf8Format }]

def textOffer (offerId : TransferOfferId) : PacketEnvelope :=
  peerPacket .event (encodeFdclFormatList (textList offerId))

/-- The peer reads the announced text. -/
def textRequest : FdclReadFormatRequest where
  bundleId := 1
  offerId := 2
  ownerEpoch := 1
  sourceId := 3
  formatId := 5
  canonicalFormat := textPlainUtf8Format

def textRead : PacketEnvelope := peerPacket .request (encodeFdclReadFormatRequest textRequest)

/-- Another id, and the text is read as before. -/
theorem offers_undisturbed_text :
    (ClipboardModule.run textDependencies none
        (announcedText ++ [(.handlePacket (textOffer 3), ({} : Surroundings))])).answer {} textRead =
      (ClipboardModule.run textDependencies none (announcedText ++ [])).answer {} textRead :=
  (offers_undisturbed textDependencies none).1 announcedText [] (textOffer 3) {} (textList 3)
    (by decide +kernel) (by decide +kernel) {} textRead textRequest (by decide +kernel)

/-- The id of the local bundle, and the text is not read any more. -/
theorem text_lost_to_offer :
    received (textOffer 2) = .formatList (textList 2) ∧
      received textRead = .readRequest textRequest ∧
      (ClipboardModule.run textDependencies none
          (announcedText ++ [(.handlePacket (textOffer 2), ({} : Surroundings))])).answer {}
          textRead ≠
        (ClipboardModule.run textDependencies none announcedText).answer {} textRead := by
  refine ⟨by decide +kernel, by decide +kernel, fun h => ?_⟩
  exact absurd (congrArg (Option.map (·.messageKind)) h) (by decide +kernel)

/-! ## Announcements that fail -/

/-- What a failed announcement is to leave: the answers to requests for content, the local bundle,
and a registry without a bundle that was not there. -/
structure KeepsClipboard (before after : ClipboardModule) : Prop where
  answers : ∀ (surroundings : Surroundings) (packet : PacketEnvelope),
    (received packet).asksForContent = true →
    after.answer surroundings packet = before.answer surroundings packet
  localBundle_eq : after.localBundle = before.localBundle
  keeps : Keeps before.sourceRegistry after.sourceRegistry

namespace ClipboardModule

variable {m : ClipboardModule} {surroundings : Surroundings} {bundle : TransferSourceBundle}

/-- The announcement is stored in the place of the local bundle. -/
def replacesLocal (m : ClipboardModule) (surroundings : Surroundings)
    (bundle : TransferSourceBundle) : Bool :=
  m.reachesRegistry surroundings bundle &&
    decide ((m.sourceRegistry.store (m.announcedForm bundle)).1 = .ok) &&
    bundle.offerId == m.localBundle.offerId &&
    (m.sourceRegistry.findBundle m.localBundle.offerId).isSome

/-- Only the registry is another, and what is found under the local bundle's offer is the same. -/
theorem keepsClipboard_of_findBundle {r : InMemoryTransferSourceRegistry}
    (hfind : r.findBundle m.localBundle.offerId =
      m.sourceRegistry.findBundle m.localBundle.offerId)
    (hkeeps : Keeps m.sourceRegistry r) : KeepsClipboard m { m with sourceRegistry := r } where
  answers := fun _ _ hasks =>
    answer_of_asksForContent (fun _ hoffer => lookupSource_congr (hoffer ▸ hfind)) hasks
  localBundle_eq := rfl
  keeps := hkeeps

/-- **A failed announcement keeps the clipboard, unless it is stored in the place of the local
bundle.** -/
theorem keepsClipboard_of_failed (hsound : OffersSound m.sourceRegistry)
    (hfailed : (m.announceLocalBundle surroundings bundle).value surroundings = false)
    (hother : m.replacesLocal surroundings bundle = false) :
    KeepsClipboard m ((m.announceLocalBundle surroundings bundle).finish surroundings) := by
  cases hreached : m.reachesRegistry surroundings bundle with
  | false =>
    rw [announceLocalBundle_of_not_reaches hreached]
    exact keepsClipboard_of_findBundle rfl (Keeps.refl _)
  | true =>
    by_cases hok : (m.sourceRegistry.store (m.announcedForm bundle)).1 = .ok
    · rw [announceLocalBundle_of_stored hreached hok] at hfailed ⊢
      have hunsent : (m.runtime.network && surroundings.sent) = false := hfailed
      simp only [Call.finish, Call.returning, Call.sends, hunsent]
      refine keepsClipboard_of_findBundle ?_ (keeps_store_clearOffer hok)
      by_cases hoffer : bundle.offerId = m.localBundle.offerId
      · -- The offer has no entry to begin with, and none is left.
        have hnone : m.sourceRegistry.findBundle m.localBundle.offerId = none := by
          simpa [replacesLocal, hreached, hok, hoffer] using hother
        rw [hnone, findBundle_eq_none, ← hoffer]
        exact fun entry hentry => ne_of_mem_store_clearOffer hok hentry
      · exact findBundle_store_clearOffer hsound hoffer
    · rw [announceLocalBundle_of_refused hreached hok]
      exact keepsClipboard_of_findBundle (findBundle_store_refused hsound hok _)
        (keeps_store_refused hok)

/-- **Where it is, the local bundle has no entry afterwards.** -/
theorem findBundle_of_failed
    (hfailed : (m.announceLocalBundle surroundings bundle).value surroundings = false)
    (hreplaces : m.replacesLocal surroundings bundle = true) :
    ((m.announceLocalBundle surroundings bundle).finish surroundings).sourceRegistry.findBundle
      m.localBundle.offerId = none := by
  simp only [replacesLocal, Bool.and_eq_true, decide_eq_true_eq, beq_iff_eq] at hreplaces
  obtain ⟨⟨⟨hreached, hok⟩, hoffer⟩, -⟩ := hreplaces
  rw [announceLocalBundle_of_stored hreached hok] at hfailed ⊢
  have hunsent : (m.runtime.network && surroundings.sent) = false := hfailed
  simp only [Call.finish, Call.returning, Call.sends, hunsent]
  rw [← hoffer]
  exact findBundle_eq_none.mpr fun entry hentry => ne_of_mem_store_clearOffer hok hentry

end ClipboardModule

/-- **In every run an announcement that fails keeps the clipboard, unless it is stored in the place
of the local bundle; then the local bundle's entry is gone.** -/
theorem failed_announcement (dependencies : ClipboardModuleDependencies)
    (largeDataWindow : Option ClipboardLargeDataWindow) (ops : List (ClipboardOp × Surroundings))
    (surroundings : Surroundings) (bundle : TransferSourceBundle)
    (hfailed : ((ClipboardModule.run dependencies largeDataWindow ops).announceLocalBundle
      surroundings bundle).value surroundings = false) :
    let m := ClipboardModule.run dependencies largeDataWindow ops
    let after := (m.announceLocalBundle surroundings bundle).finish surroundings
    (m.replacesLocal surroundings bundle = false → KeepsClipboard m after) ∧
      (m.replacesLocal surroundings bundle = true →
        after.sourceRegistry.findBundle m.localBundle.offerId = none) := by
  have hsound := (OfferHistory.undisturbed_self dependencies largeDataWindow ops).offers.sound
  rw [OfferHistory.current_run] at hsound
  exact ⟨ClipboardModule.keepsClipboard_of_failed hsound hfailed,
    ClipboardModule.findBundle_of_failed hfailed⟩

/-- The text is kept by an announcement under another id that is not sent. -/
theorem failed_announcement_other :
    let m := ClipboardModule.run textDependencies none announcedText
    KeepsClipboard m
      ((m.announceLocalBundle { sent := false } (textBundle 3)).finish { sent := false }) :=
  (failed_announcement textDependencies none announcedText { sent := false } (textBundle 3)
    (by decide +kernel)).1 (by decide +kernel)

/-- Announced again and not sent, it is lost. -/
theorem text_lost_to_announcement :
    let m := ClipboardModule.run textDependencies none announcedText
    (m.announceLocalBundle { sent := false } (textBundle 2)).value { sent := false } = false ∧
      ¬KeepsClipboard m
        ((m.announceLocalBundle { sent := false } (textBundle 2)).finish { sent := false }) := by
  refine ⟨by decide +kernel, fun h => ?_⟩
  exact absurd (congrArg (Option.map (·.messageKind)) (h.answers {} textRead (by decide +kernel)))
    (by decide +kernel)

end Clipboard
end FusionDesk
