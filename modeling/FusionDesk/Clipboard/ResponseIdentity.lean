import FusionDesk.Clipboard.CancelIds
import FusionDesk.Clipboard.ContentGate
import FusionDesk.Clipboard.ReadMoves

/-!
# Whose content a read delivers

A response names the request that it answers by `responseTo` only; its payload repeats which content
it is.  The module compares the two nowhere, so what the peer puts into a response to a pending read
is delivered as the answer, of whichever offer it is.

* `ReadHistory`: a module, with the requests it has tracked and the packets its results are made of.
* `deliversRead_iff`, `deliversRange_iff`: when an answer delivers what was asked for.
* `ownContent_of_honest`: in the runs in which every answer is honest, content of another offer is
  never delivered.
-/

namespace FusionDesk
namespace Clipboard

open Protocol Network
open FusionDesk.Module

/-! ## Answers -/

/-- **The response is to the request**: the same content, and no more bytes than were asked for. -/
structure AnswersRead (request : FdclReadFormatRequest) (response : FdclReadFormatResponse) :
    Prop where
  bundleId : response.bundleId = request.bundleId
  offerId : response.offerId = request.offerId
  ownerEpoch : response.ownerEpoch = request.ownerEpoch
  sourceId : response.sourceId = request.sourceId
  formatId : response.formatId = request.formatId
  itemIndex : response.itemIndex = request.itemIndex
  bytes : request.acceptedMaxBytes ≠ 0 → response.bytes.length ≤ request.acceptedMaxBytes.toNat

/-- **The response is to the request for a range.** -/
structure AnswersRange (request : FdclFileRangeRequest) (response : FdclFileRangeResponse) :
    Prop where
  bundleId : response.bundleId = request.bundleId
  offerId : response.offerId = request.offerId
  ownerEpoch : response.ownerEpoch = request.ownerEpoch
  sourceId : response.sourceId = request.sourceId
  objectId : response.objectId = request.objectId
  fileIndex : response.fileIndex = request.fileIndex
  offset : response.offset = request.offset
  bytes : request.requestedBytes ≠ 0 → response.bytes.length ≤ request.requestedBytes.toNat

/-- The packet carries a message of the operation, and says that all went well. -/
structure CarriesOk (packet : PacketEnvelope) (operation : FdclOperation) : Prop where
  kind : packet.messageKind = .response
  status : packet.responseStatus = .ok
  decoded : (decodeFdclPayload packet.payload).ok = true
  operation : (decodeFdclPayload packet.payload).operation = operation

/-- **The result is the content of the packet, and the packet answers the request.** -/
structure DeliversRead (request : FdclReadFormatRequest) (packet : PacketEnvelope)
    (result : TransferReadResult) : Prop where
  carries : CarriesOk packet .readFormatResponse
  bytes : result.bytes = (decodeFdclPayload packet.payload).readResponse.bytes
  answers : AnswersRead request (decodeFdclPayload packet.payload).readResponse

/-- **The result is the range in the packet, and the packet answers the request.** -/
structure DeliversRange (request : FdclFileRangeRequest) (packet : PacketEnvelope)
    (result : TransferFileRangeResult) : Prop where
  carries : CarriesOk packet .fileRangeResponse
  bytes : result.bytes = (decodeFdclPayload packet.payload).fileRangeResponse.bytes
  answers : AnswersRange request (decodeFdclPayload packet.payload).fileRangeResponse

/-- An answer of an honest peer to a read: content that the policy lets through is what was asked
for, and an error does not say that all went well. -/
structure HonestRead (policy : ClipboardPolicy) (request : FdclReadFormatRequest)
    (packet : PacketEnvelope) : Prop where
  response : CarriesOk packet .readFormatResponse →
    let response := (decodeFdclPayload packet.payload).readResponse
    Passes policy { canonicalFormat := response.canonicalFormat, bytes := response.bytes } →
      AnswersRead request response
  error : packet.messageKind = .error → Passes policy {} →
    (ClipboardModule.errorDetailOf packet).1 ≠ .ok

/-- An answer of an honest peer to a request for a range. -/
structure HonestRange (policy : ClipboardPolicy) (request : FdclFileRangeRequest)
    (packet : PacketEnvelope) : Prop where
  response : CarriesOk packet .fileRangeResponse →
    let response := (decodeFdclPayload packet.payload).fileRangeResponse
    response.bytes.length ≤ (effectiveMaxFileRangeBytes policy).toNat →
      AnswersRange request response
  error : packet.messageKind = .error → (ClipboardModule.errorDetailOf packet).1 ≠ .ok

/-! ## What is delivered -/

section Delivered

variable {policy : ClipboardPolicy} {packet : PacketEnvelope}

/-- Whether a result passes is a matter of its format and its bytes. -/
theorem Passes.congr {result result' : TransferReadResult} (h : Passes policy result)
    (hformat : result.canonicalFormat = result'.canonicalFormat)
    (hbytes : result.bytes = result'.bytes) : Passes policy result' := by
  obtain ⟨hreturned, hinline, hfiles⟩ := h
  rw [hformat] at hreturned hfiles
  rw [hbytes] at hinline hfiles
  exact ⟨hreturned, hinline, hfiles⟩

/-- What passes is let through as it is. -/
theorem enforced_of_passes {result : TransferReadResult} (hok : result.ok = true)
    (h : Passes policy result) : enforceReadResultPolicy policy result = result := by
  unfold enforceReadResultPolicy
  rw [if_neg (by simp [hok]), if_neg (by simp [h.returned]), if_neg (not_lt.mpr h.inline)]
  split
  next hlist => exact if_neg (not_not.mpr (h.files hlist))
  next => rfl

theorem ok_enforced_iff {result : TransferReadResult} :
    (enforceReadResultPolicy policy result).ok = true ↔ result.ok = true ∧ Passes policy result := by
  constructor
  · intro h
    exact (passes_of_enforced h).2
  · rintro ⟨hok, hpasses⟩
    rwa [enforced_of_passes hok hpasses]

/-- **When the result of a read is `Ok`**: the packet carries content, or an error that says so. -/
theorem ok_trackedReadResult_iff :
    (ClipboardModule.trackedReadResult policy packet).ok = true ↔
      CarriesOk packet .readFormatResponse ∧ Passes policy {
        canonicalFormat := (decodeFdclPayload packet.payload).readResponse.canonicalFormat
        bytes := (decodeFdclPayload packet.payload).readResponse.bytes } ∨
      packet.messageKind = .error ∧ (ClipboardModule.errorDetailOf packet).1 = .ok ∧
        Passes policy {} := by
  unfold ClipboardModule.trackedReadResult
  rw [ok_enforced_iff]
  by_cases hresponse : packet.messageKind = .response ∧ packet.responseStatus = .ok
  · have hnotError : packet.messageKind ≠ .error := by
      rw [hresponse.1]
      exact nofun
    rw [if_pos hresponse]
    dsimp only
    split
    next hbad =>
      constructor
      · rintro ⟨hfailed, -⟩
        cases hfailed
      · rintro (⟨hcarries, -⟩ | ⟨herror, -⟩)
        · rcases hbad with hbad | hbad
          · rw [hcarries.decoded] at hbad
            cases hbad
          · exact absurd hcarries.operation hbad
        · exact absurd herror hnotError
    next hgood =>
      push Not at hgood
      constructor
      · rintro ⟨-, hpasses⟩
        exact Or.inl ⟨⟨hresponse.1, hresponse.2, eq_true_of_ne_false hgood.1, hgood.2⟩,
          hpasses.congr rfl rfl⟩
      · rintro (⟨-, hpasses⟩ | ⟨herror, -⟩)
        · exact ⟨rfl, hpasses.congr rfl rfl⟩
        · exact absurd herror hnotError
  · have hnone : ¬CarriesOk packet .readFormatResponse :=
      fun hcarries => hresponse ⟨hcarries.kind, hcarries.status⟩
    rw [if_neg hresponse]
    by_cases herror : packet.messageKind = .error
    · rw [if_pos herror]
      constructor
      · rintro ⟨hstatus, hpasses⟩
        exact Or.inr ⟨herror, eq_of_beq hstatus, hpasses.congr rfl rfl⟩
      · rintro (⟨hcarries, -⟩ | ⟨-, hstatus, hpasses⟩)
        · exact absurd hcarries hnone
        · exact ⟨beq_iff_eq.mpr hstatus, hpasses.congr rfl rfl⟩
    · rw [if_neg herror]
      constructor
      · rintro ⟨hfailed, -⟩
        cases hfailed
      · rintro (⟨hcarries, -⟩ | ⟨hkind, -⟩)
        · exact absurd hcarries hnone
        · exact absurd hkind herror

/-- The result of a response has its bytes. -/
theorem bytes_trackedReadResult (hcarries : CarriesOk packet .readFormatResponse)
    (hok : (ClipboardModule.trackedReadResult policy packet).ok = true) :
    (ClipboardModule.trackedReadResult policy packet).bytes =
      (decodeFdclPayload packet.payload).readResponse.bytes := by
  have hsame := (passes_of_enforced hok).1
  unfold ClipboardModule.trackedReadResult
  rw [hsame, if_pos ⟨hcarries.kind, hcarries.status⟩]
  dsimp only
  rw [if_neg]
  rw [hcarries.decoded, hcarries.operation]
  exact fun h => h.elim nofun fun hne => hne rfl

/-- **An answer delivers what was asked for exactly when it is honest.** -/
theorem deliversRead_iff {request : FdclReadFormatRequest} :
    ((ClipboardModule.trackedReadResult policy packet).ok = true →
      DeliversRead request packet (ClipboardModule.trackedReadResult policy packet)) ↔
      HonestRead policy request packet := by
  constructor
  · intro h
    constructor
    · intro hcarries response hpasses
      exact (h (ok_trackedReadResult_iff.mpr (Or.inl ⟨hcarries, hpasses⟩))).answers
    · intro herror hpasses hstatus
      have hdelivers := h (ok_trackedReadResult_iff.mpr (Or.inr ⟨herror, hstatus, hpasses⟩))
      rw [hdelivers.carries.kind] at herror
      cases herror
  · intro h hok
    rcases ok_trackedReadResult_iff.mp hok with ⟨hcarries, hpasses⟩ | ⟨herror, hstatus, hpasses⟩
    · exact ⟨hcarries, bytes_trackedReadResult hcarries hok, h.response hcarries hpasses⟩
    · exact absurd hstatus (h.error herror hpasses)

/-- A range that is longer than the policy takes is refused, and any other kept. -/
theorem ok_bounded_iff {result : TransferFileRangeResult} {maxBytes : ℕ} {message : StdString} :
    (if result.ok = true ∧ result.bytes.length > maxBytes then
      { result with status := .tooLarge, bytes := [], message := message }
    else result).ok = true ↔ result.ok = true ∧ result.bytes.length ≤ maxBytes := by
  by_cases hlarge : result.ok = true ∧ result.bytes.length > maxBytes
  · rw [if_pos hlarge]
    constructor
    · exact nofun
    · exact fun h => absurd hlarge.2 (not_lt.mpr h.2)
  · rw [if_neg hlarge]
    exact ⟨fun hok => ⟨hok, not_lt.mp fun hlong => hlarge ⟨hok, hlong⟩⟩, And.left⟩

/-- **When the result of a request for a range is `Ok`.** -/
theorem ok_trackedFileRangeResult_iff :
    (ClipboardModule.trackedFileRangeResult policy packet).ok = true ↔
      CarriesOk packet .fileRangeResponse ∧
        (decodeFdclPayload packet.payload).fileRangeResponse.bytes.length ≤
          (effectiveMaxFileRangeBytes policy).toNat ∨
      packet.messageKind = .error ∧ (ClipboardModule.errorDetailOf packet).1 = .ok := by
  unfold ClipboardModule.trackedFileRangeResult
  simp only
  rw [ok_bounded_iff]
  by_cases hresponse : packet.messageKind = .response ∧ packet.responseStatus = .ok
  · have hnotError : packet.messageKind ≠ .error := by
      rw [hresponse.1]
      exact nofun
    rw [if_pos hresponse]
    split
    next hbad =>
      constructor
      · rintro ⟨hfailed, -⟩
        cases hfailed
      · rintro (⟨hcarries, -⟩ | ⟨herror, -⟩)
        · rcases hbad with hbad | hbad
          · rw [hcarries.decoded] at hbad
            cases hbad
          · exact absurd hcarries.operation hbad
        · exact absurd herror hnotError
    next hgood =>
      push Not at hgood
      constructor
      · rintro ⟨-, hbytes⟩
        exact Or.inl
          ⟨⟨hresponse.1, hresponse.2, eq_true_of_ne_false hgood.1, hgood.2⟩, hbytes⟩
      · rintro (⟨-, hbytes⟩ | ⟨herror, -⟩)
        · exact ⟨rfl, hbytes⟩
        · exact absurd herror hnotError
  · have hnone : ¬CarriesOk packet .fileRangeResponse :=
      fun hcarries => hresponse ⟨hcarries.kind, hcarries.status⟩
    rw [if_neg hresponse]
    by_cases herror : packet.messageKind = .error
    · rw [if_pos herror]
      constructor
      · rintro ⟨hstatus, -⟩
        exact Or.inr ⟨herror, eq_of_beq hstatus⟩
      · rintro (⟨hcarries, -⟩ | ⟨-, hstatus⟩)
        · exact absurd hcarries hnone
        · exact ⟨beq_iff_eq.mpr hstatus, Nat.zero_le _⟩
    · rw [if_neg herror]
      constructor
      · rintro ⟨hfailed, -⟩
        cases hfailed
      · rintro (⟨hcarries, -⟩ | ⟨hkind, -⟩)
        · exact absurd hcarries hnone
        · exact absurd hkind herror

theorem bytes_trackedFileRangeResult (hcarries : CarriesOk packet .fileRangeResponse)
    (hbytes : (decodeFdclPayload packet.payload).fileRangeResponse.bytes.length ≤
      (effectiveMaxFileRangeBytes policy).toNat) :
    (ClipboardModule.trackedFileRangeResult policy packet).bytes =
      (decodeFdclPayload packet.payload).fileRangeResponse.bytes := by
  unfold ClipboardModule.trackedFileRangeResult
  have hgood : ¬((decodeFdclPayload packet.payload).ok = false ∨
      (decodeFdclPayload packet.payload).operation ≠ .fileRangeResponse) := by
    rw [hcarries.decoded, hcarries.operation]
    exact fun h => h.elim nofun fun hne => hne rfl
  simp only [if_pos (And.intro hcarries.kind hcarries.status), if_neg hgood]
  rw [if_neg fun h => absurd h.2 (not_lt.mpr hbytes)]

/-- **So is an answer to a request for a range.** -/
theorem deliversRange_iff {request : FdclFileRangeRequest} :
    ((ClipboardModule.trackedFileRangeResult policy packet).ok = true →
      DeliversRange request packet (ClipboardModule.trackedFileRangeResult policy packet)) ↔
      HonestRange policy request packet := by
  constructor
  · intro h
    constructor
    · intro hcarries response hbytes
      exact (h (ok_trackedFileRangeResult_iff.mpr (Or.inl ⟨hcarries, hbytes⟩))).answers
    · intro herror hstatus
      have hdelivers := h (ok_trackedFileRangeResult_iff.mpr (Or.inr ⟨herror, hstatus⟩))
      rw [hdelivers.carries.kind] at herror
      cases herror
  · intro h hok
    rcases ok_trackedFileRangeResult_iff.mp hok with ⟨hcarries, hbytes⟩ | ⟨herror, hstatus⟩
    · exact ⟨hcarries, bytes_trackedFileRangeResult hcarries hbytes, h.response hcarries hbytes⟩
    · exact absurd hstatus (h.error herror)

end Delivered

/-! ## Runs -/

/-- A call that waits for its send, and the request and the packet of which its result is made. -/
structure AnsweringCall extends SuspendedCall where
  answer : Option (FdclFileRangeRequest × PacketEnvelope) := none

/-- A module, its suspended calls from the innermost on, the requests for content that it has tracked,
by id, and the answers of which the results of the last read and of the last range are made. -/
structure ReadHistory where
  clipboard : ClipboardModule
  suspended : List AnsweringCall := []
  asked : MessageId → Option TrackedRead := fun _ => none
  readAnswer : Option (FdclReadFormatRequest × PacketEnvelope) := none
  rangeAnswer : Option (FdclFileRangeRequest × PacketEnvelope) := none

namespace ReadHistory

def start (dependencies : ClipboardModuleDependencies)
    (largeDataWindow : Option ClipboardLargeDataWindow) : ReadHistory where
  clipboard := ClipboardModule.construct dependencies largeDataWindow

variable (history : ReadHistory)

/-- The handler that an operation calls with an answer of the peer, and the answer. -/
def answered : ClipboardOp → Option (ReadHandler × PacketEnvelope)
  | .handlePacket packet =>
    if history.clipboard.state = .running ∧ received packet = .answer then
      (history.clipboard.readRequests.complete packet).2.1.head?.map fun call =>
        (call.handler, packet)
    else none
  | _ => none

/-- The tracked read that an operation answers, and the answer. -/
def readAnswered (op : ClipboardOp) : Option (FdclReadFormatRequest × PacketEnvelope) :=
  match history.answered op with
  | some (.readResponse, packet) =>
    match history.asked packet.responseTo with
    | some (.format request) => some (request, packet)
    | _ => none
  | _ => none

/-- The tracked request for a range that an operation answers, and the answer. -/
def rangeAnswered (op : ClipboardOp) : Option (FdclFileRangeRequest × PacketEnvelope) :=
  match history.answered op with
  | some (.fileRangeResponse, packet) =>
    match history.asked packet.responseTo with
    | some (.range request) => some (request, packet)
    | _ => none
  | _ => none

/-- The requests that have been tracked, after a call. -/
def askedAfter (op : ClipboardOp) (call : Call Unit) : MessageId → Option TrackedRead :=
  match call.outgoing, op.trackedRead history.clipboard.policy with
  | some _, some read => Function.update history.asked history.clipboard.readMessageId (some read)
  | _, _ => history.asked

/-- A call up to its send, or the return of the send of the innermost call. -/
def step (history : ReadHistory) : PartyOp → ReadHistory
  | .call op surroundings =>
    let call := history.clipboard.perform surroundings op
    { clipboard := call.after
      suspended :=
        (call.outgoing.map fun outgoing =>
          { rest := outgoing.rest
            sent := call.sends surroundings
            answer := history.rangeAnswered op }).toList ++ history.suspended
      asked := history.askedAfter op call
      readAnswer := (history.readAnswered op).or history.readAnswer
      rangeAnswer :=
        if call.outgoing.isSome then history.rangeAnswer
        else (history.rangeAnswered op).or history.rangeAnswer }
  | .sendReturns =>
    match history.suspended with
    | [] => history
    | call :: rest =>
      { history with
        clipboard := history.clipboard.afterSend call.sent call.rest
        suspended := rest
        rangeAnswer := call.answer.or history.rangeAnswer }

/-- **A result that is `Ok` is the content that was asked for.** -/
structure OwnContent : Prop where
  read : ∀ result ∈ history.clipboard.lastReadResult, result.ok = true →
    ∃ answer ∈ history.readAnswer, DeliversRead answer.1 answer.2 result
  range : ∀ result ∈ history.clipboard.lastFileRangeResult, result.ok = true →
    ∃ answer ∈ history.rangeAnswer, DeliversRange answer.1 answer.2 result

/-- **An operation is no answer of the peer to a tracked request for content, or an honest one.** -/
structure HonestOp (op : ClipboardOp) : Prop where
  read : ∀ answer ∈ history.readAnswered op,
    HonestRead history.clipboard.policy answer.1 answer.2
  range : ∀ answer ∈ history.rangeAnswered op,
    HonestRange history.clipboard.policy answer.1 answer.2

/-- Every answer of a run is honest. -/
def HonestStep (history : ReadHistory) : PartyOp → Prop
  | .call op _ => history.HonestOp op
  | .sendReturns => True

/-! ### What a run keeps -/

end ReadHistory

/-- **What a suspended call may do to the reads**: nothing, fail the request that it has sent, or
deliver the range that was asked for. -/
inductive AnsweringCall.Sound (call : AnsweringCall) : Prop
  | plain (leaves : call.rest.Leaves ClipboardModule.readPart) (unanswered : call.answer = none)
  | requested {packet : PacketEnvelope} (rest : call.rest = .requested packet)
      (plain : NoErrorDetail packet.payload) (unanswered : call.answer = none)
  | acknowledged {responseTo : MessageId} {terminal : Bool} {result : TransferFileRangeResult}
      (rest : call.rest = .acknowledged responseTo terminal result)
      (delivers : result.ok = true →
        ∃ answer ∈ call.answer, DeliversRange answer.1 answer.2 result)

/-- The handlers of the pending requests belong to what was asked for. -/
def HandlersBelong (tracker : RequestTracker ReadHandler) (asked : MessageId → Option TrackedRead) :
    Prop :=
  ∀ (id : MessageId) (pending : PendingRequest ReadHandler), tracker.pending[id]? = some pending →
    pending.handler.Belongs (asked id)

theorem HandlersBelong.of_keepsPending {tracker tracker' : RequestTracker ReadHandler}
    {asked : MessageId → Option TrackedRead} (h : HandlersBelong tracker asked)
    (hkeeps : KeepsPending tracker' tracker) : HandlersBelong tracker' asked :=
  fun id pending hpending => h id pending (hkeeps id pending hpending)

namespace ReadHistory

/-- Handlers belong to requests, and what is delivered, now or later, is what was asked for. -/
structure Accounted (history : ReadHistory) : Prop where
  asked : HandlersBelong history.clipboard.readRequests history.asked
  suspended : ∀ call ∈ history.suspended, call.Sound
  own : history.OwnContent

variable {history : ReadHistory}

theorem accounted_start (dependencies : ClipboardModuleDependencies)
    (largeDataWindow : Option ClipboardLargeDataWindow) :
    (start dependencies largeDataWindow).Accounted where
  asked := by
    intro id pending hpending
    rw [show (start dependencies largeDataWindow).clipboard.readRequests.pending = ∅ from rfl,
      Std.ExtTreeMap.getElem?_empty] at hpending
    cases hpending
  suspended := nofun
  own := ⟨nofun, nofun⟩

/-- Results that are no better are still those that were asked for. -/
theorem OwnContent.of_fails (h : history.OwnContent) {history' : ReadHistory}
    (hfails : ClipboardModule.FailsReads history.clipboard history'.clipboard)
    (hread : history'.readAnswer = history.readAnswer)
    (hrange : history'.rangeAnswer = history.rangeAnswer) : history'.OwnContent := by
  constructor
  · intro result hresult hok
    rw [hread]
    exact h.read result (hfails.read result hresult hok) hok
  · intro result hresult hok
    rw [hrange]
    exact h.range result (hfails.range result hresult hok) hok

/-- The history after a call. -/
structure CallStep (history history' : ReadHistory) (op : ClipboardOp) (call : Call Unit)
    (surroundings : Surroundings) : Prop where
  clipboard : history'.clipboard = call.after
  suspended : history'.suspended =
    (call.outgoing.map fun outgoing => ({
      rest := outgoing.rest
      sent := call.sends surroundings
      answer := history.rangeAnswered op } : AnsweringCall)).toList ++ history.suspended
  asked : history'.asked = history.askedAfter op call
  readAnswer : history'.readAnswer = (history.readAnswered op).or history.readAnswer
  rangeAnswer : history'.rangeAnswer =
    if call.outgoing.isSome then history.rangeAnswer
    else (history.rangeAnswered op).or history.rangeAnswer

theorem callStep (history : ReadHistory) (op : ClipboardOp) (surroundings : Surroundings) :
    CallStep history (history.step (.call op surroundings)) op
      (history.clipboard.perform surroundings op) surroundings :=
  ⟨rfl, rfl, rfl, rfl, rfl⟩

/-! ### Calls that are no answers -/

/-- What is no answer of the peer answers nothing. -/
theorem answered_eq_none {op : ClipboardOp} (hop : ¬history.clipboard.TakesAnswer op) :
    history.readAnswered op = none ∧ history.rangeAnswered op = none := by
  have hanswered : history.answered op = none := by
    unfold answered
    split
    next packet => exact if_neg fun h => hop ⟨packet, rfl, h⟩
    next => rfl
  constructor
  · simp only [readAnswered, hanswered]
  · simp only [rangeAnswered, hanswered]

/-- **A call that is no answer of the peer** delivers nothing. -/
theorem accounted_call (h : history.Accounted) {op : ClipboardOp}
    (hop : ¬history.clipboard.TakesAnswer op) (surroundings : Surroundings) :
    (history.step (.call op surroundings)).Accounted := by
  have hmove := history.clipboard.readMove_perform surroundings hop
  obtain ⟨hclipboard, hsuspended, hasked, hread, hrange⟩ := history.callStep op surroundings
  obtain ⟨hreadNone, hrangeNone⟩ := answered_eq_none hop
  rw [hreadNone, Option.none_or] at hread
  rw [hrangeNone, Option.none_or, ite_self] at hrange
  rw [hrangeNone] at hsuspended
  generalize history.step (.call op surroundings) = history' at *
  generalize history.clipboard.perform surroundings op = call at *
  cases hmove with
  | kept leaves untracked =>
    have hfails : ClipboardModule.FailsReads history.clipboard history'.clipboard := by
      rw [hclipboard]
      exact .of_eq leaves.before
    have hsame : history'.asked = history.asked := by
      rw [hasked, askedAfter]
      cases hout : call.outgoing with
      | none => rfl
      | some outgoing =>
        rw [untracked (by rw [hout]; rfl)]
    refine ⟨?_, fun suspended hmem => ?_, h.own.of_fails hfails hread hrange⟩
    · rw [hsame]
      exact h.asked.of_keepsPending hfails.pending
    · rw [hsuspended, List.mem_append, Option.mem_toList,
        Option.map_eq_some_iff] at hmem
      rcases hmem with ⟨outgoing, hout, rfl⟩ | hmem
      · exact .plain (leaves.rest outgoing hout) rfl
      · exact h.suspended suspended hmem
  | failed fails silent =>
    have hfails : ClipboardModule.FailsReads history.clipboard history'.clipboard := by
      rwa [hclipboard]
    have hsame : history'.asked = history.asked := by
      simp only [hasked, askedAfter, silent]
    refine ⟨?_, fun suspended hmem => ?_, h.own.of_fails hfails hread hrange⟩
    · rw [hsame]
      exact h.asked.of_keepsPending hfails.pending
    · rw [hsuspended, silent] at hmem
      exact h.suspended suspended hmem
  | @tracked packet handler outgoing plain free pending read range belongs =>
    refine ⟨fun id request hpending => ?_, fun suspended hmem => ?_, ?_, ?_⟩
    · rw [hclipboard, pending] at hpending
      have hother : history.clipboard.readMessageId ≠ id → history'.asked id = history.asked id := by
        intro hne
        rw [hasked, askedAfter, outgoing]
        cases op.trackedRead history.clipboard.policy with
        | none => rfl
        | some read => exact Function.update_of_ne (Ne.symm hne) _ _
      by_cases hid : history.clipboard.readMessageId = id
      · rw [if_pos hid, Option.some_inj] at hpending
        rw [← hpending, hasked, askedAfter, outgoing, ← hid]
        cases htracked : op.trackedRead history.clipboard.policy with
        | none =>
          rw [htracked] at belongs
          cases handler with
          | readResponse =>
            obtain ⟨request, hrequest⟩ := belongs
            cases hrequest
          | fileRangeResponse =>
            obtain ⟨request, hrequest⟩ := belongs
            cases hrequest
          | objectLockResponse => trivial
          | objectUnlockResponse => trivial
        | some read =>
          rw [htracked] at belongs
          simp only [Function.update_self]
          exact belongs
      · rw [if_neg hid] at hpending
        rw [hother hid]
        exact h.asked id request hpending
    · rw [hsuspended, outgoing, List.mem_append, Option.mem_toList] at hmem
      rcases hmem with hmem | hmem
      · cases hmem
        exact .requested rfl plain rfl
      · exact h.suspended suspended hmem
    · intro result hresult hok
      rw [hclipboard, read] at hresult
      rw [hread]
      exact h.own.read result hresult hok
    · intro result hresult hok
      rw [hclipboard, range] at hresult
      rw [hrange]
      exact h.own.range result hresult hok

/-! ### Answers of the peer -/

/-- What is answered is what is pending under the id that the answer names. -/
theorem answered_eq {packet : PacketEnvelope} (hrunning : history.clipboard.state = .running)
    (hanswer : received packet = .answer) {calls : List (HandlerCall ReadHandler)}
    (hcalls : (history.clipboard.readRequests.complete packet).2.1 = calls) :
    history.answered (.handlePacket packet) =
      calls.head?.map fun call => (call.handler, packet) := by
  rw [answered, if_pos ⟨hrunning, hanswer⟩, hcalls]

/-- No answer asks for anything. -/
theorem askedAfter_handlePacket (packet : PacketEnvelope) (call : Call Unit) :
    history.askedAfter (.handlePacket packet) call = history.asked := by
  unfold askedAfter
  cases call.outgoing <;> rfl

/-- **An honest answer of the peer** delivers what was asked for. -/
theorem accounted_answer (h : history.Accounted) {packet : PacketEnvelope}
    (hrunning : history.clipboard.state = .running) (hanswer : received packet = .answer)
    (hhonest : history.HonestOp (.handlePacket packet)) (surroundings : Surroundings) :
    (history.step (.call (.handlePacket packet) surroundings)).Accounted := by
  have hperform : history.clipboard.perform surroundings (.handlePacket packet) =
      history.clipboard.handleReadResponse surroundings packet := by
    show history.clipboard.handlePacket surroundings packet = _
    rw [history.clipboard.handlePacket_eq surroundings packet hrunning, hanswer]
    rfl
  have hmove := history.clipboard.answerMove_handleReadResponse surroundings packet
  obtain ⟨hclipboard, hsuspended, hasked, hread, hrange⟩ :=
    history.callStep (.handlePacket packet) surroundings
  rw [hperform] at hclipboard hsuspended hasked hrange
  rw [askedAfter_handlePacket] at hasked
  generalize history.step (.call (.handlePacket packet) surroundings) = history' at *
  generalize history.clipboard.handleReadResponse surroundings packet = call at *
  obtain ⟨hhonestRead, hhonestRange⟩ := hhonest
  cases hmove with
  | missed calls part silent =>
    have hanswered := answered_eq hrunning hanswer calls
    rw [readAnswered, hanswered] at hread
    rw [rangeAnswered, hanswered, silent] at hrange
    have hfails : ClipboardModule.FailsReads history.clipboard history'.clipboard := by
      rw [hclipboard]
      exact .of_eq part
    refine ⟨?_, ?_, h.own.of_fails hfails hread hrange⟩
    · rw [hasked]
      exact h.asked.of_keepsPending hfails.pending
    · rw [hsuspended, silent]
      exact h.suspended
  | @settled pending pending_eq calls part silent =>
    have hanswered := answered_eq hrunning hanswer calls
    have hbelongs := h.asked _ _ pending_eq
    simp only [ClipboardModule.readPart, Prod.mk.injEq] at part
    obtain ⟨htracker, hlastRead, hlastRange⟩ := part
    rw [← hclipboard] at htracker hlastRead hlastRange
    have hbelongs' : HandlersBelong history'.clipboard.readRequests history'.asked := by
      rw [htracker, hasked]
      exact h.asked.of_keepsPending (ClipboardModule.keepsPending_complete _ packet)
    have hsound : ∀ call ∈ history'.suspended, call.Sound := by
      rw [hsuspended, silent]
      exact h.suspended
    refine ⟨hbelongs', hsound, ?_⟩
    cases hhandler : pending.handler with
    | readResponse =>
      rw [hhandler] at hbelongs hanswered hlastRead hlastRange
      obtain ⟨request, hrequest⟩ := hbelongs
      have hreadAnswered : history.readAnswered (.handlePacket packet) = some (request, packet) := by
        simp only [readAnswered, hanswered, List.head?_cons, Option.map_some, hrequest]
      rw [hreadAnswered] at hread
      rw [rangeAnswered, hanswered, silent] at hrange
      constructor
      · intro result hresult hok
        rw [hlastRead] at hresult
        cases hresult
        exact ⟨_, hread, deliversRead_iff.mpr (hhonestRead _ hreadAnswered) hok⟩
      · intro result hresult hok
        rw [hlastRange] at hresult
        rw [hrange]
        exact h.own.range result hresult hok
    | fileRangeResponse =>
      rw [hhandler] at hbelongs hanswered hlastRead hlastRange
      obtain ⟨request, hrequest⟩ := hbelongs
      have hrangeAnswered : history.rangeAnswered (.handlePacket packet) =
          some (request, packet) := by
        simp only [rangeAnswered, hanswered, List.head?_cons, Option.map_some, hrequest]
      rw [hrangeAnswered, silent] at hrange
      rw [readAnswered, hanswered] at hread
      constructor
      · intro result hresult hok
        rw [hlastRead] at hresult
        rw [hread]
        exact h.own.read result hresult hok
      · intro result hresult hok
        rw [hlastRange] at hresult
        cases hresult
        exact ⟨_, hrange, deliversRange_iff.mpr (hhonestRange _ hrangeAnswered) hok⟩
    | _ =>
      rw [hhandler] at hanswered hlastRead hlastRange
      rw [readAnswered, hanswered] at hread
      rw [rangeAnswered, hanswered, silent] at hrange
      constructor
      · intro result hresult hok
        rw [hlastRead] at hresult
        rw [hread]
        exact h.own.read result hresult hok
      · intro result hresult hok
        rw [hlastRange] at hresult
        rw [hrange]
        exact h.own.range result hresult hok
  | @acknowledged pending ack terminal pending_eq range calls part outgoing =>
    have hanswered := answered_eq hrunning hanswer calls
    have hbelongs := h.asked _ _ pending_eq
    rw [range] at hbelongs hanswered
    obtain ⟨request, hrequest⟩ := hbelongs
    have hrangeAnswered : history.rangeAnswered (.handlePacket packet) =
        some (request, packet) := by
      simp only [rangeAnswered, hanswered, List.head?_cons, Option.map_some, hrequest]
    rw [readAnswered, hanswered] at hread
    rw [outgoing] at hrange
    have hfails : ClipboardModule.FailsReads history.clipboard history'.clipboard := by
      rw [hclipboard]
      exact .of_eq part
    refine ⟨?_, fun suspended hmem => ?_, h.own.of_fails hfails hread hrange⟩
    · rw [hasked]
      exact h.asked.of_keepsPending hfails.pending
    · rw [hsuspended, outgoing, List.mem_append, Option.mem_toList] at hmem
      rcases hmem with hmem | hmem
      · cases hmem
        exact .acknowledged rfl fun hok => ⟨_, hrangeAnswered,
          deliversRange_iff.mpr (hhonestRange _ hrangeAnswered) hok⟩
      · exact h.suspended suspended hmem

/-! ### Returns of sends -/

/-- **A send that returns** delivers what its call is about. -/
theorem accounted_sendReturns (h : history.Accounted) : (history.step .sendReturns).Accounted := by
  cases hsuspended : history.suspended with
  | nil =>
    have hsame : history.step .sendReturns = history := by simp only [step, hsuspended]
    rwa [hsame]
  | cons call rest =>
    have hstep : history.step .sendReturns =
        { history with
          clipboard := history.clipboard.afterSend call.sent call.rest
          suspended := rest
          rangeAnswer := call.answer.or history.rangeAnswer } := by simp only [step, hsuspended]
    have hcall : call.Sound := h.suspended call (by rw [hsuspended]; exact List.mem_cons_self)
    have hrest : ∀ call ∈ rest, call.Sound := fun call hmem =>
      h.suspended call (by rw [hsuspended]; exact List.mem_cons_of_mem _ hmem)
    rw [hstep]
    have hfailed : ClipboardModule.FailsReads history.clipboard
        (history.clipboard.afterSend call.sent call.rest) → call.answer = none →
        Accounted { history with
          clipboard := history.clipboard.afterSend call.sent call.rest
          suspended := rest
          rangeAnswer := call.answer.or history.rangeAnswer } := by
      intro hfails hnone
      refine ⟨h.asked.of_keepsPending hfails.pending, hrest, h.own.of_fails hfails rfl ?_⟩
      rw [hnone, Option.none_or]
    cases hcall with
    | plain leaves unanswered => exact hfailed (.of_eq (leaves _ _)) unanswered
    | @requested packet hrequested plain unanswered =>
      refine hfailed ?_ unanswered
      rw [hrequested]
      cases call.sent with
      | true => exact .of_eq rfl
      | false => exact history.clipboard.failsReads_completeRead {} _ (ownError_failed plain)
    | @acknowledged responseTo terminal result hacknowledged delivers =>
      rw [hacknowledged]
      refine ⟨?_, hrest, ?_, ?_⟩
      · refine h.asked.of_keepsPending ?_
        cases terminal with
        | true => exact ClipboardModule.keepsPending_erase _ responseTo
        | false => exact KeepsPending.of_eq rfl
      · exact h.own.read
      · intro result' hresult hok
        cases hresult
        obtain ⟨answer, hanswer, hdelivers⟩ := delivers hok
        refine ⟨answer, ?_, hdelivers⟩
        show call.answer.or history.rangeAnswer = some answer
        rw [show call.answer = some answer from hanswer, Option.some_or]

/-- **What a step keeps**, if it answers honestly or not at all. -/
theorem accounted_step (h : history.Accounted) (op : PartyOp) (hhonest : history.HonestStep op) :
    (history.step op).Accounted := by
  cases op with
  | call op surroundings =>
    by_cases hanswer : history.clipboard.TakesAnswer op
    · obtain ⟨packet, rfl, hrunning, hreceived⟩ := hanswer
      exact accounted_answer h hrunning hreceived hhonest surroundings
    · exact accounted_call h hanswer surroundings
  | sendReturns => exact accounted_sendReturns h

end ReadHistory

/-- **In the runs in which every answer is honest, a result that is `Ok` is the content that was asked
for**, at every moment. -/
theorem ownContent_of_honest (dependencies : ClipboardModuleDependencies)
    (largeDataWindow : Option ClipboardLargeDataWindow) (ops : List PartyOp)
    (h : Runs.EveryStep ReadHistory.step ReadHistory.HonestStep
      (.start dependencies largeDataWindow) ops) :
    (Runs.run ReadHistory.step (.start dependencies largeDataWindow) ops).OwnContent :=
  (Runs.run_invariant_of_everyStep (I := ReadHistory.Accounted)
    (ReadHistory.accounted_start dependencies largeDataWindow)
    (fun _ op haccounted hhonest => ReadHistory.accounted_step haccounted op hhonest) h).own

/-! ### A response of another offer -/

/-- The peer answers a read with the text that it offers under the id. -/
def textAnswer (offerId : TransferOfferId) : PacketEnvelope :=
  { peerPacket .response (encodeFdclReadFormatResponse {
      bundleId := 1
      offerId := offerId
      ownerEpoch := 1
      sourceId := 3
      formatId := 5
      canonicalFormat := textPlainUtf8Format
      bytes := [104, 105] }) with
    responseTo := 1 }

/-- The module reads the text that is offered under the id `2`. -/
def textAsked : List PartyOp :=
  [.call (.attach { sessionId := 1, traceId := 1, network := true }) {}, .call .start {},
    .call (.requestRemoteFormat (fdclReadOf 2) 0 0) {}, .sendReturns]

/-- The history when the text under the id is the answer. -/
def textAnswered (offerId : TransferOfferId) : ReadHistory :=
  Runs.run ReadHistory.step (.start textDependencies none)
    (textAsked ++ [.call (.handlePacket (textAnswer offerId)) {}])

/-- An operation that answers nothing is honest. -/
theorem ReadHistory.honestOp_of_unanswered {history : ReadHistory} {op : ClipboardOp}
    (h : (history.answered op).isNone = true) : history.HonestOp op := by
  have hnone := Option.isNone_iff_eq_none.mp h
  constructor
  · rw [readAnswered, hnone]
    exact nofun
  · rw [rangeAnswered, hnone]
    exact nofun

/-- The text that was asked for is delivered. -/
theorem ownContent_of_honest_text :
    (textAnswered 2).clipboard.lastReadResult.any (·.ok) = true ∧ (textAnswered 2).OwnContent := by
  refine ⟨by decide +kernel, ownContent_of_honest textDependencies none _
    (Runs.everyStep_concat.mpr ⟨?_, ?_⟩)⟩
  · exact ⟨ReadHistory.honestOp_of_unanswered (by decide +kernel),
      ReadHistory.honestOp_of_unanswered (by decide +kernel),
      ReadHistory.honestOp_of_unanswered (by decide +kernel), trivial, trivial⟩
  · have hanswered : (Runs.run ReadHistory.step (.start textDependencies none)
        textAsked).readAnswered (.handlePacket (textAnswer 2)) =
          some (fdclReadOf 2, textAnswer 2) := by decide +kernel
    have hnone : (Runs.run ReadHistory.step (.start textDependencies none)
        textAsked).rangeAnswered (.handlePacket (textAnswer 2)) = none := by decide +kernel
    constructor
    · rw [hanswered]
      rintro _ ⟨⟩
      exact ⟨fun _ _ => ⟨by decide +kernel, by decide +kernel, by decide +kernel,
        by decide +kernel, by decide +kernel, by decide +kernel, by decide +kernel⟩, nofun⟩
    · rw [hnone]
      exact nofun

/-- **The text of another offer is delivered** as the answer. -/
theorem other_offer_delivered :
    (textAnswered 3).clipboard.lastReadResult.any (·.ok) = true ∧ ¬(textAnswered 3).OwnContent := by
  have hok : (textAnswered 3).clipboard.lastReadResult.any (·.ok) = true := by decide +kernel
  refine ⟨hok, fun h => ?_⟩
  obtain ⟨result, hresult, hresultOk⟩ := (Option.any_eq_true _ _).mp hok
  obtain ⟨answer, hanswer, hdelivers⟩ := h.read result hresult hresultOk
  have hgiven : (textAnswered 3).readAnswer = some (fdclReadOf 2, textAnswer 3) := by
    decide +kernel
  rw [Option.mem_def, hgiven, Option.some_inj] at hanswer
  have hoffer := hdelivers.answers.offerId
  rw [← hanswer] at hoffer
  exact absurd hoffer (by decide +kernel)

end Clipboard
end FusionDesk
