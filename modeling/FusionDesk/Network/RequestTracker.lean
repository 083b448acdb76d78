import FusionDesk.Protocol.Types
import Mathlib.Data.List.Basic
import Std.Data.ExtTreeMap

/-!
# The request tracker

`include/fusiondesk/core/network/request_tracker.h` and `src/core/network/request_tracker.cpp`: the
requests that wait for a response, by message id, each with the handler its responses go to.

A handler is a value of any type `H`, and an operation returns the calls it makes, in order, next
to its own result: here the handlers do nothing to the tracker.  An empty `std::function` is `none`,
and only `track` can be given one, so a pending request has a handler.

* `track_cases`, `complete_cases`, `pending_sweep`: which requests are pending after an operation.
* `calls_sweep`, `count_sweep`: the calls of `cancelByChannel` and `expire`, and the number they
  return.
-/

namespace FusionDesk
namespace Network

open Protocol

structure TrackResult where
  tracked : Bool := false
  status : ResponseStatus := .failed
  message : String := ""
  deriving DecidableEq, Repr

namespace TrackResult

def ok : TrackResult := ⟨true, .ok, ""⟩

def error (status : ResponseStatus) (message : String) : TrackResult := ⟨false, status, message⟩

end TrackResult

structure PendingRequest (H : Type*) where
  request : PacketEnvelope
  handler : H
  deadlineUsec : UInt64 := 0
  deriving DecidableEq, Repr

/-- `handler(response)`. -/
structure HandlerCall (H : Type*) where
  handler : H
  response : PacketEnvelope
  deriving DecidableEq, Repr

/-- `class RequestTracker`. -/
structure RequestTracker (H : Type*) where
  pending : Std.ExtTreeMap MessageId (PendingRequest H) := ∅

namespace RequestTracker

variable {H : Type*}

/-! ## The functions of the source -/

def isTrackableRequest (messageKind : MessageKind) : Bool :=
  messageKind == .request || messageKind == .streamStart || messageKind == .cancel

def isTerminalResponse (messageKind : MessageKind) : Bool :=
  messageKind == .response || messageKind == .error || messageKind == .streamEnd

def makeSyntheticResponse (pending : PendingRequest H) (status : ResponseStatus)
    (messageKind : MessageKind) : PacketEnvelope where
  protocolMajor := pending.request.protocolMajor
  protocolMinor := pending.request.protocolMinor
  sessionId := pending.request.sessionId
  traceId := pending.request.traceId
  correlationId := pending.request.correlationId
  responseTo := pending.request.messageId
  channelId := pending.request.channelId
  channelType := pending.request.channelType
  packetType := pending.request.packetType
  messageKind := messageKind
  priority := pending.request.priority
  responseStatus := status

/-- The deadline of a request: `std::uint64_t` arithmetic, which wraps. -/
def deadlineOf (request : PacketEnvelope) : UInt64 :=
  request.monotonicTimestampUsec + request.timeoutMs.toUInt64 * 1000

def track (tracker : RequestTracker H) (request : PacketEnvelope) (handler : Option H) :
    TrackResult × RequestTracker H :=
  match handler with
  | none => (.error .invalidArgument "response handler is required", tracker)
  | some handler =>
    if ¬ isTrackableRequest request.messageKind then
      (.error .invalidArgument "message kind is not trackable", tracker)
    else if request.messageId = 0 then
      (.error .invalidArgument "message id is required", tracker)
    else if request.correlationId = 0 then
      (.error .invalidArgument "correlation id is required", tracker)
    else if request.timeoutMs = 0 then
      (.error .invalidArgument "timeout is required", tracker)
    else if tracker.pending[request.messageId]?.isSome then
      (.error .conflict "message id is already pending", tracker)
    else
      (.ok, { tracker with
        pending := tracker.pending.insert request.messageId
          { request := request, handler := handler, deadlineUsec := deadlineOf request } })

/-- `pending_.erase(it)`. -/
def erase (tracker : RequestTracker H) (messageId : MessageId) : RequestTracker H :=
  { tracker with pending := tracker.pending.erase messageId }

def complete (tracker : RequestTracker H) (response : PacketEnvelope) :
    Bool × List (HandlerCall H) × RequestTracker H :=
  if response.responseTo = 0 then (false, [], tracker)
  else
    match tracker.pending[response.responseTo]? with
    | none => (false, [], tracker)
    | some pending =>
      (true, [⟨pending.handler, response⟩],
        if isTerminalResponse response.messageKind then tracker.erase response.responseTo
        else tracker)

/-- The first loop of `cancelByChannel` and `expire`: the ids to end, in the order of the map. -/
def collect (tracker : RequestTracker H) (ends : PendingRequest H → Bool) : List MessageId :=
  (tracker.pending.toList.filter fun item => ends item.2).map Prod.fst

/-- The second loop of `cancelByChannel` and `expire`. -/
def endAll (tracker : RequestTracker H) (status : ResponseStatus) :
    List MessageId → List (HandlerCall H) × RequestTracker H
  | [] => ([], tracker)
  | messageId :: rest =>
    match tracker.pending[messageId]? with
    | none => tracker.endAll status rest
    | some pending =>
      let after := (tracker.erase messageId).endAll status rest
      (⟨pending.handler, makeSyntheticResponse pending status .error⟩ :: after.1, after.2)

/-- What `cancelByChannel` and `expire` have in common. -/
def sweep (tracker : RequestTracker H) (ends : PendingRequest H → Bool) (status : ResponseStatus) :
    ℕ × List (HandlerCall H) × RequestTracker H :=
  let ids := tracker.collect ends
  (ids.length, tracker.endAll status ids)

/-- The requests `cancelByChannel` ends. -/
def onChannel (channelId : ChannelId) (channelType : ChannelType) (pending : PendingRequest H) :
    Bool :=
  pending.request.channelId == channelId && pending.request.channelType == channelType

def cancelByChannel (tracker : RequestTracker H) (channelId : ChannelId)
    (channelType : ChannelType) (status : ResponseStatus) :
    ℕ × List (HandlerCall H) × RequestTracker H :=
  tracker.sweep (onChannel channelId channelType) status

/-- The requests `expire` ends. -/
def expired (nowUsec : UInt64) (pending : PendingRequest H) : Bool :=
  decide (pending.deadlineUsec ≤ nowUsec)

def expire (tracker : RequestTracker H) (nowUsec : UInt64) :
    ℕ × List (HandlerCall H) × RequestTracker H :=
  tracker.sweep (expired nowUsec) .timeout

/-! ## What each operation does to the pending requests -/

variable (tracker : RequestTracker H)

theorem pending_erase (messageId id : MessageId) :
    (tracker.erase messageId).pending[id]? =
      if messageId = id then none else tracker.pending[id]? := by
  rw [erase, Std.ExtTreeMap.getElem?_erase]
  simp only [Std.LawfulEqOrd.compare_eq_iff_eq]

/-- What `track` demands of its arguments and of the tracker. -/
structure Trackable (request : PacketEnvelope) (handler : Option H) : Prop where
  handler : handler ≠ none
  messageKind : isTrackableRequest request.messageKind
  messageId : request.messageId ≠ 0
  correlationId : request.correlationId ≠ 0
  timeoutMs : request.timeoutMs ≠ 0
  notPending : tracker.pending[request.messageId]? = none

/-- **A request is tracked exactly when it is trackable, and a rejected one changes nothing.** -/
theorem track_cases (request : PacketEnvelope) (handler : Option H) :
    ((tracker.track request handler).1.tracked = false ∧ ¬ tracker.Trackable request handler ∧
        (tracker.track request handler).2 = tracker) ∨
      ∃ h, handler = some h ∧ tracker.Trackable request handler ∧
        tracker.track request handler = (.ok, { tracker with
          pending := tracker.pending.insert request.messageId
            ⟨request, h, deadlineOf request⟩ }) := by
  cases handler with
  | none => exact Or.inl ⟨rfl, fun ht => ht.handler rfl, rfl⟩
  | some h =>
    unfold track
    dsimp only
    by_cases hkind : isTrackableRequest request.messageKind
    swap
    · rw [if_pos hkind]
      exact Or.inl ⟨rfl, fun ht => hkind ht.messageKind, rfl⟩
    rw [if_neg (not_not.mpr hkind)]
    by_cases hid : request.messageId = 0
    · rw [if_pos hid]
      exact Or.inl ⟨rfl, fun ht => ht.messageId hid, rfl⟩
    rw [if_neg hid]
    by_cases hcorrelation : request.correlationId = 0
    · rw [if_pos hcorrelation]
      exact Or.inl ⟨rfl, fun ht => ht.correlationId hcorrelation, rfl⟩
    rw [if_neg hcorrelation]
    by_cases htimeout : request.timeoutMs = 0
    · rw [if_pos htimeout]
      exact Or.inl ⟨rfl, fun ht => ht.timeoutMs htimeout, rfl⟩
    rw [if_neg htimeout]
    cases hpending : tracker.pending[request.messageId]? with
    | some pending =>
      refine Or.inl ⟨rfl, fun ht => ?_, rfl⟩
      have hnone := ht.notPending
      rw [hpending] at hnone
      cases hnone
    | none => exact Or.inr ⟨h, rfl, ⟨by simp, hkind, hid, hcorrelation, htimeout, hpending⟩, rfl⟩

/-- An id is collected when its request is to end. -/
theorem mem_collect {ends : PendingRequest H → Bool} {id : MessageId} :
    id ∈ tracker.collect ends ↔ ∃ pending, tracker.pending[id]? = some pending ∧ ends pending := by
  rw [collect, List.mem_map]
  constructor
  · rintro ⟨⟨id', pending⟩, hmem, rfl⟩
    obtain ⟨hitem, hends⟩ := List.mem_filter.mp hmem
    exact ⟨pending, Std.ExtTreeMap.mem_toList_iff_getElem?_eq_some.mp hitem, hends⟩
  · rintro ⟨pending, hpending, hends⟩
    refine ⟨(id, pending), List.mem_filter.mpr ⟨?_, hends⟩, rfl⟩
    exact Std.ExtTreeMap.mem_toList_iff_getElem?_eq_some.mpr hpending

/-- No id is collected twice. -/
theorem nodup_collect (ends : PendingRequest H → Bool) : (tracker.collect ends).Nodup := by
  rw [collect, List.Nodup, List.pairwise_map]
  refine List.Pairwise.filter _ ?_
  refine tracker.pending.distinct_keys_toList.imp fun h heq => h ?_
  rw [heq]
  exact Std.ReflCmp.compare_self

/-- What `complete` can come to. -/
theorem complete_cases (response : PacketEnvelope) :
    (tracker.complete response = (false, [], tracker) ∧
        (response.responseTo = 0 ∨ tracker.pending[response.responseTo]? = none)) ∨
      ∃ pending, tracker.pending[response.responseTo]? = some pending ∧
        tracker.complete response = (true, [⟨pending.handler, response⟩],
          if isTerminalResponse response.messageKind then tracker.erase response.responseTo
          else tracker) := by
  unfold complete
  by_cases hzero : response.responseTo = 0
  · exact Or.inl ⟨if_pos hzero, Or.inl hzero⟩
  · rw [if_neg hzero]
    cases hpending : tracker.pending[response.responseTo]? with
    | none => exact Or.inl ⟨rfl, Or.inr rfl⟩
    | some pending => exact Or.inr ⟨pending, rfl, rfl⟩

/-- The call that ends a request without a response from the peer. -/
def endCall (status : ResponseStatus) (pending : PendingRequest H) : HandlerCall H :=
  ⟨pending.handler, makeSyntheticResponse pending status .error⟩

theorem pending_endAll (status : ResponseStatus) (ids : List MessageId) (id : MessageId) :
    (tracker.endAll status ids).2.pending[id]? =
      if id ∈ ids then none else tracker.pending[id]? := by
  induction ids generalizing tracker with
  | nil => rw [if_neg List.not_mem_nil]; rfl
  | cons first rest ih =>
    rw [endAll]
    cases hfirst : tracker.pending[first]? with
    | none =>
      simp only [ih, List.mem_cons]
      by_cases hid : id = first
      · rw [hid, hfirst, ite_self, ite_self]
      · simp only [hid, false_or]
    | some pending =>
      simp only [ih, pending_erase, List.mem_cons]
      by_cases hid : id = first
      · rw [if_pos hid.symm, ite_self, if_pos (Or.inl hid)]
      · simp only [hid, false_or, if_neg (Ne.symm hid)]

theorem calls_endAll (status : ResponseStatus) {ids : List MessageId} (hnodup : ids.Nodup) :
    (tracker.endAll status ids).1 =
      ids.filterMap fun id => tracker.pending[id]?.map (endCall status) := by
  induction ids generalizing tracker with
  | nil => rfl
  | cons first rest ih =>
    obtain ⟨hfirst, hrest⟩ := List.nodup_cons.mp hnodup
    rw [endAll]
    cases hpending : tracker.pending[first]? with
    | none =>
      rw [List.filterMap_cons_none (by rw [hpending]; rfl)]
      exact ih tracker hrest
    | some pending =>
      rw [List.filterMap_cons_some (b := endCall status pending) (by rw [hpending]; rfl)]
      simp only [ih (tracker.erase first) hrest]
      refine congrArg (endCall status pending :: ·) (List.filterMap_congr fun id hid => ?_)
      have hne : first ≠ id := by
        rintro rfl
        exact hfirst hid
      rw [pending_erase, if_neg hne]

/-- **Exactly the requests that are to end are gone.** -/
theorem pending_sweep (ends : PendingRequest H → Bool) (status : ResponseStatus)
    (id : MessageId) :
    (tracker.sweep ends status).2.2.pending[id]? =
      tracker.pending[id]?.filter fun pending => !ends pending := by
  rw [sweep, pending_endAll]
  cases hpending : tracker.pending[id]? with
  | none => simp
  | some pending =>
    by_cases hends : ends pending
    · rw [if_pos (tracker.mem_collect.mpr ⟨pending, hpending, hends⟩)]
      simp [Option.filter, hends]
    · have hnot : id ∉ tracker.collect ends := by
        intro hmem
        obtain ⟨pending', hpending', hends'⟩ := tracker.mem_collect.mp hmem
        rw [hpending, Option.some_inj] at hpending'
        exact hends (hpending' ▸ hends')
      rw [if_neg hnot]
      simp [Option.filter, hends]

/-- Each of them is called once, with a synthetic error. -/
theorem calls_sweep (ends : PendingRequest H → Bool) (status : ResponseStatus) :
    (tracker.sweep ends status).2.1 =
      (tracker.collect ends).filterMap fun id => tracker.pending[id]?.map (endCall status) :=
  tracker.calls_endAll status (tracker.nodup_collect ends)

/-- And they are counted. -/
theorem count_sweep (ends : PendingRequest H → Bool) (status : ResponseStatus) :
    (tracker.sweep ends status).1 = (tracker.sweep ends status).2.1.length := by
  have hall : ∀ ids : List MessageId, (∀ id ∈ ids, id ∈ tracker.collect ends) →
      (ids.filterMap fun id => tracker.pending[id]?.map (endCall status)).length = ids.length := by
    intro ids hids
    induction ids with
    | nil => rfl
    | cons first rest ih =>
      obtain ⟨pending, hpending, -⟩ := tracker.mem_collect.mp (hids first List.mem_cons_self)
      rw [List.filterMap_cons_some (b := endCall status pending) (by rw [hpending]; rfl),
        List.length_cons, List.length_cons, ih fun id hid => hids id (List.mem_cons_of_mem _ hid)]
  rw [calls_sweep, hall _ fun id hid => hid]
  rfl

end RequestTracker
end Network
end FusionDesk
