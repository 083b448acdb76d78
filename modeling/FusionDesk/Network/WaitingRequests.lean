import FusionDesk.Network.RequestTracker

/-!
# What a tracker waits for

The requests that are pending in a tracker without their handlers, so that two trackers whose handlers
are of different kinds can be spoken of together.

* `track_cases_waiting`, `waiting_complete`, `waiting_sweep`: what the tracker waits for after each
  operation.
* `endsOnly_complete`, `endsOnly_expire`, `endsOnly_cancelByChannel`: what it then no longer waits for, and why.
* `complete_of_waiting_eq_none`: a response nobody waits for does nothing.
-/

namespace FusionDesk
namespace Network

open Protocol

variable {H : Type*}

/-- A pending request without its handler. -/
def PendingRequest.forget (pending : PendingRequest H) : PendingRequest Unit :=
  ⟨pending.request, (), pending.deadlineUsec⟩

namespace RequestTracker

/-- The request that is pending under an id. -/
def waiting (tracker : RequestTracker H) (id : MessageId) : Option (PendingRequest Unit) :=
  tracker.pending[id]?.map PendingRequest.forget

/-- One tracker is the other with one more request, which has an id of its own. -/
structure Tracked (before after : RequestTracker H) (request : PacketEnvelope) : Prop where
  messageId : request.messageId ≠ 0
  new : before.waiting request.messageId = none
  waiting : ∀ id, after.waiting id =
    if request.messageId = id then some ⟨request, (), deadlineOf request⟩ else before.waiting id

/-- What the tracker has stopped waiting for meets the condition, and it waits for nothing new. -/
def EndsOnly (before after : RequestTracker H) (P : MessageId → PendingRequest Unit → Prop) : Prop :=
  ∀ id, after.waiting id = before.waiting id ∨
    (after.waiting id = none ∧ ∀ pending, before.waiting id = some pending → P id pending)

theorem EndsOnly.refl (tracker : RequestTracker H) (P : MessageId → PendingRequest Unit → Prop) :
    EndsOnly tracker tracker P :=
  fun _ => Or.inl rfl

theorem EndsOnly.imp {before after : RequestTracker H}
    {P Q : MessageId → PendingRequest Unit → Prop} (h : EndsOnly before after P)
    (hPQ : ∀ id pending, P id pending → Q id pending) : EndsOnly before after Q :=
  fun id => (h id).imp_right fun hnone =>
    ⟨hnone.1, fun pending hpending => hPQ id pending (hnone.2 pending hpending)⟩

variable (tracker : RequestTracker H)

theorem waiting_eq_none_iff {id : MessageId} :
    tracker.waiting id = none ↔ tracker.pending[id]? = none :=
  Option.map_eq_none_iff

/-- A request is tracked, or the tracker stays as it is. -/
theorem track_cases_waiting (request : PacketEnvelope) (handler : Option H) :
    ((tracker.track request handler).1.tracked = false ∧
        (tracker.track request handler).2 = tracker) ∨
      ((tracker.track request handler).1.tracked = true ∧
        Tracked tracker (tracker.track request handler).2 request) := by
  rcases tracker.track_cases request handler with ⟨hrefused, -, hsame⟩ | ⟨h, -, htrackable, htracked⟩
  · exact Or.inl ⟨hrefused, hsame⟩
  · refine Or.inr ⟨by rw [htracked]; rfl, htrackable.messageId,
      tracker.waiting_eq_none_iff.mpr htrackable.notPending, fun id => ?_⟩
    rw [htracked, waiting, Std.ExtTreeMap.getElem?_insert]
    simp only [Std.LawfulEqOrd.compare_eq_iff_eq]
    split
    · rfl
    · rfl

/-- A response that nobody waits for does nothing. -/
theorem complete_of_waiting_eq_none {response : PacketEnvelope}
    (h : tracker.waiting response.responseTo = none) :
    tracker.complete response = (false, [], tracker) := by
  rcases tracker.complete_cases response with ⟨hcomplete, -⟩ | ⟨pending, hpending, -⟩
  · exact hcomplete
  · cases hpending.symm.trans (tracker.waiting_eq_none_iff.mp h)

/-- **A terminal response ends the request it is for**, and no other response ends one. -/
theorem waiting_complete (response : PacketEnvelope) (id : MessageId) :
    (tracker.complete response).2.2.waiting id =
      if isTerminalResponse response.messageKind ∧ response.responseTo ≠ 0 ∧
          response.responseTo = id then none
      else tracker.waiting id := by
  rcases tracker.complete_cases response with ⟨hcomplete, hnone⟩ | ⟨pending, hpending, hcomplete⟩
  · rw [hcomplete]
    split
    next hends =>
      obtain ⟨-, hzero, rfl⟩ := hends
      exact tracker.waiting_eq_none_iff.mpr (hnone.resolve_left hzero)
    · rfl
  · have hzero : response.responseTo ≠ 0 := by
      intro hzero
      rw [complete, if_pos hzero] at hcomplete
      cases congrArg Prod.fst hcomplete
    rw [hcomplete]
    by_cases hterminal : isTerminalResponse response.messageKind = true
    · simp only [hterminal, if_true, waiting, pending_erase, true_and, hzero, ne_eq,
        not_false_eq_true]
      split
      · rfl
      · rfl
    · simp only [hterminal, Bool.false_eq_true, if_false, false_and]

theorem endsOnly_complete (response : PacketEnvelope) :
    EndsOnly tracker (tracker.complete response).2.2 fun id _ =>
      isTerminalResponse response.messageKind ∧ response.responseTo = id := by
  intro id
  rw [waiting_complete]
  split
  next hends => exact Or.inr ⟨rfl, fun _ _ => ⟨hends.1, hends.2.2⟩⟩
  · exact Or.inl rfl

/-- A response that somebody waits for is handed on. -/
theorem calls_complete_of_waiting {response : PacketEnvelope} (hzero : response.responseTo ≠ 0)
    (h : tracker.waiting response.responseTo ≠ none) :
    (tracker.complete response).2.1.length = 1 := by
  rcases tracker.complete_cases response with ⟨-, hnone⟩ | ⟨pending, -, hcomplete⟩
  · exact absurd (tracker.waiting_eq_none_iff.mpr (hnone.resolve_left hzero)) h
  · rw [hcomplete]
    rfl

/-- **A sweep ends exactly the requests that are to end.** -/
theorem waiting_sweep (ends : PendingRequest Unit → Bool) (status : ResponseStatus)
    (id : MessageId) :
    (tracker.sweep (fun pending => ends pending.forget) status).2.2.waiting id =
      (tracker.waiting id).filter fun pending => !ends pending := by
  rw [waiting, pending_sweep, waiting]
  cases tracker.pending[id]? with
  | none => rfl
  | some pending =>
    cases hends : ends pending.forget with
    | false => simp [Option.filter, hends]
    | true => simp [Option.filter, hends]

/-- What a sweep ends is what it is to end. -/
theorem endsOnly_sweep {after : RequestTracker H} {ends : PendingRequest Unit → Bool}
    (h : ∀ id, after.waiting id = (tracker.waiting id).filter fun pending => !ends pending) :
    EndsOnly tracker after fun _ pending => ends pending = true := by
  intro id
  rw [h id]
  cases tracker.waiting id with
  | none => exact Or.inl rfl
  | some pending =>
    cases hends : ends pending with
    | false => exact Or.inl (Option.filter_some_pos (by simp [hends]))
    | true =>
      refine Or.inr ⟨Option.filter_some_neg (by simp [hends]), fun other hother => ?_⟩
      exact Option.some.inj hother ▸ hends

theorem endsOnly_expire (nowUsec : UInt64) :
    EndsOnly tracker (tracker.expire nowUsec).2.2 fun _ pending =>
      pending.deadlineUsec ≤ nowUsec := by
  have hends := tracker.endsOnly_sweep (tracker.waiting_sweep (expired nowUsec) .timeout)
  exact hends.imp fun id pending hexpired => of_decide_eq_true hexpired

theorem endsOnly_cancelByChannel (channelId : ChannelId) (channelType : ChannelType)
    (status : ResponseStatus) :
    EndsOnly tracker (tracker.cancelByChannel channelId channelType status).2.2 fun _ pending =>
      onChannel channelId channelType pending = true :=
  tracker.endsOnly_sweep (tracker.waiting_sweep (onChannel channelId channelType) status)

end RequestTracker
end Network
end FusionDesk
