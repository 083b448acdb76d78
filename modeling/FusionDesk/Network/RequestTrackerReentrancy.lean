import FusionDesk.Network.RequestTrackerRuns
import Mathlib.Logic.Function.Iterate

/-!
# The request tracker with handlers that call back

`complete`, `cancelByChannel` and `expire` call a handler while they hold an iterator into the map
and erase through it when the handler returns.  Here a handler may call any operation before it
returns.  A `TrackerMachine` keeps, next to the tracker, the stack of the operations that wait for
the handler they have called; a step is a call from whatever runs now, or the return of the handler
on top.

An iterator is the id it was found under together with the serial number of the request it points
to.  Erasing through an iterator whose element is gone is undefined in the source and sets
`badErase` here, also when another request waits under the same id.

* `run_safe`: as long as no request is ended twice at the same time and every loop finds the
  requests it has collected, the tracker does what it should, however deep the calls are nested.
* `returns_complete`, `returns_sweep`: with handlers that return at once, the machine makes the
  calls of the plain operations and ends with their tracker.
-/

namespace FusionDesk
namespace Network

open Protocol RequestTracker

/-- An operation that waits for the handler it has called. -/
inductive Frame
  /-- `complete`, with the iterator and whether the response is terminal. -/
  | complete (messageId : MessageId) (node : ℕ) (terminal : Bool)
  /-- `cancelByChannel` or `expire`: the iterator, the ids still to come, how many were collected
  and how many requests this call has ended. -/
  | sweep (messageId : MessageId) (node : ℕ) (rest : List MessageId) (status : ResponseStatus)
    (collected ended : ℕ)
  deriving DecidableEq, Repr

/-- The iterator through which the operation erases once the handler has returned. -/
def Frame.ending : Frame → Option (MessageId × ℕ)
  | .complete messageId node terminal => if terminal then some (messageId, node) else none
  | .sweep messageId node _ _ _ _ => some (messageId, node)

/-- The tracker in the middle of its handlers. -/
structure TrackerMachine where
  tracker : RequestTracker ℕ := {}
  tracked : List PacketEnvelope := []
  calls : List (HandlerCall ℕ) := []
  stack : List Frame := []
  /-- What `cancelByChannel` and `expire` have returned, and how many requests they had ended. -/
  returned : List (ℕ × ℕ) := []
  badErase : Bool := false

/-- A step: a call, or the return of the handler on top of the stack. -/
inductive MachineOp
  | call (op : TrackerOp)
  | handlerReturns
  deriving DecidableEq, Repr

namespace TrackerMachine

/-- `pending_.erase(it)`. -/
def eraseAt (machine : TrackerMachine) (messageId : MessageId) (node : ℕ) : TrackerMachine :=
  if (machine.tracker.pending[messageId]?.map PendingRequest.handler) = some node then
    { machine with tracker := machine.tracker.erase messageId }
  else { machine with badErase := true }

/-- The second loop of `cancelByChannel` and `expire` from its next id to the next handler, or to
its end. -/
def nextEnd (machine : TrackerMachine) (status : ResponseStatus) (collected ended : ℕ) :
    List MessageId → TrackerMachine
  | [] => { machine with returned := machine.returned ++ [(collected, ended)] }
  | messageId :: rest =>
    match machine.tracker.pending[messageId]? with
    | none => machine.nextEnd status collected ended rest
    | some pending =>
      { machine with
        calls := machine.calls ++ [endCall status pending]
        stack := .sweep messageId pending.handler rest status collected ended :: machine.stack }

def beginSweep (machine : TrackerMachine) (ends : PendingRequest ℕ → Bool)
    (status : ResponseStatus) : TrackerMachine :=
  machine.nextEnd status (machine.tracker.collect ends).length 0 (machine.tracker.collect ends)

def call (machine : TrackerMachine) : TrackerOp → TrackerMachine
  | .track request hasHandler =>
    let result := machine.tracker.track request
      (if hasHandler then some machine.tracked.length else none)
    { machine with
      tracker := result.2
      tracked := if result.1.tracked then machine.tracked ++ [request] else machine.tracked }
  | .complete response =>
    if response.responseTo = 0 then machine
    else
      match machine.tracker.pending[response.responseTo]? with
      | none => machine
      | some pending =>
        { machine with
          calls := machine.calls ++ [⟨pending.handler, response⟩]
          stack := .complete response.responseTo pending.handler
            (isTerminalResponse response.messageKind) :: machine.stack }
  | .cancelByChannel channelId channelType status =>
    machine.beginSweep (onChannel channelId channelType) status
  | .expire nowUsec => machine.beginSweep (expired nowUsec) .timeout

/-- The handler on top returns, and the operation that called it goes on. -/
def handlerReturns (machine : TrackerMachine) : TrackerMachine :=
  match machine.stack with
  | [] => machine
  | .complete messageId node terminal :: stack =>
    if terminal then { machine with stack := stack }.eraseAt messageId node
    else { machine with stack := stack }
  | .sweep messageId node rest status collected ended :: stack =>
    let erased := { machine with stack := stack }.eraseAt messageId node
    let live := machine.tracker.pending[messageId]?.map PendingRequest.handler = some node
    erased.nextEnd status collected (if live then ended + 1 else ended) rest

def step (machine : TrackerMachine) : MachineOp → TrackerMachine
  | .call op => machine.call op
  | .handlerReturns => machine.handlerReturns

def run (ops : List MachineOp) : TrackerMachine := Runs.run step {} ops

/-! ## What a careful run is -/

/-- The ids of the requests whose handler is running on their terminal response. -/
def endingIds (stack : List Frame) : List MessageId := (stack.filterMap Frame.ending).map Prod.fst

/-- The serial numbers of these requests. -/
def endingNodes (stack : List Frame) : List ℕ := (stack.filterMap Frame.ending).map Prod.snd

/-- A step is careful if it does not end a request whose handler is running on its terminal
response already, and if a loop of `cancelByChannel` or `expire` that goes on to a collected id
finds a request pending under it. -/
def Careful (machine : TrackerMachine) : MachineOp → Prop
  | .call (.track _ _) => True
  | .call (.complete response) =>
    isTerminalResponse response.messageKind → response.responseTo ∉ endingIds machine.stack
  | .call (.cancelByChannel channelId channelType _) =>
    ∀ id ∈ (machine.tracker.collect (onChannel channelId channelType)).head?,
      id ∉ endingIds machine.stack
  | .call (.expire nowUsec) =>
    ∀ id ∈ (machine.tracker.collect (expired nowUsec)).head?, id ∉ endingIds machine.stack
  | .handlerReturns =>
    match machine.stack with
    | .sweep _ _ (next :: _) _ _ _ :: stack =>
      machine.tracker.pending[next]?.isSome ∧ next ∉ endingIds stack
    | _ => True

instance decidableCareful (machine : TrackerMachine) :
    ∀ op : MachineOp, Decidable (machine.Careful op)
  | .call (.track _ _) => isTrue trivial
  | .call (.complete response) =>
    inferInstanceAs (Decidable (isTerminalResponse response.messageKind →
      response.responseTo ∉ endingIds machine.stack))
  | .call (.cancelByChannel channelId channelType _) =>
    Option.decidableForallMem (machine.tracker.collect (onChannel channelId channelType)).head?
  | .call (.expire nowUsec) =>
    Option.decidableForallMem (machine.tracker.collect (expired nowUsec)).head?
  | .handlerReturns => by
    show Decidable (match machine.stack with
      | .sweep _ _ (next :: _) _ _ _ :: stack =>
        machine.tracker.pending[next]?.isSome ∧ next ∉ endingIds stack
      | _ => True)
    split
    · exact instDecidableAnd
    · exact isTrue trivial

/-- The request of this serial number is in the map. -/
def IsPending (machine : TrackerMachine) (serial : ℕ) (request : PacketEnvelope) : Prop :=
  machine.tracker.pending[request.messageId]? = some ⟨request, serial, deadlineOf request⟩

/-- How many terminal responses the handler of a request has been called with. -/
def terminalCalls (machine : TrackerMachine) (serial : ℕ) : ℕ :=
  machine.calls.countP fun call =>
    call.handler == serial && isTerminalResponse call.response.messageKind

/-- What should hold whatever the handlers do: at most one terminal call for each request, only
erases through live iterators, no request gone without its terminal call, and counts that are
right. -/
structure Safe (machine : TrackerMachine) : Prop where
  terminalCalls_le : ∀ serial, machine.terminalCalls serial ≤ 1
  badErase : machine.badErase = false
  removed : ∀ {serial : ℕ} {request : PacketEnvelope}, machine.tracked[serial]? = some request →
    ¬ machine.IsPending serial request → machine.terminalCalls serial = 1
  counts : ∀ result ∈ machine.returned, result.1 = result.2

/-! ## One step -/

/-- What a frame of `cancelByChannel` or `expire` knows about its loop. -/
def Counted : Frame → Prop
  | .complete _ _ _ => True
  | .sweep messageId _ rest _ collected ended =>
    ended + 1 + rest.length = collected ∧ (messageId :: rest).Nodup

/-- The invariant of the careful steps. -/
structure Invariant (machine : TrackerMachine) : Prop where
  pending_tracked : PendingTracked machine.tracker machine.tracked
  calls_tracked : ∀ call ∈ machine.calls, call.handler < machine.tracked.length
  /-- The iterators the operations will erase through are live. -/
  live : ∀ {id : MessageId} {node : ℕ}, (id, node) ∈ machine.stack.filterMap Frame.ending →
    machine.tracker.pending[id]?.map PendingRequest.handler = some node
  /-- And they are different. -/
  nodup : (endingIds machine.stack).Nodup
  /-- A request has had no terminal call as long as it is pending and its handler is not running on
  one, and has had one from then on. -/
  fate : ∀ {serial : ℕ} {request : PacketEnvelope}, machine.tracked[serial]? = some request →
    ((machine.IsPending serial request ∧ serial ∉ endingNodes machine.stack) ∧
        machine.terminalCalls serial = 0) ∨
      (¬ (machine.IsPending serial request ∧ serial ∉ endingNodes machine.stack) ∧
        machine.terminalCalls serial = 1)
  counted : ∀ frame ∈ machine.stack, Counted frame
  badErase : machine.badErase = false
  counts : ∀ result ∈ machine.returned, result.1 = result.2

/-- A serial number not given out yet has had no call. -/
theorem Invariant.terminalCalls_eq_zero {machine : TrackerMachine} (h : machine.Invariant)
    {serial : ℕ} (hserial : machine.tracked.length ≤ serial) :
    machine.terminalCalls serial = 0 := by
  rw [terminalCalls, List.countP_eq_zero]
  intro call hcall heq
  have hlt := h.calls_tracked call hcall
  rw [eq_of_beq (Bool.and_eq_true_iff.mp heq).1] at hlt
  exact Nat.not_lt.mpr hserial hlt

/-- **What the invariant is for.** -/
theorem Invariant.safe {machine : TrackerMachine} (h : machine.Invariant) : machine.Safe where
  terminalCalls_le := by
    intro serial
    by_cases hlt : serial < machine.tracked.length
    · rcases h.fate (List.getElem?_eq_getElem hlt) with ⟨-, hzero⟩ | ⟨-, hone⟩
      · rw [hzero]
        exact Nat.zero_le 1
      · exact Nat.le_of_eq hone
    · rw [h.terminalCalls_eq_zero (Nat.not_lt.mp hlt)]
      exact Nat.zero_le 1
  badErase := h.badErase
  removed := by
    intro serial request htracked hnot
    rcases h.fate htracked with ⟨⟨hpending, -⟩, -⟩ | ⟨-, hone⟩
    · exact absurd hpending hnot
    · exact hone
  counts := h.counts

/-- A call of a handler counts for its own request when its response is terminal. -/
theorem terminalCalls_append (machine after : TrackerMachine) (call : HandlerCall ℕ) (serial : ℕ)
    (hcalls : after.calls = machine.calls ++ [call]) :
    after.terminalCalls serial = machine.terminalCalls serial +
      if call.handler = serial ∧ isTerminalResponse call.response.messageKind then 1 else 0 := by
  unfold terminalCalls
  rw [hcalls, List.countP_append, List.countP_singleton]
  by_cases hserial : call.handler = serial <;>
    by_cases hterminal : isTerminalResponse call.response.messageKind <;>
      simp [hserial, hterminal]

namespace Invariant

variable {machine : TrackerMachine}

theorem isPending (h : machine.Invariant) {id : MessageId} {pending : PendingRequest ℕ}
    (hpending : machine.tracker.pending[id]? = some pending) {request : PacketEnvelope}
    (htracked : machine.tracked[pending.handler]? = some request) :
    machine.IsPending pending.handler request := by
  obtain ⟨-, hid, hdeadline⟩ := h.pending_tracked hpending
  rw [← h.pending_tracked.request_eq hpending htracked, IsPending, hid, hpending, ← hdeadline]

/-- One more call is of a tracked request. -/
theorem calls_tracked_append (h : machine.Invariant) {id : MessageId}
    {pending : PendingRequest ℕ} (hpending : machine.tracker.pending[id]? = some pending)
    (response : PacketEnvelope) :
    ∀ call ∈ machine.calls ++ [⟨pending.handler, response⟩],
      call.handler < machine.tracked.length := by
  intro call hcall
  rcases List.mem_append.mp hcall with hold | hnew
  · exact h.calls_tracked call hold
  · rw [List.mem_singleton.mp hnew]
    exact (List.getElem?_eq_some_iff.mp (h.pending_tracked hpending).1).1

/-- The handler of a pending request runs on a terminal response exactly when its id is among the
ending ones. -/
theorem mem_endingNodes_iff (h : machine.Invariant) {id : MessageId} {pending : PendingRequest ℕ}
    (hpending : machine.tracker.pending[id]? = some pending) :
    pending.handler ∈ endingNodes machine.stack ↔ id ∈ endingIds machine.stack := by
  unfold endingNodes endingIds
  rw [List.mem_map, List.mem_map]
  constructor
  · rintro ⟨⟨id', node⟩, hmem, hnode⟩
    have hlive := h.live hmem
    obtain ⟨pending', hpending', hhandler⟩ := Option.map_eq_some_iff.mp hlive
    obtain ⟨htracked, hid, -⟩ := h.pending_tracked hpending
    have hid' := (h.pending_tracked hpending').2.1
    have hsame : pending'.request = pending.request := by
      refine h.pending_tracked.request_eq hpending' ?_
      rw [hhandler, show node = pending.handler from hnode, htracked]
    refine ⟨(id', node), hmem, ?_⟩
    show id' = id
    rw [← hid, ← hid', hsame]
  · rintro ⟨⟨id', node⟩, hmem, rfl⟩
    have hlive := h.live hmem
    rw [hpending] at hlive
    exact ⟨(id', node), hmem, (Option.some_inj.mp hlive).symm⟩

/-- A handler that runs on a terminal response is one of a tracked request. -/
theorem lt_of_mem_endingNodes (h : machine.Invariant) {node : ℕ}
    (hmem : node ∈ endingNodes machine.stack) : node < machine.tracked.length := by
  obtain ⟨⟨id, node⟩, hending, rfl⟩ := List.mem_map.mp hmem
  obtain ⟨pending, hpending, rfl⟩ := Option.map_eq_some_iff.mp (h.live hending)
  exact (List.getElem?_eq_some_iff.mp (h.pending_tracked hpending).1).1

/-- A response that is not terminal changes nothing that counts. -/
theorem begin_call (h : machine.Invariant) {pending : PendingRequest ℕ} {response : PacketEnvelope}
    (hpending : machine.tracker.pending[response.responseTo]? = some pending)
    (hresponse : ¬ isTerminalResponse response.messageKind) :
    Invariant { machine with
      calls := machine.calls ++ [⟨pending.handler, response⟩]
      stack := .complete response.responseTo pending.handler false :: machine.stack } where
  pending_tracked := h.pending_tracked
  calls_tracked := h.calls_tracked_append hpending response
  live := h.live
  nodup := h.nodup
  fate := by
    intro serial request htracked
    rw [terminalCalls_append machine _ _ serial rfl, if_neg fun hc => hresponse hc.2, Nat.add_zero]
    exact h.fate htracked
  counted := by
    intro frame hframe
    rcases List.mem_cons.mp hframe with rfl | hold
    · trivial
    · exact h.counted frame hold
  badErase := h.badErase
  counts := h.counts

/-- A terminal call for a request whose handler is not running on one. -/
theorem begin_end (h : machine.Invariant) {id : MessageId} {pending : PendingRequest ℕ}
    {response : PacketEnvelope} {frame : Frame}
    (hpending : machine.tracker.pending[id]? = some pending)
    (hresponse : isTerminalResponse response.messageKind)
    (hnew : id ∉ endingIds machine.stack) (hframe : frame.ending = some (id, pending.handler))
    (hcounted : Counted frame) :
    Invariant { machine with
      calls := machine.calls ++ [⟨pending.handler, response⟩]
      stack := frame :: machine.stack } where
  pending_tracked := h.pending_tracked
  calls_tracked := h.calls_tracked_append hpending response
  live := by
    intro id' node hmem
    rw [List.filterMap_cons_some hframe] at hmem
    rcases List.mem_cons.mp hmem with heq | hold
    · obtain ⟨rfl, rfl⟩ := Prod.mk.inj heq
      show machine.tracker.pending[id']?.map PendingRequest.handler = _
      rw [hpending]
      rfl
    · exact h.live hold
  nodup := by
    unfold endingIds
    rw [List.filterMap_cons_some hframe, List.map_cons, List.nodup_cons]
    exact ⟨hnew, h.nodup⟩
  fate := by
    intro serial request htracked
    have hnodes : endingNodes (frame :: machine.stack) =
        pending.handler :: endingNodes machine.stack := by
      unfold endingNodes
      rw [List.filterMap_cons_some hframe, List.map_cons]
    rw [terminalCalls_append machine _ _ serial rfl, hnodes]
    by_cases hserial : pending.handler = serial
    · subst hserial
      rw [if_pos ⟨rfl, hresponse⟩]
      refine Or.inr ⟨fun hc => hc.2 List.mem_cons_self, ?_⟩
      have hisPending := h.isPending hpending htracked
      rcases h.fate htracked with ⟨-, hzero⟩ | ⟨hnot, -⟩
      · rw [hzero]
      · refine absurd ⟨hisPending, fun hmem => hnew ?_⟩ hnot
        exact (h.mem_endingNodes_iff hpending).mp hmem
    · rw [if_neg fun hc => hserial hc.1, Nat.add_zero, List.mem_cons,
        or_iff_right (Ne.symm hserial)]
      exact h.fate htracked
  counted := by
    intro frame' hframe'
    rcases List.mem_cons.mp hframe' with rfl | hold
    · exact hcounted
    · exact h.counted frame' hold
  badErase := h.badErase
  counts := h.counts

/-- The handler of a terminal call returns, and its request is erased. -/
theorem finish_end (h : machine.Invariant) {id : MessageId} {node : ℕ} {frame : Frame}
    {stack : List Frame} (hstack : machine.stack = frame :: stack)
    (hframe : frame.ending = some (id, node)) :
    Invariant { machine with stack := stack, tracker := machine.tracker.erase id } := by
  have hending : machine.stack.filterMap Frame.ending =
      (id, node) :: stack.filterMap Frame.ending := by
    rw [hstack, List.filterMap_cons_some hframe]
  have hids : endingIds machine.stack = id :: endingIds stack := by
    rw [endingIds, hending, List.map_cons]
    rfl
  have hnodes : endingNodes machine.stack = node :: endingNodes stack := by
    rw [endingNodes, hending, List.map_cons]
    rfl
  have hnodup := h.nodup
  rw [hids, List.nodup_cons] at hnodup
  obtain ⟨pending, hpending, hhandler⟩ :=
    Option.map_eq_some_iff.mp (h.live (hending ▸ List.mem_cons_self))
  refine ⟨h.pending_tracked.erase id, h.calls_tracked, fun {id' node'} hmem => ?_,
    hnodup.2, fun {serial request} htracked => ?_, fun frame' hframe' => ?_, h.badErase, h.counts⟩
  · -- the other iterators point to other ids
    have hne : id ≠ id' := by
      rintro rfl
      exact hnodup.1 (List.mem_map.mpr ⟨(id, node'), hmem, rfl⟩)
    simp only [pending_erase, if_neg hne]
    exact h.live (hending ▸ List.mem_cons_of_mem _ hmem)
  · obtain ⟨htracked', hid, -⟩ := h.pending_tracked hpending
    have hfate := h.fate htracked
    rw [hnodes] at hfate
    show (((machine.tracker.erase id).pending[request.messageId]? = _ ∧ _) ∧
      machine.terminalCalls serial = 0) ∨ (¬ ((machine.tracker.erase id).pending[request.messageId]?
        = _ ∧ _) ∧ machine.terminalCalls serial = 1)
    rw [pending_erase]
    by_cases hsame : id = request.messageId
    · -- whatever waited under this id is gone
      rw [if_pos hsame]
      refine Or.inr ⟨fun hc => absurd hc.1 (by simp), ?_⟩
      rcases hfate with ⟨⟨hisPending, hnot⟩, -⟩ | ⟨-, hone⟩
      · rw [IsPending, ← hsame, hpending, Option.some_inj] at hisPending
        refine absurd ?_ hnot
        rw [← hhandler, hisPending]
        exact List.mem_cons_self
      · exact hone
    · rw [if_neg hsame]
      have hserial : serial ≠ node := by
        rintro rfl
        rw [hhandler, htracked, Option.some_inj] at htracked'
        exact hsame (by rw [← hid, htracked'])
      rw [List.mem_cons, or_iff_right hserial] at hfate
      exact hfate
  · exact h.counted frame' (hstack ▸ List.mem_cons_of_mem _ hframe')

/-- The iterator of the frame on top is live, so the erase happens. -/
theorem eraseAt_eq (h : machine.Invariant) {id : MessageId} {node : ℕ} {frame : Frame}
    {stack : List Frame} (hstack : machine.stack = frame :: stack)
    (hframe : frame.ending = some (id, node)) :
    machine.tracker.pending[id]?.map PendingRequest.handler = some node ∧
      eraseAt { machine with stack := stack } id node =
        { machine with stack := stack, tracker := machine.tracker.erase id } := by
  have hlive : machine.tracker.pending[id]?.map PendingRequest.handler = some node := by
    refine h.live ?_
    rw [hstack, List.filterMap_cons_some hframe]
    exact List.mem_cons_self
  exact ⟨hlive, if_pos hlive⟩

/-- A loop that finds the next request it has collected goes on to it; at its end it has counted
right. -/
theorem nextEnd (h : machine.Invariant) {status : ResponseStatus} {collected ended : ℕ}
    {ids : List MessageId} (hcount : ended + ids.length = collected) (hnodup : ids.Nodup)
    (hnext : ∀ id ∈ ids.head?, machine.tracker.pending[id]?.isSome ∧ id ∉ endingIds machine.stack) :
    (machine.nextEnd status collected ended ids).Invariant := by
  cases ids with
  | nil =>
    refine ⟨h.pending_tracked, h.calls_tracked, h.live, h.nodup, h.fate, h.counted, h.badErase, ?_⟩
    intro result hresult
    rcases List.mem_append.mp hresult with hold | hnew
    · exact h.counts result hold
    · rw [List.mem_singleton.mp hnew]
      exact hcount.symm
  | cons id rest =>
    obtain ⟨hsome, hnot⟩ := hnext id rfl
    obtain ⟨pending, hpending⟩ := Option.isSome_iff_exists.mp hsome
    simp only [TrackerMachine.nextEnd, hpending]
    refine h.begin_end hpending rfl hnot rfl ⟨?_, hnodup⟩
    rw [List.length_cons] at hcount
    omega

/-- A new request waits under the next serial number. -/
theorem insert (h : machine.Invariant) (request : PacketEnvelope)
    (hnone : machine.tracker.pending[request.messageId]? = none) :
    Invariant { machine with
      tracker := withRequest machine.tracker machine.tracked request
      tracked := machine.tracked ++ [request] } where
  pending_tracked := h.pending_tracked.withRequest request
  calls_tracked := by
    intro call hcall
    rw [List.length_append]
    exact Nat.lt_add_right 1 (h.calls_tracked call hcall)
  live := by
    intro id node hmem
    have hlive := h.live hmem
    have hne : request.messageId ≠ id := by
      rintro rfl
      rw [hnone] at hlive
      cases hlive
    show (withRequest machine.tracker machine.tracked request).pending[id]?.map
      PendingRequest.handler = some node
    rw [pending_withRequest, if_neg hne]
    exact hlive
  nodup := h.nodup
  fate := by
    intro serial r htracked
    unfold IsPending
    simp only [pending_withRequest]
    rcases tracked_concat_cases htracked with ⟨rfl, rfl⟩ | ⟨hlt, htracked⟩
    · have hnodes : machine.tracked.length ∉ endingNodes machine.stack := fun hmem =>
        Nat.lt_irrefl _ (h.lt_of_mem_endingNodes hmem)
      exact Or.inl ⟨⟨by rw [if_pos rfl], hnodes⟩, h.terminalCalls_eq_zero (Nat.le_refl _)⟩
    · by_cases hid : request.messageId = r.messageId
      · -- the id was free, so the older request has had its terminal call
        rw [if_pos hid]
        rcases h.fate htracked with ⟨⟨hpending, -⟩, -⟩ | ⟨-, hone⟩
        · rw [IsPending, ← hid, hnone] at hpending
          cases hpending
        · refine Or.inr ⟨fun hc => Nat.ne_of_lt hlt ?_, hone⟩
          exact (congrArg PendingRequest.handler (Option.some_inj.mp hc.1)).symm
      · rw [if_neg hid]
        exact h.fate htracked
  counted := h.counted
  badErase := h.badErase
  counts := h.counts

/-- A loop begins with the first id it has collected. -/
theorem beginSweep (h : machine.Invariant) (ends : PendingRequest ℕ → Bool)
    (status : ResponseStatus)
    (hfirst : ∀ id ∈ (machine.tracker.collect ends).head?, id ∉ endingIds machine.stack) :
    (machine.beginSweep ends status).Invariant := by
  refine h.nextEnd (Nat.zero_add _) (machine.tracker.nodup_collect ends) fun id hid => ?_
  obtain ⟨pending, hpending, -⟩ := machine.tracker.mem_collect.mp (List.mem_of_mem_head? hid)
  exact ⟨by rw [hpending]; rfl, hfirst id hid⟩

/-- The handler of a call that was not terminal returns, and nothing is erased. -/
theorem pop (h : machine.Invariant) {frame : Frame} {stack : List Frame}
    (hstack : machine.stack = frame :: stack) (hframe : frame.ending = none) :
    Invariant { machine with stack := stack } := by
  have hending : machine.stack.filterMap Frame.ending = stack.filterMap Frame.ending := by
    rw [hstack, List.filterMap_cons_none hframe]
  have hids : endingIds stack = endingIds machine.stack := by rw [endingIds, ← hending, ← endingIds]
  have hnodes : endingNodes stack = endingNodes machine.stack := by
    rw [endingNodes, ← hending, ← endingNodes]
  refine ⟨h.pending_tracked, h.calls_tracked, fun hmem => h.live (hending ▸ hmem), ?_, ?_,
    fun frame' hframe' => h.counted frame' (hstack ▸ List.mem_cons_of_mem _ hframe'), h.badErase,
    h.counts⟩
  · rw [hids]
    exact h.nodup
  · simp only [hnodes]
    exact h.fate

/-- The handler on top of the stack returns. -/
theorem handlerReturns (h : machine.Invariant) (hcareful : machine.Careful .handlerReturns) :
    machine.handlerReturns.Invariant := by
  unfold TrackerMachine.handlerReturns
  unfold Careful at hcareful
  rcases hstack : machine.stack with
    _ | ⟨⟨id, node, terminal⟩ | ⟨id, node, rest, status, collected, ended⟩, stack⟩
  · exact h
  · cases terminal with
    | false => exact h.pop hstack rfl
    | true =>
      have herase := (h.eraseAt_eq hstack rfl).2
      simp only [if_true, herase]
      exact h.finish_end hstack rfl
  · obtain ⟨hlive, herase⟩ := h.eraseAt_eq hstack rfl
    obtain ⟨hcount, hnodup⟩ := h.counted _ (hstack ▸ List.mem_cons_self)
    obtain ⟨hid, hrest⟩ := List.nodup_cons.mp hnodup
    simp only [herase, if_pos hlive]
    refine (h.finish_end hstack rfl).nextEnd (by omega) hrest fun next hnext => ?_
    -- the next id is another one, so the erase has not touched it
    cases rest with
    | nil => cases hnext
    | cons next' rest =>
      obtain rfl : next' = next := Option.some_inj.mp hnext
      rw [hstack] at hcareful
      refine ⟨?_, hcareful.2⟩
      have hne : id ≠ next' := fun heq => hid (heq ▸ List.mem_cons_self)
      simp only [pending_erase, if_neg hne]
      exact hcareful.1

/-- **A careful step keeps the invariant.** -/
theorem step (h : machine.Invariant) {op : MachineOp} (hcareful : machine.Careful op) :
    (machine.step op).Invariant := by
  cases op with
  | handlerReturns => exact h.handlerReturns hcareful
  | call op =>
    cases op with
    | track request hasHandler =>
      simp only [TrackerMachine.step, TrackerMachine.call]
      rcases track_serial machine.tracker machine.tracked request hasHandler with
        ⟨hrejected, hsame⟩ | ⟨haccepted, hnone, hafter⟩
      · simpa only [hrejected, hsame, Bool.false_eq_true, if_false] using h
      · simpa only [haccepted, hafter, if_true] using h.insert request hnone
    | complete response =>
      simp only [TrackerMachine.step, TrackerMachine.call]
      by_cases hzero : response.responseTo = 0
      · rw [if_pos hzero]
        exact h
      · rw [if_neg hzero]
        cases hpending : machine.tracker.pending[response.responseTo]? with
        | none => exact h
        | some pending =>
          by_cases hterminal : isTerminalResponse response.messageKind
          · exact h.begin_end hpending hterminal (hcareful hterminal)
              (by simp [Frame.ending, hterminal]) trivial
          · simpa only [Bool.not_eq_true _ ▸ hterminal] using h.begin_call hpending hterminal
    | cancelByChannel channelId channelType status => exact h.beginSweep _ _ hcareful
    | expire nowUsec => exact h.beginSweep _ _ hcareful

end Invariant

/-- **Careful runs are safe.** -/
theorem run_safe (ops : List MachineOp) (h : Runs.EveryStep step Careful {} ops) :
    (run ops).Safe := by
  refine Invariant.safe (Runs.run_invariant_of_everyStep ?_ (fun _ _ hs hc => hs.step hc) h)
  refine ⟨fun id pending hpending => ?_, fun call hcall => ?_, fun hmem => ?_, List.nodup_nil,
    fun htracked => ?_, fun frame hframe => ?_, rfl, fun result hresult => ?_⟩
  · simp at hpending
  · cases hcall
  · cases hmem
  · simp at htracked
  · cases hframe
  · cases hresult

/-- A handler that sends a second request when the first one fails, and a timeout inside it for a
third. -/
theorem run_safe_nested :
    (run [
      .call (.track { messageId := 1, correlationId := 1, timeoutMs := 5, messageKind := .request }
        true),
      .call (.track { messageId := 2, correlationId := 2, timeoutMs := 1, messageKind := .request }
        true),
      .call (.complete { responseTo := 1, messageKind := .error }),
      .call (.track { messageId := 3, correlationId := 3, timeoutMs := 5, messageKind := .request }
        true),
      .call (.expire 1000), .handlerReturns, .handlerReturns]).Safe :=
  run_safe _ (by decide +kernel)

/-- The handler of a request completes the request again: it is called a second time with a terminal
response, and the outer `complete` erases an entry that is gone. -/
theorem run_completed_twice :
    let machine := run
      [.call (.track { messageId := 1, correlationId := 1, timeoutMs := 5, messageKind := .request }
        true),
      .call (.complete { responseTo := 1, messageKind := .response }),
      .call (.complete { responseTo := 1, messageKind := .response }),
      .handlerReturns, .handlerReturns]
    machine.terminalCalls 0 = 2 ∧ machine.badErase = true ∧ ¬ machine.Safe := by
  intro machine
  have hbad : machine.badErase = true := by decide +kernel
  refine ⟨by decide +kernel, hbad, fun hsafe => ?_⟩
  have hgood := hsafe.badErase
  rw [hbad] at hgood
  cases hgood

/-! ## Handlers that return at once -/

/-- **A `complete` whose handler returns at once is the plain one.** -/
theorem returns_complete (machine : TrackerMachine) (response : PacketEnvelope) :
    handlerReturns^[(machine.tracker.complete response).2.1.length]
        (machine.call (.complete response)) =
      { machine with
        tracker := (machine.tracker.complete response).2.2
        calls := machine.calls ++ (machine.tracker.complete response).2.1 } := by
  unfold TrackerMachine.call RequestTracker.complete
  by_cases hzero : response.responseTo = 0
  · simp [hzero]
  · cases hpending : machine.tracker.pending[response.responseTo]? with
    | none => simp [hzero, hpending]
    | some pending =>
      by_cases hterminal : isTerminalResponse response.messageKind <;>
        simp [hzero, hpending, hterminal, handlerReturns, eraseAt]

/-- A loop whose handlers return at once is the plain one. -/
theorem returns_nextEnd (machine : TrackerMachine) (status : ResponseStatus) (collected ended : ℕ)
    (ids : List MessageId) :
    handlerReturns^[(machine.tracker.endAll status ids).1.length]
        (machine.nextEnd status collected ended ids) =
      { machine with
        tracker := (machine.tracker.endAll status ids).2
        calls := machine.calls ++ (machine.tracker.endAll status ids).1
        returned := machine.returned ++
          [(collected, ended + (machine.tracker.endAll status ids).1.length)] } := by
  induction ids generalizing machine ended with
  | nil => simp [endAll, nextEnd]
  | cons id rest ih =>
    cases hpending : machine.tracker.pending[id]? with
    | none => simpa only [endAll, nextEnd, hpending] using ih machine ended
    | some pending =>
      have hstep := ih { machine with
        tracker := machine.tracker.erase id
        calls := machine.calls ++ [endCall status pending] } (ended + 1)
      simp only [endAll, nextEnd, hpending, List.length_cons, Function.iterate_succ_apply]
      have hreturn : handlerReturns { machine with
          calls := machine.calls ++ [endCall status pending]
          stack := .sweep id pending.handler rest status collected ended :: machine.stack } =
          nextEnd { machine with
            tracker := machine.tracker.erase id
            calls := machine.calls ++ [endCall status pending] } status collected (ended + 1)
            rest := by
        simp [handlerReturns, eraseAt, hpending]
      rw [hreturn, hstep]
      simp [endCall, Nat.add_assoc, Nat.add_comm 1]

/-- **A `cancelByChannel` or `expire` whose handlers return at once is the plain one**, and returns
the number of its calls. -/
theorem returns_sweep (machine : TrackerMachine) (ends : PendingRequest ℕ → Bool)
    (status : ResponseStatus) :
    handlerReturns^[(machine.tracker.sweep ends status).2.1.length]
        (machine.beginSweep ends status) =
      { machine with
        tracker := (machine.tracker.sweep ends status).2.2
        calls := machine.calls ++ (machine.tracker.sweep ends status).2.1
        returned := machine.returned ++ [((machine.tracker.sweep ends status).1,
          (machine.tracker.sweep ends status).2.1.length)] } := by
  have h := machine.returns_nextEnd status (machine.tracker.collect ends).length 0
    (machine.tracker.collect ends)
  rw [Nat.zero_add] at h
  exact h

end TrackerMachine
end Network
end FusionDesk
