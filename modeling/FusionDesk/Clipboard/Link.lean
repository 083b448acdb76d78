import FusionDesk.Clipboard.Outgoing
import FusionDesk.General.Runs

/-!
# Two modules and what is between them

A module at each end of a connection.  A call goes as far as its send (`ClipboardModule.perform`): its
packet is under way to the other end, and the rest of the call waits until the send returns.  Until
then the module can be called again, so the calls that wait are a stack; a packet that is under way
is delivered or lost in any order.  What a module has sent is kept, and so are the packets that it
has missed, lost or delivered while it did not run.

* `Link.step`: one step of either end.
* `call_self`, `call_other`: what a call does to the end that is called, and to the other.
-/

namespace FusionDesk
namespace Clipboard

open Protocol Network
open FusionDesk.Module

/-- An end of the connection. -/
inductive Side
  | near
  | far
  deriving DecidableEq, Repr

namespace Side

def other : Side → Side
  | near => far
  | far => near

theorem eq_other_of_ne {s side : Side} (h : s ≠ side) : s = side.other := by
  cases s with
  | near =>
    cases side with
    | near => exact absurd rfl h
    | far => rfl
  | far =>
    cases side with
    | near => rfl
    | far => exact absurd rfl h

@[simp] theorem other_ne (side : Side) : side.other ≠ side := by
  cases side with
  | near => exact nofun
  | far => exact nofun

@[simp] theorem other_other (side : Side) : side.other.other = side := by
  cases side with
  | near => rfl
  | far => rfl

end Side

/-- A call that waits for its send, and what the send will return. -/
structure SuspendedCall where
  rest : AfterSend
  sent : Bool

/-- A module, its suspended calls from the innermost on, the packets it has sent, those that are
under way to it, and those that it has missed. -/
structure Party where
  clipboard : ClipboardModule
  suspended : List SuspendedCall := []
  sent : List PacketEnvelope := []
  incoming : List PacketEnvelope := []
  missed : List PacketEnvelope := []

namespace Party

/-- A call up to its send. -/
def enter (party : Party) (call : Call Unit) (surroundings : Surroundings) : Party :=
  { party with
    clipboard := call.after
    suspended :=
      (call.outgoing.map fun outgoing =>
        { rest := outgoing.rest, sent := call.sends surroundings }).toList ++ party.suspended
    sent := party.sent ++ (call.sentPacket surroundings).toList }

/-- Packets of the other end. -/
def receive (party : Party) (packets : List PacketEnvelope) : Party :=
  { party with incoming := party.incoming ++ packets }

/-- A packet is taken out to be handled; a module that does not run misses it. -/
def take (party : Party) (index : ℕ) (packet : PacketEnvelope) : Party :=
  { party with
    incoming := party.incoming.eraseIdx index
    missed :=
      if party.clipboard.state = .running then party.missed else party.missed ++ [packet] }

/-- A packet is lost. -/
def lose (party : Party) (index : ℕ) (packet : PacketEnvelope) : Party :=
  { party with
    incoming := party.incoming.eraseIdx index
    missed := party.missed ++ [packet] }

/-- The send of the innermost call returns. -/
def sendReturns (party : Party) (call : SuspendedCall) (rest : List SuspendedCall) : Party :=
  { party with
    clipboard := party.clipboard.afterSend call.sent call.rest
    suspended := rest }

/-- The pending request with the id. -/
def pending (party : Party) (id : MessageId) : Option (PendingRequest ReadHandler) :=
  party.clipboard.readRequests.pending[id]?

end Party

/-- The two ends. -/
abbrev Link := Side → Party

inductive LinkOp
  /-- A call from outside; packets come by `deliver` only. -/
  | call (side : Side) (op : ClipboardOp) (surroundings : Surroundings)
  | deliver (side : Side) (index : ℕ) (surroundings : Surroundings)
  | lose (side : Side) (index : ℕ)
  | sendReturns (side : Side)

def ClipboardOp.isDelivery : ClipboardOp → Bool
  | .handlePacket _ => true
  | _ => false

namespace Link

/-- Two modules that are built. -/
def start (dependencies : Side → ClipboardModuleDependencies)
    (largeDataWindow : Side → Option ClipboardLargeDataWindow) : Link := fun side =>
  { clipboard := ClipboardModule.construct (dependencies side) (largeDataWindow side) }

/-- One end after a change to it alone. -/
def put (link : Link) (side : Side) (party : Party) : Link := Function.update link side party

/-- A call of the module at one end. -/
def call (link : Link) (side : Side) (op : ClipboardOp) (surroundings : Surroundings) : Link :=
  let call := (link side).clipboard.perform surroundings op
  fun s =>
    if s = side then (link side).enter call surroundings
    else (link s).receive (call.sentPacket surroundings).toList

/-- One step of either end. -/
def step (link : Link) : LinkOp → Link
  | .call side op surroundings => if op.isDelivery then link else link.call side op surroundings
  | .deliver side index surroundings =>
    match (link side).incoming[index]? with
    | none => link
    | some packet =>
      (link.put side ((link side).take index packet)).call side (.handlePacket packet) surroundings
  | .lose side index =>
    match (link side).incoming[index]? with
    | none => link
    | some packet => link.put side ((link side).lose index packet)
  | .sendReturns side =>
    match (link side).suspended with
    | [] => link
    | call :: rest => link.put side ((link side).sendReturns call rest)

variable {link : Link} {side : Side}

@[simp] theorem put_self (link : Link) (side : Side) (party : Party) :
    link.put side party side = party := Function.update_self ..

@[simp] theorem put_other (link : Link) (side : Side) (party : Party) :
    link.put side party side.other = link side.other :=
  Function.update_of_ne side.other_ne _ _

@[simp] theorem call_self (link : Link) (side : Side) (op : ClipboardOp)
    (surroundings : Surroundings) :
    link.call side op surroundings side =
      (link side).enter ((link side).clipboard.perform surroundings op) surroundings :=
  if_pos rfl

@[simp] theorem call_other (link : Link) (side : Side) (op : ClipboardOp)
    (surroundings : Surroundings) :
    link.call side op surroundings side.other =
      (link side.other).receive
        (((link side).clipboard.perform surroundings op).sentPacket surroundings).toList :=
  if_neg side.other_ne

variable {index : ℕ} {packet : PacketEnvelope}

theorem step_deliver_of_none (h : (link side).incoming[index]? = none)
    (surroundings : Surroundings) : link.step (.deliver side index surroundings) = link := by
  simp only [step, h]

theorem step_deliver (h : (link side).incoming[index]? = some packet)
    (surroundings : Surroundings) :
    link.step (.deliver side index surroundings) =
      (link.put side ((link side).take index packet)).call side (.handlePacket packet)
        surroundings := by
  simp only [step, h]

theorem step_lose_of_none (h : (link side).incoming[index]? = none) :
    link.step (.lose side index) = link := by
  simp only [step, h]

theorem step_lose (h : (link side).incoming[index]? = some packet) :
    link.step (.lose side index) = link.put side ((link side).lose index packet) := by
  simp only [step, h]

theorem step_sendReturns_of_nil (h : (link side).suspended = []) :
    link.step (.sendReturns side) = link := by
  simp only [step, h]

theorem step_sendReturns {call : SuspendedCall} {rest : List SuspendedCall}
    (h : (link side).suspended = call :: rest) :
    link.step (.sendReturns side) = link.put side ((link side).sendReturns call rest) := by
  simp only [step, h]

/-- **A predicate on both ends**, said of the end that takes a step and of the other. -/
theorem forall_side {P : Side → Prop} (side : Side) : (∀ s, P s) ↔ P side ∧ P side.other := by
  constructor
  · exact fun h => ⟨h side, h side.other⟩
  · rintro ⟨hself, hother⟩ s
    by_cases hs : s = side
    · exact hs ▸ hself
    · exact Side.eq_other_of_ne hs ▸ hother

end Link

end Clipboard
end FusionDesk
