import FusionDesk.Clipboard.LocalReads
import FusionDesk.Clipboard.TransferRegistryRuns
import FusionDesk.Clipboard.WindowMoves

/-!
# The bytes in flight of the large data window

The near end sends large responses under a window.  What is in flight is the sum of what is held for
responses that were sent and of what is reserved for those that are being sent, it is at most the
maximum, and no reservation is released twice; all that is asked for is that the counter of responses
does not run through all numbers.

The window is empty again when all has arrived, if every acknowledgement comes: a large response has
to find its request pending at the far end, its acknowledgement has to be sent, and not to be handled
before the send of the response has returned.

* `WindowAccount`: the account of one end, which every call keeps (`WindowAccount.enter`).
* `Covered`: a response that is held for is under way, or its acknowledgement is.
* `window_conserved`: both for every run.
-/

namespace FusionDesk
namespace Clipboard

open Protocol Network Holdings
open FusionDesk.Module

/-! ## The account of one end -/

namespace Party

variable (party : Party)

/-- The reservations of the responses that are being sent. -/
def reserving : List (MessageId × UInt64) :=
  party.suspended.filterMap fun call => call.rest.reservation

/-- The ids of all reservations. -/
def reservedIds : List MessageId :=
  party.reserving.map Prod.fst ++ party.clipboard.largeDataReservations.keys

/-- The bytes that are held for responses that were sent. -/
def heldBytes : ℕ := total UInt64.toNat party.clipboard.largeDataReservations

def reservingBytes : ℕ := (party.reserving.map fun item => item.2.toNat).sum

/-- The number of the next response. -/
def responseCount : ℕ := party.clipboard.nextResponseMessageId.toNat

end Party

/-- **What is in flight is what is held and what is being reserved, and no more than the maximum.**
No two reservations have one id, and the ids are below the counter. -/
structure WindowAccount (max : UInt64) (party : Party) : Prop where
  window : ∃ window, party.clipboard.largeDataWindow = some window ∧
    window.maxInFlightBytes = max ∧ window.inFlightBytes ≤ max ∧
    window.inFlightBytes.toNat = party.heldBytes + party.reservingBytes
  nodup : party.reservedIds.Nodup
  counted : ∀ id ∈ party.reservedIds, id ≠ 0 ∧ id.toNat < party.responseCount
  counter : 0 < party.responseCount

/-- An end goes on: it counts upwards, and what it reserves is new. -/
structure Party.Advances (before after : Party) : Prop where
  counter : before.responseCount ≤ after.responseCount
  ids : ∀ id ∈ after.reservedIds, id ∈ before.reservedIds ∨ before.responseCount ≤ id.toNat

namespace WindowAccount

variable {max : UInt64} {party after : Party}

/-- An end with the same window, reservations and suspended calls. -/
theorem of_same (h : WindowAccount max party)
    (hpart : after.clipboard.windowPart = party.clipboard.windowPart)
    (hreserving : after.reserving = party.reserving)
    (hcounter : party.responseCount ≤ after.responseCount) :
    WindowAccount max after ∧ party.Advances after := by
  have hwindow : after.clipboard.largeDataWindow = party.clipboard.largeDataWindow :=
    congrArg Prod.fst hpart
  have hheld : after.clipboard.largeDataReservations = party.clipboard.largeDataReservations :=
    congrArg Prod.snd hpart
  have hids : after.reservedIds = party.reservedIds := by
    rw [Party.reservedIds, hreserving, hheld]
    rfl
  refine ⟨⟨?_, hids ▸ h.nodup, ?_, h.counter.trans_le hcounter⟩, hcounter, ?_⟩
  · obtain ⟨window, hsome, hmax, hfits, hbytes⟩ := h.window
    refine ⟨window, hwindow.trans hsome, hmax, hfits, ?_⟩
    rw [Party.heldBytes, Party.reservingBytes, hheld, hreserving]
    exact hbytes
  · intro id hid
    rw [hids] at hid
    obtain ⟨hnonzero, hbelow⟩ := h.counted id hid
    exact ⟨hnonzero, hbelow.trans_le hcounter⟩
  · exact fun id hid => Or.inl (hids ▸ hid)

/-- A reservation for the response with the next id. -/
theorem reserve (h : WindowAccount max party) (hmax : max ≠ 0) {bytes : UInt64}
    {window : ClipboardLargeDataWindow}
    (hwindow : party.clipboard.largeDataWindow = some window)
    (hok : (window.reserve bytes).1.ok = true)
    (hpart : after.clipboard.windowPart =
      (some (window.reserve bytes).2, party.clipboard.largeDataReservations))
    (hreserving : after.reserving =
      (party.clipboard.nextResponseMessageId, bytes) :: party.reserving)
    (hcounter : party.responseCount < after.responseCount) :
    WindowAccount max after ∧ party.Advances after := by
  have hheld : after.clipboard.largeDataReservations = party.clipboard.largeDataReservations :=
    congrArg Prod.snd hpart
  have hids : after.reservedIds =
      party.clipboard.nextResponseMessageId :: party.reservedIds := by
    rw [Party.reservedIds, hreserving, hheld]
    rfl
  obtain ⟨window', hsome, hwindowMax, hfits, hbytes⟩ := h.window
  obtain rfl : window' = window := Option.some_inj.mp (hsome.symm.trans hwindow)
  obtain ⟨hsameMax, hreserved, hbelowMax⟩ :=
    window'.reserve_cases bytes (hwindowMax ▸ hmax) (hwindowMax ▸ hfits) hok
  refine ⟨⟨⟨_, congrArg Prod.fst hpart, hsameMax.trans hwindowMax, hwindowMax ▸ hbelowMax, ?_⟩,
    ?_, ?_, ?_⟩, hcounter.le, ?_⟩
  · have htotal : after.heldBytes = party.heldBytes := by
      rw [Party.heldBytes, hheld]
      rfl
    have hsum : after.reservingBytes = bytes.toNat + party.reservingBytes := by
      rw [Party.reservingBytes, hreserving]
      rfl
    omega
  · rw [hids]
    refine List.nodup_cons.mpr ⟨fun hmem => ?_, h.nodup⟩
    exact absurd (h.counted _ hmem).2 (lt_irrefl _)
  · intro id hid
    rw [hids] at hid
    rcases List.mem_cons.mp hid with rfl | hold
    · refine ⟨fun hzero => ?_, hcounter⟩
      have hpositive := h.counter
      rw [Party.responseCount, hzero] at hpositive
      exact absurd hpositive (by decide)
    · obtain ⟨hnonzero, hbelow⟩ := h.counted id hold
      exact ⟨hnonzero, hbelow.trans hcounter⟩
  · exact h.counter.trans hcounter
  · intro id hid
    rw [hids] at hid
    rcases List.mem_cons.mp hid with rfl | hold
    · exact Or.inr le_rfl
    · exact Or.inl hold

/-- The release of a reservation that is held. -/
theorem release (h : WindowAccount max party) {id : MessageId} {bytes : UInt64}
    (hlookup : party.clipboard.largeDataReservations.lookup id = some bytes)
    (hpart : after.clipboard.windowPart =
      (party.clipboard.largeDataWindow.map (·.release bytes),
        party.clipboard.largeDataReservations.erase id))
    (hreserving : after.reserving = party.reserving)
    (hcounter : party.responseCount ≤ after.responseCount) :
    WindowAccount max after ∧ party.Advances after := by
  have hheld : after.clipboard.largeDataReservations =
      party.clipboard.largeDataReservations.erase id := congrArg Prod.snd hpart
  have hids : after.reservedIds.Sublist party.reservedIds := by
    rw [Party.reservedIds, hreserving, hheld, AList.keys_erase]
    exact (List.Sublist.refl _).append List.erase_sublist
  have htotal : bytes.toNat + after.heldBytes = party.heldBytes := by
    rw [Party.heldBytes, hheld]
    exact total_erase hlookup
  refine ⟨⟨?_, hids.nodup h.nodup, ?_, h.counter.trans_le hcounter⟩, hcounter, ?_⟩
  · obtain ⟨window, hsome, hmax, hfits, hbytes⟩ := h.window
    have hreleased := window.toNat_release bytes (by omega)
    refine ⟨window.release bytes, ?_, hmax, ?_, ?_⟩
    · rw [show after.clipboard.largeDataWindow = _ from congrArg Prod.fst hpart, hsome]
      rfl
    · rw [UInt64.le_iff_toNat_le] at hfits ⊢
      omega
    · have hsum : after.reservingBytes = party.reservingBytes := by
        rw [Party.reservingBytes, hreserving]
        rfl
      omega
  · intro id hid
    obtain ⟨hnonzero, hbelow⟩ := h.counted id (hids.subset hid)
    exact ⟨hnonzero, hbelow.trans_le hcounter⟩
  · exact fun id hid => Or.inl (hids.subset hid)

/-- The release of all that is held. -/
theorem releaseAll (h : WindowAccount max party)
    (hpart : after.clipboard.windowPart =
      party.clipboard.releaseAllLargeDataReservations.windowPart)
    (hreserving : after.reserving = party.reserving)
    (hcounter : party.responseCount ≤ after.responseCount) :
    WindowAccount max after ∧ party.Advances after := by
  have hheld : after.clipboard.largeDataReservations = ∅ := congrArg Prod.snd hpart
  have hids : after.reservedIds.Sublist party.reservedIds := by
    rw [Party.reservedIds, hreserving, hheld]
    exact (List.Sublist.refl _).append (List.nil_sublist _)
  refine ⟨⟨?_, hids.nodup h.nodup, ?_, h.counter.trans_le hcounter⟩, hcounter, ?_⟩
  · obtain ⟨window, hsome, hmax, hfits, hbytes⟩ := h.window
    have hall : (party.clipboard.largeDataReservations.entries.map fun item => item.2.toNat).sum =
      party.heldBytes := rfl
    obtain ⟨hsameMax, hreleased⟩ := window.toNat_releaseAll (show (List.map
      (fun item => item.2.toNat) party.clipboard.largeDataReservations.entries).sum ≤ _ by omega)
    refine ⟨_, ?_, hsameMax.trans hmax, ?_, ?_⟩
    · rw [show after.clipboard.largeDataWindow = _ from congrArg Prod.fst hpart]
      show Option.map _ party.clipboard.largeDataWindow = _
      rw [hsome]
      rfl
    · rw [UInt64.le_iff_toNat_le] at hfits ⊢
      omega
    · have htotal : after.heldBytes = 0 := by
        rw [Party.heldBytes, hheld]
        exact total_empty
      have hsum : after.reservingBytes = party.reservingBytes := by
        rw [Party.reservingBytes, hreserving]
        rfl
      omega
  · intro id hid
    obtain ⟨hnonzero, hbelow⟩ := h.counted id (hids.subset hid)
    exact ⟨hnonzero, hbelow.trans_le hcounter⟩
  · exact fun id hid => Or.inl (hids.subset hid)

/-- A send has returned and its reservation is held; no bytes are not held. -/
theorem hold (h : WindowAccount max party) {id : MessageId} {bytes : UInt64}
    (hreserving : party.reserving = (id, bytes) :: after.reserving)
    (hclipboard : after.clipboard = party.clipboard.trackLargeDataReservation id bytes) :
    WindowAccount max after ∧ party.Advances after := by
  have hcounter : after.responseCount = party.responseCount := by
    rw [Party.responseCount, hclipboard, ClipboardModule.trackLargeDataReservation]
    split
    · rfl
    · rfl
  have hwindow : after.clipboard.largeDataWindow = party.clipboard.largeDataWindow := by
    rw [hclipboard, ClipboardModule.trackLargeDataReservation]
    split
    · rfl
    · rfl
  have hsum : party.reservingBytes = bytes.toNat + after.reservingBytes := by
    rw [Party.reservingBytes, hreserving]
    rfl
  have hbefore : party.reservedIds =
      id :: (after.reserving.map Prod.fst ++ party.clipboard.largeDataReservations.keys) := by
    rw [Party.reservedIds, hreserving]
    rfl
  have hnodup := h.nodup
  rw [hbefore] at hnodup
  obtain ⟨hnew, hrest⟩ := List.nodup_cons.mp hnodup
  have hnonzero : id ≠ 0 := (h.counted id (hbefore ▸ List.mem_cons_self)).1
  have hfresh : id ∉ party.clipboard.largeDataReservations := fun hmem =>
    hnew (List.mem_append_right _ hmem)
  -- the ids stay, or lose the one that holds nothing
  have hmoved : after.reservedIds.Subperm party.reservedIds ∧
      after.heldBytes = bytes.toNat + party.heldBytes := by
    rw [hbefore, Party.reservedIds, Party.heldBytes, hclipboard,
      ClipboardModule.trackLargeDataReservation]
    by_cases hzero : id = 0 ∨ bytes = 0
    · rw [if_pos hzero]
      obtain rfl := hzero.resolve_left hnonzero
      refine ⟨(List.sublist_cons_self _ _).subperm, ?_⟩
      show party.heldBytes = (0 : UInt64).toNat + party.heldBytes
      simp
    · rw [if_neg hzero]
      refine ⟨?_, total_insert hfresh bytes⟩
      show (after.reserving.map Prod.fst ++
        (party.clipboard.largeDataReservations.insert id bytes).keys).Subperm _
      rw [AList.keys_insert, List.erase_of_not_mem hfresh]
      exact List.perm_middle.subperm
  refine ⟨⟨?_, nodup_of_subperm h.nodup hmoved.1, ?_, hcounter ▸ h.counter⟩, hcounter.ge, ?_⟩
  · obtain ⟨window, hsome, hmax, hfits, hbytes⟩ := h.window
    exact ⟨window, hwindow.trans hsome, hmax, hfits, by omega⟩
  · intro id' hid
    rw [hcounter]
    exact h.counted id' (hmoved.1.subset hid)
  · exact fun id' hid => Or.inl (hmoved.1.subset hid)

/-- A send has failed and its reservation is given back. -/
theorem giveBack (h : WindowAccount max party) {id : MessageId} {bytes : UInt64}
    (hreserving : party.reserving = (id, bytes) :: after.reserving)
    (hclipboard : after.clipboard = party.clipboard.releaseWindow bytes) :
    WindowAccount max after ∧ party.Advances after := by
  have hcounter : after.responseCount = party.responseCount := by
    rw [Party.responseCount, hclipboard]
    rfl
  have hsum : party.reservingBytes = bytes.toNat + after.reservingBytes := by
    rw [Party.reservingBytes, hreserving]
    rfl
  have htotal : after.heldBytes = party.heldBytes := by
    rw [Party.heldBytes, hclipboard]
    rfl
  have hids : after.reservedIds.Sublist party.reservedIds := by
    rw [Party.reservedIds, Party.reservedIds, hreserving, hclipboard]
    exact List.sublist_cons_self _ _
  refine ⟨⟨?_, hids.nodup h.nodup, ?_, hcounter ▸ h.counter⟩, hcounter.ge, ?_⟩
  · obtain ⟨window, hsome, hmax, hfits, hbytes⟩ := h.window
    have hreleased := window.toNat_release bytes (by omega)
    refine ⟨window.release bytes, ?_, hmax, ?_, by omega⟩
    · rw [hclipboard]
      show Option.map _ party.clipboard.largeDataWindow = _
      rw [hsome]
      rfl
    · rw [UInt64.le_iff_toNat_le] at hfits ⊢
      omega
  · intro id' hid
    rw [hcounter]
    exact h.counted id' (hids.subset hid)
  · exact fun id' hid => Or.inl (hids.subset hid)

end WindowAccount

/-! ### Calls -/

namespace Party

variable (party : Party) (call : Call Unit) (surroundings : Surroundings)

/-- A call that has reserved nothing. -/
theorem reserving_enter_of_none
    (h : call.SendsOnly fun outgoing => outgoing.rest.reservation = none) :
    (party.enter call surroundings).reserving = party.reserving := by
  cases hout : call.outgoing with
  | none => simp [reserving, enter, hout]
  | some outgoing =>
    have hnone : outgoing.rest.reservation = none := h outgoing hout
    simp [reserving, enter, hout, hnone]

/-- A call that has reserved something. -/
theorem reserving_enter_of_some {packet : PacketEnvelope} {id : MessageId} {bytes : UInt64}
    (h : call.outgoing = some { packet := packet, rest := .rangeSent id bytes }) :
    (party.enter call surroundings).reserving = (id, bytes) :: party.reserving := by
  simp [reserving, enter, h, AfterSend.reservation]

end Party

namespace WindowAccount

variable {max : UInt64} {party : Party}

/-- **Every call keeps the account.** -/
theorem enter (h : WindowAccount max party) (hmax : max ≠ 0)
    (hbound : party.responseCount + 2 < 2 ^ 64) (op : ClipboardOp) (surroundings : Surroundings) :
    let after := party.enter (party.clipboard.perform surroundings op) surroundings
    WindowAccount max after ∧ party.Advances after := by
  have hmove := party.clipboard.windowMove_perform surroundings op
  have hcounter := (party.clipboard.counts_perform surroundings op).le hbound
  intro after
  have hafter : after = party.enter (party.clipboard.perform surroundings op) surroundings := rfl
  generalize party.clipboard.perform surroundings op = call at hmove hcounter hafter
  clear_value after
  subst hafter
  cases hmove with
  | kept part rest =>
    exact h.of_same part (party.reserving_enter_of_none call surroundings rest) hcounter
  | reserved window_eq ok after outgoing messageId counted =>
    refine h.reserve hmax window_eq ok after ?_ ?_
    · rw [← messageId]
      exact party.reserving_enter_of_some call surroundings outgoing
    · show party.clipboard.nextResponseMessageId.toNat < call.after.nextResponseMessageId.toNat
      have hcount : party.clipboard.nextResponseMessageId.toNat + 2 < 2 ^ 64 := hbound
      rw [counted, UInt64.toNat_add]
      show _ < (_ + 1) % 2 ^ 64
      omega
  | @acknowledged packet running ack =>
    have hreserving := party.reserving_enter_of_none
      (.silent (party.clipboard.handleLargeDataAck packet)) surroundings Call.sendsOnly_silent
    by_cases hzero : packet.responseTo = 0
    · refine h.of_same ?_ hreserving hcounter
      show (party.clipboard.handleLargeDataAck packet).windowPart = _
      rw [ClipboardModule.handleLargeDataAck, if_pos hzero]
    · have hack : party.clipboard.handleLargeDataAck packet =
        party.clipboard.releaseLargeDataReservation packet.responseTo := if_neg hzero
      cases hlookup : party.clipboard.largeDataReservations.lookup packet.responseTo with
      | none =>
        refine h.of_same ?_ hreserving hcounter
        show (party.clipboard.handleLargeDataAck packet).windowPart = _
        rw [hack, ClipboardModule.releaseLargeDataReservation, hlookup]
      | some bytes =>
        refine h.release hlookup ?_ hreserving hcounter
        show (party.clipboard.handleLargeDataAck packet).windowPart = _
        rw [hack, ClipboardModule.releaseLargeDataReservation, hlookup]
        rfl
  | cleared after outgoing =>
    refine h.releaseAll after (party.reserving_enter_of_none call surroundings ?_) hcounter
    exact Call.sendsOnly_of_none outgoing

/-- **So does the return of a send.** -/
theorem sendReturns (h : WindowAccount max party) {call : SuspendedCall}
    {rest : List SuspendedCall} (hsuspended : party.suspended = call :: rest) :
    WindowAccount max (party.sendReturns call rest) ∧
      party.Advances (party.sendReturns call rest) := by
  obtain ⟨afterSend, sent⟩ := call
  cases hreservation : afterSend.reservation with
  | none =>
    obtain ⟨hpart, hcounter⟩ :=
      party.clipboard.afterSend_of_reservation_none sent hreservation
    refine h.of_same hpart ?_ (congrArg UInt64.toNat hcounter).ge
    simp [Party.reserving, hsuspended, hreservation, Party.sendReturns]
  | some item =>
    have hreserving : party.reserving =
        item :: (party.sendReturns ⟨afterSend, sent⟩ rest).reserving := by
      simp [Party.reserving, hsuspended, hreservation, Party.sendReturns]
    cases afterSend with
    | rangeSent id bytes =>
      cases hreservation
      cases sent with
      | true => exact h.hold hreserving rfl
      | false => exact h.giveBack hreserving rfl
    | _ => cases hreservation

end WindowAccount

/-! ## The account along a run -/

/-- The counter of responses of the near end has ids left. -/
def CountsOn (link : Link) : Prop := (link .near).responseCount + 2 < 2 ^ 64

instance : DecidablePred CountsOn :=
  fun link => inferInstanceAs (Decidable ((link .near).responseCount + 2 < 2 ^ 64))

theorem WindowAccount.step {max : UInt64} {link : Link} (h : WindowAccount max (link .near))
    (hmax : max ≠ 0) (hbound : CountsOn link) (op : LinkOp) :
    WindowAccount max (link.step op .near) ∧ (link .near).Advances (link.step op .near) := by
  have hsame : ∀ {after : Party}, after.clipboard = (link .near).clipboard →
      after.suspended = (link .near).suspended →
      WindowAccount max after ∧ (link .near).Advances after := by
    intro after hclipboard hsuspended
    refine h.of_same (congrArg _ hclipboard) ?_ (le_of_eq ?_)
    · rw [Party.reserving, hsuspended]
      rfl
    · rw [Party.responseCount, Party.responseCount, hclipboard]
  cases op with
  | call side op surroundings =>
    unfold Link.step
    simp only
    split
    · exact hsame rfl rfl
    · cases side with
      | near => exact h.enter hmax hbound op surroundings
      | far => exact hsame rfl rfl
  | deliver side index surroundings =>
    cases hpacket : (link side).incoming[index]? with
    | none =>
      rw [Link.step_deliver_of_none hpacket]
      exact hsame rfl rfl
    | some packet =>
      rw [Link.step_deliver hpacket]
      cases side with
      | near =>
        have htaken : WindowAccount max ((link .near).take index packet) :=
          (@hsame ((link .near).take index packet) rfl rfl).1
        rw [Link.call_self, Link.put_self]
        obtain ⟨haccount, hadvances⟩ :=
          htaken.enter hmax hbound (.handlePacket packet) surroundings
        exact ⟨haccount, hadvances.counter, hadvances.ids⟩
      | far => exact hsame rfl rfl
  | lose side index =>
    cases hpacket : (link side).incoming[index]? with
    | none =>
      rw [Link.step_lose_of_none hpacket]
      exact hsame rfl rfl
    | some packet =>
      rw [Link.step_lose hpacket]
      cases side with
      | near => exact hsame rfl rfl
      | far => exact hsame rfl rfl
  | sendReturns side =>
    cases hsuspended : (link side).suspended with
    | nil =>
      rw [Link.step_sendReturns_of_nil hsuspended]
      exact hsame rfl rfl
    | cons call rest =>
      rw [Link.step_sendReturns hsuspended]
      cases side with
      | near => exact h.sendReturns hsuspended
      | far => exact hsame rfl rfl

/-- Two modules, and the ids of the reservations that were released so far. -/
structure WindowHistory where
  link : Link
  released : List MessageId := []

namespace WindowHistory

/-- A step releases what was reserved before it and is not any more. -/
def step (history : WindowHistory) (op : LinkOp) : WindowHistory where
  link := history.link.step op
  released := history.released ++ (history.link .near).reservedIds.filter fun id =>
    id ∉ (history.link.step op .near).reservedIds

/-- **What is released and what is reserved are apart**, and all of it was counted. -/
structure Apart (history : WindowHistory) : Prop where
  nodup : history.released.Nodup
  disjoint : ∀ id ∈ history.released, id ∉ (history.link .near).reservedIds
  counted : ∀ id ∈ history.released, id.toNat < (history.link .near).responseCount

theorem Apart.step {history : WindowHistory} (h : history.Apart) {max : UInt64}
    (haccount : WindowAccount max (history.link .near)) {op : LinkOp}
    (hadvances : (history.link .near).Advances (history.link.step op .near)) :
    (history.step op).Apart := by
  refine ⟨?_, fun id hid hafter => ?_, fun id hid => ?_⟩
  · refine List.Nodup.append h.nodup (haccount.nodup.filter _) fun id hreleased hnow => ?_
    exact h.disjoint id hreleased (List.mem_filter.mp hnow).1
  · rcases List.mem_append.mp hid with hold | hnow
    · rcases hadvances.ids id hafter with hbefore | hnew
      · exact h.disjoint id hold hbefore
      · exact absurd (h.counted id hold) (not_lt.mpr hnew)
    · exact of_decide_eq_true (List.mem_filter.mp hnow).2 hafter
  · rcases List.mem_append.mp hid with hold | hnow
    · exact (h.counted id hold).trans_le hadvances.counter
    · exact (haccount.counted id (List.mem_filter.mp hnow).1).2.trans_le hadvances.counter

end WindowHistory

/-! ## What is under way -/

/-- A response on the large_data channel. -/
def isLargeResponse (packet : PacketEnvelope) : Bool :=
  packet.messageKind == .response && isClipboardLargeDataPacket packet

namespace Party

variable (party : Party)

/-- The ids of the responses that were sent and whose sends have not returned. -/
def sentIds : List MessageId :=
  party.suspended.filterMap fun call =>
    if call.sent then call.rest.reservation.map Prod.fst else none

/-- The ids of the reservations whose responses were sent. -/
def awaiting : List MessageId := party.sentIds ++ party.clipboard.largeDataReservations.keys

/-- A packet is under way to the end or was missed by it. -/
def Has (packet : PacketEnvelope) : Prop := packet ∈ party.incoming ∨ packet ∈ party.missed

end Party

/-- **The response with the id is under way or was missed, or its acknowledgement is.** -/
def Link.Covered (link : Link) (id : MessageId) : Prop :=
  (∃ packet, (link .far).Has packet ∧ isLargeResponse packet = true ∧ packet.messageId = id) ∨
    ∃ packet, (link .near).Has packet ∧ received packet = .ack ∧ packet.responseTo = id

/-- An acknowledgement is handled when the send of its response has returned; a large response finds
its request pending, and its acknowledgement is sent. -/
def Orderly (link : Link) : LinkOp → Prop
  | .deliver .near index _ =>
    (link .near).clipboard.state = .running → ∀ packet ∈ (link .near).incoming[index]?,
      received packet = .ack → packet.responseTo ∉ (link .near).reserving.map Prod.fst
  | .deliver .far index surroundings =>
    (link .far).clipboard.state = .running → ∀ packet ∈ (link .far).incoming[index]?,
      isLargeResponse packet = true → packet.responseTo ≠ 0 ∧
        ((link .far).pending packet.responseTo).any
          (fun pending => pending.handler == .fileRangeResponse) = true ∧
        (link .far).clipboard.runtime.network = true ∧ surroundings.sent = true
  | _ => True

instance (link : Link) : ∀ op, Decidable (Orderly link op)
  | .deliver .near index _ => inferInstanceAs (Decidable
    ((link .near).clipboard.state = .running → ∀ packet ∈ (link .near).incoming[index]?,
      received packet = .ack → packet.responseTo ∉ (link .near).reserving.map Prod.fst))
  | .deliver .far index surroundings => inferInstanceAs (Decidable
    ((link .far).clipboard.state = .running → ∀ packet ∈ (link .far).incoming[index]?,
      isLargeResponse packet = true → packet.responseTo ≠ 0 ∧
        ((link .far).pending packet.responseTo).any
          (fun pending => pending.handler == .fileRangeResponse) = true ∧
        (link .far).clipboard.runtime.network = true ∧ surroundings.sent = true))
  | .call _ _ _ => isTrue trivial
  | .lose _ _ => isTrue trivial
  | .sendReturns _ => isTrue trivial

/-- **A large response whose request is pending is acknowledged.** -/
theorem acknowledges (m : ClipboardModule) (surroundings : Surroundings) {packet : PacketEnvelope}
    (hrunning : m.state = .running) (hlarge : isLargeResponse packet = true)
    (hid : packet.messageId ≠ 0) (hto : packet.responseTo ≠ 0)
    (hpending : m.readRequests.pending[packet.responseTo]?.any
      (fun pending => pending.handler == .fileRangeResponse) = true)
    (hnetwork : m.runtime.network = true) (hsent : surroundings.sent = true) :
    ∃ ack, (m.perform surroundings (.handlePacket packet)).sentPacket surroundings = some ack ∧
      received ack = .ack ∧ ack.responseTo = packet.messageId := by
  obtain ⟨hkind, hchannel⟩ := Bool.and_eq_true_iff.mp hlarge
  have hkind : packet.messageKind = .response := eq_of_beq hkind
  have htype : packet.packetType = .clipboard := by
    rw [isClipboardLargeDataPacket, Bool.and_assoc, Bool.and_eq_true] at hchannel
    exact eq_of_beq hchannel.1
  have hanswer : received packet = .answer := by
    rw [received, if_neg (not_not.mpr htype), if_neg (by rw [hkind]; decide),
      if_pos (Or.inl hkind)]
  obtain ⟨pending, hsome, hhandler⟩ : ∃ pending,
      m.readRequests.pending[packet.responseTo]? = some pending ∧
        pending.handler = .fileRangeResponse := by
    cases hsome : m.readRequests.pending[packet.responseTo]? with
    | none =>
      rw [hsome] at hpending
      cases hpending
    | some pending =>
      rw [hsome] at hpending
      exact ⟨pending, rfl, eq_of_beq hpending⟩
  obtain ⟨ack, hack⟩ : ∃ ack, m.largeDataAck surroundings packet = some ack := by
    rw [ClipboardModule.largeDataAck, if_neg]
    · exact ⟨_, rfl⟩
    · rintro (hsmall | hzero)
      · rw [hchannel] at hsmall
        cases hsmall
      · exact hid hzero
  have hcomplete : m.readRequests.complete packet =
      (true, [⟨pending.handler, packet⟩], m.readRequests.erase packet.responseTo) := by
    rw [RequestTracker.complete, if_neg hto, hsome]
    simp only [RequestTracker.isTerminalResponse, hkind]
    rfl
  refine ⟨ack, ?_, ?_, ?_⟩
  · show (m.handlePacket surroundings packet).sentPacket surroundings = some ack
    rw [m.handlePacket_eq surroundings packet hrunning, hanswer]
    simp only [ClipboardModule.handle, ClipboardModule.handleReadResponse,
      ClipboardModule.completeRead, hcomplete, hhandler, if_true]
    have hsame : ({ m with lastReadResponseTo := packet.responseTo } :
      ClipboardModule).largeDataAck surroundings packet = some ack := hack
    simp only [hsame, Call.sentPacket, Call.sends, hnetwork, hsent, Bool.and_true, if_true,
      Option.map_some]
  · rw [ClipboardModule.largeDataAck] at hack
    split at hack
    · cases hack
    · cases hack
      rfl
  · rw [ClipboardModule.largeDataAck] at hack
    split at hack
    · cases hack
    · cases hack
      rfl

/-- **A packet stays until a running module handles it.** -/
theorem has_step {link : Link} {s : Side} {packet : PacketEnvelope} (h : (link s).Has packet)
    (op : LinkOp) :
    (link.step op s).Has packet ∨ ∃ index surroundings, op = .deliver s index surroundings ∧
      (link s).incoming[index]? = some packet ∧ (link s).clipboard.state = .running := by
  have hother : ∀ {side : Side} {party : Party}, s ≠ side → (link.put side party s).Has packet := by
    intro side party hs
    rw [Side.eq_other_of_ne hs, Link.put_other, ← Side.eq_other_of_ne hs]
    exact h
  have hcall : ∀ {link : Link} {side : Side} {op : ClipboardOp} {surroundings : Surroundings},
      (link s).Has packet → (link.call side op surroundings s).Has packet := by
    intro link side op surroundings hhas
    by_cases hs : s = side
    · subst hs
      rw [Link.call_self]
      exact hhas
    · rw [Side.eq_other_of_ne hs, Link.call_other, ← Side.eq_other_of_ne hs]
      exact hhas.imp_left fun hincoming => List.mem_append_left _ hincoming
  have herased : ∀ {index : ℕ} {taken : PacketEnvelope}, (link s).incoming[index]? = some taken →
      packet ∈ (link s).incoming → packet = taken ∨ packet ∈ (link s).incoming.eraseIdx index := by
    intro index taken htaken hmem
    obtain ⟨hlt, rfl⟩ := List.getElem?_eq_some_iff.mp htaken
    exact List.mem_cons.mp ((List.getElem_cons_eraseIdx_perm hlt).mem_iff.mpr hmem)
  cases op with
  | call side op surroundings =>
    unfold Link.step
    simp only
    split
    · exact Or.inl h
    · exact Or.inl (hcall h)
  | deliver side index surroundings =>
    cases htaken : (link side).incoming[index]? with
    | none =>
      rw [Link.step_deliver_of_none htaken]
      exact Or.inl h
    | some taken =>
      rw [Link.step_deliver htaken]
      by_cases hs : s = side
      · subst hs
        by_cases hrunning : (link s).clipboard.state = .running
        · rcases h with hincoming | hmissed
          · rcases herased htaken hincoming with rfl | hleft
            · exact Or.inr ⟨index, surroundings, rfl, htaken, hrunning⟩
            · refine Or.inl (hcall ?_)
              rw [Link.put_self]
              exact Or.inl hleft
          · refine Or.inl (hcall ?_)
            rw [Link.put_self]
            exact Or.inr (by rwa [Party.take, if_pos hrunning])
        · refine Or.inl (hcall ?_)
          rw [Link.put_self, Party.Has, Party.take, if_neg hrunning]
          rcases h with hincoming | hmissed
          · rcases herased htaken hincoming with rfl | hleft
            · exact Or.inr (List.mem_append_right _ (List.mem_singleton_self _))
            · exact Or.inl hleft
          · exact Or.inr (List.mem_append_left _ hmissed)
      · exact Or.inl (hcall (hother hs))
  | lose side index =>
    cases htaken : (link side).incoming[index]? with
    | none =>
      rw [Link.step_lose_of_none htaken]
      exact Or.inl h
    | some taken =>
      rw [Link.step_lose htaken]
      by_cases hs : s = side
      · subst hs
        rw [Link.put_self]
        rcases h with hincoming | hmissed
        · rcases herased htaken hincoming with rfl | hleft
          · exact Or.inl (Or.inr (List.mem_append_right _ (List.mem_singleton_self _)))
          · exact Or.inl (Or.inl hleft)
        · exact Or.inl (Or.inr (List.mem_append_left _ hmissed))
      · exact Or.inl (hother hs)
  | sendReturns side =>
    cases hsuspended : (link side).suspended with
    | nil =>
      rw [Link.step_sendReturns_of_nil hsuspended]
      exact Or.inl h
    | cons call rest =>
      rw [Link.step_sendReturns hsuspended]
      by_cases hs : s = side
      · subst hs
        rw [Link.put_self]
        exact Or.inl h
      · exact Or.inl (hother hs)

/-! ## What is waited for -/

/-- What is held after an acknowledgement. -/
theorem keys_handleLargeDataAck (m : ClipboardModule) {ack : PacketEnvelope}
    (h : ack.responseTo ≠ 0) :
    (m.handleLargeDataAck ack).largeDataReservations.keys =
      m.largeDataReservations.keys.erase ack.responseTo := by
  rw [ClipboardModule.handleLargeDataAck, if_neg h, ClipboardModule.releaseLargeDataReservation]
  split
  next hnone => rw [List.erase_of_not_mem (AList.lookup_eq_none.mp hnone)]
  next bytes hsome => exact AList.keys_erase _ _

/-- A call adds nothing to what is held; that is done when a send returns. -/
theorem keys_of_windowMove {m : ClipboardModule} {op : ClipboardOp} {call : Call Unit}
    (h : m.WindowMove op call) {id : MessageId}
    (hid : id ∈ call.after.largeDataReservations.keys) : id ∈ m.largeDataReservations.keys := by
  cases h with
  | kept part rest =>
    rwa [show call.after.largeDataReservations = _ from congrArg Prod.snd part] at hid
  | reserved window_eq ok after outgoing messageId counted =>
    rwa [show call.after.largeDataReservations = _ from congrArg Prod.snd after] at hid
  | @acknowledged packet running ack =>
    have hid : id ∈ (m.handleLargeDataAck packet).largeDataReservations.keys := hid
    by_cases hzero : packet.responseTo = 0
    · rwa [ClipboardModule.handleLargeDataAck, if_pos hzero] at hid
    · rw [keys_handleLargeDataAck m hzero] at hid
      exact List.mem_of_mem_erase hid
  | cleared after outgoing =>
    rw [show call.after.largeDataReservations = _ from congrArg Prod.snd after] at hid
    cases hid

/-- A response that is sent with a reservation is a large one, and the reservation is its own. -/
theorem isLargeResponse_of_sentBy {op : ClipboardOp} {outgoing : Outgoing}
    (h : SentBy op outgoing) {id : MessageId} {bytes : UInt64}
    (hreservation : outgoing.rest.reservation = some (id, bytes)) :
    isLargeResponse outgoing.packet = true ∧ outgoing.packet.messageId = id := by
  have hplain : outgoing.rest.isPlain ≠ true := by
    intro hplain
    cases hrest : outgoing.rest with
    | rangeSent messageId bytes =>
      rw [hrest] at hplain
      cases hplain
    | _ =>
      rw [hrest] at hreservation
      cases hreservation
  cases h with
  | event kind plain => exact absurd plain hplain
  | cancel kind plain => exact absurd plain hplain
  | request kind => cases hreservation
  | answer asked kind responseTo plain => exact absurd plain hplain
  | range bytes asked kind large responseTo =>
    cases hreservation
    refine ⟨?_, rfl⟩
    rw [isLargeResponse, kind, large]
    rfl
  | ack terminal result answer kind responseTo => cases hreservation

namespace Party

variable (party : Party)

theorem reservedIds_of_awaiting {id : MessageId} (h : id ∈ party.awaiting) :
    id ∈ party.reservedIds := by
  refine List.mem_append.mpr ((List.mem_append.mp h).imp_left fun hsent => ?_)
  obtain ⟨call, hmem, hcall⟩ := List.mem_filterMap.mp hsent
  split at hcall
  · obtain ⟨item, hitem, rfl⟩ := Option.map_eq_some_iff.mp hcall
    exact List.mem_map_of_mem (List.mem_filterMap.mpr ⟨call, hmem, hitem⟩)
  · cases hcall

/-- **A call waits for what was waited for, and for the large response that it sends.** -/
theorem awaiting_enter {surroundings : Surroundings} {op : ClipboardOp} {id : MessageId}
    (h : id ∈ (party.enter (party.clipboard.perform surroundings op) surroundings).awaiting) :
    id ∈ party.awaiting ∨ ∃ packet ∈
      ((party.clipboard.perform surroundings op).sentPacket surroundings).toList,
        isLargeResponse packet = true ∧ packet.messageId = id := by
  have hmove := party.clipboard.windowMove_perform surroundings op
  have hsentBy := party.clipboard.sentBy_perform surroundings op
  generalize party.clipboard.perform surroundings op = call at h hmove hsentBy
  rcases List.mem_append.mp h with hsent | hheld
  · rw [sentIds, enter, List.filterMap_append] at hsent
    rcases List.mem_append.mp hsent with hnew | hold
    · cases hout : call.outgoing with
      | none =>
        rw [hout] at hnew
        cases hnew
      | some outgoing =>
        obtain ⟨suspended, hmem, hid⟩ := List.mem_filterMap.mp hnew
        rw [hout] at hmem
        obtain rfl := List.mem_singleton.mp hmem
        split at hid
        next hsends =>
          obtain ⟨⟨id', bytes⟩, hitem, rfl⟩ := Option.map_eq_some_iff.mp hid
          refine Or.inr ⟨outgoing.packet, ?_, isLargeResponse_of_sentBy (hsentBy _ hout) hitem⟩
          rw [Option.mem_toList, Call.sentPacket, if_pos hsends, hout]
          rfl
        · cases hid
    · exact Or.inl (List.mem_append_left _ hold)
  · exact Or.inl (List.mem_append_right _ (keys_of_windowMove hmove hheld))

/-- **When a send returns nothing new is waited for.** -/
theorem awaiting_sendReturns {call : SuspendedCall} {rest : List SuspendedCall}
    (hsuspended : party.suspended = call :: rest) {id : MessageId}
    (h : id ∈ (party.sendReturns call rest).awaiting) : id ∈ party.awaiting := by
  have hsame : ∀ {id'}, id' ∈ (party.sendReturns call rest).sentIds → id' ∈ party.sentIds := by
    intro id' hid
    rw [sentIds, hsuspended]
    obtain ⟨later, hmem, hlater⟩ := List.mem_filterMap.mp hid
    exact List.mem_filterMap.mpr ⟨later, List.mem_cons_of_mem _ hmem, hlater⟩
  rcases List.mem_append.mp h with hsent | hheld
  · exact List.mem_append_left _ (hsame hsent)
  obtain ⟨afterSend, sent⟩ := call
  have hheld : id ∈ (party.clipboard.afterSend sent afterSend).largeDataReservations.keys := hheld
  cases hreservation : afterSend.reservation with
  | none =>
    have hpart := (party.clipboard.afterSend_of_reservation_none sent hreservation).1
    rw [show (party.clipboard.afterSend sent afterSend).largeDataReservations = _ from
      congrArg Prod.snd hpart] at hheld
    exact List.mem_append_right _ hheld
  | some item =>
    cases afterSend with
    | rangeSent messageId bytes =>
      cases sent with
      | true =>
        have hheld : id ∈ (party.clipboard.trackLargeDataReservation messageId
          bytes).largeDataReservations.keys := hheld
        rw [ClipboardModule.trackLargeDataReservation] at hheld
        split at hheld
        · exact List.mem_append_right _ hheld
        · rcases AList.mem_insert _ |>.mp hheld with rfl | hold
          · refine List.mem_append_left _ ?_
            rw [sentIds, hsuspended]
            exact List.mem_cons_self
          · exact List.mem_append_right _ hold
      | false => exact List.mem_append_right _ hheld
    | _ => cases hreservation

/-- **What is acknowledged is not waited for**, once the send of the response has returned. -/
theorem awaiting_handleLargeDataAck {max : UInt64} (haccount : WindowAccount max party)
    {ack : PacketEnvelope} (hreturned : ack.responseTo ∉ party.reserving.map Prod.fst) :
    ack.responseTo ∉ party.sentIds ++
      (party.clipboard.handleLargeDataAck ack).largeDataReservations.keys := by
  intro hmem
  have hheld : ack.responseTo ∈
      (party.clipboard.handleLargeDataAck ack).largeDataReservations.keys := by
    refine (List.mem_append.mp hmem).resolve_left fun hsent => hreturned ?_
    obtain ⟨call, hcall, hid⟩ := List.mem_filterMap.mp hsent
    split at hid
    · obtain ⟨item, hitem, hfst⟩ := Option.map_eq_some_iff.mp hid
      exact hfst ▸ List.mem_map_of_mem (List.mem_filterMap.mpr ⟨call, hcall, hitem⟩)
    · cases hid
  by_cases hzero : ack.responseTo = 0
  · rw [ClipboardModule.handleLargeDataAck, if_pos hzero] at hheld
    exact (haccount.counted _ (List.mem_append_right _ hheld)).1 hzero
  · rw [keys_handleLargeDataAck _ hzero] at hheld
    exact party.clipboard.largeDataReservations.keys_nodup.not_mem_erase hheld

end Party

section Waiting

variable {max : UInt64} {link : Link}

/-- A step waits for what was waited for, and for a large response that it sends. -/
theorem awaiting_step {op : LinkOp} {id : MessageId} (h : id ∈ (link.step op .near).awaiting) :
    id ∈ (link .near).awaiting ∨ ∃ packet, (link.step op .far).Has packet ∧
      isLargeResponse packet = true ∧ packet.messageId = id := by
  have hcall : ∀ {link' : Link} {op : ClipboardOp} {surroundings : Surroundings},
      (link' .near).awaiting = (link .near).awaiting →
      id ∈ (link'.call .near op surroundings .near).awaiting →
      id ∈ (link .near).awaiting ∨ ∃ packet, (link'.call .near op surroundings .far).Has packet ∧
        isLargeResponse packet = true ∧ packet.messageId = id := by
    intro link' op surroundings hsame hid
    rw [Link.call_self] at hid
    rcases (link' .near).awaiting_enter hid with hold | ⟨packet, hsent, hlarge, hnew⟩
    · exact Or.inl (hsame ▸ hold)
    · refine Or.inr ⟨packet, ?_, hlarge, hnew⟩
      show (link'.call .near op surroundings Side.near.other).Has packet
      rw [Link.call_other]
      exact Or.inl (List.mem_append_right _ hsent)
  cases op with
  | call side op surroundings =>
    unfold Link.step at h ⊢
    simp only at h ⊢
    split at h
    · exact Or.inl h
    next hdelivery =>
      rw [if_neg hdelivery]
      cases side with
      | near => exact hcall rfl h
      | far => exact Or.inl h
  | deliver side index surroundings =>
    cases hpacket : (link side).incoming[index]? with
    | none =>
      rw [Link.step_deliver_of_none hpacket] at h
      exact Or.inl h
    | some packet =>
      rw [Link.step_deliver hpacket] at h ⊢
      cases side with
      | near => exact hcall (by rw [Link.put_self]; rfl) h
      | far => exact Or.inl h
  | lose side index =>
    cases hpacket : (link side).incoming[index]? with
    | none =>
      rw [Link.step_lose_of_none hpacket] at h
      exact Or.inl h
    | some packet =>
      rw [Link.step_lose hpacket] at h
      cases side with
      | near => exact Or.inl h
      | far => exact Or.inl h
  | sendReturns side =>
    cases hsuspended : (link side).suspended with
    | nil =>
      rw [Link.step_sendReturns_of_nil hsuspended] at h
      exact Or.inl h
    | cons call rest =>
      rw [Link.step_sendReturns hsuspended] at h
      cases side with
      | near => exact Or.inl ((link .near).awaiting_sendReturns hsuspended h)
      | far => exact Or.inl h

/-- An acknowledgement that is handled ends the waiting for its response. -/
theorem not_awaiting_of_ack (haccount : WindowAccount max (link .near)) {index : ℕ}
    {surroundings : Surroundings} {ack : PacketEnvelope}
    (hack : (link .near).incoming[index]? = some ack) (hreceived : received ack = .ack)
    (hrunning : (link .near).clipboard.state = .running)
    (hop : Orderly link (.deliver .near index surroundings)) :
    ack.responseTo ∉ (link.step (.deliver .near index surroundings) .near).awaiting := by
  have hcall : (link .near).clipboard.perform surroundings (.handlePacket ack) =
      .silent ((link .near).clipboard.handleLargeDataAck ack) := by
    show (link .near).clipboard.handlePacket surroundings ack = _
    rw [ClipboardModule.handlePacket_eq _ surroundings ack hrunning, hreceived]
    rfl
  rw [Link.step_deliver hack, Link.call_self, Link.put_self]
  show ack.responseTo ∉ (((link .near).take index ack).enter
    ((link .near).clipboard.perform surroundings (.handlePacket ack)) surroundings).awaiting
  rw [hcall]
  exact (link .near).awaiting_handleLargeDataAck haccount (hop hrunning ack hack hreceived)

/-- A large response that is handled is acknowledged. -/
theorem ack_of_largeResponse {index : ℕ} {surroundings : Surroundings} {response : PacketEnvelope}
    (hresponse : (link .far).incoming[index]? = some response)
    (hlarge : isLargeResponse response = true) (hid : response.messageId ≠ 0)
    (hrunning : (link .far).clipboard.state = .running)
    (hop : Orderly link (.deliver .far index surroundings)) :
    ∃ ack, (link.step (.deliver .far index surroundings) .near).Has ack ∧ received ack = .ack ∧
      ack.responseTo = response.messageId := by
  obtain ⟨hto, hpending, hnetwork, hsent⟩ := hop hrunning response hresponse hlarge
  obtain ⟨ack, hsentPacket, hreceived, hresponseTo⟩ := acknowledges (link .far).clipboard
    surroundings hrunning hlarge hid hto hpending hnetwork hsent
  refine ⟨ack, Or.inl ?_, hreceived, hresponseTo⟩
  show ack ∈ (link.step (.deliver .far index surroundings) Side.far.other).incoming
  rw [Link.step_deliver hresponse, Link.call_other, Link.put_self]
  refine List.mem_append_right _ ?_
  rw [Option.mem_toList]
  exact hsentPacket

/-- **What is waited for stays covered**, in orderly steps. -/
theorem covered_step (haccount : WindowAccount max (link .near)) {op : LinkOp}
    (hcovered : ∀ id ∈ (link .near).awaiting, link.Covered id) (hop : Orderly link op) :
    ∀ id ∈ (link.step op .near).awaiting, (link.step op).Covered id := by
  intro id hid
  rcases awaiting_step hid with hold | hnew
  · rcases hcovered id hold with ⟨response, hhas, hlarge, rfl⟩ | ⟨ack, hhas, hreceived, rfl⟩
    · rcases has_step hhas op with hstays | ⟨index, surroundings, rfl, hresponse, hrunning⟩
      · exact Or.inl ⟨response, hstays, hlarge, rfl⟩
      · have hnonzero : response.messageId ≠ 0 :=
          (haccount.counted _ ((link .near).reservedIds_of_awaiting hold)).1
        exact Or.inr (ack_of_largeResponse hresponse hlarge hnonzero hrunning hop)
    · rcases has_step hhas op with hstays | ⟨index, surroundings, rfl, hack, hrunning⟩
      · exact Or.inr ⟨ack, hstays, hreceived, rfl⟩
      · exact absurd hid (not_awaiting_of_ack haccount hack hreceived hrunning hop)
  · exact Or.inl hnew

/-- **Every large response has been handled by a running module, and so has every acknowledgement**;
no send of a large response is under way. -/
structure Settled (link : Link) : Prop where
  responses : ∀ packet, (link .far).Has packet → isLargeResponse packet = false
  acks : ∀ packet, (link .near).Has packet → received packet ≠ .ack
  returned : (link .near).reserving = []

/-- When all has arrived the window is empty. -/
theorem total_of_settled (hcovered : ∀ id ∈ (link .near).awaiting, link.Covered id)
    (hsettled : Settled link) :
    (link .near).heldBytes + (link .near).reservingBytes = 0 := by
  have hkeys : (link .near).clipboard.largeDataReservations.keys = [] := by
    refine List.eq_nil_iff_forall_not_mem.mpr fun id hid => ?_
    rcases hcovered id (List.mem_append_right _ hid) with
      ⟨response, hhas, hlarge, -⟩ | ⟨ack, hhas, hreceived, -⟩
    · exact absurd hlarge (by rw [hsettled.responses response hhas]; decide)
    · exact hsettled.acks ack hhas hreceived
  rw [Party.heldBytes, total_of_keys_eq_nil hkeys, Party.reservingBytes, hsettled.returned]
  rfl

end Waiting

/-! ## Runs -/

/-- The near end has a window for what it sends, the far end has none. -/
def windowAt (max : UInt64) : Side → Option ClipboardLargeDataWindow
  | .near => some { maxInFlightBytes := max }
  | .far => none

/-- Two modules that are built, the near one with a window. -/
def windowStart (dependencies : Side → ClipboardModuleDependencies) (max : UInt64) :
    WindowHistory where
  link := Link.start dependencies (windowAt max)

/-- What is in flight is at most the maximum, and is what is held for responses that were sent and
reserved for those that are being sent. -/
def Conserved (max : UInt64) (link : Link) : Prop :=
  ∃ window, (link .near).clipboard.largeDataWindow = some window ∧
    window.maxInFlightBytes = max ∧ window.inFlightBytes ≤ max ∧
    window.inFlightBytes.toNat = (link .near).heldBytes + (link .near).reservingBytes

/-- The bytes in flight of the window of an end. -/
def Party.inFlightBytes (party : Party) : Option UInt64 :=
  party.clipboard.largeDataWindow.map (·.inFlightBytes)

/-- The account and what is apart, along a run. -/
structure WindowInvariant (max : UInt64) (history : WindowHistory) : Prop where
  account : WindowAccount max (history.link .near)
  apart : history.Apart

namespace WindowInvariant

variable {max : UInt64} {history : WindowHistory}

theorem start (dependencies : Side → ClipboardModuleDependencies) (max : UInt64) :
    WindowInvariant max (windowStart dependencies max) where
  account := {
    window := ⟨{ maxInFlightBytes := max }, rfl, rfl, UInt64.zero_le, rfl⟩
    nodup := List.nodup_nil
    counted := nofun
    counter := Nat.lt_of_sub_eq_succ rfl }
  apart := { nodup := List.nodup_nil, disjoint := nofun, counted := nofun }

theorem step (h : WindowInvariant max history) (hmax : max ≠ 0) (hbound : CountsOn history.link)
    (op : LinkOp) : WindowInvariant max (history.step op) := by
  obtain ⟨haccount, hadvances⟩ := h.account.step hmax hbound op
  exact ⟨haccount, h.apart.step h.account hadvances⟩

end WindowInvariant

/-- **The bytes in flight are conserved and released once in every run in which the counter of
responses has ids left, and where the steps are orderly nothing is left in flight when all has
arrived.** -/
theorem window_conserved (dependencies : Side → ClipboardModuleDependencies) (max : UInt64)
    (hmax : max ≠ 0) (ops : List LinkOp) :
    let start := windowStart dependencies max
    let after := Runs.run WindowHistory.step start ops
    (Runs.EveryStep WindowHistory.step (fun history _ => CountsOn history.link) start ops →
      Conserved max after.link ∧ after.released.Nodup) ∧
    (Runs.EveryStep WindowHistory.step
        (fun history op => CountsOn history.link ∧ Orderly history.link op) start ops →
      Settled after.link → (after.link .near).inFlightBytes = some 0) := by
  intro start after
  constructor
  · intro hevery
    have h : WindowInvariant max after := Runs.run_invariant_of_everyStep
      (WindowInvariant.start dependencies max) (fun _ op h hbound => h.step hmax hbound op) hevery
    exact ⟨h.account.window, h.apart.nodup⟩
  · intro hevery hsettled
    obtain ⟨h, hcovered⟩ := @Runs.run_invariant_of_everyStep _ _ _
      (fun history => WindowInvariant max history ∧
        ∀ id ∈ (history.link .near).awaiting, history.link.Covered id) _ start
      ⟨WindowInvariant.start dependencies max, nofun⟩
      (fun _ op h hop => ⟨h.1.step hmax hop.1 op, covered_step h.1.account h.2 hop.2⟩) ops hevery
    obtain ⟨window, hwindow, -, -, hbytes⟩ := h.account.window
    have hzero := total_of_settled hcovered hsettled
    rw [Party.inFlightBytes, hwindow]
    exact congrArg some (UInt64.toNat_inj.mp (hbytes.trans hzero))

/-! ### A file -/

/-- The file has two bytes. -/
def readableSource : TransferSource :=
  { oneFileSource with
    readFileRange := some fun _ _ => { status := .ok, bytes := bytesOf "hi", endOfFile := true } }

def readableBundle : TransferSourceBundle := { oneFileBundle with sources := [some readableSource] }

def rangeOfFile : FdclFileRangeRequest where
  bundleId := 1
  offerId := 2
  ownerEpoch := 1
  sourceId := 3
  objectId := 7
  requestedBytes := 2

/-- The large_data channel is ready. -/
def largeDataChannels : ChannelRegistry :=
  let capabilities : Network.NegotiatedCapabilities := {
    channelTypes := [.standard]
    packetTypes := [.clipboard]
    messageKinds := [.response] }
  let spec : ChannelSpec := { key := clipboardLargeDataChannelKey, socketClass := .bulk }
  let registered := (({ capabilities := capabilities } : ChannelRegistry).registerSpec spec).2
  let bound := (registered.bind clipboardLargeDataChannelKey
    (some ⟨1, ChannelIdValue.largeData, .standard⟩)).2
  (bound.markReady .allOpen clipboardLargeDataChannelKey {}).2

def fileStart : WindowHistory := windowStart (fun _ => textDependencies) 1024

/-- The near end offers the file, the far end asks for its bytes, and the response is under way. -/
def rangeAnswered : List LinkOp :=
  [.call .near (.attach { sessionId := 1, traceId := 1, network := true }) {},
    .call .near .start {},
    .call .far (.attach { sessionId := 9, traceId := 1, network := true }) {},
    .call .far .start {},
    .call .near (.announceLocalBundle readableBundle) {}, .sendReturns .near,
    .deliver .far 0 {},
    .call .far (.requestRemoteFileRange rangeOfFile 0 0) {}, .sendReturns .far,
    .deliver .near 0 { channels := some largeDataChannels }, .sendReturns .near]

/-- The response is handled, and its acknowledgement. -/
def rangeAcknowledged : List LinkOp :=
  [.deliver .far 0 {}, .sendReturns .far, .deliver .near 0 {}]

theorem Party.not_has {party : Party} (h : (party.incoming ++ party.missed).isEmpty = true)
    (packet : PacketEnvelope) : ¬party.Has packet := by
  rintro (hincoming | hmissed)
  · rw [List.isEmpty_iff.mp h |> List.append_eq_nil_iff.mp |>.1] at hincoming
    cases hincoming
  · rw [List.isEmpty_iff.mp h |> List.append_eq_nil_iff.mp |>.2] at hmissed
    cases hmissed

/-- Acknowledged, the bytes of the file are not in flight any more. -/
theorem window_conserved_rangeAcknowledged :
    let after := Runs.run WindowHistory.step fileStart (rangeAnswered ++ rangeAcknowledged)
    (Conserved 1024 after.link ∧ after.released.Nodup) ∧
      (after.link .near).inFlightBytes = some 0 := by
  have h := window_conserved (fun _ => textDependencies) 1024 (by decide)
    (rangeAnswered ++ rangeAcknowledged)
  refine ⟨h.1 (by decide +kernel), h.2 (by decide +kernel) ⟨fun packet hhas => ?_,
    fun packet hhas => ?_, by decide +kernel⟩⟩
  · exact absurd hhas (Party.not_has (by decide +kernel) packet)
  · exact absurd hhas (Party.not_has (by decide +kernel) packet)

/-- The request of the far end times out while its response is under way. -/
def rangeTimedOut : List LinkOp :=
  rangeAnswered ++ .call .far (.expirePendingReads 2000000) {} :: rangeAcknowledged

/-- **All has arrived, and the window has shrunk for good.** -/
theorem window_shrinks :
    let after := Runs.run WindowHistory.step fileStart rangeTimedOut
    Settled after.link ∧ (after.link .near).inFlightBytes = some 77 := by
  refine ⟨⟨fun packet hhas => ?_, fun packet hhas => ?_, by decide +kernel⟩, by decide +kernel⟩
  · exact absurd hhas (Party.not_has (by decide +kernel) packet)
  · exact absurd hhas (Party.not_has (by decide +kernel) packet)

end Clipboard
end FusionDesk
