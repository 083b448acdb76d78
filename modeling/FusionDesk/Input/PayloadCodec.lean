import FusionDesk.Protocol.PayloadFields

/-!
# The input payload codec

`include/fusiondesk/modules/input/input_types.h`, `input_payload_codec.h` and
`src/modules/input/input_payload_codec.cpp`: a mouse or a keyboard event behind a header, big endian.

A decoder that stops gives back what it has filled in so far, so the error of a reader is here the
result as it stands where the reader stops.

* `accepted_encodeMouse`, `accepted_encodeKeyboard`: what is written comes to the event.
* `Accepted`: an event and the bytes that come to it; the reader takes no others
  (`takes_readInputPayload`).
* `decodeInputPayload_exact`: the payloads that come to an event.
-/

namespace FusionDesk
namespace Input

open Protocol PayloadFields ByteReader Reader

/-- `enum class InputModuleKind : std::uint16_t`. -/
structure InputModuleKind where
  raw : UInt16
  deriving DecidableEq, Repr

namespace InputModuleKind

def mouse : InputModuleKind := ⟨1⟩
def keyboard : InputModuleKind := ⟨2⟩

end InputModuleKind

/-- `enum class MouseAction : std::uint16_t`. -/
structure MouseAction where
  raw : UInt16
  deriving DecidableEq, Repr

namespace MouseAction

def move : MouseAction := ⟨1⟩
def buttonDown : MouseAction := ⟨2⟩
def buttonUp : MouseAction := ⟨3⟩
def wheel : MouseAction := ⟨4⟩

end MouseAction

/-- `enum class MouseButton : std::uint16_t`. -/
structure MouseButton where
  raw : UInt16
  deriving DecidableEq, Repr

namespace MouseButton

def none : MouseButton := ⟨0⟩
def left : MouseButton := ⟨1⟩
def right : MouseButton := ⟨2⟩
def middle : MouseButton := ⟨3⟩
def x1 : MouseButton := ⟨4⟩
def x2 : MouseButton := ⟨5⟩

end MouseButton

/-- `enum class KeyboardAction : std::uint16_t`. -/
structure KeyboardAction where
  raw : UInt16
  deriving DecidableEq, Repr

namespace KeyboardAction

def keyDown : KeyboardAction := ⟨1⟩
def keyUp : KeyboardAction := ⟨2⟩
def text : KeyboardAction := ⟨3⟩

end KeyboardAction

/-- `enum class InputCoordinateSpace : std::uint16_t`. -/
structure InputCoordinateSpace where
  raw : UInt16
  deriving DecidableEq, Repr

namespace InputCoordinateSpace

def normalized : InputCoordinateSpace := ⟨1⟩
def pixel : InputCoordinateSpace := ⟨2⟩

end InputCoordinateSpace

structure InputModifierState where
  shift : Bool := false
  control : Bool := false
  alt : Bool := false
  metaKey : Bool := false
  deriving DecidableEq, Repr

structure MouseInputEvent where
  sequence : UInt64 := 0
  monotonicTimestampUsec : UInt64 := 0
  action : MouseAction := .move
  button : MouseButton := .none
  coordinateSpace : InputCoordinateSpace := .normalized
  modifiers : InputModifierState := {}
  x : Int32 := 0
  y : Int32 := 0
  wheelDeltaX : Int32 := 0
  wheelDeltaY : Int32 := 0
  deriving DecidableEq, Repr

structure KeyboardInputEvent where
  sequence : UInt64 := 0
  monotonicTimestampUsec : UInt64 := 0
  action : KeyboardAction := .keyDown
  modifiers : InputModifierState := {}
  nativeScanCode : UInt32 := 0
  virtualKey : UInt32 := 0
  unicodeCodepoint : UInt32 := 0
  deriving DecidableEq, Repr

structure InputDecodeResult where
  ok : Bool := false
  error : String := ""
  kind : InputModuleKind := .mouse
  mouse : MouseInputEvent := {}
  keyboard : KeyboardInputEvent := {}
  deriving DecidableEq, Repr

def inputMagic : UInt32 := 0x4644494e
def inputVersion : UInt16 := 1
def modifierShift : UInt32 := 0x00000001
def modifierControl : UInt32 := 0x00000002
def modifierAlt : UInt32 := 0x00000004
def modifierMeta : UInt32 := 0x00000008

/-! ## Encoding -/

def encodeModifiers (modifiers : InputModifierState) : UInt32 :=
  let flags : UInt32 := 0
  let flags := if modifiers.shift then flags ||| modifierShift else flags
  let flags := if modifiers.control then flags ||| modifierControl else flags
  let flags := if modifiers.alt then flags ||| modifierAlt else flags
  if modifiers.metaKey then flags ||| modifierMeta else flags

def decodeModifiers (flags : UInt32) : InputModifierState where
  shift := (flags &&& modifierShift) != 0
  control := (flags &&& modifierControl) != 0
  alt := (flags &&& modifierAlt) != 0
  metaKey := (flags &&& modifierMeta) != 0

def encodeHeader (kind : InputModuleKind) (sequence timestampUsec : UInt64) (modifiers : UInt32) :
    ByteBuffer :=
  let output := appendU32 [] inputMagic
  let output := appendU16 output inputVersion
  let output := appendU16 output kind.raw
  let output := appendU64 output sequence
  let output := appendU64 output timestampUsec
  appendU32 output modifiers

def encodeMouseInputPayload (event : MouseInputEvent) : ByteBuffer :=
  let output := encodeHeader .mouse event.sequence event.monotonicTimestampUsec
    (encodeModifiers event.modifiers)
  let output := appendU16 output event.action.raw
  let output := appendU16 output event.button.raw
  let output := appendU16 output event.coordinateSpace.raw
  let output := appendU16 output 0
  let output := appendI32 output event.x
  let output := appendI32 output event.y
  let output := appendI32 output event.wheelDeltaX
  appendI32 output event.wheelDeltaY

def encodeKeyboardInputPayload (event : KeyboardInputEvent) : ByteBuffer :=
  let output := encodeHeader .keyboard event.sequence event.monotonicTimestampUsec
    (encodeModifiers event.modifiers)
  let output := appendU16 output event.action.raw
  let output := appendU16 output 0
  let output := appendU32 output event.nativeScanCode
  let output := appendU32 output event.virtualKey
  appendU32 output event.unicodeCodepoint

/-! ## Decoding -/

/-- A read whose failure ends the decoder with the result as it stands. -/
def orRefused {α : Type} (result : InputDecodeResult) (error : String) (r : Reader Unit α) :
    Reader InputDecodeResult α :=
  named (fun _ => { result with error := error }) r

def mouseTruncated : String := "mouse input payload body is truncated"
def keyboardTruncated : String := "keyboard input payload body is truncated"

/-- The body of a mouse event; the four numbers at its end are read into the result itself. -/
def readMouse (result : InputDecodeResult) : Reader InputDecodeResult InputDecodeResult := do
  let action ← orRefused result mouseTruncated readU16
  let button ← orRefused result mouseTruncated readU16
  let coordinateSpace ← orRefused result mouseTruncated readU16
  let _reserved ← orRefused result mouseTruncated readU16
  let x ← orRefused result mouseTruncated readI32
  let result := { result with mouse.x := x }
  let y ← orRefused result mouseTruncated readI32
  let result := { result with mouse.y := y }
  let wheelDeltaX ← orRefused result mouseTruncated readI32
  let result := { result with mouse.wheelDeltaX := wheelDeltaX }
  let wheelDeltaY ← orRefused result mouseTruncated readI32
  return { result with
    ok := true
    mouse.wheelDeltaY := wheelDeltaY
    mouse.action := ⟨action⟩
    mouse.button := ⟨button⟩
    mouse.coordinateSpace := ⟨coordinateSpace⟩ }

def readKeyboard (result : InputDecodeResult) : Reader InputDecodeResult InputDecodeResult := do
  let action ← orRefused result keyboardTruncated readU16
  let _reserved ← orRefused result keyboardTruncated readU16
  let nativeScanCode ← orRefused result keyboardTruncated readU32
  let result := { result with keyboard.nativeScanCode := nativeScanCode }
  let virtualKey ← orRefused result keyboardTruncated readU32
  let result := { result with keyboard.virtualKey := virtualKey }
  let unicodeCodepoint ← orRefused result keyboardTruncated readU32
  return { result with
    ok := true
    keyboard.unicodeCodepoint := unicodeCodepoint
    keyboard.action := ⟨action⟩ }

/-- What is behind the header, by its kind. -/
def readBody (kind : InputModuleKind) (sequence timestampUsec : UInt64)
    (modifiers : InputModifierState) : Reader InputDecodeResult InputDecodeResult :=
  let result : InputDecodeResult := { kind := kind }
  if kind = .mouse then
    readMouse { result with
      mouse.sequence := sequence
      mouse.monotonicTimestampUsec := timestampUsec
      mouse.modifiers := modifiers }
  else if kind = .keyboard then
    readKeyboard { result with
      keyboard.sequence := sequence
      keyboard.monotonicTimestampUsec := timestampUsec
      keyboard.modifiers := modifiers }
  else fail { result with error := "input payload kind is unsupported" }

def readInputPayload : Reader InputDecodeResult InputDecodeResult := do
  let header {α : Type} (r : Reader Unit α) := orRefused {} "input payload header is truncated" r
  let magic ← header readU32
  let version ← header readU16
  let kind ← header readU16
  let sequence ← header readU64
  let timestampUsec ← header readU64
  let modifierFlags ← header readU32
  refuseIf (magic ≠ inputMagic) { error := "input payload magic is invalid" }
  refuseIf (version ≠ inputVersion) { error := "input payload version is unsupported" }
  readBody ⟨kind⟩ sequence timestampUsec (decodeModifiers modifierFlags)

def decodeInputPayload (payload : ByteBuffer) : InputDecodeResult :=
  match readInputPayload.outcome payload with
  | .ok (result, _) => result
  | .error result => result

/-! ## The bytes of an event -/

def headerBytes (kind : InputModuleKind) (sequence timestampUsec : UInt64) (flags : UInt32) :
    ByteBuffer :=
  u32Bytes inputMagic ++ (u16Bytes inputVersion ++ (u16Bytes kind.raw ++
    (u64Bytes sequence ++ (u64Bytes timestampUsec ++ u32Bytes flags))))

/-- The body of a mouse event, with what is in the field that is reserved. -/
def mouseBody (reserved : UInt16) (event : MouseInputEvent) : ByteBuffer :=
  u16Bytes event.action.raw ++ (u16Bytes event.button.raw ++
    (u16Bytes event.coordinateSpace.raw ++ (u16Bytes reserved ++ (u32Bytes event.x.toUInt32 ++
      (u32Bytes event.y.toUInt32 ++ (u32Bytes event.wheelDeltaX.toUInt32 ++
        u32Bytes event.wheelDeltaY.toUInt32))))))

def keyboardBody (reserved : UInt16) (event : KeyboardInputEvent) : ByteBuffer :=
  u16Bytes event.action.raw ++ (u16Bytes reserved ++ (u32Bytes event.nativeScanCode ++
    (u32Bytes event.virtualKey ++ u32Bytes event.unicodeCodepoint)))

/-- The result of a payload that comes to an event. -/
def mouseResult (event : MouseInputEvent) : InputDecodeResult :=
  { ok := true, kind := .mouse, mouse := event }

def keyboardResult (event : KeyboardInputEvent) : InputDecodeResult :=
  { ok := true, kind := .keyboard, keyboard := event }

/-- An event and bytes that stand for it: of the modifiers four bits count, and the reserved field
may hold anything. -/
inductive Accepted : InputDecodeResult → ByteBuffer → Prop
  | mouse (event : MouseInputEvent) (flags : UInt32) (reserved : UInt16)
      (modifiers : decodeModifiers flags = event.modifiers) :
      Accepted (mouseResult event)
        (headerBytes .mouse event.sequence event.monotonicTimestampUsec flags ++
          mouseBody reserved event)
  | keyboard (event : KeyboardInputEvent) (flags : UInt32) (reserved : UInt16)
      (modifiers : decodeModifiers flags = event.modifiers) :
      Accepted (keyboardResult event)
        (headerBytes .keyboard event.sequence event.monotonicTimestampUsec flags ++
          keyboardBody reserved event)

theorem Accepted.ok {result : InputDecodeResult} {front : ByteBuffer} (h : Accepted result front) :
    result.ok = true := by
  cases h <;> rfl

theorem decodeModifiers_encodeModifiers (modifiers : InputModifierState) :
    decodeModifiers (encodeModifiers modifiers) = modifiers := by
  obtain ⟨shift, control, alt, metaKey⟩ := modifiers
  cases shift <;> cases control <;> cases alt <;> cases metaKey <;> rfl

theorem encodeHeader_eq (kind : InputModuleKind) (sequence timestampUsec : UInt64)
    (flags : UInt32) :
    encodeHeader kind sequence timestampUsec flags =
      headerBytes kind sequence timestampUsec flags := by
  simp only [encodeHeader, headerBytes, appendU16_eq, appendU32_eq, appendU64_eq,
    List.append_assoc, List.nil_append]

/-- What is written for a mouse event stands for it. -/
theorem accepted_encodeMouse (event : MouseInputEvent) :
    Accepted (mouseResult event) (encodeMouseInputPayload event) := by
  have hbytes : encodeMouseInputPayload event =
      headerBytes .mouse event.sequence event.monotonicTimestampUsec
        (encodeModifiers event.modifiers) ++ mouseBody 0 event := by
    simp only [encodeMouseInputPayload, encodeHeader_eq, mouseBody, appendU16_eq, appendI32_eq,
      List.append_assoc]
  rw [hbytes]
  exact .mouse event _ 0 (decodeModifiers_encodeModifiers event.modifiers)

theorem accepted_encodeKeyboard (event : KeyboardInputEvent) :
    Accepted (keyboardResult event) (encodeKeyboardInputPayload event) := by
  have hbytes : encodeKeyboardInputPayload event =
      headerBytes .keyboard event.sequence event.monotonicTimestampUsec
        (encodeModifiers event.modifiers) ++ keyboardBody 0 event := by
    simp only [encodeKeyboardInputPayload, encodeHeader_eq, keyboardBody, appendU16_eq,
      appendU32_eq, List.append_assoc]
  rw [hbytes]
  exact .keyboard event _ 0 (decodeModifiers_encodeModifiers event.modifiers)

/-! ## What is read -/

section Reads

variable (result : InputDecodeResult) (error : String) (rest : ByteBuffer)

theorem reads_orRefused {α : Type} {r : Reader Unit α} {a : α} {front : ByteBuffer}
    (h : Reads r a front rest) : Reads (orRefused result error r) a front rest :=
  h.named _

theorem reads_readMouse (event : MouseInputEvent) (reserved : UInt16) :
    Reads (readMouse { kind := .mouse, mouse.sequence := event.sequence
                       mouse.monotonicTimestampUsec := event.monotonicTimestampUsec
                       mouse.modifiers := event.modifiers })
      (mouseResult event) (mouseBody reserved event) rest := by
  refine (reads_orRefused _ _ _ (reads_u16 _ _)).bind ?_
  refine (reads_orRefused _ _ _ (reads_u16 _ _)).bind ?_
  refine (reads_orRefused _ _ _ (reads_u16 _ _)).bind ?_
  refine (reads_orRefused _ _ _ (reads_u16 _ _)).bind ?_
  refine (reads_orRefused _ _ _ (reads_i32 _ _)).bind ?_
  refine (reads_orRefused _ _ _ (reads_i32 _ _)).bind ?_
  refine (reads_orRefused _ _ _ (reads_i32 _ _)).bind ?_
  exact (reads_orRefused _ _ _ (reads_i32 _ _)).last (Reads.pure _ _)

theorem reads_readKeyboard (event : KeyboardInputEvent) (reserved : UInt16) :
    Reads (readKeyboard { kind := .keyboard, keyboard.sequence := event.sequence
                          keyboard.monotonicTimestampUsec := event.monotonicTimestampUsec
                          keyboard.modifiers := event.modifiers })
      (keyboardResult event) (keyboardBody reserved event) rest := by
  refine (reads_orRefused _ _ _ (reads_u16 _ _)).bind ?_
  refine (reads_orRefused _ _ _ (reads_u16 _ _)).bind ?_
  refine (reads_orRefused _ _ _ (reads_u32 _ _)).bind ?_
  refine (reads_orRefused _ _ _ (reads_u32 _ _)).bind ?_
  exact (reads_orRefused _ _ _ (reads_u32 _ _)).last (Reads.pure _ _)

/-- A header in front of a body. -/
theorem reads_header {kind : InputModuleKind} {sequence timestampUsec : UInt64} {flags : UInt32}
    {body : ByteBuffer} {result : InputDecodeResult}
    (h : Reads (readBody kind sequence timestampUsec (decodeModifiers flags)) result body rest) :
    Reads readInputPayload result (headerBytes kind sequence timestampUsec flags ++ body) rest := by
  simp only [headerBytes, List.append_assoc]
  refine (reads_orRefused _ _ _ (reads_u32 _ _)).bind ?_
  refine (reads_orRefused _ _ _ (reads_u16 _ _)).bind ?_
  refine (reads_orRefused _ _ _ (reads_u16 _ _)).bind ?_
  refine (reads_orRefused _ _ _ (reads_u64 _ _)).bind ?_
  refine (reads_orRefused _ _ _ (reads_u64 _ _)).bind ?_
  refine (reads_orRefused _ _ _ (reads_u32 _ _)).bind ?_
  exact Reads.bind_refuseIf (not_not_intro rfl) (Reads.bind_refuseIf (not_not_intro rfl) h)

/-- **Bytes that stand for an event are read as that event**, whatever is behind them. -/
theorem reads_accepted {front : ByteBuffer} (h : Accepted result front) :
    Reads readInputPayload result front rest := by
  cases h with
  | mouse event flags reserved modifiers =>
    refine reads_header rest ?_
    rw [modifiers, readBody, if_pos rfl]
    exact reads_readMouse rest event reserved
  | keyboard event flags reserved modifiers =>
    refine reads_header rest ?_
    rw [modifiers, readBody, if_neg (by decide), if_pos rfl]
    exact reads_readKeyboard rest event reserved

end Reads

/-! ## What is accepted -/

theorem takes_orRefused {α : Type} {P : α → ByteBuffer → Prop} {r : Reader Unit α}
    (h : Takes r P) (result : InputDecodeResult) (error : String) :
    Takes (orRefused result error r) P :=
  h.named

theorem takes_readMouse (sequence timestampUsec : UInt64) (modifiers : InputModifierState) :
    Takes (readMouse { kind := .mouse, mouse.sequence := sequence
                       mouse.monotonicTimestampUsec := timestampUsec
                       mouse.modifiers := modifiers }) fun result front =>
      ∃ event : MouseInputEvent, ∃ reserved, result = mouseResult event ∧
        front = mouseBody reserved event ∧ event.sequence = sequence ∧
          event.monotonicTimestampUsec = timestampUsec ∧ event.modifiers = modifiers := by
  refine (takes_orRefused takes_u16 _ _).bind fun action front haction => ?_
  refine (takes_orRefused takes_u16 _ _).bind fun button front hbutton => ?_
  refine (takes_orRefused takes_u16 _ _).bind fun coordinateSpace front hspace => ?_
  refine (takes_orRefused takes_u16 _ _).bind fun reserved front hreserved => ?_
  refine (takes_orRefused takes_i32 _ _).bind fun x front hx => ?_
  refine (takes_orRefused takes_i32 _ _).bind fun y front hy => ?_
  refine (takes_orRefused takes_i32 _ _).bind fun wheelDeltaX front hwheelX => ?_
  refine (takes_orRefused takes_i32 _ _).bind fun wheelDeltaY front hwheelY => Takes.pure ?_
  refine ⟨⟨sequence, timestampUsec, ⟨action⟩, ⟨button⟩, ⟨coordinateSpace⟩, modifiers, x, y,
    wheelDeltaX, wheelDeltaY⟩, reserved, rfl, ?_, rfl, rfl, rfl⟩
  rw [haction, hbutton, hspace, hreserved, hx, hy, hwheelX, hwheelY, List.append_nil]
  rfl

theorem takes_readKeyboard (sequence timestampUsec : UInt64) (modifiers : InputModifierState) :
    Takes (readKeyboard { kind := .keyboard, keyboard.sequence := sequence
                          keyboard.monotonicTimestampUsec := timestampUsec
                          keyboard.modifiers := modifiers }) fun result front =>
      ∃ event : KeyboardInputEvent, ∃ reserved, result = keyboardResult event ∧
        front = keyboardBody reserved event ∧ event.sequence = sequence ∧
          event.monotonicTimestampUsec = timestampUsec ∧ event.modifiers = modifiers := by
  refine (takes_orRefused takes_u16 _ _).bind fun action front haction => ?_
  refine (takes_orRefused takes_u16 _ _).bind fun reserved front hreserved => ?_
  refine (takes_orRefused takes_u32 _ _).bind fun nativeScanCode front hscan => ?_
  refine (takes_orRefused takes_u32 _ _).bind fun virtualKey front hkey => ?_
  refine (takes_orRefused takes_u32 _ _).bind fun unicodeCodepoint front hpoint => Takes.pure ?_
  refine ⟨⟨sequence, timestampUsec, ⟨action⟩, modifiers, nativeScanCode, virtualKey,
    unicodeCodepoint⟩, reserved, rfl, ?_, rfl, rfl, rfl⟩
  rw [haction, hreserved, hscan, hkey, hpoint, List.append_nil]
  rfl

/-- The body behind a header, with the header in front of it. -/
theorem takes_readBody (kind : InputModuleKind) (sequence timestampUsec : UInt64) (flags : UInt32) :
    Takes (readBody kind sequence timestampUsec (decodeModifiers flags)) fun result back =>
      Accepted result (headerBytes kind sequence timestampUsec flags ++ back) := by
  rw [readBody]
  by_cases hmouse : kind = .mouse
  · rw [if_pos hmouse]
    subst hmouse
    refine (takes_readMouse sequence timestampUsec (decodeModifiers flags)).mono ?_
    rintro _ _ ⟨event, reserved, rfl, rfl, rfl, rfl, hmodifiers⟩
    exact .mouse event flags reserved hmodifiers.symm
  rw [if_neg hmouse]
  by_cases hkeyboard : kind = .keyboard
  · rw [if_pos hkeyboard]
    subst hkeyboard
    refine (takes_readKeyboard sequence timestampUsec (decodeModifiers flags)).mono ?_
    rintro _ _ ⟨event, reserved, rfl, rfl, rfl, rfl, hmodifiers⟩
    exact .keyboard event flags reserved hmodifiers.symm
  · rw [if_neg hkeyboard]
    intro input offset result next _ hrun
    cases hrun

/-- **The decoder takes bytes that stand for the event it gives**, and no others. -/
theorem takes_readInputPayload : Takes readInputPayload Accepted := by
  refine (takes_orRefused takes_u32 _ _).bind fun magic front hmagic => ?_
  refine (takes_orRefused takes_u16 _ _).bind fun version front hversion => ?_
  refine (takes_orRefused takes_u16 _ _).bind fun kind front hkind => ?_
  refine (takes_orRefused takes_u64 _ _).bind fun sequence front hsequence => ?_
  refine (takes_orRefused takes_u64 _ _).bind fun timestampUsec front htimestamp => ?_
  refine (takes_orRefused takes_u32 _ _).bind fun flags front hflags => ?_
  refine Takes.refuseIf_bind fun hmagicOk => Takes.refuseIf_bind fun hversionOk => ?_
  refine (takes_readBody ⟨kind⟩ sequence timestampUsec flags).mono fun result back haccepted => ?_
  rw [hmagic, hversion, hkind, hsequence, htimestamp, hflags, not_not.mp hmagicOk,
    not_not.mp hversionOk]
  simpa only [headerBytes, List.append_assoc] using haccepted

theorem refuses_orRefused {α : Type} {r : Reader Unit α} {result : InputDecodeResult}
    {error : String} (h : result.ok = false) :
    Refuses (orRefused result error r) fun result => result.ok = false :=
  Refuses.named (P := fun _ => True) (fun _ _ => h) fun _ _ _ _ => trivial

theorem refuses_readMouse {result : InputDecodeResult} (h : result.ok = false) :
    Refuses (readMouse result) fun result => result.ok = false := by
  refine (refuses_orRefused h).bind fun action => (refuses_orRefused h).bind fun button => ?_
  refine (refuses_orRefused h).bind fun space => (refuses_orRefused h).bind fun reserved => ?_
  refine (refuses_orRefused h).bind fun x => ?_
  refine (refuses_orRefused (by exact h)).bind fun y => ?_
  refine (refuses_orRefused (by exact h)).bind fun wheelDeltaX => ?_
  exact (refuses_orRefused (by exact h)).bind fun wheelDeltaY => Refuses.pure _

theorem refuses_readKeyboard {result : InputDecodeResult} (h : result.ok = false) :
    Refuses (readKeyboard result) fun result => result.ok = false := by
  refine (refuses_orRefused h).bind fun action => (refuses_orRefused h).bind fun reserved => ?_
  refine (refuses_orRefused h).bind fun nativeScanCode => ?_
  refine (refuses_orRefused (by exact h)).bind fun virtualKey => ?_
  exact (refuses_orRefused (by exact h)).bind fun unicodeCodepoint => Refuses.pure _

/-- No refusal is an event. -/
theorem refuses_readInputPayload : Refuses readInputPayload fun result => result.ok = false := by
  refine (refuses_orRefused rfl).bind fun magic => (refuses_orRefused rfl).bind fun version => ?_
  refine (refuses_orRefused rfl).bind fun kind => (refuses_orRefused rfl).bind fun sequence => ?_
  refine (refuses_orRefused rfl).bind fun timestampUsec => ?_
  refine (refuses_orRefused rfl).bind fun flags => ?_
  refine Refuses.bind (Refuses.refuseIf (by rfl)) fun _ => ?_
  refine Refuses.bind (Refuses.refuseIf (by rfl)) fun _ => ?_
  exact .ite (refuses_readMouse rfl) (.ite (refuses_readKeyboard rfl) (.fail rfl))

theorem decodeInputPayload_accepted {result : InputDecodeResult} {front : ByteBuffer}
    (h : Accepted result front) (rest : ByteBuffer) :
    decodeInputPayload (front ++ rest) = result := by
  have hrun := reads_accepted result rest h []
  have houtcome := Reader.outcome_eq_iff.mpr hrun
  rw [decodeInputPayload, ← List.nil_append (front ++ rest), houtcome]

/-- **What comes to an event**: a payload that begins with bytes that stand for it.  What the encoders
write does, whatever is behind it. -/
theorem decodeInputPayload_exact (payload : ByteBuffer) :
    ((decodeInputPayload payload).ok = true ↔ ∃ front rest, payload = front ++ rest ∧
      Accepted (decodeInputPayload payload) front) ∧
    (∀ event rest, payload = encodeMouseInputPayload event ++ rest →
      decodeInputPayload payload = mouseResult event) ∧
    ∀ event rest, payload = encodeKeyboardInputPayload event ++ rest →
      decodeInputPayload payload = keyboardResult event := by
  refine ⟨⟨fun hok => ?_, ?_⟩, ?_, ?_⟩
  · cases houtcome : readInputPayload.outcome payload with
    | error result =>
      have hrun := Reader.outcome_eq_iff.mp houtcome
      rw [decodeInputPayload, houtcome] at hok
      have hrefused : result.ok = false := refuses_readInputPayload payload 0 result hrun
      rw [hrefused] at hok
      cases hok
    | ok value =>
      obtain ⟨result, next⟩ := value
      have hrun := Reader.outcome_eq_iff.mp houtcome
      obtain ⟨front, rest, hdrop, -, haccepted⟩ :=
        takes_readInputPayload payload 0 result next (Nat.zero_le _) hrun
      rw [decodeInputPayload, houtcome]
      exact ⟨front, rest, hdrop, haccepted⟩
  · rintro ⟨front, rest, -, haccepted⟩
    exact haccepted.ok
  · intro event rest hpayload
    rw [hpayload]
    exact decodeInputPayload_accepted (accepted_encodeMouse event) rest
  · intro event rest hpayload
    rw [hpayload]
    exact decodeInputPayload_accepted (accepted_encodeKeyboard event) rest

end Input
end FusionDesk
