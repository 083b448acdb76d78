import FusionDesk.Protocol.Types

/-!
# Display types

What the display modules use of `display_types.h` and `display_interfaces.h`.

A capture, an encoder, a decoder and a renderer are behind interfaces: each is any type with the
functions of its interface, which may change it.
-/

namespace FusionDesk
namespace Display

open Protocol

/-- `enum class DisplayPixelFormat : std::uint16_t`. -/
structure DisplayPixelFormat where
  raw : UInt16
  deriving DecidableEq, Repr

namespace DisplayPixelFormat

def unknown : DisplayPixelFormat := ⟨0⟩
def bgra32 : DisplayPixelFormat := ⟨1⟩
def rgba32 : DisplayPixelFormat := ⟨2⟩
def rgb24 : DisplayPixelFormat := ⟨3⟩
def gray8 : DisplayPixelFormat := ⟨4⟩

end DisplayPixelFormat

/-- `enum class DisplayDecodeStatus`. -/
inductive DisplayDecodeStatus
  | ok
  | needsMoreInput
  | failed
  deriving DecidableEq, Repr

structure CapturedFrame where
  frameId : UInt64 := 0
  sourceId : UInt32 := 0
  keyFrame : Bool := false
  width : UInt32 := 0
  height : UInt32 := 0
  strideBytes : UInt32 := 0
  pixelFormat : DisplayPixelFormat := .unknown
  monotonicTimestampUsec : UInt64 := 0
  pixels : ByteBuffer := []
  deriving DecidableEq, Repr

structure EncodedFrame where
  frameId : UInt64 := 0
  keyFrame : Bool := false
  width : UInt32 := 0
  height : UInt32 := 0
  strideBytes : UInt32 := 0
  pixelFormat : DisplayPixelFormat := .unknown
  monotonicTimestampUsec : UInt64 := 0
  payload : ByteBuffer := []
  deriving DecidableEq, Repr

structure DecodedFrame where
  decodeStatus : DisplayDecodeStatus := .ok
  frameId : UInt64 := 0
  keyFrame : Bool := false
  width : UInt32 := 0
  height : UInt32 := 0
  strideBytes : UInt32 := 0
  pixelFormat : DisplayPixelFormat := .unknown
  monotonicTimestampUsec : UInt64 := 0
  pixels : ByteBuffer := []
  deriving DecidableEq, Repr

/-! ## Interfaces -/

/-- `class IDisplayCapture`.  A capture is opened with the options of its module, which do not
change. -/
class IDisplayCapture (K : Type) where
  /-- `open`. -/
  openCapture : K → Bool × K
  close : K → K
  captureNextFrame : K → Bool → CapturedFrame × K

/-- `class IVideoEncoder`. -/
class IVideoEncoder (E : Type) where
  encode : E → CapturedFrame → EncodedFrame × E

/-- `class IVideoDecoder`. -/
class IVideoDecoder (D : Type) where
  decode : D → EncodedFrame → DecodedFrame × D

/-- `class IDisplayRenderer`. -/
class IDisplayRenderer (R : Type) where
  render : R → DecodedFrame → Bool × R

end Display
end FusionDesk
