import FusionDesk.Display.Types
import FusionDesk.General.CheckedBuffer

/-!
# The conversion between BGRA and NV12

`src/runtime/display/display_color_conversion.cpp`.  A conversion reads and writes its buffers by
index, and nothing but the check in front of it keeps the indices inside: here an access outside a
buffer has no result, and a conversion that comes to its end also says which bytes of its output it
wrote, in their order.

An `int` is an integer, as the sums stay far from its ends.  A `std::size_t` is reduced mod `2 ^ 64`
where it can pass it; a product of two 32-bit numbers cannot.

* `colorConversion_exact`: what `validateBgraFrame` accepts is converted inside its buffers, and what
  `validateNv12Frame` accepts exactly if four times the width fits in 32 bits and the size that was
  checked in 64.
* `accepted_not_converted`: a frame for either size that does not fit.
-/

namespace FusionDesk
namespace Runtime
namespace ColorConversion

open Protocol (ByteBuffer)
open Display (CapturedFrame)
open CheckedBuffer

/-! ## Frames and results -/

structure Nv12Frame where
  width : UInt32 := 0
  height : UInt32 := 0
  yStrideBytes : UInt32 := 0
  uvStrideBytes : UInt32 := 0
  bytes : ByteBuffer := []
  deriving DecidableEq, Repr

structure BgraToNv12Result where
  ok : Bool := false
  frame : Nv12Frame := {}
  error : String := ""
  deriving DecidableEq, Repr

structure Nv12ToBgraResult where
  ok : Bool := false
  width : UInt32 := 0
  height : UInt32 := 0
  strideBytes : UInt32 := 0
  bytes : ByteBuffer := []
  error : String := ""
  deriving DecidableEq, Repr

/-- A number kept in a `std::size_t`. -/
def sizeT (n : ℕ) : ℕ := n % 2 ^ 64

theorem sizeT_of_lt {n : ℕ} (h : n < 2 ^ 64) : sizeT n = n := Nat.mod_eq_of_lt h

namespace Nv12Frame

def yPlaneSize (frame : Nv12Frame) : ℕ := frame.yStrideBytes.toNat * frame.height.toNat

def uvPlaneOffset (frame : Nv12Frame) : ℕ := frame.yPlaneSize

def uvPlaneSize (frame : Nv12Frame) : ℕ := frame.uvStrideBytes.toNat * (frame.height.toNat / 2)

end Nv12Frame

/-! ## Pixels -/

def clampByte (value : ℤ) : UInt8 := UInt8.ofNat (max 0 (min 255 value)).toNat

def yFromRgb (r g b : UInt8) : UInt8 :=
  clampByte (((66 * r.toNat + 129 * g.toNat + 25 * b.toNat + 128 : ℤ) >>> (8 : ℕ)) + 16)

def uFromRgb (r g b : UInt8) : UInt8 :=
  clampByte ((-38 * r.toNat - 74 * g.toNat + 112 * b.toNat + 128 : ℤ).tdiv 256 + 128)

def vFromRgb (r g b : UInt8) : UInt8 :=
  clampByte ((112 * r.toNat - 94 * g.toNat - 18 * b.toNat + 128 : ℤ).tdiv 256 + 128)

/-- The values of a counter that goes from 0 in steps of two and stays below `n`. -/
def everySecond (n : ℕ) : List ℕ := (List.range ((n + 1) / 2)).map (2 * ·)

/-! ## From BGRA to NV12 -/

/-- `validateBgraFrame`: its error, if it refuses the frame. -/
def validateBgraFrame (frame : CapturedFrame) : Option String :=
  if frame.pixelFormat ≠ .bgra32 then some "BGRA to NV12 conversion requires Bgra32 input"
  else if frame.width = 0 ∨ frame.height = 0 then
    some "BGRA to NV12 conversion requires non-zero dimensions"
  else if frame.width % 2 ≠ 0 ∨ frame.height % 2 ≠ 0 then
    some "BGRA to NV12 conversion requires even dimensions"
  else if frame.strideBytes.toNat < frame.width.toNat * 4 then
    some "BGRA to NV12 conversion stride is smaller than width * 4"
  else if frame.strideBytes.toNat * frame.height.toNat > frame.pixels.length then
    some "BGRA to NV12 conversion input pixels are truncated"
  else none

/-- `readBgra`: the red, the green and the blue of a pixel. -/
def readBgra (frame : CapturedFrame) (x y : ℕ) : Option (UInt8 × UInt8 × UInt8) := do
  let offset := sizeT (y * frame.strideBytes.toNat + x * 4)
  let b ← frame.pixels[offset]?
  let g ← frame.pixels[sizeT (offset + 1)]?
  let r ← frame.pixels[sizeT (offset + 2)]?
  return (r, g, b)

/-- The body of the loops over the Y plane. -/
def writeLuma (frame : CapturedFrame) (target : Nv12Frame) (y x : ℕ) (canvas : Canvas UInt8) :
    Option (Canvas UInt8) := do
  let (r, g, b) ← readBgra frame x y
  canvas.write (target.yStrideBytes.toNat * y + x) (yFromRgb r g b)

/-- `uSum` and `vSum` of the block of four pixels at `x` and `y`. -/
def chromaSums (frame : CapturedFrame) (x y : ℕ) : Option (ℕ × ℕ) :=
  (List.range 2).foldlM (fun sums dy =>
    (List.range 2).foldlM (fun sums dx => do
      let (r, g, b) ← readBgra frame (x + dx) (y + dy)
      return (sums.1 + (uFromRgb r g b).toNat, sums.2 + (vFromRgb r g b).toNat)) sums) (0, 0)

/-- The body of the loops over the UV plane. -/
def writeChroma (frame : CapturedFrame) (target : Nv12Frame) (y x : ℕ) (canvas : Canvas UInt8) :
    Option (Canvas UInt8) := do
  let (uSum, vSum) ← chromaSums frame x y
  let uvRow := target.uvPlaneOffset + target.uvStrideBytes.toNat * (y / 2)
  let canvas ← canvas.write (uvRow + x) (UInt8.ofNat ((uSum + 2) / 4))
  canvas.write (uvRow + (x + 1)) (UInt8.ofNat ((vSum + 2) / 4))

/-- The dimensions and strides of the frame that a BGRA frame is converted to. -/
def nv12Target (frame : CapturedFrame) : Nv12Frame where
  width := frame.width
  height := frame.height
  yStrideBytes := frame.width
  uvStrideBytes := frame.width

/-- `convertBgraToNv12`, with the bytes of the output in the order they were written. -/
def convertBgraToNv12 (frame : CapturedFrame) : Option (BgraToNv12Result × List ℕ) :=
  match validateBgraFrame frame with
  | some error => some ({ error := error }, [])
  | none => do
    let target := nv12Target frame
    let canvas := Canvas.blank (sizeT (target.yPlaneSize + target.uvPlaneSize)) 0
    let canvas ← forEach (List.range frame.height.toNat)
      (fun y => forEach (List.range frame.width.toNat) (writeLuma frame target y)) canvas
    let canvas ← forEach (everySecond frame.height.toNat)
      (fun y => forEach (everySecond frame.width.toNat) (writeChroma frame target y)) canvas
    return ({ ok := true, frame := { target with bytes := canvas.cells } }, canvas.written)

/-! ## From NV12 to BGRA -/

/-- The size in `validateNv12Frame`, before it is kept in 64 bits. -/
def Nv12Frame.requiredBytes (frame : Nv12Frame) : ℕ := frame.yPlaneSize + frame.uvPlaneSize

/-- `validateNv12Frame`: its error, if it refuses the frame. -/
def validateNv12Frame (frame : Nv12Frame) : Option String :=
  if frame.width = 0 ∨ frame.height = 0 then
    some "NV12 to BGRA conversion requires non-zero dimensions"
  else if frame.width % 2 ≠ 0 ∨ frame.height % 2 ≠ 0 then
    some "NV12 to BGRA conversion requires even dimensions"
  else if frame.yStrideBytes < frame.width ∨ frame.uvStrideBytes < frame.width then
    some "NV12 to BGRA conversion stride is smaller than width"
  else if sizeT frame.requiredBytes > frame.bytes.length then
    some "NV12 to BGRA conversion input pixels are truncated"
  else none

/-- `writeBgraFromYuv`, with `target` as a position in the output. -/
def writeBgraFromYuv (yValue uValue vValue : UInt8) (target : ℕ) (canvas : Canvas UInt8) :
    Option (Canvas UInt8) := do
  let c : ℤ := yValue.toNat - 16
  let d : ℤ := uValue.toNat - 128
  let e : ℤ := vValue.toNat - 128
  let r := clampByte ((298 * c + 409 * e + 128) >>> (8 : ℕ))
  let g := clampByte ((298 * c - 100 * d - 208 * e + 128) >>> (8 : ℕ))
  let b := clampByte ((298 * c + 516 * d + 128) >>> (8 : ℕ))
  let canvas ← canvas.write target b
  let canvas ← canvas.write (target + 1) g
  let canvas ← canvas.write (target + 2) r
  canvas.write (target + 3) 255

/-- The body of the loops of `convertNv12ToBgra`; `x / 2 * 2` is `x & ~1U`. -/
def writePixel (frame : Nv12Frame) (strideBytes : UInt32) (y x : ℕ) (canvas : Canvas UInt8) :
    Option (Canvas UInt8) := do
  let yRow := frame.yStrideBytes.toNat * y
  let uvRow := frame.uvPlaneOffset + frame.uvStrideBytes.toNat * (y / 2)
  let targetRow := strideBytes.toNat * y
  let uvOffset := x / 2 * 2
  let yValue ← frame.bytes[yRow + x]?
  let uValue ← frame.bytes[uvRow + uvOffset]?
  let vValue ← frame.bytes[uvRow + (uvOffset + 1)]?
  writeBgraFromYuv yValue uValue vValue (targetRow + x * 4) canvas

/-- `convertNv12ToBgra`, with the bytes of the output in the order they were written.  The stride is
a product of 32 bits. -/
def convertNv12ToBgra (frame : Nv12Frame) : Option (Nv12ToBgraResult × List ℕ) :=
  match validateNv12Frame frame with
  | some error => some ({ error := error }, [])
  | none => do
    let strideBytes := frame.width * 4
    let canvas := Canvas.blank (strideBytes.toNat * frame.height.toNat) 0
    let canvas ← forEach (List.range frame.height.toNat)
      (fun y => forEach (List.range frame.width.toNat) (writePixel frame strideBytes y)) canvas
    return ({ ok := true, width := frame.width, height := frame.height, strideBytes := strideBytes,
              bytes := canvas.cells }, canvas.written)

/-! ## Accepted BGRA frames -/

/-- `written` names every place of a buffer of `size` bytes once, and none outside it. -/
def WrittenOnce (written : List ℕ) (size : ℕ) : Prop := written.Perm (List.range size)

/-- The frame is converted without an access outside a buffer, every byte of the output is written
once, and the planes have their exact sizes. -/
def BgraConverted (frame : CapturedFrame) : Prop :=
  ∃ result written, convertBgraToNv12 frame = some (result, written) ∧ result.ok = true ∧
    result.frame.width = frame.width ∧ result.frame.height = frame.height ∧
    result.frame.yPlaneSize = frame.width.toNat * frame.height.toNat ∧
    result.frame.uvPlaneSize = frame.width.toNat * frame.height.toNat / 2 ∧
    result.frame.bytes.length = result.frame.yPlaneSize + result.frame.uvPlaneSize ∧
    WrittenOnce written result.frame.bytes.length

/-- What `validateBgraFrame` checks of the numbers. -/
structure BgraGeometry (frame : CapturedFrame) : Prop where
  even_width : frame.width.toNat % 2 = 0
  even_height : frame.height.toNat % 2 = 0
  row_le : frame.width.toNat * 4 ≤ frame.strideBytes.toNat
  rows_le : frame.height.toNat * frame.strideBytes.toNat ≤ frame.pixels.length

theorem toNat_mod_two_of {n : UInt32} (h : ¬n % 2 ≠ 0) : n.toNat % 2 = 0 := by
  have h := congrArg UInt32.toNat (not_not.1 h)
  rwa [UInt32.toNat_mod] at h

theorem geometry_of_validateBgraFrame {frame : CapturedFrame}
    (hvalid : validateBgraFrame frame = none) : BgraGeometry frame := by
  unfold validateBgraFrame at hvalid
  split at hvalid
  · cases hvalid
  split at hvalid
  · cases hvalid
  split at hvalid
  · cases hvalid
  rename_i heven
  split at hvalid
  · cases hvalid
  rename_i hstride
  split at hvalid
  · cases hvalid
  rename_i hpixels
  rw [not_or] at heven
  refine ⟨toNat_mod_two_of heven.1, toNat_mod_two_of heven.2, not_lt.1 hstride, ?_⟩
  rw [Nat.mul_comm]
  exact not_lt.1 hpixels

theorem everySecond_even {n : ℕ} (hn : n % 2 = 0) :
    everySecond n = (List.range (n / 2)).map (2 * ·) := by
  rw [everySecond, show (n + 1) / 2 = n / 2 by omega]

/-- Two 32-bit numbers have a product of 64 bits. -/
theorem toNat_mul_lt (m n : UInt32) : m.toNat * n.toNat < 2 ^ 64 :=
  calc m.toNat * n.toNat < 2 ^ 32 * 2 ^ 32 := Nat.mul_lt_mul'' m.toNat_lt n.toNat_lt
    _ = 2 ^ 64 := by norm_num

namespace BgraGeometry

variable {frame : CapturedFrame} (hframe : BgraGeometry frame)
include hframe

/-- The stride fits in 32 bits, and so does four times the width. -/
theorem width_lt : frame.width.toNat < 2 ^ 30 := by
  have := hframe.row_le
  have := frame.strideBytes.toNat_lt
  omega

/-- A pixel of the frame is read. -/
theorem readBgra_some {x y : ℕ} (hx : x < frame.width.toNat) (hy : y < frame.height.toNat) :
    ∃ r g b, readBgra frame x y = some (r, g, b) := by
  have hrow : x * 4 + 2 < frame.strideBytes.toNat := by
    have := hframe.row_le
    omega
  have hin := place_lt hy hrow
  have hsize : frame.height.toNat * frame.strideBytes.toNat < 2 ^ 64 := toNat_mul_lt _ _
  have hlength := hframe.rows_le
  have hb : y * frame.strideBytes.toNat + x * 4 < frame.pixels.length := by omega
  have hg : y * frame.strideBytes.toNat + x * 4 + 1 < frame.pixels.length := by omega
  have hr : y * frame.strideBytes.toNat + x * 4 + 2 < frame.pixels.length := by omega
  refine ⟨frame.pixels[y * frame.strideBytes.toNat + x * 4 + 2],
    frame.pixels[y * frame.strideBytes.toNat + x * 4 + 1],
    frame.pixels[y * frame.strideBytes.toNat + x * 4], ?_⟩
  have hoffset : sizeT (y * frame.strideBytes.toNat + x * 4)
      = y * frame.strideBytes.toNat + x * 4 := sizeT_of_lt (by omega)
  have hoffset₁ : sizeT (y * frame.strideBytes.toNat + x * 4 + 1)
      = y * frame.strideBytes.toNat + x * 4 + 1 := sizeT_of_lt (by omega)
  have hoffset₂ : sizeT (y * frame.strideBytes.toNat + x * 4 + 2)
      = y * frame.strideBytes.toNat + x * 4 + 2 := sizeT_of_lt (by omega)
  simp only [readBgra, hoffset, hoffset₁, hoffset₂, List.getElem?_eq_getElem hb,
    List.getElem?_eq_getElem hg, List.getElem?_eq_getElem hr]
  rfl

/-- The four pixels of a block are read. -/
theorem chromaSums_some {x y : ℕ} (hx : x + 1 < frame.width.toNat)
    (hy : y + 1 < frame.height.toNat) : ∃ sums, chromaSums frame x y = some sums := by
  refine exists_foldlM (fun dy hdy sums => exists_foldlM (fun dx hdx sums => ?_) sums) (0, 0)
  rw [List.mem_range] at hdy hdx
  obtain ⟨r, g, b, hread⟩ := hframe.readBgra_some (x := x + dx) (y := y + dy) (by omega) (by omega)
  exact ⟨_, Option.bind_eq_some_iff.2 ⟨(r, g, b), hread, rfl⟩⟩

/-- The width of the target's rows and the places of its planes. -/
theorem nv12Target_sizes :
    (nv12Target frame).yPlaneSize = frame.height.toNat * frame.width.toNat ∧
      (nv12Target frame).uvPlaneSize = frame.height.toNat / 2 * frame.width.toNat ∧
      (nv12Target frame).yPlaneSize + (nv12Target frame).uvPlaneSize < 2 ^ 64 := by
  have hy : (nv12Target frame).yPlaneSize = frame.height.toNat * frame.width.toNat := Nat.mul_comm _ _
  have huv : (nv12Target frame).uvPlaneSize = frame.height.toNat / 2 * frame.width.toNat :=
    Nat.mul_comm _ _
  refine ⟨hy, huv, ?_⟩
  have hrows : frame.height.toNat * frame.width.toNat ≤ 2 ^ 32 * 2 ^ 30 :=
    Nat.mul_le_mul frame.height.toNat_lt.le hframe.width_lt.le
  have hhalf : frame.height.toNat / 2 * frame.width.toNat ≤ frame.height.toNat * frame.width.toNat :=
    Nat.mul_le_mul_right _ (Nat.div_le_self _ 2)
  omega

/-- A sample of the Y plane is written at its place. -/
theorem writes_writeLuma {x y n : ℕ} (hx : x < frame.width.toNat) (hy : y < frame.height.toNat)
    (hn : frame.height.toNat * frame.width.toNat ≤ n) :
    Writes (writeLuma frame (nv12Target frame) y x) n
      (List.range' (0 + y * frame.width.toNat + x * 1) 1) := by
  obtain ⟨r, g, b, hread⟩ := hframe.readBgra_some hx hy
  have hplace : frame.width.toNat * y + x = 0 + y * frame.width.toNat + x * 1 := by
    rw [Nat.zero_add, Nat.mul_one, Nat.mul_comm]
  refine writes_read hread ?_
  change Writes (fun canvas => canvas.write (frame.width.toNat * y + x) _) n _
  rw [hplace]
  refine writes_write _ ?_
  have := place_lt hy hx
  omega

/-- The two samples of a block are written behind the Y plane. -/
theorem writes_writeChroma {i j n : ℕ} (hi : i < frame.width.toNat / 2)
    (hj : j < frame.height.toNat / 2)
    (hn : frame.height.toNat * frame.width.toNat + frame.height.toNat / 2 * frame.width.toNat ≤ n) :
    Writes (writeChroma frame (nv12Target frame) (2 * j) (2 * i)) n
      (List.range' (frame.height.toNat * frame.width.toNat + j * frame.width.toNat + i * 2) 2) := by
  obtain ⟨sums, hsums⟩ := hframe.chromaSums_some (x := 2 * i) (y := 2 * j) (by omega) (by omega)
  have hplace := place_lt hj (show i * 2 + 1 < frame.width.toNat by omega)
  have hrow : (nv12Target frame).uvPlaneOffset + frame.width.toNat * (2 * j / 2) + 2 * i
      = frame.height.toNat * frame.width.toNat + j * frame.width.toNat + i * 2 := by
    rw [Nv12Frame.uvPlaneOffset, hframe.nv12Target_sizes.1, Nat.mul_div_cancel_left j (by decide),
      Nat.mul_comm frame.width.toNat j, Nat.mul_comm 2 i]
  refine writes_read hsums ?_
  change Writes (fun canvas => (canvas.write (_ + frame.width.toNat * (2 * j / 2) + 2 * i) _).bind
    fun canvas => canvas.write (_ + frame.width.toNat * (2 * j / 2) + 2 * i + 1) _) n _
  rw [hrow]
  exact (writes_write _ (by omega)).andThen (writes_write _ (by omega))

/-- The loops over the Y plane write it. -/
theorem writes_luma {n : ℕ} (hn : frame.height.toNat * frame.width.toNat ≤ n) :
    Writes (forEach (List.range frame.height.toNat) fun y =>
        forEach (List.range frame.width.toNat) (writeLuma frame (nv12Target frame) y)) n
      (List.range' 0 (frame.height.toNat * frame.width.toNat)) := by
  refine writes_rows fun y hy => ?_
  have hrow : Writes (forEach (List.range frame.width.toNat) (writeLuma frame (nv12Target frame) y))
      n (List.range' (0 + y * frame.width.toNat) (frame.width.toNat * 1)) :=
    writes_rows fun x hx => hframe.writes_writeLuma hx hy hn
  rwa [Nat.mul_one] at hrow

/-- The loops over the UV plane write it, behind the Y plane. -/
theorem writes_chroma {n : ℕ}
    (hn : frame.height.toNat * frame.width.toNat + frame.height.toNat / 2 * frame.width.toNat ≤ n) :
    Writes (forEach (everySecond frame.height.toNat) fun y =>
        forEach (everySecond frame.width.toNat) (writeChroma frame (nv12Target frame) y)) n
      (List.range' (frame.height.toNat * frame.width.toNat)
        (frame.height.toNat / 2 * frame.width.toNat)) := by
  rw [everySecond_even hframe.even_height, everySecond_even hframe.even_width, forEach_map]
  refine writes_rows fun j hj => ?_
  rw [forEach_map]
  have hrow := writes_rows fun i hi => hframe.writes_writeChroma hi hj hn
  rwa [Nat.div_mul_cancel (Nat.dvd_of_mod_eq_zero hframe.even_width)] at hrow

/-- The frame is converted, inside its buffers. -/
theorem converted (hvalid : validateBgraFrame frame = none) : BgraConverted frame := by
  obtain ⟨hy, huv, hsum⟩ := hframe.nv12Target_sizes
  have hsize : sizeT ((nv12Target frame).yPlaneSize + (nv12Target frame).uvPlaneSize)
      = frame.height.toNat * frame.width.toNat + frame.height.toNat / 2 * frame.width.toNat := by
    rw [sizeT_of_lt hsum, hy, huv]
  have hwrites := (hframe.writes_luma (Nat.le_add_right _ _)).andThen (hframe.writes_chroma le_rfl)
  obtain ⟨canvas, hrun, hlength, hwritten⟩ := hwrites.blank 0
  have hhalf : frame.height.toNat / 2 * frame.width.toNat
      = frame.width.toNat * frame.height.toNat / 2 := by
    rw [Nat.mul_div_assoc _ (Nat.dvd_of_mod_eq_zero hframe.even_height), Nat.mul_comm]
  refine ⟨{ ok := true, frame := { nv12Target frame with bytes := canvas.cells } }, canvas.written,
    ?_, rfl, rfl, rfl, rfl, huv.trans hhalf, ?_, ?_⟩
  · obtain ⟨luma, hluma, hchroma⟩ := Option.bind_eq_some_iff.1 hrun
    simp only [convertBgraToNv12, hvalid, hsize, Option.bind_eq_bind, hluma, Option.bind_some,
      hchroma]
    rfl
  · exact hlength.trans (congrArg₂ (· + ·) hy huv).symm
  · rw [WrittenOnce, hwritten, hlength, range'_append_behind]

end BgraGeometry

/-! ## Accepted NV12 frames -/

/-- The frame is converted without an access outside a buffer, every byte of the output is written
once, and the stride and the size are exact. -/
def Nv12Converted (frame : Nv12Frame) : Prop :=
  ∃ result written, convertNv12ToBgra frame = some (result, written) ∧ result.ok = true ∧
    result.width = frame.width ∧ result.height = frame.height ∧
    result.strideBytes.toNat = 4 * frame.width.toNat ∧
    result.bytes.length = result.strideBytes.toNat * result.height.toNat ∧
    WrittenOnce written result.bytes.length

/-- Four times the width fits in the 32 bits of the stride, and the size that is checked in the 64
bits it is kept in. -/
def SizesFit (frame : Nv12Frame) : Prop :=
  frame.width.toNat * 4 < 2 ^ 32 ∧ frame.requiredBytes < 2 ^ 64

/-- What `validateNv12Frame` checks. -/
structure Nv12Geometry (frame : Nv12Frame) : Prop where
  width_pos : 0 < frame.width.toNat
  height_pos : 0 < frame.height.toNat
  even_width : frame.width.toNat % 2 = 0
  even_height : frame.height.toNat % 2 = 0
  yRow_le : frame.width.toNat ≤ frame.yStrideBytes.toNat
  uvRow_le : frame.width.toNat ≤ frame.uvStrideBytes.toNat
  size_le : sizeT frame.requiredBytes ≤ frame.bytes.length

theorem toNat_pos_of {n : UInt32} (h : n ≠ 0) : 0 < n.toNat :=
  Nat.pos_of_ne_zero fun hzero => h (UInt32.toNat_inj.1 hzero)

theorem geometry_of_validateNv12Frame {frame : Nv12Frame}
    (hvalid : validateNv12Frame frame = none) : Nv12Geometry frame := by
  unfold validateNv12Frame at hvalid
  split at hvalid
  · cases hvalid
  rename_i hzero
  split at hvalid
  · cases hvalid
  rename_i heven
  split at hvalid
  · cases hvalid
  rename_i hstrides
  split at hvalid
  · cases hvalid
  rename_i hsize
  rw [not_or] at hzero heven hstrides
  exact ⟨toNat_pos_of hzero.1, toNat_pos_of hzero.2, toNat_mod_two_of heven.1,
    toNat_mod_two_of heven.2, UInt32.not_lt.1 hstrides.1, UInt32.not_lt.1 hstrides.2,
    not_lt.1 hsize⟩

theorem toNat_stride {n : UInt32} (h : n.toNat * 4 < 2 ^ 32) : (n * 4).toNat = n.toNat * 4 := by
  rw [UInt32.toNat_mul]
  exact Nat.mod_eq_of_lt h

/-- The four bytes of a pixel. -/
theorem writes_writeBgraFromYuv (yValue uValue vValue : UInt8) {target n : ℕ}
    (hn : target + 3 < n) :
    Writes (writeBgraFromYuv yValue uValue vValue target) n (List.range' target 4) := by
  refine (writes_write _ (by omega)).andThen (g := fun canvas => _) ?_
  refine (writes_write _ (by omega)).andThen (g := fun canvas => _) ?_
  exact (writes_write _ (by omega)).andThen (writes_write _ hn)

namespace Nv12Geometry

variable {frame : Nv12Frame} (hframe : Nv12Geometry frame)
include hframe

/-- A sample of the Y plane is in front of the UV plane. -/
theorem luma_lt {x y : ℕ} (hx : x < frame.width.toNat) (hy : y < frame.height.toNat) :
    frame.yStrideBytes.toNat * y + x < frame.requiredBytes := by
  have hplace := place_lt hy (hx.trans_le hframe.yRow_le)
  rw [Nat.mul_comm y, Nat.mul_comm frame.height.toNat] at hplace
  exact hplace.trans_le (Nat.le_add_right _ _)

/-- Both samples of the UV plane that belong to a pixel are in the frame. -/
theorem chroma_lt {x y : ℕ} (hx : x < frame.width.toNat) (hy : y < frame.height.toNat) :
    frame.uvPlaneOffset + frame.uvStrideBytes.toNat * (y / 2) + (x / 2 * 2 + 1)
      < frame.requiredBytes := by
  have heven := hframe.even_width
  have heven' := hframe.even_height
  have hrow : x / 2 * 2 + 1 < frame.uvStrideBytes.toNat := by
    have := hframe.uvRow_le
    omega
  have hplace := place_lt (show y / 2 < frame.height.toNat / 2 by omega) hrow
  rw [Nat.mul_comm (y / 2), Nat.mul_comm (frame.height.toNat / 2)] at hplace
  rw [Nat.add_assoc]
  exact Nat.add_lt_add_left hplace _

/-- Where the sizes fit, what was checked is the size that is read. -/
theorem requiredBytes_le (hfits : SizesFit frame) : frame.requiredBytes ≤ frame.bytes.length := by
  have hsize := hframe.size_le
  rwa [sizeT_of_lt hfits.2] at hsize

/-- A pixel is written at its place. -/
theorem writes_writePixel (hfits : SizesFit frame) {x y : ℕ} (hx : x < frame.width.toNat)
    (hy : y < frame.height.toNat) :
    Writes (writePixel frame (frame.width * 4) y x)
      (frame.height.toNat * (frame.width.toNat * 4))
      (List.range' (0 + y * (frame.width.toNat * 4) + x * 4) 4) := by
  have hsize := hframe.requiredBytes_le hfits
  have hluma := hframe.luma_lt hx hy
  have hchroma := hframe.chroma_lt hx hy
  have hplace : y * (frame.width.toNat * 4) + (x * 4 + 3)
      < frame.height.toNat * (frame.width.toNat * 4) := place_lt hy (by omega)
  have hstride : (frame.width * 4).toNat * y + x * 4
      = 0 + y * (frame.width.toNat * 4) + x * 4 := by
    rw [toNat_stride hfits.1, Nat.zero_add, Nat.mul_comm]
  refine writes_read (List.getElem?_eq_getElem (hluma.trans_le hsize)) ?_
  refine writes_read (List.getElem?_eq_getElem (by omega)) ?_
  refine writes_read (List.getElem?_eq_getElem (hchroma.trans_le hsize)) ?_
  rw [← hstride]
  exact writes_writeBgraFromYuv _ _ _ (by omega)

/-- Where the sizes fit, the frame is converted inside its buffers. -/
theorem converted (hvalid : validateNv12Frame frame = none) (hfits : SizesFit frame) :
    Nv12Converted frame := by
  have hwrites : Writes (forEach (List.range frame.height.toNat) fun y =>
      forEach (List.range frame.width.toNat) (writePixel frame (frame.width * 4) y))
      (frame.height.toNat * (frame.width.toNat * 4))
      (List.range' 0 (frame.height.toNat * (frame.width.toNat * 4))) :=
    writes_rows fun y hy => writes_rows fun x hx => hframe.writes_writePixel hfits hx hy
  obtain ⟨canvas, hrun, hlength, hwritten⟩ := hwrites.blank 0
  have hstride := toNat_stride hfits.1
  have hsize : (frame.width * 4).toNat * frame.height.toNat
      = frame.height.toNat * (frame.width.toNat * 4) := by rw [hstride, Nat.mul_comm]
  refine ⟨{ ok := true, width := frame.width, height := frame.height,
            strideBytes := frame.width * 4, bytes := canvas.cells }, canvas.written,
    ?_, rfl, rfl, rfl, hstride.trans (Nat.mul_comm _ _), hlength.trans hsize.symm, ?_⟩
  · simp only [convertNv12ToBgra, hvalid, hsize, Option.bind_eq_bind, hrun, Option.bind_some]
    rfl
  · rw [WrittenOnce, hwritten, hlength, List.range_eq_range']

/-- The last pixel that a conversion reads is in the buffer. -/
theorem last_lt (hvalid : validateNv12Frame frame = none) {result : Nv12ToBgraResult}
    {written : List ℕ} (hrun : convertNv12ToBgra frame = some (result, written)) :
    frame.uvPlaneOffset + frame.uvStrideBytes.toNat * ((frame.height.toNat - 1) / 2)
      + ((frame.width.toNat - 1) / 2 * 2 + 1) < frame.bytes.length := by
  have hwidth := hframe.width_pos
  have hheight := hframe.height_pos
  simp only [convertNv12ToBgra, hvalid, Option.bind_eq_bind] at hrun
  obtain ⟨canvas, hcanvas, -⟩ := Option.bind_eq_some_iff.1 hrun
  obtain ⟨row, row', hrow⟩ := exists_of_forEach hcanvas
    (List.mem_range.2 (show frame.height.toNat - 1 < frame.height.toNat by omega))
  obtain ⟨pixel, pixel', hpixel⟩ := exists_of_forEach hrow
    (List.mem_range.2 (show frame.width.toNat - 1 < frame.width.toNat by omega))
  obtain ⟨yValue, -, hpixel⟩ := Option.bind_eq_some_iff.1 hpixel
  obtain ⟨uValue, -, hpixel⟩ := Option.bind_eq_some_iff.1 hpixel
  obtain ⟨vValue, hvalue, -⟩ := Option.bind_eq_some_iff.1 hpixel
  exact (List.getElem?_eq_some_iff.1 hvalue).1

/-- A frame in a buffer that can exist is converted inside its buffers only where the sizes fit. -/
theorem sizesFit (hvalid : validateNv12Frame frame = none) (hbytes : frame.bytes.length < 2 ^ 63)
    (hconverted : Nv12Converted frame) : SizesFit frame := by
  obtain ⟨result, written, hrun, -, -, -, hstride, -⟩ := hconverted
  have hlast := hframe.last_lt hvalid hrun
  have huv := frame.uvStrideBytes.toNat_lt
  have heven := hframe.even_height
  have hheight := hframe.height_pos
  have hrows : frame.requiredBytes = frame.uvPlaneOffset
      + (frame.uvStrideBytes.toNat * ((frame.height.toNat - 1) / 2) + frame.uvStrideBytes.toNat) := by
    rw [← Nat.mul_add_one, show (frame.height.toNat - 1) / 2 + 1 = frame.height.toNat / 2 by omega]
    rfl
  refine ⟨?_, ?_⟩
  · have := result.strideBytes.toNat_lt
    omega
  · omega

end Nv12Geometry

/-! ## The conversions stay in their buffers -/

/-- **The conversions stay in their buffers**: every BGRA frame that is accepted is converted without
an access outside a buffer, every byte of its planes written once.  So is every NV12 frame that is
accepted and whose sizes fit, and of those that a `std::vector` can hold no other. -/
theorem colorConversion_exact (bgra : CapturedFrame) (nv12 : Nv12Frame) :
    (validateBgraFrame bgra = none → BgraConverted bgra) ∧
      (validateNv12Frame nv12 = none →
        (SizesFit nv12 → Nv12Converted nv12) ∧
          (nv12.bytes.length < 2 ^ 63 → Nv12Converted nv12 → SizesFit nv12)) := by
  refine ⟨fun hvalid => (geometry_of_validateBgraFrame hvalid).converted hvalid, fun hvalid => ?_⟩
  have hframe := geometry_of_validateNv12Frame hvalid
  exact ⟨hframe.converted hvalid, hframe.sizesFit hvalid⟩

/-- Two rows of two pixels and four bytes behind each row. -/
def smallBgra : CapturedFrame where
  width := 2
  height := 2
  strideBytes := 12
  pixelFormat := .bgra32
  pixels := List.replicate 24 200

/-- Two rows of two pixels and a byte behind each row. -/
def smallNv12 : Nv12Frame where
  width := 2
  height := 2
  yStrideBytes := 3
  uvStrideBytes := 3
  bytes := List.replicate 9 128

theorem colorConversion_small :
    BgraConverted smallBgra ∧ Nv12Converted smallNv12 ∧ SizesFit smallNv12 := by
  obtain ⟨hbgra, hnv12⟩ := colorConversion_exact smallBgra smallNv12
  obtain ⟨hfit, hsizes⟩ := hnv12 (by decide)
  have hconverted := hfit ⟨by decide, by decide⟩
  exact ⟨hbgra (by decide), hconverted, hsizes (by decide) hconverted⟩

/-- A frame of the dimensions and strides and of `size` bytes, all of them 0. -/
def blackNv12 (width height yStrideBytes uvStrideBytes : UInt32) (size : ℕ) : Nv12Frame where
  width := width
  height := height
  yStrideBytes := yStrideBytes
  uvStrideBytes := uvStrideBytes
  bytes := List.replicate size 0

/-- Two rows of `2 ^ 30` pixels. -/
def wideNv12 : Nv12Frame := blackNv12 0x40000000 2 0x40000000 0x40000000 (3 * 2 ^ 30)

/-- The width of two pixels, and `2 ^ 64 + 4` bytes by the strides, of which there are four. -/
def tallNv12 : Nv12Frame := blackNv12 2 4294836226 4294967295 262150 4

theorem validateNv12Frame_wideNv12 : validateNv12Frame wideNv12 = none := by
  have hlength : wideNv12.bytes.length = 3 * 2 ^ 30 := List.length_replicate
  have hrequired : sizeT wideNv12.requiredBytes = 3 * 2 ^ 30 := by decide
  rw [validateNv12Frame, hlength, hrequired]
  decide

theorem validateNv12Frame_tallNv12 : validateNv12Frame tallNv12 = none := by decide

/-- The stride of a wide frame wraps to 0, so that its pixels have no place; a tall one is read
behind its four bytes. -/
theorem accepted_not_converted :
    (validateNv12Frame wideNv12 = none ∧ ¬Nv12Converted wideNv12) ∧
      (validateNv12Frame tallNv12 = none ∧ ¬Nv12Converted tallNv12) := by
  refine ⟨⟨validateNv12Frame_wideNv12, fun hconverted => ?_⟩,
    ⟨validateNv12Frame_tallNv12, fun hconverted => ?_⟩⟩
  · have hframe := geometry_of_validateNv12Frame validateNv12Frame_wideNv12
    have hlength : wideNv12.bytes.length = 3 * 2 ^ 30 := List.length_replicate
    have hfits := hframe.sizesFit validateNv12Frame_wideNv12 (by rw [hlength]; decide) hconverted
    exact absurd hfits.1 (by decide)
  · have hframe := geometry_of_validateNv12Frame validateNv12Frame_tallNv12
    have hfits := hframe.sizesFit validateNv12Frame_tallNv12 (by decide) hconverted
    exact absurd hfits.2 (by decide)

end ColorConversion
end Runtime
end FusionDesk
