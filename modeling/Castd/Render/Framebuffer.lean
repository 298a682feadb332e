import Castd.Lib.CharClass
import Castd.Lib.Pieces

/-!
# The framebuffer

`castd/render/framebuffer.py`: what `paint_framebuffer` writes for the bytes that the resized image
yields. At 16 bits per pixel it packs them by hand, and `paintFramebuffer_packs` says which bytes
come out.
-/

namespace Castd.Render

open Lib

/-- `FbGeometry`. The stride is in bytes. -/
structure FbGeometry where
  width : Nat
  height : Nat
  bitsPerPixel : Nat
  stride : Nat
  deriving DecidableEq, Repr

/-- What `tobytes` is asked for: the three bytes of each pixel, or the raw mode `BGRX`. -/
inductive RawMode
  | rgb
  | bgrx
  deriving DecidableEq

/-- What painting can raise. -/
inductive PaintError
  | unsupportedDepth (bitsPerPixel : Nat)
  /-- A value that is no byte, stored in a bytearray. -/
  | byteRange
  | indexError
  deriving DecidableEq

/-- The text of an error. -/
def PaintError.text : PaintError → Str
  | .unsupportedDepth bitsPerPixel =>
    "unsupported framebuffer depth: ".toList ++ Nat.toDigits 10 bitsPerPixel ++ " bpp".toList
  | .byteRange => "byte must be in range(0, 256)".toList
  | .indexError => "index out of range".toList

/-! ## Packing -/

/-- `data[i]`. -/
def byteAt (data : Bytes) (i : Nat) : Except PaintError Nat :=
  match data[i]? with
  | some b => .ok b.toNat
  | none => .error .indexError

/-- `data[i] = value`. -/
def storeByte (data : Bytes) (i value : Nat) : Except PaintError Bytes :=
  if 256 ≤ value then .error .byteRange
  else if i < data.length then .ok (data.set i (UInt8.ofNat value))
  else .error .indexError

/-- The 16 bits of a pixel. -/
def rgb565 (red green blue : Nat) : Nat :=
  ((red &&& 0xF8) <<< 8) ||| ((green &&& 0xFC) <<< 3) ||| (blue >>> 3)

/-- The loop that packs the pixels at some offsets. -/
def packPixels (rgb : Bytes) : List Nat → Bytes → Except PaintError Bytes
  | [], out => .ok out
  | i :: offsets, out => do
    let red ← byteAt rgb i
    let green ← byteAt rgb (i + 1)
    let blue ← byteAt rgb (i + 2)
    let value := rgb565 red green blue
    let j := i / 3 * 2
    let out ← storeByte out j (value &&& 0xFF)
    let out ← storeByte out (j + 1) (value >>> 8)
    packPixels rgb offsets out

/-- `range(0, length, 3)`. -/
def pixelOffsets (length : Nat) : List Nat := (List.range ((length + 2) / 3)).map (3 * ·)

/-- The rows with zeros after each up to the stride. -/
def padRows (geometry : FbGeometry) (rowBytes : Nat) (data : Bytes) : Bytes :=
  if rowBytes < geometry.stride then
    (List.range geometry.height).flatMap fun row =>
      data.extract (row * rowBytes) ((row + 1) * rowBytes) ++
        List.replicate (geometry.stride - rowBytes) 0
  else data

/-- `paint_framebuffer`: what it writes, of an image that is resized to the geometry. -/
def paintFramebuffer (tobytes : RawMode → Bytes) (geometry : FbGeometry) :
    Except PaintError Bytes :=
  if geometry.bitsPerPixel = 32 then
    .ok (padRows geometry (geometry.width * 4) (tobytes .bgrx))
  else if geometry.bitsPerPixel = 16 then do
    let rgb := tobytes .rgb
    let out ← packPixels rgb (pixelOffsets rgb.length) (List.replicate (rgb.length / 3 * 2) 0)
    return padRows geometry (geometry.width * 2) out
  else .error (.unsupportedDepth geometry.bitsPerPixel)

/-! ## One pixel -/

private theorem rgb565_eq {red green blue : Nat} (hred : red < 256) (hgreen : green < 256)
    (hblue : blue < 256) :
    rgb565 red green blue = 2048 * (red / 8) + 32 * (green / 4) + blue / 8 := by
  have redMask : red &&& 0xF8 = 8 * (red / 8) := by
    have all : ∀ r : Fin 256, r.val &&& 0xF8 = 8 * (r.val / 8) := by decide +kernel
    exact all ⟨red, hred⟩
  have greenMask : green &&& 0xFC = 4 * (green / 4) := by
    have all : ∀ g : Fin 256, g.val &&& 0xFC = 4 * (g.val / 4) := by decide +kernel
    exact all ⟨green, hgreen⟩
  have shifted : rgb565 red green blue =
      2 ^ 11 * (red / 8) ||| 2 ^ 5 * (green / 4) ||| blue / 8 := by
    rw [rgb565, redMask, greenMask, Nat.shiftLeft_eq, Nat.shiftLeft_eq, Nat.shiftRight_eq_div_pow]
    congr 2 <;> omega
  have high : 2 ^ 11 * (red / 8) ||| 2 ^ 5 * (green / 4) =
      2 ^ 5 * (64 * (red / 8) + green / 4) := by
    rw [← Nat.two_pow_add_eq_or_of_lt (by omega)]
    omega
  rw [shifted, high, ← Nat.two_pow_add_eq_or_of_lt (by omega)]
  omega

/-- The 16 bits of a pixel of the buffer. -/
def pixelValue (rgb : Bytes) (pixel : Nat) : Nat :=
  rgb565 (rgb[3 * pixel]?.getD 0).toNat (rgb[3 * pixel + 1]?.getD 0).toNat
    (rgb[3 * pixel + 2]?.getD 0).toNat

/-- The two bytes of a pixel, the low one first. -/
def packed (rgb : Bytes) (pixel : Nat) : Bytes :=
  [UInt8.ofNat (pixelValue rgb pixel % 256), UInt8.ofNat (pixelValue rgb pixel / 256)]

private theorem pixelValue_eq (rgb : Bytes) (pixel : Nat) :
    pixelValue rgb pixel = 2048 * ((rgb[3 * pixel]?.getD 0).toNat / 8) +
      32 * ((rgb[3 * pixel + 1]?.getD 0).toNat / 4) + (rgb[3 * pixel + 2]?.getD 0).toNat / 8 :=
  rgb565_eq (UInt8.toNat_lt _) (UInt8.toNat_lt _) (UInt8.toNat_lt _)

private theorem pixelValue_lt (rgb : Bytes) (pixel : Nat) : pixelValue rgb pixel / 256 < 256 := by
  have red := UInt8.toNat_lt (rgb[3 * pixel]?.getD 0)
  have green := UInt8.toNat_lt (rgb[3 * pixel + 1]?.getD 0)
  have blue := UInt8.toNat_lt (rgb[3 * pixel + 2]?.getD 0)
  rw [pixelValue_eq]
  omega

/-! ## The loop -/

private theorem byteAt_of_lt {data : Bytes} {i : Nat} (hi : i < data.length) :
    byteAt data i = .ok (data[i]?.getD 0).toNat := by
  rw [byteAt, List.getElem?_eq_getElem hi]
  rfl

private theorem storeByte_append {before after : Bytes} {old : UInt8} {i value : Nat}
    (hi : before.length = i) (byte : value < 256) :
    storeByte (before ++ old :: after) i value = .ok (before ++ UInt8.ofNat value :: after) := by
  subst hi
  rw [storeByte, if_neg (Nat.not_le.mpr byte), if_pos (by simp),
    List.set_append_right _ _ (Nat.le_refl _), Nat.sub_self, List.set_cons_zero]

private theorem packPixels_cons {rgb done : Bytes} {pixel left : Nat} (offsets : List Nat)
    (inside : 3 * pixel + 2 < rgb.length) (length : done.length = 2 * pixel) :
    packPixels rgb (3 * pixel :: offsets) (done ++ List.replicate (2 * (left + 1)) 0) =
      packPixels rgb offsets (done ++ packed rgb pixel ++ List.replicate (2 * left) 0) := by
  have j : 3 * pixel / 3 * 2 = 2 * pixel := by omega
  have free : List.replicate (2 * (left + 1)) (0 : UInt8) =
      0 :: 0 :: List.replicate (2 * left) 0 := rfl
  have first : storeByte (done ++ 0 :: 0 :: List.replicate (2 * left) 0) (2 * pixel)
      (pixelValue rgb pixel &&& 0xFF) = .ok (done ++ UInt8.ofNat (pixelValue rgb pixel % 256) ::
        0 :: List.replicate (2 * left) 0) := by
    rw [Nat.and_two_pow_sub_one_eq_mod _ 8]
    exact storeByte_append length (Nat.mod_lt _ (Nat.two_pow_pos 8))
  have second : storeByte (done ++ UInt8.ofNat (pixelValue rgb pixel % 256) ::
      0 :: List.replicate (2 * left) 0) (2 * pixel + 1) (pixelValue rgb pixel >>> 8) =
        .ok (done ++ packed rgb pixel ++ List.replicate (2 * left) 0) := by
    rw [Nat.shiftRight_eq_div_pow, List.append_cons, storeByte_append (by simp [length])
      (pixelValue_lt rgb pixel)]
    simp [packed]
  rw [packPixels, byteAt_of_lt (by omega), byteAt_of_lt (by omega), byteAt_of_lt inside, j, free]
  dsimp only [Bind.bind, Except.bind]
  rw [← pixelValue, first]
  dsimp only
  rw [second]

private theorem packPixels_from {rgb : Bytes} {pixels : Nat} (buffer : rgb.length = 3 * pixels)
    {left first : Nat} (rest : first + left = pixels) {done : Bytes}
    (length : done.length = 2 * first) :
    packPixels rgb ((List.range' first left).map (3 * ·)) (done ++ List.replicate (2 * left) 0) =
      .ok (done ++ (List.range' first left).flatMap (packed rgb)) := by
  induction left generalizing first done with
  | zero => simp [packPixels]
  | succ left ih =>
    have next : (done ++ packed rgb first).length = 2 * (first + 1) := by
      rw [List.length_append, length]
      rfl
    rw [List.range'_succ, List.map_cons, packPixels_cons _ (by omega) length,
      ih (by omega) next, List.flatMap_cons, List.append_assoc]

private theorem packPixels_eq {rgb : Bytes} {pixels : Nat} (buffer : rgb.length = 3 * pixels) :
    packPixels rgb (pixelOffsets rgb.length) (List.replicate (rgb.length / 3 * 2) 0) =
      .ok ((List.range pixels).flatMap (packed rgb)) := by
  have offsets : (3 * pixels + 2) / 3 = pixels := by omega
  have free : 3 * pixels / 3 * 2 = 2 * pixels := by omega
  rw [pixelOffsets, buffer, offsets, free, List.range_eq_range']
  exact packPixels_from buffer (Nat.zero_add pixels) (show ([] : Bytes).length = 2 * 0 from rfl)

/-! ## The rows -/

section

variable {geometry : FbGeometry} {rowBytes x y : Nat} {data : Bytes}

private theorem length_padded (length : data.length = rowBytes * geometry.height)
    (fits : rowBytes ≤ geometry.stride) : ∀ y < geometry.height,
      (data.extract (y * rowBytes) ((y + 1) * rowBytes) ++
        List.replicate (geometry.stride - rowBytes) 0).length = geometry.stride := by
  intro y hy
  rw [List.length_append, length_slice length hy, List.length_replicate]
  omega

private theorem length_padRows (length : data.length = rowBytes * geometry.height)
    (fits : rowBytes ≤ geometry.stride) :
    (padRows geometry rowBytes data).length = geometry.stride * geometry.height := by
  unfold padRows
  split
  next => exact length_flatMap_range (length_padded length fits)
  next full => rw [length, Nat.le_antisymm fits (Nat.not_lt.mp full)]

private theorem getElem?_padRows (length : data.length = rowBytes * geometry.height)
    (fits : rowBytes ≤ geometry.stride) (hx : x < rowBytes) (hy : y < geometry.height) :
    (padRows geometry rowBytes data)[y * geometry.stride + x]? = data[y * rowBytes + x]? := by
  unfold padRows
  split
  next =>
    have inRow : x < (data.extract (y * rowBytes) ((y + 1) * rowBytes)).length := by
      rwa [length_slice length hy]
    rw [getElem?_flatMap_range (length_padded length fits) hy (Nat.lt_of_lt_of_le hx fits),
      List.getElem?_append_left inRow, getElem?_slice data hx]
  next full => rw [Nat.le_antisymm fits (Nat.not_lt.mp full)]

private theorem getElem?_padRows_padding (length : data.length = rowBytes * geometry.height)
    (past : rowBytes ≤ x) (hx : x < geometry.stride) (hy : y < geometry.height) :
    (padRows geometry rowBytes data)[y * geometry.stride + x]? = some 0 := by
  have short : rowBytes < geometry.stride := Nat.lt_of_le_of_lt past hx
  have row := length_slice length hy
  rw [padRows, if_pos short,
    getElem?_flatMap_range (length_padded length (Nat.le_of_lt short)) hy hx,
    List.getElem?_append_right (Nat.le_trans (Nat.le_of_eq row) past), row, List.getElem?_replicate,
    if_pos (by omega)]

end

/-! ## What is written -/

private theorem paintFramebuffer_rows (tobytes : RawMode → Bytes) (geometry : FbGeometry)
    (depth : geometry.bitsPerPixel = 32)
    (buffer : (tobytes .bgrx).length = geometry.width * 4 * geometry.height)
    (fits : geometry.width * 4 ≤ geometry.stride) :
    ∃ data, paintFramebuffer tobytes geometry = .ok data ∧
      data.length = geometry.stride * geometry.height ∧
      ∀ y < geometry.height,
        (∀ x < geometry.width * 4, data[y * geometry.stride + x]? =
          (tobytes .bgrx)[y * (geometry.width * 4) + x]?) ∧
        ∀ x, geometry.width * 4 ≤ x → x < geometry.stride →
          data[y * geometry.stride + x]? = some 0 := by
  refine ⟨_, if_pos depth, length_padRows buffer fits, fun y hy => ⟨fun x hx => ?_, ?_⟩⟩
  · exact getElem?_padRows buffer fits hx hy
  · exact fun x past hx => getElem?_padRows_padding buffer past hx hy

/-- What stands at a pixel's place is its value: the two bytes are a number, the low one first,
with the upper bits of red, green and blue in its bits 15-11, 10-5 and 4-0. -/
def ShowsPixel (rgb data : Bytes) (geometry : FbGeometry) (x y : Nat) : Prop :=
  ∃ red green blue low high : UInt8,
    rgb[3 * (y * geometry.width + x)]? = some red ∧
    rgb[3 * (y * geometry.width + x) + 1]? = some green ∧
    rgb[3 * (y * geometry.width + x) + 2]? = some blue ∧
    data[y * geometry.stride + 2 * x]? = some low ∧
    data[y * geometry.stride + 2 * x + 1]? = some high ∧
    (low.toNat + 256 * high.toNat) >>> 11 = red.toNat >>> 3 ∧
    ((low.toNat + 256 * high.toNat) >>> 5) % 64 = green.toNat >>> 2 ∧
    (low.toNat + 256 * high.toNat) % 32 = blue.toNat >>> 3

private theorem packed_value (rgb : Bytes) (pixel : Nat) :
    ∃ low high, packed rgb pixel = [low, high] ∧
      low.toNat + 256 * high.toNat = pixelValue rgb pixel := by
  refine ⟨_, _, rfl, ?_⟩
  rw [UInt8.toNat_ofNat_of_lt' (Nat.mod_lt _ (Nat.two_pow_pos 8)),
    UInt8.toNat_ofNat_of_lt' (pixelValue_lt rgb pixel)]
  exact Nat.mod_add_div _ 256

private theorem length_packed (rgb : Bytes) (pixels : Nat) :
    ∀ pixel < pixels, (packed rgb pixel).length = 2 := fun _ _ => rfl

private theorem getElem?_packed {rgb : Bytes} {pixels pixel i : Nat} (hpixel : pixel < pixels)
    (hi : i < 2) :
    ((List.range pixels).flatMap (packed rgb))[2 * pixel + i]? = (packed rgb pixel)[i]? := by
  rw [Nat.mul_comm, getElem?_flatMap_range (length_packed rgb pixels) hpixel hi]

private theorem showsPixel_of_packed {rgb data : Bytes} {geometry : FbGeometry} {x y : Nat}
    (inside : 3 * (y * geometry.width + x) + 2 < rgb.length)
    (low : data[y * geometry.stride + 2 * x]? = (packed rgb (y * geometry.width + x))[0]?)
    (high : data[y * geometry.stride + 2 * x + 1]? = (packed rgb (y * geometry.width + x))[1]?) :
    ShowsPixel rgb data geometry x y := by
  obtain ⟨lowByte, highByte, bytes, value⟩ := packed_value rgb (y * geometry.width + x)
  rw [bytes] at low high
  have at0 := List.getElem?_eq_getElem (Nat.lt_of_add_right_lt inside)
  have at1 := List.getElem?_eq_getElem (Nat.lt_of_succ_lt inside)
  have at2 := List.getElem?_eq_getElem inside
  rw [pixelValue_eq, at0, at1, at2, Option.getD_some, Option.getD_some, Option.getD_some] at value
  refine ⟨_, _, _, lowByte, highByte, at0, at1, at2, low, high, ?_⟩
  have red := UInt8.toNat_lt rgb[3 * (y * geometry.width + x)]
  have green := UInt8.toNat_lt rgb[3 * (y * geometry.width + x) + 1]
  have blue := UInt8.toNat_lt rgb[3 * (y * geometry.width + x) + 2]
  simp only [value, Nat.shiftRight_eq_div_pow]
  omega

/-- At 16 bits per pixel every geometry and every buffer of the right length is packed: no store
raises, each pixel stands in its place, and what is left of the lines is zero.

A store raises outside of 0 to 255, so that the shifts and masks of every channel are part of the
statement. The image comes from PIL, which is a parameter. -/
theorem paintFramebuffer_packs (tobytes : RawMode → Bytes) (geometry : FbGeometry)
    (depth : geometry.bitsPerPixel = 16)
    (buffer : (tobytes .rgb).length = 3 * geometry.width * geometry.height)
    (fits : 2 * geometry.width ≤ geometry.stride) :
    ∃ data, paintFramebuffer tobytes geometry = .ok data ∧
      data.length = geometry.stride * geometry.height ∧
      (∀ x < geometry.width, ∀ y < geometry.height,
        ShowsPixel (tobytes .rgb) data geometry x y) ∧
      ∀ y < geometry.height, ∀ x, 2 * geometry.width ≤ x → x < geometry.stride →
        data[y * geometry.stride + x]? = some 0 := by
  rw [Nat.mul_assoc] at buffer
  rw [Nat.mul_comm] at fits
  have length : ((List.range (geometry.width * geometry.height)).flatMap
      (packed (tobytes .rgb))).length = geometry.width * 2 * geometry.height := by
    rw [length_flatMap_range (length_packed _ _), Nat.mul_comm geometry.width 2, Nat.mul_assoc]
  refine ⟨padRows geometry (geometry.width * 2) _, ?_, length_padRows length fits, ?_, ?_⟩
  · rw [paintFramebuffer, if_neg (by simp [depth]), if_pos depth]
    dsimp only
    rw [packPixels_eq buffer]
    rfl
  · intro x hx y hy
    have pixel : y * geometry.width + x < geometry.width * geometry.height := calc
      y * geometry.width + x < (y + 1) * geometry.width := by rw [Nat.succ_mul]; omega
      _ ≤ geometry.height * geometry.width := Nat.mul_le_mul_right _ hy
      _ = geometry.width * geometry.height := Nat.mul_comm _ _
    have place : ∀ i < 2, (padRows geometry (geometry.width * 2) ((List.range (geometry.width *
        geometry.height)).flatMap (packed (tobytes .rgb))))[y * geometry.stride + (2 * x + i)]? =
        (packed (tobytes .rgb) (y * geometry.width + x))[i]? := by
      intro i hi
      have index : y * (geometry.width * 2) + (2 * x + i) = 2 * (y * geometry.width + x) + i := by
        rw [← Nat.mul_assoc, Nat.mul_add, Nat.mul_comm _ 2, Nat.add_assoc]
      rw [getElem?_padRows length fits (by omega) hy, index, getElem?_packed pixel hi]
    exact showsPixel_of_packed (by omega) (place 0 (by decide)) (place 1 (by decide))
  · intro y hy x past hx
    exact getElem?_padRows_padding length (by omega) hx hy

/-- Two pixels on a line with room for three. -/
theorem paintFramebuffer_packs_padded :
    ∃ data, paintFramebuffer (fun _ => [0xFF, 0x04, 0x08, 0x87, 0xFC, 0x07]) ⟨2, 1, 16, 6⟩ =
        .ok data ∧ data.length = 6 ∧
      ShowsPixel [0xFF, 0x04, 0x08, 0x87, 0xFC, 0x07] data ⟨2, 1, 16, 6⟩ 1 0 ∧
      data[4]? = some 0 ∧ data[5]? = some 0 := by
  obtain ⟨data, painted, length, pixels, padding⟩ := paintFramebuffer_packs
    (fun _ => [0xFF, 0x04, 0x08, 0x87, 0xFC, 0x07]) ⟨2, 1, 16, 6⟩ rfl rfl (by decide)
  exact ⟨data, painted, length, pixels 1 (by decide) 0 (by decide),
    padding 0 (by decide) 4 (by decide) (by decide),
    padding 0 (by decide) 5 (by decide) (by decide)⟩

end Castd.Render
