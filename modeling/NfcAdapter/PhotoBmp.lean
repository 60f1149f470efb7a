/-
# The BMP encoder (`photo_convert.c`)

A decoded photo leaves the adapter as an uncompressed bitmap: two headers, and the rows
from the bottom up in BGR order, each padded to a multiple of four bytes.  Sizes are
32-bit numbers throughout.
-/
import NfcAdapter.Chunks
import NfcAdapter.PassportRead

namespace NfcAdapter

/-! ## The encoder -/

/-- The four bytes of `bmp_append_u32`. -/
def u32Bytes (v : UInt32) : Bytes :=
  [v.toUInt8, (v >>> 8).toUInt8, (v >>> 16).toUInt8, (v >>> 24).toUInt8]

/-- `bmp_append_u32`. -/
def bmpAppendU32 (out : Bytes) (v : UInt32) : Bytes := out ++ u32Bytes v

/-- `bmp_append_u16`. -/
def bmpAppendU16 (out : Bytes) (v : UInt16) : Bytes := out ++ [v.toUInt8, (v >>> 8).toUInt8]

/-- `row_bytes`. -/
def bmpRowBytes (width : UInt32) : UInt32 := width * 3

/-- `row_padded`. -/
def bmpRowPadded (width : UInt32) : UInt32 := (bmpRowBytes width + 3) &&& ~~~3

/-- `pixel_data_len`. -/
def bmpPixelDataLen (width height : UInt32) : UInt32 := bmpRowPadded width * height

/-- `file_len`. -/
def bmpFileLen (width height : UInt32) : UInt32 := 14 + 40 + bmpPixelDataLen width height

/-- The two headers. -/
def bmpHeaders (width height : UInt32) : Bytes :=
  let bmp : Bytes := [0x42, 0x4D]
  let bmp := bmpAppendU32 bmp (bmpFileLen width height)
  let bmp := bmpAppendU32 bmp 0
  let bmp := bmpAppendU32 bmp (14 + 40)
  let bmp := bmpAppendU32 bmp 40
  let bmp := bmpAppendU32 bmp width
  let bmp := bmpAppendU32 bmp height
  let bmp := bmpAppendU16 bmp 1
  let bmp := bmpAppendU16 bmp 24
  let bmp := bmpAppendU32 bmp 0
  let bmp := bmpAppendU32 bmp (bmpPixelDataLen width height)
  let bmp := bmpAppendU32 bmp 0
  let bmp := bmpAppendU32 bmp 0
  let bmp := bmpAppendU32 bmp 0
  bmpAppendU32 bmp 0

@[simp] theorem length_bmpHeaders (width height : UInt32) :
    (bmpHeaders width height).length = 54 := by
  simp [bmpHeaders, bmpAppendU32, bmpAppendU16, u32Bytes]

/-- The loop over the pixels of a row, which starts at offset `row` of the buffer.  `none`
is a read behind the buffer or an abort of GLib; `fuel` exceeds the pixels that are left. -/
def bmpRowLoop (rgb : Bytes) (row : ℕ) (width : UInt32) : ℕ → UInt32 → Bytes → Option Bytes
  | fuel + 1, x, bmp =>
    if x < width then do
      let b ← rgb[row + (x * 3 + 2).toNat]?
      let g ← rgb[row + (x * 3 + 1).toNat]?
      let r ← rgb[row + (x * 3 + 0).toNat]?
      let bmp ← byteArrayAppend bmp [b, g, r]
      bmpRowLoop rgb row width fuel (x + 1) bmp
    else some bmp
  | 0, _, _ => none

/-- The first `pad` bytes of `zero`, an array of three, if the row is padded at all. -/
def bmpAppendPadding (bmp : Bytes) (pad : UInt32) : Option Bytes :=
  if pad = 0 then some bmp
  else if pad.toNat ≤ 3 then byteArrayAppend bmp ([0, 0, 0].take pad.toNat)
  else none

/-- The loop over the rows, from `y` down to 0. -/
def bmpRowsLoop (rgb : Bytes) (width : UInt32) : ℕ → ℤ → Bytes → Option Bytes
  | fuel + 1, y, bmp =>
    if 0 ≤ y then do
      let bmp ← bmpRowLoop rgb (y.toNat * (bmpRowBytes width).toNat) width (width.toNat + 1) 0 bmp
      let bmp ← bmpAppendPadding bmp (bmpRowPadded width - bmpRowBytes width)
      bmpRowsLoop rgb width fuel (y - 1) bmp
    else some bmp
  | 0, _, _ => none

/-- `encode_bmp`; `(gint32) height` is the two's complement value. -/
def encodeBmp (rgb : Bytes) (width height : UInt32) : Option Bytes :=
  bmpRowsLoop rgb width (height.toNat + 1) (height.toBitVec.toInt - 1) (bmpHeaders width height)

/-! ## Little-endian numbers -/

/-- The number a little-endian byte string denotes. -/
def leValue : Bytes → ℕ
  | [] => 0
  | b :: bs => b.toNat + 256 * leValue bs

/-- The 32-bit number at an offset. -/
def le32At (data : Bytes) (offset : ℕ) : ℕ := leValue ((data.drop offset).take 4)

/-- What `bmp_append_u32` writes. -/
theorem leValue_u32Bytes (v : UInt32) : leValue (u32Bytes v) = v.toNat := by
  have hv := v.toNat_lt
  have h0 : v.toUInt8.toNat = v.toNat % 256 := UInt32.toNat_toUInt8 v
  have h1 : (v >>> 8).toUInt8.toNat = v.toNat / 256 % 256 := by
    rw [UInt32.toNat_toUInt8, UInt32.toNat_shiftRight, Nat.shiftRight_eq_div_pow]
    rfl
  have h2 : (v >>> 16).toUInt8.toNat = v.toNat / 65536 % 256 := by
    rw [UInt32.toNat_toUInt8, UInt32.toNat_shiftRight, Nat.shiftRight_eq_div_pow]
    rfl
  have h3 : (v >>> 24).toUInt8.toNat = v.toNat / 16777216 % 256 := by
    rw [UInt32.toNat_toUInt8, UInt32.toNat_shiftRight, Nat.shiftRight_eq_div_pow]
    rfl
  simp only [u32Bytes, leValue, h0, h1, h2, h3]
  omega

/-! ## Sizes -/

/-- `& ~3` rounds down to a multiple of four. -/
theorem toNat_and_not_three (v : UInt32) : (v &&& ~~~3).toNat = v.toNat / 4 * 4 := by
  have hmask : (~~~3 : UInt32).toNat = (2 ^ 30 - 1) <<< 2 := by decide
  have hshift : v.toNat / 4 * 4 = (v.toNat >>> 2) <<< 2 := by
    rw [Nat.shiftRight_eq_div_pow, Nat.shiftLeft_eq]
  rw [UInt32.toNat_and, hmask, hshift]
  refine Nat.eq_of_testBit_eq fun i => ?_
  simp only [Nat.testBit_and, Nat.testBit_shiftLeft, Nat.testBit_two_pow_sub_one,
    Nat.testBit_shiftRight]
  by_cases hi : 2 ≤ i
  · rw [show 2 + (i - 2) = i by omega]
    by_cases hhigh : i < 32
    · simp [hi, show i - 2 < 30 by omega]
    · -- the number has no bit there
      have hbit : v.toNat.testBit i = false :=
        Nat.testBit_lt_two_pow (lt_of_lt_of_le v.toNat_lt (Nat.pow_le_pow_right (by decide)
          (Nat.not_lt.mp hhigh)))
      simp [hbit]
  · simp [hi]

/-- A row of three bytes a pixel, filled up to a multiple of four. -/
def paddedRow (width : ℕ) : ℕ := (3 * width + 3) / 4 * 4

theorem paddedRow_bounds (width : ℕ) :
    3 * width ≤ paddedRow width ∧ paddedRow width ≤ 3 * width + 3 := by
  unfold paddedRow
  omega

/-- The sizes of a photo the converter accepts: not empty, and at most sixteen million
pixels. -/
structure PhotoSize (width height : UInt32) : Prop where
  width_pos : 1 ≤ width.toNat
  height_pos : 1 ≤ height.toNat
  area : width.toNat * height.toNat ≤ 2 ^ 24

section Size

variable {width height : UInt32} (hsize : PhotoSize width height)

include hsize

/-- Neither side is longer than the area. -/
theorem PhotoSize.sides : width.toNat ≤ 2 ^ 24 ∧ height.toNat ≤ 2 ^ 24 :=
  ⟨le_trans (Nat.le_mul_of_pos_right _ hsize.height_pos) hsize.area,
    le_trans (Nat.le_mul_of_pos_left _ hsize.width_pos) hsize.area⟩

/-- The whole bitmap stays far below 32 bits, at any aspect ratio. -/
theorem PhotoSize.total : paddedRow width.toNat * height.toNat ≤ 6 * 2 ^ 24 := by
  have hheight := hsize.sides.2
  calc paddedRow width.toNat * height.toNat
      ≤ (3 * width.toNat + 3) * height.toNat :=
        Nat.mul_le_mul_right _ (paddedRow_bounds width.toNat).2
    _ = 3 * (width.toNat * height.toNat) + 3 * height.toNat := by ring
    _ ≤ 3 * 2 ^ 24 + 3 * 2 ^ 24 :=
        Nat.add_le_add (Nat.mul_le_mul_left 3 hsize.area) (Nat.mul_le_mul_left 3 hheight)
    _ = 6 * 2 ^ 24 := by ring

theorem toNat_bmpRowBytes : (bmpRowBytes width).toNat = 3 * width.toNat := by
  have hwidth := hsize.sides.1
  rw [bmpRowBytes, UInt32.toNat_mul, show (3 : UInt32).toNat = 3 from rfl]
  omega

theorem toNat_bmpRowPadded : (bmpRowPadded width).toNat = paddedRow width.toNat := by
  have hwidth := hsize.sides.1
  have hsum : (bmpRowBytes width + 3).toNat = 3 * width.toNat + 3 := by
    rw [UInt32.toNat_add, toNat_bmpRowBytes hsize, show (3 : UInt32).toNat = 3 from rfl]
    omega
  rw [bmpRowPadded, toNat_and_not_three, hsum, paddedRow]

theorem toNat_bmpPixelDataLen :
    (bmpPixelDataLen width height).toNat = paddedRow width.toNat * height.toNat := by
  have htotal := hsize.total
  rw [bmpPixelDataLen, UInt32.toNat_mul, toNat_bmpRowPadded hsize]
  omega

theorem toNat_bmpFileLen :
    (bmpFileLen width height).toNat = 54 + paddedRow width.toNat * height.toNat := by
  have htotal := hsize.total
  rw [bmpFileLen, UInt32.toNat_add, toNat_bmpPixelDataLen hsize,
    show (14 + 40 : UInt32).toNat = 54 from rfl]
  omega

/-- The padding of a row takes at most three bytes. -/
theorem toNat_bmpPad :
    (bmpRowPadded width - bmpRowBytes width).toNat = paddedRow width.toNat - 3 * width.toNat := by
  have hwidth := hsize.sides.1
  obtain ⟨hlow, hhigh⟩ := paddedRow_bounds width.toNat
  rw [UInt32.toNat_sub, toNat_bmpRowPadded hsize, toNat_bmpRowBytes hsize]
  omega

/-- `(gint32) height` is the height. -/
theorem toInt_height : height.toBitVec.toInt = height.toNat := by
  have hheight := hsize.sides.2
  have hsmall : 2 * height.toBitVec.toNat < 2 ^ 32 := by
    show 2 * height.toNat < 2 ^ 32
    omega
  exact BitVec.toInt_eq_toNat_of_lt hsmall

end Size

/-! ## The bytes of a row -/

/-- The three bytes of a pixel in the bitmap, from sample `3 * i` of the buffer on. -/
def pixelBytes (rgb : Bytes) (i : ℕ) : Bytes :=
  [rgb.getD (3 * i + 2) 0, rgb.getD (3 * i + 1) 0, rgb.getD (3 * i) 0]

/-- Row `y` in the bitmap. -/
def rowBytes (rgb : Bytes) (width y : ℕ) : Bytes :=
  ((List.range width).flatMap fun x => pixelBytes rgb (y * width + x)) ++
    List.replicate (paddedRow width - 3 * width) 0

@[simp] theorem length_pixelBytes (rgb : Bytes) (i : ℕ) : (pixelBytes rgb i).length = 3 := rfl

theorem length_rowPixels (rgb : Bytes) (y : ℕ) (xs : List ℕ) (width : ℕ) :
    (xs.flatMap fun x => pixelBytes rgb (y * width + x)).length = xs.length * 3 :=
  Chunks.length_flatMap fun _ _ => rfl

theorem length_rowBytes (rgb : Bytes) (width y : ℕ) :
    (rowBytes rgb width y).length = paddedRow width := by
  have hbounds := (paddedRow_bounds width).1
  rw [rowBytes, List.length_append, length_rowPixels, List.length_range, List.length_replicate]
  omega

/-! ## The loops -/

/-- A read inside the buffer. -/
theorem getElem?_getD {data : Bytes} {i : ℕ} (h : i < data.length) :
    data[i]? = some (data.getD i 0) := by
  rw [List.getD_eq_getElem?_getD, List.getElem?_eq_getElem h, Option.getD_some]

theorem byteArrayAppend_of_lt {array bytes : Bytes} (h : array.length + bytes.length < 2 ^ 32) :
    byteArrayAppend array bytes = some (array ++ bytes) := if_pos h

/-- The pixels that are left of a row. -/
theorem bmpRowLoop_eq {rgb : Bytes} {width : UInt32} {y : ℕ} (hwidth : width.toNat ≤ 2 ^ 24)
    (hrgb : (y + 1) * (3 * width.toNat) ≤ rgb.length) (n fuel : ℕ) {x : UInt32}
    {bmp : Bytes} (hx : x.toNat + n = width.toNat) (hfuel : n < fuel)
    (hbmp : bmp.length + 3 * n < 2 ^ 32) :
    bmpRowLoop rgb (y * (3 * width.toNat)) width fuel x bmp
      = some (bmp ++ (List.range' x.toNat n).flatMap fun x =>
          pixelBytes rgb (y * width.toNat + x)) := by
  induction n generalizing x bmp fuel with
  | zero =>
      obtain ⟨fuel, rfl⟩ : ∃ m, fuel = m + 1 := ⟨fuel - 1, by omega⟩
      have hend : ¬ x < width := by
        rw [UInt32.lt_iff_toNat_lt]
        omega
      rw [bmpRowLoop, if_neg hend]
      simp
  | succ n ih =>
      obtain ⟨fuel, rfl⟩ : ∃ m, fuel = m + 1 := ⟨fuel - 1, by omega⟩
      have hlt : x < width := by
        rw [UInt32.lt_iff_toNat_lt]
        omega
      -- the index of a sample is computed in 32 bits as well
      have hindex : ∀ (c : UInt32) (k : ℕ), c.toNat = k → k < 3 →
          y * (3 * width.toNat) + (x * 3 + c).toNat = 3 * (y * width.toNat + x.toNat) + k := by
        intro c k hc hk
        have hsample : (x * 3 + c).toNat = 3 * x.toNat + k := by
          rw [UInt32.toNat_add, UInt32.toNat_mul, show (3 : UInt32).toNat = 3 from rfl, hc]
          omega
        rw [hsample]
        ring
      have hlast : 3 * (y * width.toNat + x.toNat) + 2 < rgb.length := by
        have hrow : (y + 1) * (3 * width.toNat) = 3 * (y * width.toNat) + 3 * width.toNat := by
          ring
        omega
      have hnext : (x + 1).toNat = x.toNat + 1 := by
        rw [UInt32.toNat_add, show (1 : UInt32).toNat = 1 from rfl]
        omega
      have hfit : (bmp ++ pixelBytes rgb (y * width.toNat + x.toNat)).length + 3 * n < 2 ^ 32 := by
        rw [List.length_append, length_pixelBytes]
        omega
      rw [bmpRowLoop, if_pos hlt, hindex 2 2 rfl (by decide), hindex 1 1 rfl (by decide),
        hindex 0 0 rfl (by decide), getElem?_getD hlast, getElem?_getD (by omega),
        getElem?_getD (by omega)]
      simp only [Option.bind_eq_bind, Option.bind_some]
      rw [byteArrayAppend_of_lt (by simp only [List.length_cons, List.length_nil]; omega),
        Option.bind_some]
      have hleft : (x + 1).toNat + n = width.toNat := by
        omega
      have hrec := ih fuel hleft (by omega) hfit
      rw [hnext] at hrec
      rw [List.range'_succ, List.flatMap_cons, ← List.append_assoc]
      exact hrec

/-- The padding of a row. -/
theorem bmpAppendPadding_eq {pad : UInt32} {bmp : Bytes} (hpad : pad.toNat ≤ 3)
    (hbmp : bmp.length + 3 < 2 ^ 32) :
    bmpAppendPadding bmp pad = some (bmp ++ List.replicate pad.toNat 0) := by
  rw [bmpAppendPadding]
  split_ifs with hzero
  · rw [hzero]
    simp
  · have htake : ([0, 0, 0] : Bytes).take pad.toNat = List.replicate pad.toNat 0 := by
      show (List.replicate 3 0).take pad.toNat = _
      rw [List.take_replicate, Nat.min_eq_left hpad]
    rw [htake, byteArrayAppend_of_lt (by rw [List.length_replicate]; omega)]

/-- The rows that are left, from the bottom up. -/
theorem bmpRowsLoop_eq {rgb : Bytes} {width height : UInt32} (hsize : PhotoSize width height)
    (n fuel : ℕ) {bmp : Bytes} (hrgb : n * (3 * width.toNat) ≤ rgb.length) (hfuel : n < fuel)
    (hbmp : bmp.length + n * paddedRow width.toNat + 3 < 2 ^ 32) :
    bmpRowsLoop rgb width fuel ((n : ℤ) - 1) bmp
      = some (bmp ++ (List.range n).reverse.flatMap fun y => rowBytes rgb width.toNat y) := by
  induction n generalizing bmp fuel with
  | zero =>
      obtain ⟨fuel, rfl⟩ : ∃ m, fuel = m + 1 := ⟨fuel - 1, by omega⟩
      rw [bmpRowsLoop, if_neg (by omega)]
      simp
  | succ n ih =>
      obtain ⟨fuel, rfl⟩ : ∃ m, fuel = m + 1 := ⟨fuel - 1, by omega⟩
      obtain ⟨hlow, hhigh⟩ := paddedRow_bounds width.toNat
      have hy : ((n + 1 : ℕ) : ℤ) - 1 = n := by omega
      have hsplit : (n + 1) * paddedRow width.toNat
          = n * paddedRow width.toNat + paddedRow width.toNat := by
        ring
      have hsplit' : (n + 1) * (3 * width.toNat) = n * (3 * width.toNat) + 3 * width.toNat := by
        ring
      have hpad := toNat_bmpPad hsize
      have hpixels : (bmp ++ (List.range' 0 width.toNat).flatMap fun x =>
          pixelBytes rgb (n * width.toNat + x)).length = bmp.length + width.toNat * 3 := by
        rw [List.length_append, length_rowPixels, List.length_range']
      have hstart : (0 : UInt32).toNat + width.toNat = width.toNat := Nat.zero_add _
      have hroom : bmp.length + 3 * width.toNat < 2 ^ 32 := by
        omega
      have hrow := bmpRowLoop_eq hsize.sides.1 hrgb width.toNat (width.toNat + 1) hstart
        (Nat.lt_succ_self _) hroom
      rw [bmpRowsLoop, hy, if_pos (by omega), Int.toNat_natCast, toNat_bmpRowBytes hsize, hrow]
      simp only [Option.bind_eq_bind, Option.bind_some]
      rw [show (0 : UInt32).toNat = 0 from rfl,
        bmpAppendPadding_eq (by omega) (by rw [hpixels]; omega), Option.bind_some, hpad]
      have hbytes : bmp ++ (List.range' 0 width.toNat).flatMap (fun x =>
            pixelBytes rgb (n * width.toNat + x)) ++
          List.replicate (paddedRow width.toNat - 3 * width.toNat) 0
          = bmp ++ rowBytes rgb width.toNat n := by
        rw [rowBytes, List.range_eq_range', List.append_assoc]
      rw [hbytes, ih fuel (by omega) (by omega)
        (by rw [List.length_append, length_rowBytes]; omega), List.range_succ,
        List.reverse_append, List.reverse_singleton, List.singleton_append, List.flatMap_cons,
        List.append_assoc]

/-! ## The bitmap -/

/-- `bmp` shows the photo: the headers tell its length, where the pixel data start, its sizes
and the length of the pixel data; the pixel in column `x` of row `y` stands in row
`height - 1 - y` of the data, and behind the pixels of a row there are zeros. -/
structure ShowsPhoto (rgb : Bytes) (width height : ℕ) (bmp : Bytes) : Prop where
  length : bmp.length = 54 + paddedRow width * height
  fileLength : le32At bmp 2 = bmp.length
  dataOffset : le32At bmp 10 = 54
  widthField : le32At bmp 18 = width
  heightField : le32At bmp 22 = height
  imageSize : le32At bmp 34 = paddedRow width * height
  pixel : ∀ x < width, ∀ y < height,
    bmp[54 + (height - 1 - y) * paddedRow width + 3 * x]? = rgb[3 * (y * width + x) + 2]? ∧
      bmp[54 + (height - 1 - y) * paddedRow width + 3 * x + 1]?
        = rgb[3 * (y * width + x) + 1]? ∧
      bmp[54 + (height - 1 - y) * paddedRow width + 3 * x + 2]? = rgb[3 * (y * width + x)]?
  padding : ∀ y < height, ∀ j, 3 * width ≤ j → j < paddedRow width →
    bmp[54 + (height - 1 - y) * paddedRow width + j]? = some 0

/-- A byte of the pixel data. -/
theorem getElem?_bitmap {rgb headers : Bytes} {width height y j : ℕ}
    (hheaders : headers.length = 54) (hy : y < height) (hj : j < paddedRow width) :
    (headers ++ (List.range height).reverse.flatMap fun y => rowBytes rgb width y)[54 +
        (height - 1 - y) * paddedRow width + j]? = (rowBytes rgb width y)[j]? := by
  have hrow : (List.range height).reverse[height - 1 - y]? = some y := by
    rw [List.getElem?_reverse (by rw [List.length_range]; omega), List.length_range,
      List.getElem?_range (by omega), show height - 1 - (height - 1 - y) = y by omega]
  rw [Nat.add_assoc, ← hheaders, List.getElem?_append_right (Nat.le_add_right _ _),
    Nat.add_sub_cancel_left, Chunks.getElem?_flatMap (fun y _ => length_rowBytes rgb width y) _ hj,
    hrow, Option.bind_some]

/-- A byte of a pixel. -/
theorem getElem?_rowBytes {rgb : Bytes} {width x y c : ℕ} (hx : x < width) (hc : c < 3) :
    (rowBytes rgb width y)[3 * x + c]? = (pixelBytes rgb (y * width + x))[c]? := by
  rw [rowBytes, List.getElem?_append_left (by rw [length_rowPixels, List.length_range]; omega),
    Nat.mul_comm 3 x,
    Chunks.getElem?_flatMap (fun x _ => length_pixelBytes rgb (y * width + x)) x hc,
    List.getElem?_range hx, Option.bind_some]

/-- A byte of the padding. -/
theorem getElem?_rowBytes_padding {rgb : Bytes} {width y j : ℕ} (hlow : 3 * width ≤ j)
    (hhigh : j < paddedRow width) : (rowBytes rgb width y)[j]? = some 0 := by
  have hlen := length_rowPixels rgb y (List.range width) width
  rw [List.length_range] at hlen
  rw [rowBytes, List.getElem?_append_right (by omega), List.getElem?_replicate,
    if_pos (by omega)]

/-- A field of the headers, which take 54 bytes. -/
theorem le32At_headers {headers : Bytes} {offset : ℕ} {v : UInt32}
    (hlen : headers.length = 54) (hoffset : offset ≤ 50)
    (h : (headers.drop offset).take 4 = u32Bytes v) (pixels : Bytes) :
    le32At (headers ++ pixels) offset = v.toNat := by
  rw [le32At, List.drop_append_of_le_length (by omega),
    List.take_append_of_le_length (by rw [List.length_drop]; omega), h, leValue_u32Bytes]

/-- The fields of the headers that tell sizes. -/
theorem bmpHeaders_fields (width height : UInt32) (pixels : Bytes) :
    le32At (bmpHeaders width height ++ pixels) 2 = (bmpFileLen width height).toNat ∧
      le32At (bmpHeaders width height ++ pixels) 10 = (14 + 40 : UInt32).toNat ∧
      le32At (bmpHeaders width height ++ pixels) 18 = width.toNat ∧
      le32At (bmpHeaders width height ++ pixels) 22 = height.toNat ∧
      le32At (bmpHeaders width height ++ pixels) 34 = (bmpPixelDataLen width height).toNat := by
  have hlen := length_bmpHeaders width height
  refine ⟨le32At_headers hlen (by decide) ?_ pixels, le32At_headers hlen (by decide) ?_ pixels,
    le32At_headers hlen (by decide) ?_ pixels, le32At_headers hlen (by decide) ?_ pixels,
    le32At_headers hlen (by decide) ?_ pixels⟩ <;>
  simp [bmpHeaders, bmpAppendU32, bmpAppendU16, u32Bytes]

/-- The headers and the rows make a bitmap of the photo. -/
theorem showsPhoto {rgb : Bytes} {width height : UInt32} (hsize : PhotoSize width height)
    (hrgb : rgb.length = 3 * width.toNat * height.toNat) :
    ShowsPhoto rgb width.toNat height.toNat (bmpHeaders width height ++
      (List.range height.toNat).reverse.flatMap fun y => rowBytes rgb width.toNat y) := by
  have hlen : (bmpHeaders width height ++
      (List.range height.toNat).reverse.flatMap fun y => rowBytes rgb width.toNat y).length
        = 54 + paddedRow width.toNat * height.toNat := by
    rw [List.length_append, Chunks.length_flatMap fun y _ => length_rowBytes rgb width.toNat y,
      List.length_reverse, List.length_range, Nat.mul_comm, length_bmpHeaders]
  obtain ⟨hfile, hoffset, hwidth, hheight, himage⟩ := bmpHeaders_fields width height
    ((List.range height.toNat).reverse.flatMap fun y => rowBytes rgb width.toNat y)
  refine ⟨hlen, ?_, hoffset, hwidth, hheight, ?_, ?_, ?_⟩
  · rw [hfile, hlen, toNat_bmpFileLen hsize]
  · rw [himage, toNat_bmpPixelDataLen hsize]
  · intro x hx y hy
    have hbounds := (paddedRow_bounds width.toNat).1
    have hbyte : ∀ c, c < 3 → (bmpHeaders width height ++
        (List.range height.toNat).reverse.flatMap fun y => rowBytes rgb width.toNat y)[54 +
          (height.toNat - 1 - y) * paddedRow width.toNat + 3 * x + c]?
            = (pixelBytes rgb (y * width.toNat + x))[c]? := by
      intro c hc
      rw [Nat.add_assoc, getElem?_bitmap (length_bmpHeaders width height) hy (by omega),
        getElem?_rowBytes hx hc]
    have hin : 3 * (y * width.toNat + x) + 2 < rgb.length := by
      have hrow : (y + 1) * width.toNat ≤ height.toNat * width.toNat := Nat.mul_le_mul_right _ hy
      have hsplit : (y + 1) * width.toNat = y * width.toNat + width.toNat := by ring
      have htotal : rgb.length = 3 * (height.toNat * width.toNat) := by
        rw [hrgb]
        ring
      omega
    have hin1 : 3 * (y * width.toNat + x) + 1 < rgb.length := by omega
    have hin0 : 3 * (y * width.toNat + x) < rgb.length := by omega
    exact ⟨(hbyte 0 (by decide)).trans (getElem?_getD hin).symm,
      (hbyte 1 (by decide)).trans (getElem?_getD hin1).symm,
      (hbyte 2 (by decide)).trans (getElem?_getD hin0).symm⟩
  · intro y hy j hlow hhigh
    rw [getElem?_bitmap (length_bmpHeaders width height) hy hhigh,
      getElem?_rowBytes_padding hlow hhigh]

/-- **The encoder is exact and does not overflow.**  For every size the converter accepts
and every buffer of that size, the four sizes it computes are the true ones, no read leaves
the buffer, and the result shows the photo. -/
theorem encodeBmp_exact (rgb : Bytes) (width height : UInt32) (hsize : PhotoSize width height)
    (hrgb : rgb.length = 3 * width.toNat * height.toNat) :
    (bmpRowBytes width).toNat = 3 * width.toNat ∧
      (bmpRowPadded width).toNat = paddedRow width.toNat ∧
      (bmpPixelDataLen width height).toNat = paddedRow width.toNat * height.toNat ∧
      (bmpFileLen width height).toNat = 54 + paddedRow width.toNat * height.toNat ∧
      ∃ bmp, encodeBmp rgb width height = some bmp ∧
        ShowsPhoto rgb width.toNat height.toNat bmp := by
  have htotal := hsize.total
  have hbuffer : height.toNat * (3 * width.toNat) ≤ rgb.length := by
    rw [hrgb, Nat.mul_comm]
  have hroom : (bmpHeaders width height).length + height.toNat * paddedRow width.toNat + 3
      < 2 ^ 32 := by
    rw [length_bmpHeaders, Nat.mul_comm height.toNat]
    omega
  refine ⟨toNat_bmpRowBytes hsize, toNat_bmpRowPadded hsize, toNat_bmpPixelDataLen hsize,
    toNat_bmpFileLen hsize, _, ?_, showsPhoto hsize hrgb⟩
  rw [encodeBmp, toInt_height hsize]
  exact bmpRowsLoop_eq hsize _ _ hbuffer (Nat.lt_succ_self _) hroom

/-- Two rows of one pixel: a red one over a blue one. -/
theorem encodeBmp_exact_two :
    ∃ bmp, encodeBmp [0xFF, 0x00, 0x00, 0x00, 0x00, 0xFF] 1 2 = some bmp ∧
      ShowsPhoto [0xFF, 0x00, 0x00, 0x00, 0x00, 0xFF] 1 2 bmp :=
  (encodeBmp_exact [0xFF, 0x00, 0x00, 0x00, 0x00, 0xFF] 1 2
    ⟨by decide, by decide, by decide⟩ rfl).2.2.2.2

end NfcAdapter
