/-
# The photo converter (`photo_convert.c`)

openjpeg decodes a photo from a stream over a buffer, and reads the buffer only through
the three functions given here.  A decoder is therefore any program that calls them and
ends with an image or a failure; the converter turns the image into a bitmap.  Accesses of
memory are checked, and so is what C leaves undefined.
-/
import Mathlib.Tactic.Positivity
import NfcAdapter.PhotoBmp

namespace NfcAdapter

/-! ## The stream -/

/-- `MemStream`. -/
structure MemStream where
  data : Bytes
  pos : ℕ

namespace MemStream

/-- `len`. -/
def len (s : MemStream) : ℕ := s.data.length

/-- The position is in the buffer, whose length is an `OPJ_SIZE_T` of `w` bits. -/
structure InBounds (w : ℕ) (s : MemStream) : Prop where
  pos : s.pos ≤ s.len
  len : s.len < 2 ^ w

end MemStream

variable (w : ℕ)

/-- `avail`, an unsigned difference of `w` bits. -/
def memAvail (s : MemStream) : ℕ := (s.len + (2 ^ w - s.pos)) % 2 ^ w

/-- `mem_read`: the bytes, or `none` at the end of the buffer.  The outer `none` is a `memcpy`
from outside the buffer. -/
def memRead (s : MemStream) (n : ℕ) : Option (Option Bytes × MemStream) :=
  let avail := memAvail w s
  let take := if n < avail then n else avail
  if take = 0 then some (none, s)
  else if s.pos + take ≤ s.data.length then
    some (some ((s.data.drop s.pos).take take), { s with pos := (s.pos + take) % 2 ^ w })
  else none

/-- `(OPJ_SIZE_T) n`. -/
def toSize (n : ℤ) : ℕ := (n % 2 ^ w).toNat

/-- `mem_skip`. -/
def memSkip (s : MemStream) (n : ℤ) : ℤ × MemStream :=
  let avail := memAvail w s
  if n < 0 then (-1, s)
  else
    let take := if toSize w n < avail then toSize w n else avail
    (take, { s with pos := (s.pos + take) % 2 ^ w })

/-- `mem_seek`. -/
def memSeek (s : MemStream) (n : ℤ) : Bool × MemStream :=
  if n < 0 ∨ toSize w n > s.len then (false, s) else (true, { s with pos := toSize w n })

section Bounds

variable {w} {s : MemStream} (h : s.InBounds w)

include h

/-- The difference does not wrap. -/
theorem memAvail_eq : memAvail w s = s.len - s.pos := by
  have hpos := h.pos
  have hlen := h.len
  rw [memAvail, show s.len + (2 ^ w - s.pos) = s.len - s.pos + 2 ^ w by omega, Nat.add_mod_right,
    Nat.mod_eq_of_lt (by omega)]

/-- Going forward by at most what is left stays in the buffer. -/
theorem inBounds_forward {k : ℕ} (hk : k ≤ memAvail w s) :
    { s with pos := (s.pos + k) % 2 ^ w }.InBounds w := by
  have hpos := h.pos
  have hlen := h.len
  rw [memAvail_eq h] at hk
  refine ⟨?_, h.len⟩
  show (s.pos + k) % 2 ^ w ≤ s.len
  rw [Nat.mod_eq_of_lt (by omega)]
  omega

/-- **A read** gives the next bytes, at most as many as asked for, or reports the end. -/
theorem memRead_eq (n : ℕ) :
    ∃ s', memRead w s n = some (if min n (s.len - s.pos) = 0 then none
        else some ((s.data.drop s.pos).take n), s') ∧ s'.data = s.data ∧ s'.InBounds w := by
  have hpos := h.pos
  have hlen : s.len = s.data.length := rfl
  have havail := memAvail_eq h
  have htake : (if n < memAvail w s then n else memAvail w s) = min n (s.len - s.pos) := by
    rw [havail]
    split <;> omega
  unfold memRead
  simp only [htake]
  split
  · exact ⟨s, rfl, rfl, h⟩
  · rw [if_pos (by omega)]
    have hbytes :
        (s.data.drop s.pos).take (min n (s.len - s.pos)) = (s.data.drop s.pos).take n := by
      rw [List.take_eq_take_iff, List.length_drop]
      omega
    refine ⟨{ s with pos := (s.pos + min n (s.len - s.pos)) % 2 ^ w }, ?_, rfl,
      inBounds_forward h (by omega)⟩
    rw [hbytes]

theorem memSkip_inBounds (n : ℤ) :
    (memSkip w s n).2.data = s.data ∧ (memSkip w s n).2.InBounds w := by
  unfold memSkip
  dsimp only
  split
  · exact ⟨rfl, h⟩
  · refine ⟨rfl, inBounds_forward h ?_⟩
    split <;> omega

theorem memSeek_inBounds (n : ℤ) :
    (memSeek w s n).2.data = s.data ∧ (memSeek w s n).2.InBounds w := by
  unfold memSeek
  split
  · exact ⟨rfl, h⟩
  · next hn =>
    refine ⟨rfl, ?_, h.len⟩
    show toSize w n ≤ s.len
    omega

end Bounds

/-! ## Images and decoders -/

/-- `opj_image_comp_t`; `data` is `none` for NULL. -/
structure OpjImageComp where
  dx : UInt32
  dy : UInt32
  w : UInt32
  h : UInt32
  prec : UInt32
  sgnd : UInt32
  data : Option (List Int32)

/-- `opj_image_t`. -/
structure OpjImage where
  comps : List OpjImageComp

/-- The codecs the converter asks for. -/
inductive OpjCodec
  | jp2
  | j2k
  deriving DecidableEq, Repr

/-- What a decoder does with its stream: calls, each with how it goes on, and the image in the
end, or a failure. -/
inductive OpjProgram
  | done (image : Option OpjImage)
  | read (n : ℕ) (next : Option Bytes → OpjProgram)
  | skip (n : ℤ) (next : ℤ → OpjProgram)
  | seek (n : ℤ) (next : Bool → OpjProgram)

namespace OpjProgram

/-- The program with a stream over memory; `none` is an access outside it. -/
def run : OpjProgram → MemStream → Option (Option OpjImage)
  | done image, _ => some image
  | read n next, s =>
    match memRead w s n with
    | some (bytes, s) => (next bytes).run s
    | none => none
  | skip n next, s => (next (memSkip w s n).1).run (memSkip w s n).2
  | seek n next, s => (next (memSeek w s n).1).run (memSeek w s n).2

/-- Every image the program can end with meets `P`. -/
def Yields (P : OpjImage → Prop) : OpjProgram → Prop
  | done image => ∀ i ∈ image, P i
  | read _ next => ∀ bytes, (next bytes).Yields P
  | skip _ next => ∀ n, (next n).Yields P
  | seek _ next => ∀ ok, (next ok).Yields P

/-- **Every decoder** stays in the buffer, whatever it calls in whatever order. -/
theorem run_inBounds {P : OpjImage → Prop} {p : OpjProgram} (hp : p.Yields P) {s : MemStream}
    (h : s.InBounds w) : ∃ image, p.run w s = some image ∧ ∀ i ∈ image, P i := by
  induction p generalizing s with
  | done image => exact ⟨image, rfl, hp⟩
  | read n next ih =>
    obtain ⟨s', hread, -, hs'⟩ := memRead_eq h n
    rw [run, hread]
    exact ih _ (hp _) hs'
  | skip n next ih => exact ih _ (hp _) (memSkip_inBounds h n).2
  | seek n next ih => exact ih _ (hp _) (memSeek_inBounds h n).2

end OpjProgram

/-- openjpeg: whether a stream, a codec and its set-up succeed, and what reading the header and
decoding do with a stream of a length. -/
structure Openjpeg where
  streamDefaultCreate : Bool
  createDecompress : OpjCodec → Bool
  setupDecoder : OpjCodec → Bool
  decode : OpjCodec → ℕ → OpjProgram

/-! ## Samples -/

/-- `clamp_sample`; `none` is a shift or a sum that C does not define. -/
def clampSample (v : Int32) (prec sgnd : UInt32) : Option UInt8 := do
  let prec := prec.toNat
  -- `1 << prec` has to be an `int`
  let max ← if prec < 31 then some ((2 : ℤ) ^ prec - 1) else none
  let v ←
    if sgnd = 0 then some v.toInt
    else if prec = 0 then none
    else if v.toInt + 2 ^ (prec - 1) < 2 ^ 31 then some (v.toInt + 2 ^ (prec - 1))
    else none
  let v := if v < 0 then 0 else v
  let v := if v > max then max else v
  some (if 8 ≤ prec then v / 2 ^ (prec - 8) else v * 2 ^ (8 - prec)).toNat.toUInt8

/-- Sample `i` of a component, eight bits of it. -/
def photoSample (image : OpjImage) (c i : ℕ) : Option UInt8 := do
  let comp ← image.comps[c]?
  let data ← comp.data
  let v ← data[i]?
  clampSample v comp.prec comp.sgnd

/-- The samples of a pixel. -/
def photoPixel (image : OpjImage) (i : ℕ) : Option Bytes := do
  let r ← photoSample image 0 i
  if 3 ≤ image.comps.length then do
    let g ← photoSample image 1 i
    let b ← photoSample image 2 i
    some [r, g, b]
  else some [r, r, r]

/-- The loop over the pixels. -/
def photoRgb (image : OpjImage) (pixels : ℕ) : Option Bytes :=
  (List.range pixels).foldlM (fun rgb i => (photoPixel image i).map (rgb ++ ·)) []

/-- The components are of one size and not subsampled. -/
def rgbOk (image : OpjImage) (width height : UInt32) : Bool :=
  (image.comps.take 3).all fun comp =>
    comp.w = width ∧ comp.h = height ∧ comp.dx = 1 ∧ comp.dy = 1 ∧ comp.data.isSome

/-- What `photo_jp2_to_bmp` makes of a decoded image: a bitmap, or NULL. -/
def photoImageToBmp (image : OpjImage) : Option (Option Bytes) :=
  match image.comps with
  | [] => some none
  | comp :: _ =>
    if comp.data.isNone then some none
    else if !rgbOk image comp.w comp.h ∨ comp.w = 0 ∨ comp.h = 0 ∨
        comp.w.toNat * comp.h.toNat > 16 * 1024 * 1024 then some none
    else do
      let rgb ← photoRgb image (comp.w * comp.h).toNat
      let bmp ← encodeBmp rgb comp.w comp.h
      some (some bmp)

/-- `jp2_box_magic`. -/
def jp2BoxMagic : Bytes :=
  [0x00, 0x00, 0x00, 0x0C, 0x6A, 0x50, 0x20, 0x20, 0x0D, 0x0A, 0x87, 0x0A]

/-- The codec for a photo. -/
def photoCodec (jp2 : Bytes) : OpjCodec := if jp2BoxMagic <+: jp2 then .jp2 else .j2k

/-- `photo_jp2_to_bmp`; the outer `none` is an access outside memory or an operation that C
does not define. -/
def photoJp2ToBmp (opj : Openjpeg) (jp2 : Bytes) : Option (Option Bytes) :=
  let codec := photoCodec jp2
  if !opj.streamDefaultCreate then some none
  else if !opj.createDecompress codec then some none
  else if !opj.setupDecoder codec then some none
  else do
    match ← (opj.decode codec jp2.length).run w ⟨jp2, 0⟩ with
    | none => some none
    | some image => photoImageToBmp image

/-! ## What a bitmap should show -/

namespace OpjImageComp

variable (comp : OpjImageComp)

/-- The brightness a sample stands for, from 0 to `2 ^ prec - 1`. -/
def level (v : Int32) : ℕ :=
  (max 0 (min (v.toInt + if comp.sgnd = 0 then 0 else 2 ^ (comp.prec.toNat - 1))
    (2 ^ comp.prec.toNat - 1))).toNat

/-- The same brightness among 256. -/
def shade (v : Int32) : ℕ := 256 * comp.level v / 2 ^ comp.prec.toNat

/-- A component as decoders leave it: samples of 1 to 30 bits, as many as its size tells, and
signed ones not so large that their offset carries them out of an `int`. -/
structure Sound : Prop where
  prec_pos : 1 ≤ comp.prec.toNat
  prec_le : comp.prec.toNat ≤ 30
  samples : ∀ data ∈ comp.data, data.length = comp.w.toNat * comp.h.toNat
  range : ∀ data ∈ comp.data, ∀ v ∈ data,
    comp.sgnd ≠ 0 → v.toInt + 2 ^ (comp.prec.toNat - 1) < 2 ^ 31

variable {comp}

theorem level_lt (v : Int32) : comp.level v < 2 ^ comp.prec.toNat := by
  have hpow : (0 : ℤ) < 2 ^ comp.prec.toNat := by positivity
  have hcast : ((2 ^ comp.prec.toNat : ℕ) : ℤ) = 2 ^ comp.prec.toNat := by push_cast; rfl
  unfold level
  omega

theorem shade_lt (v : Int32) : comp.shade v < 256 := by
  apply Nat.div_lt_of_lt_mul
  have hlevel := comp.level_lt v
  omega

end OpjImageComp

/-- Moving between eight bits and `prec` is a division or a multiplication, exactly. -/
theorem scale_eq (prec level : ℕ) :
    (if 8 ≤ prec then (level : ℤ) / 2 ^ (prec - 8) else level * 2 ^ (8 - prec)).toNat
      = 256 * level / 2 ^ prec := by
  have h256 : (256 : ℕ) = 2 ^ 8 := rfl
  split
  · next h =>
    have hsplit : 2 ^ prec = 2 ^ 8 * 2 ^ (prec - 8) := by
      rw [← pow_add, Nat.add_sub_cancel' h]
    rw [h256, hsplit, Nat.mul_div_mul_left _ _ (by positivity)]
    norm_cast
  · next h =>
    have hsplit : 2 ^ 8 = 2 ^ prec * 2 ^ (8 - prec) := by
      rw [← pow_add, Nat.add_sub_cancel' (by omega)]
    rw [h256, hsplit, Nat.mul_assoc, Nat.mul_div_cancel_left _ (by positivity), Nat.mul_comm]
    norm_cast

/-- **A sample** that a sound component may hold comes out as its shade. -/
theorem clampSample_eq {comp : OpjImageComp} (hpos : 1 ≤ comp.prec.toNat)
    (hle : comp.prec.toNat ≤ 30) {v : Int32}
    (hv : comp.sgnd ≠ 0 → v.toInt + 2 ^ (comp.prec.toNat - 1) < 2 ^ 31) :
    clampSample v comp.prec comp.sgnd = some (comp.shade v).toUInt8 := by
  have hclamp : ∀ u : ℤ, (if (if u < 0 then 0 else u) > 2 ^ comp.prec.toNat - 1
      then 2 ^ comp.prec.toNat - 1 else if u < 0 then 0 else u)
        = ((max 0 (min u (2 ^ comp.prec.toNat - 1))).toNat : ℤ) := by
    intro u
    have hpow : (0 : ℤ) < 2 ^ comp.prec.toNat := by positivity
    split <;> split <;> omega
  unfold clampSample
  simp only [Option.bind_eq_bind, if_pos (show comp.prec.toNat < 31 by omega), Option.bind_some]
  by_cases hsgnd : comp.sgnd = 0
  · simp only [if_pos hsgnd, hclamp, scale_eq]
    rw [OpjImageComp.shade, OpjImageComp.level, if_pos hsgnd, add_zero]
  · simp only [if_neg hsgnd, if_neg (show ¬ comp.prec.toNat = 0 by omega), if_pos (hv hsgnd),
      hclamp, scale_eq]
    rw [OpjImageComp.shade, OpjImageComp.level, if_neg hsgnd]

namespace OpjImage

variable (image : OpjImage)

/-- The component a channel of the bitmap shows: images that are not in colour show their first
one three times. -/
def channel (c : ℕ) : Option OpjImageComp := image.comps[if 3 ≤ image.comps.length then c else 0]?

/-- What channel `c` of pixel `i` should be. -/
def shown (c i : ℕ) : Option UInt8 :=
  (image.channel c).bind fun comp => comp.data.bind fun data =>
    data[i]?.map fun v => (comp.shade v).toUInt8

/-- The components that are shown have this size, are not subsampled and have samples. -/
structure Displayable (width height : UInt32) : Prop where
  nonempty : image.comps ≠ []
  size : PhotoSize width height
  comps : ∀ comp ∈ image.comps.take 3,
    comp.w = width ∧ comp.h = height ∧ comp.dx = 1 ∧ comp.dy = 1 ∧ comp.data ≠ none

/-- `bmp` shows the image. -/
def ShownBy (width height : UInt32) (bmp : Bytes) : Prop :=
  ∃ rgb : Bytes, rgb.length = 3 * width.toNat * height.toNat ∧
    (∀ i < width.toNat * height.toNat, ∀ c < 3, rgb[3 * i + c]? = image.shown c i) ∧
    ShowsPhoto rgb width.toNat height.toNat bmp

end OpjImage

/-! ## From the image to the bitmap -/

section Image

variable {image : OpjImage} {width height : UInt32}

/-- A channel of a displayable image is a component of its size. -/
theorem OpjImage.Displayable.channel (h : image.Displayable width height) {c : ℕ} (hc : c < 3) :
    ∃ comp ∈ image.comps, image.channel c = some comp ∧ comp.w = width ∧ comp.h = height ∧
      ∃ data, comp.data = some data := by
  have hlen : 0 < image.comps.length := List.length_pos_iff.mpr h.nonempty
  have hplace : (if 3 ≤ image.comps.length then c else 0) < image.comps.length := by
    split <;> omega
  have hfirst : (if 3 ≤ image.comps.length then c else 0) < 3 := by
    split <;> omega
  have hmem := List.getElem_mem hplace
  have htake : image.comps[if 3 ≤ image.comps.length then c else 0] ∈ image.comps.take 3 :=
    List.mem_take_iff_getElem.mpr ⟨_, by omega, rfl⟩
  obtain ⟨hw, hh, -, -, hdata⟩ := h.comps _ htake
  refine ⟨_, hmem, List.getElem?_eq_getElem hplace, hw, hh, Option.ne_none_iff_exists'.mp hdata⟩

/-- A sample of a sound image is what should be shown. -/
theorem photoSample_eq (hsound : ∀ comp ∈ image.comps, comp.Sound)
    (h : image.Displayable width height) {c i : ℕ} (hc : c < 3)
    (hi : i < width.toNat * height.toNat) :
    photoSample image (if 3 ≤ image.comps.length then c else 0) i = image.shown c i ∧
      (image.shown c i).isSome := by
  obtain ⟨comp, hmem, hchannel, rfl, rfl, data, hdata⟩ := h.channel hc
  have hcomp := hsound comp hmem
  have hlen := hcomp.samples data hdata
  have hv : data[i]? = some data[i] := List.getElem?_eq_getElem (hlen ▸ hi)
  have hsample := clampSample_eq hcomp.prec_pos hcomp.prec_le
    (hcomp.range data hdata data[i] (List.getElem_mem _))
  unfold photoSample OpjImage.shown
  rw [hchannel]
  rw [OpjImage.channel] at hchannel
  simp only [hchannel, hdata, hv, hsample, Option.bind_eq_bind, Option.bind_some, Option.map_some,
    Option.isSome_some, and_self]

/-- The bytes of a pixel. -/
def OpjImage.pixel (image : OpjImage) (i : ℕ) : Bytes :=
  (List.range 3).map fun c => (image.shown c i).getD 0

theorem photoPixel_eq (hsound : ∀ comp ∈ image.comps, comp.Sound)
    (h : image.Displayable width height) {i : ℕ} (hi : i < width.toNat * height.toNat) :
    photoPixel image i = some (image.pixel i) := by
  have hchannel : ∀ c < 3, photoSample image (if 3 ≤ image.comps.length then c else 0) i
      = some ((image.shown c i).getD 0) := by
    intro c hc
    obtain ⟨heq, hsome⟩ := photoSample_eq hsound h hc hi
    obtain ⟨byte, hbyte⟩ := Option.isSome_iff_exists.mp hsome
    rw [heq, hbyte, Option.getD_some]
  have h₀ := hchannel 0 (by decide)
  have h₁ := hchannel 1 (by decide)
  have h₂ := hchannel 2 (by decide)
  unfold photoPixel OpjImage.pixel
  by_cases hcolour : 3 ≤ image.comps.length
  · simp only [if_pos hcolour] at h₀ h₁ h₂ ⊢
    rw [h₀, h₁, h₂]
    rfl
  · -- all three channels show the first component
    simp only [if_neg hcolour] at h₀ h₁ h₂ ⊢
    have hgrey₁ := Option.some.inj (h₁.symm.trans h₀)
    have hgrey₂ := Option.some.inj (h₂.symm.trans h₀)
    rw [h₀, show (List.range 3).map (fun c => (image.shown c i).getD 0)
        = [(image.shown 0 i).getD 0, (image.shown 1 i).getD 0, (image.shown 2 i).getD 0] from rfl,
      hgrey₁, hgrey₂]
    rfl

/-- The buffer once the loop has passed all pixels. -/
theorem photoRgb_eq (hsound : ∀ comp ∈ image.comps, comp.Sound)
    (h : image.Displayable width height) :
    photoRgb image (width.toNat * height.toNat)
      = some ((List.range (width.toNat * height.toNat)).flatMap image.pixel) := by
  have hloop : ∀ n, n ≤ width.toNat * height.toNat →
      photoRgb image n = some ((List.range n).flatMap image.pixel) := by
    intro n
    induction n with
    | zero =>
      intro _
      rfl
    | succ n ih =>
      intro hn
      have hbefore := ih (by omega)
      unfold photoRgb at hbefore ⊢
      rw [List.range_succ, List.foldlM_append, hbefore]
      simp only [Option.bind_eq_bind, Option.bind_some, List.foldlM_cons, List.foldlM_nil,
        photoPixel_eq hsound h (show n < _ by omega), Option.map_some, List.flatMap_append,
        List.flatMap_singleton]
      rfl
  exact hloop _ le_rfl

/-- The product of the sides does not wrap. -/
theorem toNat_pixels (hsize : PhotoSize width height) :
    (width * height).toNat = width.toNat * height.toNat := by
  have harea := hsize.area
  rw [UInt32.toNat_mul, Nat.mod_eq_of_lt (by omega)]

/-- The checks of the converter. -/
theorem displayable_iff {comp : OpjImageComp} {comps : List OpjImageComp}
    (hcomps : image.comps = comp :: comps) :
    (∃ width height, image.Displayable width height) ↔
      comp.data ≠ none ∧ rgbOk image comp.w comp.h = true ∧ comp.w ≠ 0 ∧ comp.h ≠ 0 ∧
        comp.w.toNat * comp.h.toNat ≤ 16 * 1024 * 1024 := by
  have hfirst : comp ∈ image.comps.take 3 := by
    rw [hcomps]
    exact List.mem_cons_self
  have hpos : ∀ v : UInt32, 1 ≤ v.toNat ↔ v ≠ 0 := by
    intro v
    rw [Nat.one_le_iff_ne_zero, ne_eq, ne_eq, ← UInt32.toNat_inj]
    rfl
  constructor
  · rintro ⟨width, height, h⟩
    obtain ⟨rfl, rfl, -, -, hdata⟩ := h.comps comp hfirst
    refine ⟨hdata, ?_, (hpos _).mp h.size.width_pos, (hpos _).mp h.size.height_pos, h.size.area⟩
    apply List.all_eq_true.mpr
    intro other hother
    obtain ⟨hw, hh, hdx, hdy, hd⟩ := h.comps other hother
    simp [hw, hh, hdx, hdy, Option.isSome_iff_ne_none, hd]
  · rintro ⟨hdata, hrgb, hw, hh, harea⟩
    refine ⟨comp.w, comp.h, by simp [hcomps], ⟨(hpos _).mpr hw, (hpos _).mpr hh, harea⟩, ?_⟩
    intro other hother
    have hall := List.all_eq_true.mp hrgb other hother
    simpa [Option.isSome_iff_ne_none] using hall

/-- The sizes a displayable image has are those of its first component. -/
theorem OpjImage.Displayable.first (h : image.Displayable width height) {comp : OpjImageComp}
    {comps : List OpjImageComp} (hcomps : image.comps = comp :: comps) :
    comp.w = width ∧ comp.h = height := by
  have hfirst : comp ∈ image.comps.take 3 := by
    rw [hcomps]
    exact List.mem_cons_self
  exact ⟨(h.comps comp hfirst).1, (h.comps comp hfirst).2.1⟩

/-- A byte of the buffer is the one that should be shown. -/
theorem getElem?_pixels (hsound : ∀ comp ∈ image.comps, comp.Sound)
    (h : image.Displayable width height) {i c : ℕ} (hi : i < width.toNat * height.toNat)
    (hc : c < 3) :
    ((List.range (width.toNat * height.toNat)).flatMap image.pixel)[3 * i + c]?
      = image.shown c i := by
  obtain ⟨byte, hbyte⟩ := Option.isSome_iff_exists.mp (photoSample_eq hsound h hc hi).2
  rw [Nat.mul_comm 3 i,
    Chunks.getElem?_flatMap (fun i _ => show (image.pixel i).length = 3 from rfl) i hc,
    List.getElem?_range hi, Option.bind_some, OpjImage.pixel, List.getElem?_map,
    List.getElem?_range hc, Option.map_some, hbyte, Option.getD_some]

/-- The encoder takes the buffer of a displayable image. -/
theorem encodeBmp_shows {rgb : Bytes} (hsize : PhotoSize width height)
    (hrgb : rgb.length = 3 * width.toNat * height.toNat) :
    ∃ bmp, encodeBmp rgb width height = some bmp ∧
      ShowsPhoto rgb width.toNat height.toNat bmp := by
  have htotal := hsize.total
  have hbuffer : height.toNat * (3 * width.toNat) ≤ rgb.length := by
    rw [hrgb, Nat.mul_comm]
  have hroom : (bmpHeaders width height).length + height.toNat * paddedRow width.toNat + 3
      < 2 ^ 32 := by
    rw [length_bmpHeaders, Nat.mul_comm height.toNat]
    omega
  refine ⟨_, ?_, showsPhoto hsize hrgb⟩
  rw [encodeBmp, toInt_height hsize]
  exact bmpRowsLoop_eq hsize _ _ hbuffer (Nat.lt_succ_self _) hroom

/-- **A sound image** gives a bitmap that shows it, or NULL where it is not displayable. -/
theorem photoImageToBmp_eq (hsound : ∀ comp ∈ image.comps, comp.Sound) :
    ∃ result, photoImageToBmp image = some result ∧
      (result = none ↔ ¬ ∃ width height, image.Displayable width height) ∧
      ∀ bmp ∈ result, ∃ width height, image.Displayable width height ∧
        image.ShownBy width height bmp := by
  unfold photoImageToBmp
  cases hcomps : image.comps with
  | nil =>
    refine ⟨none, rfl, iff_of_true rfl ?_, fun _ hbmp => nomatch hbmp⟩
    rintro ⟨width, height, hdisplay⟩
    exact hdisplay.nonempty hcomps
  | cons comp comps =>
    have hiff := displayable_iff hcomps
    dsimp only
    by_cases h : ∃ width height, image.Displayable width height
    · obtain ⟨hdata, hrgb, hw, hh, harea⟩ := hiff.mp h
      obtain ⟨width, height, hdisplay⟩ := h
      obtain ⟨rfl, rfl⟩ := hdisplay.first hcomps
      have hlength : ((List.range (comp.w.toNat * comp.h.toNat)).flatMap image.pixel).length
          = 3 * comp.w.toNat * comp.h.toNat := by
        rw [Chunks.length_flatMap (fun i _ => show (image.pixel i).length = 3 from rfl),
          List.length_range]
        ring
      obtain ⟨bmp, hbmp, hshows⟩ := encodeBmp_shows hdisplay.size hlength
      have hchecks : ¬ ((!rgbOk image comp.w comp.h) = true ∨ comp.w = 0 ∨ comp.h = 0 ∨
          comp.w.toNat * comp.h.toNat > 16 * 1024 * 1024) := by
        rw [hrgb]
        rintro (hfalse | hzero | hzero | hlarge)
        · cases hfalse
        · exact hw hzero
        · exact hh hzero
        · omega
      refine ⟨some bmp, ?_, iff_of_false (by simp) ?_, ?_⟩
      · rw [if_neg (by simpa using hdata), if_neg hchecks, toNat_pixels hdisplay.size,
          photoRgb_eq hsound hdisplay]
        show (encodeBmp _ comp.w comp.h).bind _ = _
        rw [hbmp]
        rfl
      · exact fun hnone => hnone ⟨_, _, hdisplay⟩
      · rintro _ ⟨⟩
        exact ⟨_, _, hdisplay, _, hlength, fun i hi c hc => getElem?_pixels hsound hdisplay hi hc,
          hshows⟩
    · refine ⟨none, ?_, iff_of_true rfl h, fun _ hbmp => nomatch hbmp⟩
      rw [hiff] at h
      split
      · rfl
      · next hdata =>
        rw [if_pos]
        by_contra hchecks
        simp only [not_or, Bool.not_eq_true', Bool.not_eq_false, gt_iff_lt, not_lt] at hchecks
        exact h ⟨by simpa using hdata, hchecks.1, hchecks.2.1, hchecks.2.2.1, hchecks.2.2.2⟩

end Image

/-! ## The whole conversion -/

namespace Openjpeg

variable (opj : Openjpeg)

/-- Whatever the photo, images that decoding ends with are sound. -/
def Sound : Prop :=
  ∀ codec len, (opj.decode codec len).Yields fun image => ∀ comp ∈ image.comps, comp.Sound

/-- The stream, the codec and its set-up succeed. -/
def ready (codec : OpjCodec) : Bool :=
  opj.streamDefaultCreate && opj.createDecompress codec && opj.setupDecoder codec

/-- The image openjpeg finds in a photo, if all goes well. -/
def imageOf (jp2 : Bytes) : Option OpjImage :=
  if opj.ready (photoCodec jp2) then
    ((opj.decode (photoCodec jp2) jp2.length).run w ⟨jp2, 0⟩).join
  else none

end Openjpeg

theorem photoJp2ToBmp_of_ready {opj : Openjpeg} {jp2 : Bytes} {image : Option OpjImage}
    (hready : opj.ready (photoCodec jp2) = true)
    (hrun : (opj.decode (photoCodec jp2) jp2.length).run w ⟨jp2, 0⟩ = some image) :
    photoJp2ToBmp w opj jp2 = image.elim (some none) photoImageToBmp := by
  simp only [Openjpeg.ready, Bool.and_eq_true] at hready
  simp only [photoJp2ToBmp, hready.1.1, hready.1.2, hready.2, hrun]
  cases image <;> rfl

theorem photoJp2ToBmp_of_not_ready {opj : Openjpeg} {jp2 : Bytes}
    (hready : opj.ready (photoCodec jp2) = false) : photoJp2ToBmp w opj jp2 = some none := by
  simp only [Openjpeg.ready, Bool.and_eq_false_iff] at hready
  unfold photoJp2ToBmp
  rcases hready with (hstream | hcodec) | hsetup
  · simp [hstream]
  · simp [hcodec]
  · simp [hsetup]

/-- **The converter is exact.**  Whatever a decoder calls, no access leaves the photo's memory and
nothing undefined happens; a bitmap results exactly from the photos that decode to a
displayable image, and it shows that image. -/
theorem photoJp2ToBmp_exact (opj : Openjpeg) (hopj : opj.Sound) (jp2 : Bytes)
    (hlen : jp2.length < 2 ^ w) :
    ∃ result, photoJp2ToBmp w opj jp2 = some result ∧
      (result = none ↔ ¬ ∃ image ∈ opj.imageOf w jp2, ∃ width height,
        image.Displayable width height) ∧
      ∀ bmp ∈ result, ∃ image ∈ opj.imageOf w jp2, ∃ width height,
        image.Displayable width height ∧ image.ShownBy width height bmp := by
  have hstart : MemStream.InBounds w ⟨jp2, 0⟩ := ⟨Nat.zero_le _, hlen⟩
  obtain ⟨image, hrun, hsound⟩ :=
    OpjProgram.run_inBounds w (hopj (photoCodec jp2) jp2.length) hstart
  cases hready : opj.ready (photoCodec jp2) with
  | false =>
    refine ⟨none, photoJp2ToBmp_of_not_ready w hready, ?_, fun _ hbmp => nomatch hbmp⟩
    simp [Openjpeg.imageOf, hready]
  | true =>
    have himage : opj.imageOf w jp2 = image := by
      rw [Openjpeg.imageOf, if_pos hready, hrun]
      rfl
    rw [photoJp2ToBmp_of_ready w hready hrun, himage]
    cases image with
    | none => exact ⟨none, rfl, by simp, fun _ hbmp => nomatch hbmp⟩
    | some image =>
      obtain ⟨result, hresult, hnone, hshows⟩ := photoImageToBmp_eq (hsound image rfl)
      refine ⟨result, hresult, ?_, ?_⟩
      · simpa using hnone
      · intro bmp hbmp
        exact ⟨image, rfl, hshows bmp hbmp⟩

/-- A decoder for photos of one grey pixel: it skips the magic of a codestream and takes the next
byte as the sample. -/
def onePixelOpenjpeg : Openjpeg where
  streamDefaultCreate := true
  createDecompress := fun codec => codec = .j2k
  setupDecoder := fun _ => true
  decode := fun _ _ =>
    .skip 4 fun _ => .read 1 fun bytes =>
      .done (bytes.map fun bytes =>
        ⟨[⟨1, 1, 1, 1, 8, 0, some [(bytes.headD 0).toUInt32.toInt32]⟩]⟩)

theorem onePixelOpenjpeg_sound : onePixelOpenjpeg.Sound := by
  intro codec len _ bytes image himage comp hcomp
  obtain ⟨bytes, -, rfl⟩ := Option.map_eq_some_iff.mp himage
  rw [List.mem_singleton.mp hcomp]
  have hprec : 1 ≤ (8 : UInt32).toNat ∧ (8 : UInt32).toNat ≤ 30 := by decide
  refine ⟨hprec.1, hprec.2, ?_, ?_⟩
  · rintro _ ⟨⟩
    rfl
  · rintro _ ⟨⟩ _ _ hsgnd
    exact absurd rfl hsgnd

/-- Its bitmap holds the pixel three times, and a byte of padding. -/
example : photoJp2ToBmp 32 onePixelOpenjpeg [0xFF, 0x4F, 0xFF, 0x51, 0x7F]
    = some (some (bmpHeaders 1 1 ++ [0x7F, 0x7F, 0x7F, 0x00])) := by
  decide +kernel

end NfcAdapter
