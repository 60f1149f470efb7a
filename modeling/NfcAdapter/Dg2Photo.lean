/-
# The photo inside EF.DG2

A face record is some header and then one image up to its end.  The image is found by the
magic bytes it begins with; here is for which records exactly the image is what
`bac_extract_dg2_photo` returns.
-/
import NfcAdapter.Bac

namespace NfcAdapter

/-! ## `find_bytes` -/

/-- `find_bytes` gives the first place where the needle stands. -/
theorem findBytes_eq_some_iff {needle hay : Bytes} (hne : needle ≠ []) {pos : ℕ} :
    findBytes needle hay = some pos ↔
      needle <+: hay.drop pos ∧ ∀ p < pos, ¬ needle <+: hay.drop p := by
  induction hay generalizing pos with
  | nil => simp [findBytes, hne]
  | cons b rest ih =>
      rw [findBytes, if_neg hne]
      by_cases hhere : needle <+: b :: rest
      · rw [if_pos (List.isPrefixOf_iff_prefix.mpr hhere), Option.some.injEq]
        constructor
        · rintro rfl
          exact ⟨hhere, by simp⟩
        · rintro ⟨-, hfirst⟩
          by_contra hpos
          exact hfirst 0 (by omega) hhere
      · rw [if_neg (by rwa [List.isPrefixOf_iff_prefix]), Option.map_eq_some_iff]
        constructor
        · rintro ⟨q, hq, rfl⟩
          obtain ⟨hat, hfirst⟩ := ih.mp hq
          refine ⟨hat, ?_⟩
          intro p hp
          cases p with
          | zero => exact hhere
          | succ p => exact hfirst p (by omega)
        · rintro ⟨hat, hfirst⟩
          cases pos with
          | zero => exact absurd hat hhere
          | succ q => exact ⟨q, ih.mpr ⟨hat, fun p hp => hfirst (p + 1) (by omega)⟩, rfl⟩

/-- `find_bytes` finds nothing exactly where the needle does not occur. -/
theorem findBytes_eq_none_iff {needle hay : Bytes} (hne : needle ≠ []) :
    findBytes needle hay = none ↔ ¬ needle <:+: hay := by
  induction hay with
  | nil => simp [findBytes, hne]
  | cons b rest ih =>
      rw [findBytes, if_neg hne, List.infix_cons_iff]
      by_cases hhere : needle <+: b :: rest
      · simp [List.isPrefixOf_iff_prefix.mpr hhere, hhere]
      · rw [if_neg (by rwa [List.isPrefixOf_iff_prefix]), Option.map_eq_none_iff, ih]
        simp [hhere]

/-! ## The magics -/

/-- The magics with the formats they stand for, in the order they are searched for. -/
def photoMagics : List (Bytes × PhotoFormat) :=
  [(jpegMagic, .jpeg), (jp2Magic, .jpeg2000), (jp2CodestreamMagic, .jpeg2000)]

theorem bacExtractDg2Photo_eq (dg2 : Bytes) :
    bacExtractDg2Photo dg2 = photoMagics.findSome? fun m =>
      (findBytes m.1 dg2).map fun pos => (dg2PhotoBytes dg2 pos, m.2) := by
  rw [bacExtractDg2Photo, photoMagics, List.findSome?_cons]
  rcases findBytes jpegMagic dg2 with _ | pos
  · rw [List.findSome?_cons]
    rcases findBytes jp2Magic dg2 with _ | pos
    · rcases h : findBytes jp2CodestreamMagic dg2 with _ | pos <;> simp [h]
    · rfl
  · rfl

theorem photoMagics_ne_nil {m : Bytes × PhotoFormat} (hm : m ∈ photoMagics) : m.1 ≠ [] := by
  revert m
  decide

/-- No magic is the beginning of another one, so an image begins with at most one. -/
theorem photoMagics_unique {m m' : Bytes × PhotoFormat} (hm : m ∈ photoMagics)
    (hm' : m' ∈ photoMagics) {image : Bytes} (h : m.1 <+: image) (h' : m'.1 <+: image) :
    m = m' := by
  have hfree : ∀ a ∈ photoMagics, ∀ b ∈ photoMagics, a.1 <+: b.1 → a = b := by decide
  rcases List.prefix_or_prefix_of_prefix h h' with hle | hle
  · exact hfree m hm m' hm' hle
  · exact (hfree m' hm' m hm hle).symm

/-! ## Face records -/

/-- A DG2 buffer as `bac.h` describes it: no magic starts before the image, and the image
goes on to the end. -/
structure FaceRecord where
  header : Bytes
  image : Bytes
  magic : Bytes × PhotoFormat
  magic_mem : magic ∈ photoMagics
  image_begins : magic.1 <+: image
  header_clear : ∀ m ∈ photoMagics, ∀ p < header.length, ¬ m.1 <+: (header ++ image).drop p

namespace FaceRecord

variable (r : FaceRecord)

/-- The buffer. -/
def dg2 : Bytes := r.header ++ r.image

/-- The format the image has. -/
def format : PhotoFormat := r.magic.2

/-- The formats `bac_extract_dg2_photo` looks for before it looks for this one. -/
def searchedBefore : List (Bytes × PhotoFormat) := photoMagics.takeWhile (· != r.magic)

variable {r}

theorem mem_of_searchedBefore {m : Bytes × PhotoFormat} (hm : m ∈ r.searchedBefore) :
    m ∈ photoMagics ∧ m ≠ r.magic :=
  ⟨(List.takeWhile_prefix _).subset hm,
    bne_iff_ne.mp (List.mem_takeWhile_imp (p := (· != r.magic)) hm)⟩

theorem photoMagics_split :
    ∃ later, photoMagics = r.searchedBefore ++ r.magic :: later := by
  have hne : photoMagics.dropWhile (· != r.magic) ≠ [] := by
    intro hnil
    have := List.dropWhile_eq_nil_iff.mp hnil r.magic r.magic_mem
    simp at this
  obtain ⟨m, later, hcons⟩ := List.exists_cons_of_ne_nil hne
  have hm : m = r.magic := by
    have hhead := List.head_dropWhile_not (· != r.magic) hne
    simp only [hcons, List.head_cons] at hhead
    simpa using hhead
  refine ⟨later, ?_⟩
  rw [← hm, ← hcons]
  exact List.takeWhile_append_dropWhile.symm

theorem drop_dg2 (q : ℕ) : r.dg2.drop (r.header.length + q) = r.image.drop q := by
  rw [dg2, ← List.drop_drop, List.drop_left]

/-- In a face record every search ends inside the image. -/
theorem findBytes_dg2 {m : Bytes × PhotoFormat} (hm : m ∈ photoMagics) :
    findBytes m.1 r.dg2 = (findBytes m.1 r.image).map (r.header.length + ·) := by
  have hne := photoMagics_ne_nil hm
  rcases hfind : findBytes m.1 r.image with _ | q
  · rw [Option.map_none, findBytes_eq_none_iff hne]
    rw [findBytes_eq_none_iff hne] at hfind
    rintro ⟨before, after, hbytes⟩
    have hat : m.1 <+: r.dg2.drop before.length := by
      rw [← hbytes, List.append_assoc, List.drop_left]
      exact List.prefix_append _ _
    by_cases hlt : before.length < r.header.length
    · exact r.header_clear m hm _ hlt hat
    · obtain ⟨q, hq⟩ := Nat.exists_eq_add_of_le (Nat.not_lt.mp hlt)
      rw [hq, drop_dg2] at hat
      exact hfind (hat.isInfix.trans (List.drop_suffix q r.image).isInfix)
  · obtain ⟨hat, hfirst⟩ := (findBytes_eq_some_iff hne).mp hfind
    rw [Option.map_some, findBytes_eq_some_iff hne]
    refine ⟨by rwa [drop_dg2], ?_⟩
    intro p hp
    by_cases hlt : p < r.header.length
    · exact r.header_clear m hm p hlt
    · obtain ⟨q', rfl⟩ := Nat.exists_eq_add_of_le (Nat.not_lt.mp hlt)
      rw [drop_dg2]
      exact hfirst q' (by omega)

theorem findBytes_image_magic : findBytes r.magic.1 r.image = some 0 :=
  (findBytes_eq_some_iff (photoMagics_ne_nil r.magic_mem)).mpr ⟨r.image_begins, by simp⟩

theorem dg2PhotoBytes_dg2 (q : ℕ) :
    dg2PhotoBytes r.dg2 (r.header.length + q)
      = (r.image.drop q).take ((r.image.length - q) % 2 ^ 32) := by
  have hlen : r.dg2.length - (r.header.length + q) = r.image.length - q := by
    rw [dg2, List.length_append]
    omega
  rw [dg2PhotoBytes, hlen, drop_dg2]

/-- The whole image is cut out only from its beginning, and only where its length fits the
guint. -/
theorem dg2PhotoBytes_eq_image_iff {q : ℕ} (hq : q < r.image.length) :
    dg2PhotoBytes r.dg2 (r.header.length + q) = r.image ↔ q = 0 ∧ r.image.length < 2 ^ 32 := by
  rw [dg2PhotoBytes_dg2]
  constructor
  · intro h
    have hlen := congrArg List.length h
    rw [List.length_take, List.length_drop] at hlen
    omega
  · rintro ⟨rfl, hlen⟩
    rw [List.drop_zero, Nat.sub_zero, Nat.mod_eq_of_lt hlen, List.take_length]

/-- Exactly the image of a face record comes out, under its own format, if and only if it
is shorter than 4 GiB and contains none of the magics that are searched for before its
own. -/
theorem bacExtractDg2Photo_dg2_iff :
    bacExtractDg2Photo r.dg2 = some (r.image, r.format) ↔
      r.image.length < 2 ^ 32 ∧ ∀ m ∈ r.searchedBefore, ¬ m.1 <:+: r.image := by
  obtain ⟨later, hsplit⟩ := r.photoMagics_split
  rw [bacExtractDg2Photo_eq, hsplit, List.findSome?_append]
  rcases hbefore : r.searchedBefore.findSome? _ with _ | found
  · -- no earlier format is found, so the image's own magic decides
    have hclear : ∀ m ∈ r.searchedBefore, ¬ m.1 <:+: r.image := by
      intro m hm
      have hnone := List.findSome?_eq_none_iff.mp hbefore m hm
      have hmem := (mem_of_searchedBefore hm).1
      rw [findBytes_dg2 hmem, Option.map_map, Option.map_eq_none_iff] at hnone
      exact (findBytes_eq_none_iff (photoMagics_ne_nil hmem)).mp hnone
    have hpos : 0 < r.image.length :=
      (List.length_pos_of_ne_nil (photoMagics_ne_nil r.magic_mem)).trans_le r.image_begins.length_le
    rw [Option.none_or, List.findSome?_cons, findBytes_dg2 r.magic_mem, findBytes_image_magic]
    have hcut := dg2PhotoBytes_eq_image_iff hpos
    simp only [Option.map_some, Option.some.injEq, Prod.mk.injEq, format, and_true]
    rw [hcut]
    exact ⟨fun h => ⟨h.2, hclear⟩, fun h => ⟨rfl, h.1⟩⟩
  · -- an earlier format is found, and not at the beginning of the image
    obtain ⟨m, hm, hfound⟩ := List.exists_of_findSome?_eq_some hbefore
    obtain ⟨hmem, hne⟩ := mem_of_searchedBefore hm
    rw [findBytes_dg2 hmem, Option.map_map, Option.map_eq_some_iff] at hfound
    obtain ⟨q, hq, rfl⟩ := hfound
    obtain ⟨hat, -⟩ := (findBytes_eq_some_iff (photoMagics_ne_nil hmem)).mp hq
    have hq0 : q ≠ 0 := by
      rintro rfl
      exact hne (photoMagics_unique hmem r.magic_mem hat r.image_begins)
    have hqlt : q < r.image.length := by
      by_contra hge
      rw [List.drop_of_length_le (by omega)] at hat
      exact photoMagics_ne_nil hmem (List.prefix_nil.mp hat)
    constructor
    · intro h
      simp only [Option.some_or, Option.some.injEq, Function.comp, Prod.mk.injEq] at h
      exact absurd ((dg2PhotoBytes_eq_image_iff hqlt).mp h.1).1 hq0
    · rintro ⟨-, hclear⟩
      exact absurd (hat.isInfix.trans (List.drop_suffix q r.image).isInfix) (hclear m hm)

end FaceRecord

/-- A JP2 image whose data happens to hold the three bytes a JPEG image begins with. -/
def jp2WithJpegBytes : FaceRecord where
  header := [0x46, 0x41, 0x43, 0x00]
  image := jp2Magic ++ [0x01, 0xFF, 0xD8, 0xFF, 0x02]
  magic := (jp2Magic, .jpeg2000)
  magic_mem := by decide
  image_begins := by decide
  header_clear := by decide

/-- Of that record the tail of the image comes out, as a JPEG. -/
theorem bacExtractDg2Photo_jp2WithJpegBytes :
    bacExtractDg2Photo jp2WithJpegBytes.dg2 = some ([0xFF, 0xD8, 0xFF, 0x02], .jpeg) ∧
      bacExtractDg2Photo jp2WithJpegBytes.dg2
        ≠ some (jp2WithJpegBytes.image, jp2WithJpegBytes.format) := by
  decide +kernel

end NfcAdapter
