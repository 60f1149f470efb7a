/-
# The reply to a passport read

The reply carries the whole of a result: the MRZ, the fields the parser finds in it, and the
photo in Base64, which decodes to the image of DG2 or to a bitmap that shows it.
-/
import NfcAdapter.LunaService
import NfcAdapter.PassportDocument
import NfcAdapter.PhotoConvert

namespace NfcAdapter

open Json (text Value Object)

variable {G P : Type}

/-! ## The members of the reply -/

/-- The members for the fields of an MRZ, and the fields they are for. -/
def mrzMembers : List (String × (MrzFields → Bytes)) :=
  [("documentType", MrzFields.documentType), ("issuingState", MrzFields.issuingState),
    ("surname", MrzFields.surname), ("givenNames", MrzFields.givenNames),
    ("documentNumber", MrzFields.documentNumber), ("nationality", MrzFields.nationality),
    ("dateOfBirth", MrzFields.dateOfBirth), ("sex", MrzFields.sex),
    ("dateOfExpiry", MrzFields.dateOfExpiry)]

section Members

variable (result : PassportResult)

/-- The photo leaves other members alone. -/
theorem get?_passportReply {key : String} (hbase64 : key ≠ "photoBase64")
    (hformat : key ≠ "photoFormat") :
    (passportReply result).get? key = (result.fields.elim
      ((Object.put [] "returnValue" (.boolean true)).put "mrz" (.string (cString result.mrzText)))
      (putMrzFields ((Object.put [] "returnValue" (.boolean true)).put "mrz"
        (.string (cString result.mrzText))))).get? key := by
  unfold passportReply
  cases result.photo with
  | none => rfl
  | some photo => simp [putPhoto, hbase64, hformat]

theorem passportReply_success :
    (passportReply result).get? "returnValue" = some (.boolean true) := by
  rw [get?_passportReply result (by decide) (by decide)]
  cases result.fields <;> simp [putMrzFields]

theorem passportReply_mrz :
    (passportReply result).get? "mrz" = some (.string (cString result.mrzText)) := by
  rw [get?_passportReply result (by decide) (by decide)]
  cases result.fields <;> simp [putMrzFields]

/-- The fields are there if the MRZ was recognized. -/
theorem passportReply_fields :
    ∀ m ∈ mrzMembers, (passportReply result).get? m.1
      = result.fields.map fun f => .string (cString (m.2 f)) := by
  intro m hm
  have hkey : m.1 ≠ "photoBase64" ∧ m.1 ≠ "photoFormat" := by
    have hall : ∀ key ∈ mrzMembers.map Prod.fst, key ≠ "photoBase64" ∧ key ≠ "photoFormat" := by
      decide
    exact hall _ (List.mem_map_of_mem hm)
  rw [get?_passportReply result hkey.1 hkey.2]
  simp only [mrzMembers, List.mem_cons, List.not_mem_nil, or_false] at hm
  rcases hm with rfl | rfl | rfl | rfl | rfl | rfl | rfl | rfl | rfl <;>
    cases result.fields <;> simp [putMrzFields]

theorem passportReply_photo :
    (passportReply result).get? "photoBase64"
        = result.photo.map (fun photo => .string (Base64.encode photo.1)) ∧
      (passportReply result).get? "photoFormat"
        = result.photo.map fun photo => .string (text photo.2.text) := by
  unfold passportReply
  cases result.photo with
  | none => cases result.fields <;> exact ⟨by simp [putMrzFields], by simp [putMrzFields]⟩
  | some photo => exact ⟨by simp [putPhoto], by simp [putPhoto]⟩

end Members

/-- The reply tells what a document's data groups hold. -/
structure ReplyTells (env : PassportEnv G P) (mrz : Bytes) (dg2 : Option Bytes) (reply : Object) :
    Prop where
  success : reply.get? "returnValue" = some (.boolean true)
  mrzText : reply.get? "mrz" = some (.string (cString mrz))
  fields : ∀ m ∈ mrzMembers, reply.get? m.1
    = (bacParseMrzFields mrz).map fun f => .string (cString (m.2 f))
  photo : ∀ photo, dg2.bind (passportPhoto env) = some photo →
    ∃ chars, reply.get? "photoBase64" = some (.string chars) ∧
      Base64.decode chars = some photo.1 ∧
      reply.get? "photoFormat" = some (.string (text photo.2.text))
  noPhoto : dg2.bind (passportPhoto env) = none →
    reply.get? "photoBase64" = none ∧ reply.get? "photoFormat" = none

/-- **The reply tells the whole of a formed result.** -/
theorem PassportResult.Formed.replyTells {env : PassportEnv G P} {result : PassportResult}
    {dg2 : Option Bytes} (h : result.Formed env dg2) :
    ReplyTells env result.mrzText dg2 (passportReply result) := by
  obtain ⟨hfields, hphoto⟩ := h
  obtain ⟨hbase64, hformat⟩ := passportReply_photo result
  rw [hphoto] at hbase64 hformat
  refine ⟨passportReply_success result, passportReply_mrz result, ?_, ?_, ?_⟩
  · rw [← hfields]
    exact passportReply_fields result
  · intro photo hsome
    rw [hsome] at hbase64 hformat
    exact ⟨_, hbase64, Base64.decode_encode photo.1, hformat⟩
  · intro hnone
    rw [hnone] at hbase64 hformat
    exact ⟨hbase64, hformat⟩

/-! ## The photo in the reply -/

/-- A photo is cut out of at most 4 GiB, and is a JPEG or a JPEG 2000 image. -/
theorem length_photo_lt {dg2 photo : Bytes} {source : PhotoFormat}
    (h : bacExtractDg2Photo dg2 = some (photo, source)) : photo.length < 2 ^ 32 := by
  have hcut : ∀ pos, (dg2PhotoBytes dg2 pos).length < 2 ^ 32 := by
    intro pos
    rw [dg2PhotoBytes, List.length_take]
    omega
  unfold bacExtractDg2Photo at h
  split at h
  · cases h
    exact hcut _
  · split at h
    · cases h
      exact hcut _
    · obtain ⟨pos, -, hpos⟩ := Option.map_eq_some_iff.mp h
      cases hpos
      exact hcut _

/-- The environment with the converter over openjpeg, on a machine with sizes of `w` bits. -/
def PassportEnv.withConverter (env : PassportEnv G P) (w : ℕ) (opj : Openjpeg) :
    PassportEnv G P :=
  { env with photoJp2ToBmp := fun jp2 => (NfcAdapter.photoJp2ToBmp w opj jp2).join }

/-- What becomes of a photo: it is delivered as it is, or as a bitmap that shows it. -/
inductive Delivered (w : ℕ) (opj : Openjpeg) (photo : Bytes) :
    PhotoFormat → Bytes → PhotoFormat → Prop
  | asIs {source : PhotoFormat} (h : source = .jpeg2000 →
      ¬ ∃ image ∈ opj.imageOf w photo, ∃ width height, image.Displayable width height) :
    Delivered w opj photo source photo source
  | converted {bmp : Bytes} {image : OpjImage} {width height : UInt32}
      (himage : image ∈ opj.imageOf w photo) (hdisplay : image.Displayable width height)
      (hshown : image.ShownBy width height bmp) : Delivered w opj photo .jpeg2000 bmp .bmp

theorem passportPhoto_delivered (env : PassportEnv G P) {w : ℕ} (hw : 32 ≤ w) {opj : Openjpeg}
    (hopj : opj.Sound) {dg2 photo : Bytes} {source : PhotoFormat}
    (h : bacExtractDg2Photo dg2 = some (photo, source)) :
    photoJp2ToBmp w opj photo ≠ none ∧ ∃ bytes format,
      passportPhoto (env.withConverter w opj) dg2 = some (bytes, format) ∧
        Delivered w opj photo source bytes format := by
  have hlen : photo.length < 2 ^ w :=
    (length_photo_lt h).trans_le (Nat.pow_le_pow_right Nat.two_pos hw)
  obtain ⟨result, hresult, hnone, hshows⟩ := photoJp2ToBmp_exact w opj hopj photo hlen
  refine ⟨by rw [hresult]; exact Option.some_ne_none _, ?_⟩
  have hconvert : (env.withConverter w opj).photoJp2ToBmp photo = result := by
    show (photoJp2ToBmp w opj photo).join = result
    rw [hresult]
    rfl
  unfold passportPhoto
  rw [h]
  cases source with
  | jpeg => exact ⟨photo, .jpeg, rfl, .asIs fun hsource => nomatch hsource⟩
  | bmp => exact ⟨photo, .bmp, rfl, .asIs fun hsource => nomatch hsource⟩
  | jpeg2000 =>
    dsimp only
    rw [hconvert]
    cases result with
    | none => exact ⟨photo, .jpeg2000, rfl, .asIs fun _ => hnone.mp rfl⟩
    | some bmp =>
      obtain ⟨image, himage, width, height, hdisplay, hshown⟩ := hshows bmp rfl
      exact ⟨bmp, .bmp, rfl, .converted himage hdisplay hshown⟩

/-- What a client finds of the photo of a DG2 buffer. -/
structure PhotoDelivered (w : ℕ) (opj : Openjpeg) (dg2 : Bytes) (reply : Object) : Prop where
  /-- Without a photo there are no members for one. -/
  absent : bacExtractDg2Photo dg2 = none →
    reply.get? "photoBase64" = none ∧ reply.get? "photoFormat" = none
  /-- A photo is found behind the Base64, as it was or converted; the converter neither leaves
  the photo's memory nor does anything undefined. -/
  present : ∀ photo source, bacExtractDg2Photo dg2 = some (photo, source) →
    photoJp2ToBmp w opj photo ≠ none ∧ ∃ chars bytes format,
      reply.get? "photoBase64" = some (.string chars) ∧ Base64.decode chars = some bytes ∧
        reply.get? "photoFormat" = some (.string (text format.text)) ∧
        Delivered w opj photo source bytes format

end NfcAdapter
