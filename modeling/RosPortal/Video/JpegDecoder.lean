import Mathlib.Data.List.Basic
import RosPortal.Video.Frame

/-! The JPEG decoder of a compressed image topic. It decodes into a frame that it reuses, and
a grayscale JPEG writes the luma plane of that frame only. -/

set_option autoImplicit false

namespace RosPortal.Video

/-- The subsamplings that `decode` tells apart. -/
inductive Subsampling where
  | samp420
  | gray
  | other
deriving DecidableEq, Repr

structure JpegHeader where
  width : Int
  height : Int
  subsampling : Subsampling
deriving DecidableEq, Repr

/-- What TurboJPEG makes of a JPEG: its header, the error of decompressing it, what is written
when there is none, and what a call that fails leaves of a buffer. -/
structure TurboJpeg where
  header : List UInt8 → Except String JpegHeader
  failure : List UInt8 → Option String
  luma : List UInt8 → List UInt8
  chroma : List UInt8 → List UInt8
  pixels : List UInt8 → List UInt8
  spoil : List UInt8 → List UInt8 → List UInt8
  length_luma : ∀ {jpeg found}, header jpeg = .ok found →
    (luma jpeg).length = found.width.toNat * found.height.toNat

structure JpegDecoder where
  /-- Whether `tjInitDecompress` gave a handle. -/
  handle : Bool := true
  frame : VideoFrame := {}
  lastError : String := ""
deriving DecidableEq, Repr

section Decode

variable (turbo : TurboJpeg) (allocator : Allocator)

/-- `tjDecompressToYUVPlanes`: a grayscale JPEG leaves the chroma planes alone. -/
def decompressToYUVPlanes (header : JpegHeader) (jpeg buffer : List UInt8) : List UInt8 × Option String :=
  match turbo.failure jpeg with
  | some error => (turbo.spoil jpeg buffer, some error)
  | none =>
      (turbo.luma jpeg ++
        (if header.subsampling = .gray then buffer.drop (turbo.luma jpeg).length else turbo.chroma jpeg), none)

/-- `tjDecompress2`. -/
def decompress2 (jpeg buffer : List UInt8) : List UInt8 × Option String :=
  match turbo.failure jpeg with
  | some error => (turbo.spoil jpeg buffer, some error)
  | none => (turbo.pixels jpeg, none)

/-- The frame before the planes are written. Only in a new frame are its chroma planes cleared. -/
def prepareI420 (frame : VideoFrame) (width height : Nat) (subsampling : Subsampling) : VideoFrame :=
  let (reused, fresh) := frame.reuse allocator width height .i420
  if fresh ∧ subsampling = .gray then
    { reused with data := reused.data.take (width * height) ++ neutralChroma width height }
  else reused

/-- The frame after decompressing into it, and the error if there was one. -/
def decompress (frame : VideoFrame) (header : JpegHeader) (jpeg : List UInt8) : VideoFrame × Option String :=
  let width := header.width.toNat
  let height := header.height.toNat
  if header.subsampling = .samp420 ∨ header.subsampling = .gray then
    let prepared := prepareI420 allocator frame width height header.subsampling
    let (data, error) := decompressToYUVPlanes turbo header jpeg prepared.data
    ({ prepared with data }, error)
  else
    let reused := (frame.reuse allocator width height .rgb24).1
    let (data, error) := decompress2 turbo jpeg reused.data
    ({ reused with data }, error)

namespace JpegDecoder

variable (decoder : JpegDecoder)

def fail (lastError : String) : JpegDecoder × Option VideoFrame := ({ decoder with lastError }, none)

def decode (jpeg : List UInt8) : JpegDecoder × Option VideoFrame :=
  if decoder.handle = false then decoder.fail "TurboJPEG decompressor is unavailable"
  else if jpeg = [] then decoder.fail "JPEG data is empty"
  else
    match turbo.header jpeg with
    | .error error => decoder.fail error
    | .ok header =>
        if header.width ≤ 0 ∨ header.height ≤ 0 then decoder.fail "JPEG has no pixels"
        else
          match decompress turbo allocator decoder.frame header jpeg with
          | (frame, some error) => { decoder with frame }.fail error
          | (frame, none) => ({ decoder with frame }, some frame)

def decodeAll (jpegs : List (List UInt8)) : JpegDecoder :=
  jpegs.foldl (fun decoder jpeg => (decoder.decode turbo allocator jpeg).1) decoder

end JpegDecoder

end Decode

/-! What the decoder is for: a frame is that of its own JPEG. -/

section Purpose

variable (turbo : TurboJpeg) (allocator : Allocator) (decoder : JpegDecoder)

def jpegFrame (header : JpegHeader) (jpeg : List UInt8) : VideoFrame :=
  let width := header.width.toNat
  let height := header.height.toNat
  match header.subsampling with
  | .samp420 => { width, height, type := .i420, data := turbo.luma jpeg ++ turbo.chroma jpeg }
  | .gray => { width, height, type := .i420, data := turbo.luma jpeg ++ neutralChroma width height }
  | .other => { width, height, type := .rgb24, data := turbo.pixels jpeg }

def grayscale (jpeg : List UInt8) : Bool :=
  match turbo.header jpeg with
  | .ok header => header.subsampling = .gray
  | .error _ => false

/-- A frame that is returned is the one a new decoder returns, and gray if the JPEG is. -/
def OwnJpegOnly (jpeg : List UInt8) : Prop :=
  ∀ frame, (decoder.decode turbo allocator jpeg).2 = some frame →
    (∀ other : Allocator, (JpegDecoder.decode turbo other {} jpeg).2 = some frame) ∧
      (grayscale turbo jpeg = true → frame.chroma = neutralChroma frame.width frame.height)

/-- A grayscale JPEG that can be decompressed needs another frame, or finds neutral chroma. -/
def FindsNeutralChroma (jpeg : List UInt8) : Prop :=
  ∀ header, turbo.header jpeg = .ok header → header.subsampling = .gray → jpeg ≠ [] →
    0 < header.width → 0 < header.height → turbo.failure jpeg = none → decoder.handle = true →
    (decoder.frame.reuse allocator header.width.toNat header.height.toNat .i420).2 = true ∨
      decoder.frame.chroma = neutralChroma header.width.toNat header.height.toNat

end Purpose

section Decode

variable {turbo : TurboJpeg} {allocator : Allocator} {decoder : JpegDecoder} {jpeg : List UInt8}

theorem decode_eq_some {frame : VideoFrame} :
    (decoder.decode turbo allocator jpeg).2 = some frame ↔
      decoder.handle = true ∧ jpeg ≠ [] ∧ ∃ header, turbo.header jpeg = .ok header ∧
        0 < header.width ∧ 0 < header.height ∧
        decompress turbo allocator decoder.frame header jpeg = (frame, none) := by
  unfold JpegDecoder.decode
  by_cases handle : decoder.handle = false
  · simp [handle, JpegDecoder.fail]
  · by_cases empty : jpeg = []
    · simp [handle, empty, JpegDecoder.fail]
    · cases parsed : turbo.header jpeg with
      | error error => simp [handle, empty, JpegDecoder.fail]
      | ok header =>
          by_cases pixels : header.width ≤ 0 ∨ header.height ≤ 0
          · have none : ¬ (0 < header.width ∧ 0 < header.height) := by omega
            simp [handle, empty, pixels, JpegDecoder.fail]
            omega
          · have some : 0 < header.width ∧ 0 < header.height := by omega
            rcases outcome : decompress turbo allocator decoder.frame header jpeg with ⟨after, _ | error⟩
            · simp [handle, empty, pixels, some, outcome]
            · simp [handle, empty, pixels, outcome, JpegDecoder.fail]

theorem chroma_of_gray {header : JpegHeader} (parsed : turbo.header jpeg = .ok header)
    (gray : header.subsampling = .gray) :
    (jpegFrame turbo header jpeg).chroma = neutralChroma header.width.toNat header.height.toNat := by
  simp only [jpegFrame, gray, VideoFrame.chroma]
  rw [← turbo.length_luma parsed, List.drop_left]

theorem drop_prepareI420 (allocator : Allocator) (frame : VideoFrame) (width height : Nat) :
    (prepareI420 allocator frame width height .gray).data.drop (width * height) =
      if (frame.reuse allocator width height .i420).2 = true then neutralChroma width height
      else frame.chroma := by
  rcases VideoFrame.reuse_cases frame allocator width height .i420 with
    fresh | ⟨rfl, rfl, _, _, kept⟩
  · have luma : (List.take (width * height) (allocator.contents width height .i420)).length =
        width * height := by
      rw [List.length_take, allocator.sized, bufferSize]
      omega
    simp only [prepareI420, fresh, Allocator.create, true_and, if_true]
    rw [List.drop_append_of_le_length (Nat.le_of_eq luma.symm),
      List.drop_of_length_le (Nat.le_of_eq luma), List.nil_append]
  · simp [prepareI420, kept, VideoFrame.chroma]

theorem prepareI420_shape (allocator : Allocator) (frame : VideoFrame) (width height : Nat)
    (subsampling : Subsampling) :
    (prepareI420 allocator frame width height subsampling).width = width ∧
      (prepareI420 allocator frame width height subsampling).height = height ∧
      (prepareI420 allocator frame width height subsampling).type = .i420 := by
  have shape := VideoFrame.reuse_shape frame allocator width height .i420
  unfold prepareI420
  dsimp only
  split_ifs <;> exact shape

/-- A JPEG that is decompressed gives its frame, unless it is gray and the chroma planes are not. -/
theorem decompress_eq_iff (allocator : Allocator) {header : JpegHeader}
    (parsed : turbo.header jpeg = .ok header) (succeeds : turbo.failure jpeg = none) (frame : VideoFrame) :
    ∃ after, decompress turbo allocator frame header jpeg = (after, none) ∧
      (after = jpegFrame turbo header jpeg ↔ (header.subsampling = .gray →
        (frame.reuse allocator header.width.toNat header.height.toNat .i420).2 = true ∨
          frame.chroma = neutralChroma header.width.toNat header.height.toNat)) := by
  cases subsampling : header.subsampling with
  | samp420 =>
      obtain ⟨width, height, type⟩ := prepareI420_shape allocator frame
        header.width.toNat header.height.toNat .samp420
      refine ⟨jpegFrame turbo header jpeg, ?_, by simp⟩
      simp [decompress, subsampling, decompressToYUVPlanes, succeeds, jpegFrame, width, height, type]
  | gray =>
      obtain ⟨width, height, type⟩ := prepareI420_shape allocator frame
        header.width.toNat header.height.toNat .gray
      have chroma := drop_prepareI420 allocator frame
        header.width.toNat header.height.toNat
      have written : decompress turbo allocator frame header jpeg =
          ({ width := header.width.toNat
             height := header.height.toNat
             type := .i420
             data := turbo.luma jpeg ++
               if (frame.reuse allocator header.width.toNat header.height.toNat .i420).2 = true then
                 neutralChroma header.width.toNat header.height.toNat
               else frame.chroma }, none) := by
        simp only [decompress, subsampling, or_true, if_true, decompressToYUVPlanes, succeeds, width,
          height, type, turbo.length_luma parsed, chroma]
      refine ⟨_, written, ?_⟩
      simp only [jpegFrame, subsampling]
      split_ifs with fresh <;> simp [fresh]
  | other =>
      obtain ⟨width, height, type⟩ := VideoFrame.reuse_shape frame allocator
        header.width.toNat header.height.toNat .rgb24
      refine ⟨jpegFrame turbo header jpeg, ?_, by simp⟩
      simp [decompress, subsampling, decompress2, succeeds, jpegFrame, width, height, type]

theorem decompress_failed (allocator : Allocator) {error : String} (failed : turbo.failure jpeg = some error)
    (frame : VideoFrame) (header : JpegHeader) : (decompress turbo allocator frame header jpeg).2 = some error := by
  unfold decompress
  dsimp only
  split_ifs <;> simp [decompressToYUVPlanes, decompress2, failed]

theorem decode_new {header : JpegHeader} (parsed : turbo.header jpeg = .ok header) (filled : jpeg ≠ [])
    (wide : 0 < header.width) (high : 0 < header.height) (succeeds : turbo.failure jpeg = none)
    (other : Allocator) :
    (JpegDecoder.decode turbo other {} jpeg).2 = some (jpegFrame turbo header jpeg) := by
  obtain ⟨after, decompressed, own⟩ := decompress_eq_iff other parsed succeeds {}
  have new : after = jpegFrame turbo header jpeg := own.mpr fun _ => .inl (by simp [VideoFrame.reuse])
  rw [decode_eq_some]
  exact ⟨rfl, filled, header, parsed, wide, high, new ▸ decompressed⟩

/-- One call returns the frame of its own JPEG exactly when a grayscale JPEG finds neutral chroma. -/
theorem ownJpegOnly_iff :
    OwnJpegOnly turbo allocator decoder jpeg ↔ FindsNeutralChroma turbo allocator decoder jpeg := by
  constructor
  · intro own header parsed gray filled wide high succeeds handle
    obtain ⟨after, decompressed, exact_⟩ :=
      decompress_eq_iff allocator parsed succeeds decoder.frame
    have returned : (decoder.decode turbo allocator jpeg).2 = some after :=
      decode_eq_some.mpr ⟨handle, filled, header, parsed, wide, high, decompressed⟩
    have new := (own after returned).1 allocator
    rw [decode_new parsed filled wide high succeeds allocator] at new
    exact exact_.mp (Option.some.inj new).symm gray
  · intro neutral frame returned
    obtain ⟨handle, filled, header, parsed, wide, high, decompressed⟩ := decode_eq_some.mp returned
    have succeeds : turbo.failure jpeg = none := by
      cases failure : turbo.failure jpeg with
      | none => rfl
      | some error =>
          have failed := decompress_failed allocator failure decoder.frame header
          rw [decompressed] at failed
          cases failed
    obtain ⟨after, same, exact_⟩ :=
      decompress_eq_iff allocator parsed succeeds decoder.frame
    cases same.symm.trans decompressed
    have own := exact_.mpr fun gray => neutral header parsed gray filled wide high succeeds handle
    rw [own]
    constructor
    · exact fun other => decode_new parsed filled wide high succeeds other
    · intro gray
      simp only [grayscale, parsed, decide_eq_true_eq] at gray
      rw [chroma_of_gray parsed gray]
      simp [jpegFrame, gray]

end Decode

def EveryCall (turbo : TurboJpeg) (allocator : Allocator) (decoder : JpegDecoder)
    (jpegs : List (List UInt8)) (holds : JpegDecoder → List UInt8 → Prop) : Prop :=
  ∀ before jpeg after, jpegs = before ++ jpeg :: after →
    holds (decoder.decodeAll turbo allocator before) jpeg

/-- In a sequence of calls the frames depend on their own JPEGs exactly when every grayscale
JPEG finds neutral chroma. -/
theorem frames_depend_on_own_jpegs_iff (turbo : TurboJpeg) (allocator : Allocator) (handle : Bool)
    (jpegs : List (List UInt8)) :
    EveryCall turbo allocator { handle } jpegs (OwnJpegOnly turbo allocator) ↔
      EveryCall turbo allocator { handle } jpegs (FindsNeutralChroma turbo allocator) := by
  simp only [EveryCall, ownJpegOnly_iff]

/-! Two JPEGs of one pixel: the first has a Cb of 240, the second is grayscale. -/

def quantization : List UInt8 := [0xFF, 0xDB, 0, 67, 0] ++ List.replicate 64 16

def acTable : List UInt8 := [0xFF, 0xC4, 0, 20, 0x10, 1] ++ List.replicate 15 0 ++ [0]

def blueJpeg : List UInt8 :=
  [0xFF, 0xD8] ++ quantization ++
    [0xFF, 0xC0, 0, 17, 8, 0, 1, 0, 1, 3, 1, 0x22, 0, 2, 0x11, 0, 3, 0x11, 0] ++
    [0xFF, 0xC4, 0, 21, 0, 1, 1] ++ List.replicate 14 0 ++ [0, 6] ++ acTable ++
    [0xFF, 0xDA, 0, 12, 3, 1, 0, 2, 0, 3, 0, 0, 63, 0, 0x00, 0xB8, 0x1F, 0xFF, 0xD9]

def grayJpeg : List UInt8 :=
  [0xFF, 0xD8] ++ quantization ++ [0xFF, 0xC0, 0, 11, 8, 0, 1, 0, 1, 1, 1, 0x11, 0] ++
    [0xFF, 0xC4, 0, 20, 0, 1] ++ List.replicate 15 0 ++ [0] ++ acTable ++
    [0xFF, 0xDA, 0, 8, 1, 1, 0, 0, 63, 0, 0x3F, 0xFF, 0xD9]

def pixelTurboJpeg : TurboJpeg where
  header jpeg :=
    if jpeg = blueJpeg then .ok ⟨1, 1, .samp420⟩
    else if jpeg = grayJpeg then .ok ⟨1, 1, .gray⟩
    else .error "Not a JPEG file"
  failure _ := none
  luma _ := [128]
  chroma _ := [240, 128]
  pixels _ := []
  spoil _ buffer := buffer
  length_luma := by
    intro jpeg found parsed
    split_ifs at parsed <;> cases parsed <;> rfl

/-- The grayscale JPEG is blue when it comes after the other. -/
theorem gray_jpeg_keeps_color :
    ¬ ∀ (turbo : TurboJpeg) (allocator : Allocator) (handle : Bool) (jpegs : List (List UInt8)),
      EveryCall turbo allocator { handle } jpegs (OwnJpegOnly turbo allocator) := by
  intro own
  have second := own pixelTurboJpeg zeroAllocator true [blueJpeg, grayJpeg] [blueJpeg] grayJpeg [] rfl
  have neutral := ownJpegOnly_iff.mp second ⟨1, 1, .gray⟩ (by decide +kernel) rfl (by decide +kernel)
    (by decide) (by decide) rfl (by decide +kernel)
  exact absurd neutral (by decide +kernel)

end RosPortal.Video
