import Mathlib.Data.List.Basic
import RosPortal.Video.ImageFrameBuilder

/-! Every image is converted exactly, whatever was converted before. -/

set_option autoImplicit false

namespace RosPortal.Video

open Memory

namespace Image

variable {image : Image}

theorem bytesPerPixel_le (encoding : String) : bytesPerPixel encoding ≤ 4 := by
  unfold bytesPerPixel
  split_ifs <;> omega

@[simp] theorem rowBytes_eq (image : Image) :
    image.rowBytes = image.width.toNat * bytesPerPixel image.encoding := by
  have bounded : image.width.toNat * bytesPerPixel image.encoding ≤ (2 ^ 32 - 1) * 4 :=
    Nat.mul_le_mul (Nat.le_pred_of_lt image.width.toNat_lt) (bytesPerPixel_le image.encoding)
  exact Nat.mod_eq_of_lt (by omega)

theorem sizeT_stride (image : Image) :
    sizeT (image.step.toNat * image.height.toNat) = image.step.toNat * image.height.toNat := by
  have bounded : image.step.toNat * image.height.toNat ≤ (2 ^ 32 - 1) * (2 ^ 32 - 1) :=
    Nat.mul_le_mul (Nat.le_pred_of_lt image.step.toNat_lt) (Nat.le_pred_of_lt image.height.toNat_lt)
  exact Nat.mod_eq_of_lt (by omega)

theorem Accepted.rows_le_stride (accepted : image.Accepted) :
    image.width.toNat * bytesPerPixel image.encoding * image.height.toNat ≤
      image.step.toNat * image.height.toNat :=
  Nat.mul_le_mul_right _ accepted.stride

theorem Accepted.sizeT_rows (accepted : image.Accepted) :
    sizeT (image.rowBytes * image.height.toNat) =
      image.width.toNat * bytesPerPixel image.encoding * image.height.toNat := by
  have bounded := accepted.rows_le_stride
  have stride : image.step.toNat * image.height.toNat < 2 ^ 64 := by
    rw [← sizeT_stride]
    exact Nat.mod_lt _ (by decide)
  rw [rowBytes_eq]
  exact Nat.mod_eq_of_lt (by omega)

theorem Accepted.row_inside (accepted : image.Accepted) {y : Nat} (inside : y < image.height.toNat) :
    y * image.step.toNat + image.width.toNat * bytesPerPixel image.encoding ≤ image.data.length := by
  have later : (y + 1) * image.step.toNat ≤ image.height.toNat * image.step.toNat :=
    Nat.mul_le_mul_right _ inside
  rw [Nat.succ_mul, Nat.mul_comm image.height.toNat] at later
  have stride := accepted.stride
  have complete := accepted.complete
  omega

theorem Accepted.pixel_inside (accepted : image.Accepted) {y x : Nat}
    (high : y < image.height.toNat) (wide : x < image.width.toNat) :
    y * image.step.toNat + x * bytesPerPixel image.encoding + bytesPerPixel image.encoding ≤
      image.data.length := by
  have later : (x + 1) * bytesPerPixel image.encoding ≤
      image.width.toNat * bytesPerPixel image.encoding := Nat.mul_le_mul_right _ wide
  rw [Nat.succ_mul] at later
  have row := accepted.row_inside high
  omega

/-- Where the channels keep their order, a row is a stretch of the message. -/
theorem Accepted.row_eq_take (accepted : image.Accepted) (ordered : image.encoding ≠ "bgr8") {y : Nat}
    (inside : y < image.height.toNat) :
    image.row y = (image.data.drop (y * image.step.toNat)).take
      (image.width.toNat * bytesPerPixel image.encoding) := by
  rw [take_eq_flatMap]
  refine List.flatMap_congr ?_
  intro x member
  have room := accepted.pixel_inside inside (List.mem_range.mp member)
  rw [List.drop_drop, take_eq_map_getD room 0, pixel, if_neg ordered]
  rfl

theorem length_pixel (image : Image) (y x : Nat) :
    (image.pixel y x).length = bytesPerPixel image.encoding := by
  unfold pixel
  split_ifs with swapped
  · rw [swapped]
    rfl
  · simp

theorem length_row (image : Image) (y : Nat) :
    (image.row y).length = image.width.toNat * bytesPerPixel image.encoding := by
  simp [row, List.length_flatMap, length_pixel]

theorem length_rows (image : Image) :
    image.rows.length =
      image.height.toNat * (image.width.toNat * bytesPerPixel image.encoding) := by
  simp [rows, List.length_flatMap, length_row]

/-- Copying the rows writes all pixels and leaves what is behind them. -/
theorem Accepted.copyRows_eq (accepted : image.Accepted) (ordered : image.encoding ≠ "bgr8")
    {target : List UInt8}
    (room : image.height.toNat * (image.width.toNat * bytesPerPixel image.encoding) ≤ target.length) :
    image.copyRows image.rowBytes target =
      some (image.rows ++ target.drop
        (image.height.toNat * (image.width.toNat * bytesPerPixel image.encoding))) := by
  have loop := foldlM_pieces image.row (image.width.toNat * bytesPerPixel image.encoding)
    (image.copyRow image.rowBytes) target 0 image.height.toNat ?_ ?_ (by omega)
  · simpa [copyRows, rows] using loop
  · intro y _
    exact length_row image y
  · intro written rest y inside here space
    have source := accepted.row_inside inside
    rw [Nat.zero_add] at here
    rw [copyRow, rowBytes_eq, copy?, read?_of_le source, Option.bind_some,
      ← accepted.row_eq_take ordered inside, write?_append here (by rw [length_row]; exact space),
      length_row]

theorem Accepted.bgrToRgbPixel_eq (accepted : image.Accepted) (swapped : image.encoding = "bgr8")
    {y x : Nat} (high : y < image.height.toNat) (wide : x < image.width.toNat)
    {written rest : List UInt8} (here : written.length = y * (image.width.toNat * 3) + x * 3)
    (room : 3 ≤ rest.length) :
    image.bgrToRgbPixel y (written ++ rest) x = some (written ++ image.pixel y x ++ rest.drop 3) := by
  have three : bytesPerPixel image.encoding = 3 := by rw [swapped]; rfl
  have source := accepted.pixel_inside high wide
  rw [three] at source
  have channel : ∀ index < 3, ∀ target offset,
      copy? target offset image.data (y * image.step.toNat + x * 3 + index) 1 =
        write? target offset [image.channel y x index] := by
    intro index inside target offset
    rw [copy?_one (by omega) target offset 0, Image.channel, three]
  have red := write?_append_one here (by omega : 0 < rest.length) (image.channel y x 2)
  have second : (written ++ [image.channel y x 2]).length = y * (image.width.toNat * 3) + x * 3 + 1 := by
    simp [here]
  have third : (written ++ [image.channel y x 2] ++ [image.channel y x 1]).length =
      y * (image.width.toNat * 3) + x * 3 + 2 := by
    simp [here]
  have greenRoom : 0 < (rest.drop 1).length := by
    rw [List.length_drop]
    omega
  have blueRoom : 0 < ((rest.drop 1).drop 1).length := by
    simp only [List.length_drop]
    omega
  have green := write?_append_one second greenRoom (image.channel y x 1)
  have blue := write?_append_one third blueRoom (image.channel y x 0)
  have last := channel 0 (by omega)
  rw [Nat.add_zero] at last
  simp only [bgrToRgbPixel, channel 2 (by omega), channel 1 (by omega), last, red, green, blue,
    Option.bind_eq_bind, Option.bind_some]
  simp [pixel, swapped, List.drop_drop]

theorem Accepted.bgrToRgbRow_eq (accepted : image.Accepted) (swapped : image.encoding = "bgr8")
    {y : Nat} (high : y < image.height.toNat) {written rest : List UInt8}
    (here : written.length = y * (image.width.toNat * 3)) (room : image.width.toNat * 3 ≤ rest.length) :
    image.bgrToRgbRow (written ++ rest) y =
      some (written ++ image.row y ++ rest.drop (image.width.toNat * 3)) := by
  have three : bytesPerPixel image.encoding = 3 := by rw [swapped]; rfl
  have loop := foldlM_pieces (image.pixel y) 3 (image.bgrToRgbPixel y) (written ++ rest)
    (y * (image.width.toNat * 3)) image.width.toNat ?_ ?_ ?_
  · rw [bgrToRgbRow, loop, ← here, List.take_left, List.drop_length_add_append]
    rfl
  · intro x _
    rw [length_pixel, three]
  · intro before after x wide position space
    exact accepted.bgrToRgbPixel_eq swapped high wide position space
  · rw [List.length_append, here]
    omega

theorem Accepted.bgrToRgb_eq (accepted : image.Accepted) (swapped : image.encoding = "bgr8")
    {target : List UInt8} (room : image.height.toNat * (image.width.toNat * 3) ≤ target.length) :
    image.bgrToRgb target =
      some (image.rows ++ target.drop (image.height.toNat * (image.width.toNat * 3))) := by
  have three : bytesPerPixel image.encoding = 3 := by rw [swapped]; rfl
  have loop := foldlM_pieces image.row (image.width.toNat * 3) image.bgrToRgbRow target 0
    image.height.toNat ?_ ?_ (by omega)
  · simpa [bgrToRgb, rows] using loop
  · intro y _
    rw [length_row, three]
  · intro written rest y inside here space
    rw [Nat.zero_add] at here
    exact accepted.bgrToRgbRow_eq swapped inside here space

theorem accepted_iff_checks (image : Image) :
    image.Accepted ↔
      ¬ (bytesPerPixel image.encoding = 0 ∨ image.width.toNat = 0 ∨ image.height.toNat = 0 ∨
        kMaxDimension < image.width.toNat ∨ kMaxDimension < image.height.toNat) ∧
      ¬ (image.step.toNat < image.rowBytes ∨
        image.data.length < sizeT (image.step.toNat * image.height.toNat)) := by
  simp only [rowBytes_eq, sizeT_stride, not_or, Nat.not_lt]
  constructor
  · intro accepted
    exact ⟨⟨accepted.supported, accepted.wide, accepted.high, accepted.widthFits, accepted.heightFits⟩,
      accepted.stride, accepted.complete⟩
  · intro ⟨⟨supported, wide, high, widthFits, heightFits⟩, stride, complete⟩
    exact ⟨supported, wide, high, widthFits, heightFits, stride, complete⟩

instance (image : Image) : Decidable image.Accepted :=
  decidable_of_iff _ (accepted_iff_checks image).symm

theorem encoding_cases (supported : bytesPerPixel image.encoding ≠ 0) :
    image.encoding = "rgba8" ∨ image.encoding = "bgra8" ∨ image.encoding = "rgb8" ∨
      image.encoding = "bgr8" ∨ image.encoding = "mono8" := by
  by_contra other
  simp only [not_or] at other
  exact supported (by simp [bytesPerPixel, other])

end Image

/-- A frame that is kept has a buffer of the right size, and chroma planes that are neutral. -/
structure VideoFrame.Ready (frame : VideoFrame) : Prop where
  sized : frame.Sized
  neutral : frame.type = .i420 → frame.data ≠ [] → frame.chroma = neutralChroma frame.width frame.height

theorem VideoFrame.ready_initial : VideoFrame.Ready {} where
  sized := .inl rfl
  neutral impossible := by cases impossible

namespace Image

variable {image : Image}

theorem length_frame (supported : bytesPerPixel image.encoding ≠ 0) :
    image.frame.data.length =
      bufferSize image.width.toNat image.height.toNat image.frameType := by
  have area : image.height.toNat * image.width.toNat = image.width.toNat * image.height.toNat :=
    Nat.mul_comm _ _
  rcases encoding_cases supported with named | named | named | named | named <;>
    simp [frame, frameType, length_rows, bytesPerPixel, bufferSize, neutralChroma, named,
      ← Nat.mul_assoc, area]

theorem Accepted.ready_frame (accepted : image.Accepted) : image.frame.Ready where
  sized := .inr (length_frame accepted.supported)
  neutral := by
    intro planar _
    have gray : image.encoding = "mono8" := by
      rcases encoding_cases accepted.supported with named | named | named | named | named
      · simp [frame, frameType, named] at planar
      · simp [frame, frameType, named] at planar
      · simp [frame, frameType, named] at planar
      · simp [frame, frameType, named] at planar
      · exact named
    have luma : image.width.toNat * image.height.toNat = image.rows.length := by
      rw [length_rows, gray, Nat.mul_comm]
      simp [bytesPerPixel]
    simp only [VideoFrame.chroma, frame, gray, if_true]
    rw [luma, List.drop_left]

theorem nativeLayout_cases (supported : bytesPerPixel image.encoding ≠ 0) :
    (nativeLayout image.encoding = some image.frameType ∧ image.encoding ≠ "bgr8" ∧
        image.encoding ≠ "mono8") ∨
      (nativeLayout image.encoding = none ∧
        (image.encoding = "bgr8" ∨ image.encoding ≠ "bgr8" ∧ image.encoding = "mono8")) := by
  rcases encoding_cases supported with named | named | named | named | named <;>
    simp [nativeLayout, frameType, named]

theorem Accepted.resize_eq (accepted : image.Accepted) (ordered : image.encoding ≠ "bgr8")
    (packed : image.step.toNat = image.rowBytes) :
    resize image.data (sizeT (image.rowBytes * image.height.toNat)) 0 = image.rows := by
  have complete := accepted.complete
  rw [packed, rowBytes_eq] at complete
  have full : image.width.toNat * bytesPerPixel image.encoding * image.height.toNat -
      image.data.length = 0 := by omega
  rw [accepted.sizeT_rows, resize, full, List.replicate_zero, List.append_nil, Nat.mul_comm,
    take_eq_flatMap, rows]
  refine List.flatMap_congr ?_
  intro y member
  rw [accepted.row_eq_take ordered (List.mem_range.mp member), packed, rowBytes_eq]

end Image

section Build

variable {allocator : Allocator} {converted : VideoFrame} {image : Image}

theorem build_of_rejected (rejected : ¬ image.Accepted) :
    build allocator converted image = some (rejectImage converted image) := by
  rw [Image.accepted_iff_checks, not_and_or, not_not, not_not] at rejected
  simp only [build]
  rcases rejected with first | second
  · rw [if_pos first]
  · rw [if_pos second, ite_self]

/-- The frame that rows are copied into has room for exactly them, apart from the chroma planes. -/
theorem bufferSize_frameType (supported : bytesPerPixel image.encoding ≠ 0) :
    bufferSize image.width.toNat image.height.toNat image.frameType =
      image.height.toNat * (image.width.toNat * bytesPerPixel image.encoding) +
        if image.encoding = "mono8" then 2 * chromaSize image.width.toNat image.height.toNat else 0 := by
  rw [← Image.length_frame supported, Image.frame]
  split_ifs with gray
  · simp [Image.length_rows, neutralChroma]
  · simp [Image.length_rows]

theorem convertInto_eq {frame : VideoFrame} {data : List UInt8} (width : frame.width = image.width.toNat)
    (height : frame.height = image.height.toNat) (type : frame.type = image.frameType)
    (written : data = image.frame.data) :
    convertInto frame image (some data) =
      some { image := image, converted := image.frame, returned := true } := by
  rw [convertInto, width, height, type, written]
  rfl

/-- The chroma planes behind the luma plane that is written are neutral: they are filled when
the frame is new, and they are the old ones otherwise. -/
theorem cleared_eq (allocator : Allocator) (gray : image.encoding = "mono8") (accepted : image.Accepted)
    (ready : converted.Ready) :
    let reused := converted.reuse allocator image.width.toNat image.height.toNat .i420
    let lumaSize := sizeT (image.rowBytes * image.height.toNat)
    ∃ data, (if reused.2 then
          fill? reused.1.data lumaSize (reused.1.data.length - lumaSize) kNeutralChroma
        else some reused.1.data) = some data ∧
      data.length = bufferSize image.width.toNat image.height.toNat .i420 ∧
      data.drop (image.height.toNat * image.width.toNat) =
        neutralChroma image.width.toNat image.height.toNat := by
  intro reused lumaSize
  have luma : lumaSize = image.width.toNat * image.height.toNat := by
    simp [lumaSize, accepted.sizeT_rows, gray, bytesPerPixel]
  rw [luma, Nat.mul_comm image.height.toNat]
  rcases VideoFrame.reuse_cases converted allocator image.width.toNat image.height.toNat .i420 with
    fresh | ⟨sameWidth, sameHeight, planar, filled, kept⟩
  · have length : reused.1.data.length = bufferSize image.width.toNat image.height.toNat .i420 :=
      ready.sized.length_reuse _ _ _ _
    have chroma : reused.1.data.length - image.width.toNat * image.height.toNat =
        2 * chromaSize image.width.toNat image.height.toNat := by
      rw [length, bufferSize]
      omega
    have new : reused.2 = true := by simp only [reused, fresh]
    obtain ⟨data, filled, tail⟩ := fill?_tail reused.1.data (image.width.toNat * image.height.toNat)
      kNeutralChroma (by rw [length, bufferSize]; omega)
    refine ⟨data, by rw [if_pos new, filled], (length_write? filled).trans length, ?_⟩
    rw [tail, chroma]
    rfl
  · have old : reused.2 = false := by simp only [reused, kept]
    have same : reused.1 = converted := by simp only [reused, kept]
    refine ⟨converted.data, by simp [old, same], ?_, ?_⟩
    · rw [← same]
      exact ready.sized.length_reuse _ _ _ _
    · rw [← sameWidth, ← sameHeight]
      exact ready.neutral planar filled

theorem build_of_accepted (allocator : Allocator) (accepted : image.Accepted) (ready : converted.Ready) :
    ∃ after, build allocator converted image =
      some { image := after, converted := image.frame, returned := true } := by
  obtain ⟨first, second⟩ := (Image.accepted_iff_checks image).mp accepted
  simp only [build, if_neg first, if_neg second]
  obtain ⟨width, height, type⟩ := VideoFrame.reuse_shape converted allocator image.width.toNat
    image.height.toNat image.frameType
  have room := (ready.sized.length_reuse allocator _ _ _).trans (bufferSize_frameType accepted.supported)
  rcases Image.nativeLayout_cases accepted.supported with
    ⟨native, ordered, colored⟩ | ⟨converts, swapped | ⟨ordered, gray⟩⟩
  · simp only [native]
    by_cases packed : image.step.toNat = image.rowBytes
    · rw [if_pos packed, accepted.resize_eq ordered packed]
      exact ⟨{ image with data := [] }, by simp [Image.frame, colored]⟩
    · rw [if_neg packed]
      rw [if_neg colored, Nat.add_zero] at room
      rw [accepted.copyRows_eq ordered (Nat.le_of_eq room.symm), List.drop_of_length_le (Nat.le_of_eq room)]
      exact ⟨image, convertInto_eq width height type (by simp [Image.frame, colored])⟩
  · have colors : image.frameType = .rgb24 := by simp [Image.frameType, swapped]
    have colored : image.encoding ≠ "mono8" := by simp [swapped]
    have three : bytesPerPixel image.encoding = 3 := by simp [swapped, bytesPerPixel]
    rw [if_neg colored, Nat.add_zero, three] at room
    simp only [converts, if_pos swapped, ← colors]
    rw [accepted.bgrToRgb_eq swapped (Nat.le_of_eq room.symm), List.drop_of_length_le (Nat.le_of_eq room)]
    exact ⟨image, convertInto_eq width height type (by simp [Image.frame, colored])⟩
  · have planar : image.frameType = .i420 := by simp [Image.frameType, gray]
    have one : bytesPerPixel image.encoding = 1 := by simp [gray, bytesPerPixel]
    obtain ⟨data, cleared, length, chroma⟩ := cleared_eq allocator gray accepted ready
    have luma : image.height.toNat * (image.width.toNat * bytesPerPixel image.encoding) ≤ data.length := by
      rw [length, bufferSize, one, Nat.mul_one, Nat.mul_comm]
      omega
    rw [planar] at width height type
    simp only [converts, if_neg ordered]
    rw [cleared, Option.bind_some, accepted.copyRows_eq ordered luma, one, Nat.mul_one, chroma]
    exact ⟨image, convertInto_eq width height (type.trans planar.symm) (by simp [Image.frame, gray])⟩

theorem build_ready (allocator : Allocator) (image : Image) (ready : converted.Ready) :
    ∃ built, build allocator converted image = some built ∧ built.converted.Ready := by
  by_cases accepted : image.Accepted
  · obtain ⟨after, converts⟩ := build_of_accepted allocator accepted ready
    exact ⟨_, converts, accepted.ready_frame⟩
  · exact ⟨_, build_of_rejected accepted, ready⟩

end Build

theorem buildAll_ready (allocator : Allocator) (images : List Image) :
    ∃ converted, buildAll allocator images = some converted ∧ converted.Ready := by
  have general : ∀ start : VideoFrame, start.Ready → ∃ converted,
      images.foldlM (fun converted image => (build allocator converted image).map Built.converted)
        start = some converted ∧ converted.Ready := by
    induction images with
    | nil => exact fun start ready => ⟨start, rfl, ready⟩
    | cons image images ih =>
        intro start ready
        obtain ⟨built, builds, next⟩ := build_ready allocator image ready
        obtain ⟨converted, rest, final⟩ := ih built.converted next
        exact ⟨converted, by simp [builds, rest], final⟩
  exact general {} VideoFrame.ready_initial

/-- After any images, an image that is accepted gives its reference conversion, and any other
leaves the message and the frame of the builder as they are. -/
theorem build_exact (allocator : Allocator) (images : List Image) (image : Image) :
    ∃ converted built, buildAll allocator images = some converted ∧
      build allocator converted image = some built ∧
      (image.Accepted → built.frame = some image.frame) ∧
      (¬ image.Accepted → built.frame = none ∧ built.image = image ∧ built.converted = converted) := by
  obtain ⟨converted, builds, ready⟩ := buildAll_ready allocator images
  by_cases accepted : image.Accepted
  · obtain ⟨after, converts⟩ := build_of_accepted allocator accepted ready
    exact ⟨converted, _, builds, converts, fun _ => rfl, fun rejected => absurd accepted rejected⟩
  · exact ⟨converted, _, builds, build_of_rejected accepted, fun impossible => absurd impossible accepted,
      fun _ => ⟨rfl, rfl, rfl⟩⟩

end RosPortal.Video
