import RosPortal.Video.Frame

/-! Conversion of `sensor_msgs/msg/Image` messages to LiveKit frames. One frame is kept
and reused from image to image. -/

set_option autoImplicit false

namespace RosPortal.Video

open Memory

structure Header where
  sec : Int := 0
  nanosec : Nat := 0
  frameId : String := ""
deriving DecidableEq, Repr

structure Image where
  header : Header := {}
  width : UInt32
  height : UInt32
  encoding : String
  step : UInt32
  data : List UInt8
deriving DecidableEq, Repr

def bytesPerPixel (encoding : String) : Nat :=
  if encoding = "rgba8" ∨ encoding = "bgra8" then 4
  else if encoding = "rgb8" ∨ encoding = "bgr8" then 3
  else if encoding = "mono8" then 1
  else 0

def nativeLayout (encoding : String) : Option VideoBufferType :=
  if encoding = "rgba8" then some .rgba
  else if encoding = "bgra8" then some .bgra
  else if encoding = "rgb8" then some .rgb24
  else none

/-- A value of type `std::size_t`. -/
def sizeT (value : Nat) : Nat := value % 18446744073709551616

/-- `std::numeric_limits<int>::max()`. -/
def kMaxDimension : Nat := 2147483647

namespace Image

variable (image : Image)

def rowBytes : Nat := sizeT (image.width.toNat * bytesPerPixel image.encoding)

/-- The `memcpy` of one row. -/
def copyRow (rowBytes : Nat) (target : List UInt8) (y : Nat) : Option (List UInt8) :=
  copy? target (y * rowBytes) image.data (y * image.step.toNat) rowBytes

def copyRows (rowBytes : Nat) (target : List UInt8) : Option (List UInt8) :=
  (List.range image.height.toNat).foldlM (image.copyRow rowBytes) target

/-- One pixel, the body of the inner loop. -/
def bgrToRgbPixel (y : Nat) (target : List UInt8) (x : Nat) : Option (List UInt8) := do
  let source := y * image.step.toNat + x * 3
  let out := y * (image.width.toNat * 3) + x * 3
  let target ← copy? target out image.data (source + 2) 1
  let target ← copy? target (out + 1) image.data (source + 1) 1
  copy? target (out + 2) image.data source 1

def bgrToRgbRow (target : List UInt8) (y : Nat) : Option (List UInt8) :=
  (List.range image.width.toNat).foldlM (image.bgrToRgbPixel y) target

def bgrToRgb (target : List UInt8) : Option (List UInt8) :=
  (List.range image.height.toNat).foldlM image.bgrToRgbRow target

end Image

/-- What a call of `build` leaves: the message, the frame of the builder, and whether the
frame is returned. -/
structure Built where
  image : Image
  converted : VideoFrame
  returned : Bool
deriving DecidableEq, Repr

def Built.frame (built : Built) : Option VideoFrame :=
  if built.returned then some built.converted else none

def rejectImage (converted : VideoFrame) (image : Image) : Built :=
  { image, converted, returned := false }

/-- The frame that is reused, with pixels that are written to it. -/
def convertInto (frame : VideoFrame) (image : Image) (data : Option (List UInt8)) : Option Built :=
  data.map fun written => { image, converted := { frame with data := written }, returned := true }

/-- Without an outcome a row would be read or written outside its buffer. A message whose pixels
are moved into the frame keeps none. -/
def build (allocator : Allocator) (converted : VideoFrame) (image : Image) : Option Built :=
  let width := image.width.toNat
  let height := image.height.toNat
  if bytesPerPixel image.encoding = 0 ∨ width = 0 ∨ height = 0 ∨ kMaxDimension < width ∨
      kMaxDimension < height then some (rejectImage converted image)
  else if image.step.toNat < image.rowBytes ∨
      image.data.length < sizeT (image.step.toNat * height) then some (rejectImage converted image)
  else
    match nativeLayout image.encoding with
    | some layout =>
        if image.step.toNat = image.rowBytes then
          let pixels := resize image.data (sizeT (image.rowBytes * height)) 0
          some {
            image := { image with data := [] }
            converted := { width, height, type := layout, data := pixels }
            returned := true }
        else
          let frame := (converted.reuse allocator width height layout).1
          convertInto frame image (image.copyRows image.rowBytes frame.data)
    | none =>
        if image.encoding = "bgr8" then
          let frame := (converted.reuse allocator width height .rgb24).1
          convertInto frame image (image.bgrToRgb frame.data)
        else
          let (frame, fresh) := converted.reuse allocator width height .i420
          let lumaSize := sizeT (image.rowBytes * height)
          let cleared :=
            if fresh then fill? frame.data lumaSize (frame.data.length - lumaSize) kNeutralChroma
            else some frame.data
          convertInto frame image (cleared.bind (image.copyRows image.rowBytes))

def buildAll (allocator : Allocator) (images : List Image) : Option VideoFrame :=
  images.foldlM (fun converted image => (build allocator converted image).map Built.converted) {}

/-! What the conversion is for: the frame of an image, pixel by pixel. -/

namespace Image

variable (image : Image)

structure Accepted : Prop where
  supported : bytesPerPixel image.encoding ≠ 0
  wide : image.width.toNat ≠ 0
  high : image.height.toNat ≠ 0
  widthFits : image.width.toNat ≤ kMaxDimension
  heightFits : image.height.toNat ≤ kMaxDimension
  stride : image.width.toNat * bytesPerPixel image.encoding ≤ image.step.toNat
  complete : image.step.toNat * image.height.toNat ≤ image.data.length

def channel (y x index : Nat) : UInt8 :=
  image.data.getD (y * image.step.toNat + x * bytesPerPixel image.encoding + index) 0

def pixel (y x : Nat) : List UInt8 :=
  if image.encoding = "bgr8" then [image.channel y x 2, image.channel y x 1, image.channel y x 0]
  else (List.range (bytesPerPixel image.encoding)).map (image.channel y x)

def row (y : Nat) : List UInt8 := (List.range image.width.toNat).flatMap (image.pixel y)

def rows : List UInt8 := (List.range image.height.toNat).flatMap image.row

def frameType : VideoBufferType :=
  if image.encoding = "rgba8" then .rgba
  else if image.encoding = "bgra8" then .bgra
  else if image.encoding = "mono8" then .i420
  else .rgb24

def frame : VideoFrame where
  width := image.width.toNat
  height := image.height.toNat
  type := image.frameType
  data := image.rows ++
    if image.encoding = "mono8" then neutralChroma image.width.toNat image.height.toNat else []

end Image

end RosPortal.Video
