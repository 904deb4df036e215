import Mathlib.Data.Nat.Init
import RosPortal.Memory.Buffer

/-! LiveKit video frames, and the frame that a converter keeps and reuses. -/

set_option autoImplicit false

namespace RosPortal.Video

inductive VideoBufferType where
  | rgba
  | bgra
  | rgb24
  | i420
deriving DecidableEq, Repr

/-- The size of one of the two chroma planes, which round an odd size up. -/
def chromaSize (width height : Nat) : Nat := (width + 1) / 2 * ((height + 1) / 2)

def bufferSize (width height : Nat) : VideoBufferType → Nat
  | .rgba | .bgra => width * height * 4
  | .rgb24 => width * height * 3
  | .i420 => width * height + 2 * chromaSize width height

structure VideoFrame where
  width : Nat := 0
  height : Nat := 0
  type : VideoBufferType := .rgba
  data : List UInt8 := []
deriving DecidableEq, Repr

/-- What `VideoFrame::create` finds in the memory it allocates. -/
structure Allocator where
  contents : Nat → Nat → VideoBufferType → List UInt8
  sized : ∀ width height type, (contents width height type).length = bufferSize width height type

def Allocator.create (allocator : Allocator) (width height : Nat) (type : VideoBufferType) : VideoFrame :=
  { width, height, type, data := allocator.contents width height type }

def zeroAllocator : Allocator where
  contents width height type := List.replicate (bufferSize width height type) 0
  sized _ _ _ := List.length_replicate

/-- A frame of these parameters, and whether it is a new one. -/
def VideoFrame.reuse (frame : VideoFrame) (allocator : Allocator) (width height : Nat)
    (type : VideoBufferType) : VideoFrame × Bool :=
  if frame.width ≠ width ∨ frame.height ≠ height ∨ frame.type ≠ type ∨ frame.data.length = 0 then
    (allocator.create width height type, true)
  else (frame, false)

def VideoFrame.Sized (frame : VideoFrame) : Prop :=
  frame.data = [] ∨ frame.data.length = bufferSize frame.width frame.height frame.type

def VideoFrame.chroma (frame : VideoFrame) : List UInt8 := frame.data.drop (frame.width * frame.height)

def kNeutralChroma : UInt8 := 128

def neutralChroma (width height : Nat) : List UInt8 :=
  List.replicate (2 * chromaSize width height) kNeutralChroma

namespace VideoFrame

variable {frame : VideoFrame} {allocator : Allocator} {width height : Nat} {type : VideoBufferType}

theorem reuse_cases (frame : VideoFrame) (allocator : Allocator) (width height : Nat)
    (type : VideoBufferType) :
    frame.reuse allocator width height type = (allocator.create width height type, true) ∨
      (frame.width = width ∧ frame.height = height ∧ frame.type = type ∧ frame.data ≠ [] ∧
        frame.reuse allocator width height type = (frame, false)) := by
  unfold reuse
  split_ifs with differs
  · exact .inl rfl
  · simp only [not_or, not_not, List.length_eq_zero_iff] at differs
    obtain ⟨sameWidth, sameHeight, sameType, filled⟩ := differs
    exact .inr ⟨sameWidth, sameHeight, sameType, filled, rfl⟩

/-- Whatever the frame was, the one to write to has the parameters asked for. -/
theorem reuse_shape (frame : VideoFrame) (allocator : Allocator) (width height : Nat)
    (type : VideoBufferType) :
    (frame.reuse allocator width height type).1.width = width ∧
      (frame.reuse allocator width height type).1.height = height ∧
      (frame.reuse allocator width height type).1.type = type := by
  rcases reuse_cases frame allocator width height type with
    fresh | ⟨sameWidth, sameHeight, sameType, _, kept⟩
  · rw [fresh]
    exact ⟨rfl, rfl, rfl⟩
  · rw [kept]
    exact ⟨sameWidth, sameHeight, sameType⟩

theorem Sized.length_reuse (sized : frame.Sized) (allocator : Allocator) (width height : Nat)
    (type : VideoBufferType) :
    (frame.reuse allocator width height type).1.data.length = bufferSize width height type := by
  rcases reuse_cases frame allocator width height type with
    fresh | ⟨rfl, rfl, rfl, filled, kept⟩
  · rw [fresh]
    exact allocator.sized width height type
  · rw [kept]
    exact sized.resolve_left filled

end VideoFrame

end RosPortal.Video
