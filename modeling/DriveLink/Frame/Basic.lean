import DriveLink.Failure
import DriveLink.Text.Hex

/-! # Frames

Everything on a channel is framed: a magic byte, the lengths of a command section and of a value
payload, four bytes each with the highest first, and then the two.

* `Frame`, `Frame.encode` — a frame and its bytes;
* `Frame.checkLengths` — whether two lengths fit into a frame;
* `FrameError` — what can be wrong with a frame. -/

namespace DriveLink

/-- A **frame**: a command section and a value payload. -/
structure Frame where
  command : Bytes
  value : Bytes
  deriving DecidableEq, Repr

/-- A part of a frame that has a length of its own. -/
inductive FramePart
  | command
  | value
  deriving DecidableEq, Repr

/-- The name of a part. -/
def FramePart.name : FramePart → String
  | command => "command"
  | value => "value"

/-- **What is wrong** with a frame, or with the channel that it is on. -/
inductive FrameError
  | badMagic (found : UInt8)
  | channel (error : IoError)
  | tooLong (part : FramePart) (length : Nat)
  deriving DecidableEq, Repr

/-- The wording of a frame error. -/
def FrameError.message : FrameError → String
  | badMagic found => "invalid magic byte 0x" ++ Hex.write [found]
  | channel error => "transport error: " ++ error.message
  | tooLong part length => s!"{part.name} of {length} bytes does not fit a frame length"

namespace Frame

/-- The first byte of every frame. -/
def magic : UInt8 := 0x46

/-- How many bytes stand before the command section. -/
def headerSize : Nat := 9

/-- The longest part that a frame can announce. -/
def maxPartSize : Nat := 0xFFFFFFFF

/-- Whether **both lengths fit** into a frame; the command is looked at first. -/
def checkLengths (commandLength valueLength : Nat) : Except FrameError Unit :=
  if commandLength > maxPartSize then .error (.tooLong .command commandLength)
  else if valueLength > maxPartSize then .error (.tooLong .value valueLength)
  else .ok ()

/-- The **bytes** of a frame whose lengths fit. -/
def encode (frame : Frame) : Bytes :=
  magic :: (Bytes.ofNatBE 4 frame.command.length ++ Bytes.ofNatBE 4 frame.value.length ++
    frame.command ++ frame.value)

/-- A frame is as long as its header and its two parts. -/
@[simp] theorem length_encode (frame : Frame) :
    frame.encode.length = headerSize + frame.command.length + frame.value.length := by
  simp [encode, headerSize]
  omega

end Frame

end DriveLink
