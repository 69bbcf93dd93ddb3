import Chip8.Tool

/-!
# A recorder

A recorder of videos for pixels of one, three or four amounts. A fourth amount is left out, and a single
one stands for three. It begins every video and takes every frame.
-/

namespace Chip8.Recorder

/-- The most amounts that a pixel may have. -/
def greatestDepth : Nat := 128

/-- What is said of a frame whose colours cannot be turned about. -/
def conversion (place reason : String) : ToolFault :=
  ⟨"error", s!"OpenCV(5.0.0) {place}: error: {reason}"⟩

def noPixels : ToolFault :=
  conversion "/io/opencv/modules/imgproc/src/color.cpp:199"
    "(-215:Assertion failed) !_src.empty() in function 'cvtColor'\n"

def foreignDepth (depth : Nat) : ToolFault :=
  conversion ":-1" (String.join ["(-5:Bad argument) in function 'cvtColor'\n",
    "> Overload resolution failed:\n>  - src unable to wrap channels, invalid count (",
    toString depth, ", must be in [1, ", toString greatestDepth, "])\n",
    ">  - Expected Ptr<cv::UMat> for argument 'src'\n"])

def unfitDepth (depth : Nat) : ToolFault :=
  let kinds := String.join ["VScn = cv::impl::\x7banonymous\x7d::Set<3, 4>; ",
    "VDcn = cv::impl::\x7banonymous\x7d::Set<3, 4>; ",
    "VDepth = cv::impl::\x7banonymous\x7d::Set<0, 2, 5>; ",
    "cv::impl::\x7banonymous\x7d::SizePolicy sizePolicy = cv::impl::<unnamed>::NONE; ",
    "cv::InputArray = const cv::_InputArray&; cv::OutputArray = const cv::_OutputArray&"]
  conversion "/io/opencv/modules/imgproc/src/color.simd_helpers.hpp:92"
    (String.join ["(-15:Bad number of channels) in function 'cv::impl::\x7banonymous\x7d::",
      "CvtHelper<VScn, VDcn, VDepth, sizePolicy>::CvtHelper(cv::InputArray, cv::OutputArray, int) ",
      "[with ", kinds, "]'\n> Invalid number of channels in input image:\n",
      ">     'VScn::contains(scn)'\n> where\n>     'scn' is ", toString depth, "\n"])

/-- The amounts of a pixel from blue to red. -/
def blueFirst : List UInt8 → List UInt8
  | [all] => [all, all, all]
  | amounts => (amounts.take 3).reverse

/-- A frame with the colours of its pixels turned about. -/
def turned (depth : Nat) (frame : Frame) : Except ToolFault Frame :=
  if depth = 0 ∨ greatestDepth < depth then .error (foreignDepth depth)
  else if frame.isEmpty then .error noPixels
  else if depth = 1 ∨ depth = 3 ∨ depth = 4 then .ok (frame.map blueFirst)
  else .error (unfitDepth depth)

def usual : Recorder where
  begin _ _ _ := .ok ()
  turn := turned
  write _ := .ok ()

end Chip8.Recorder
