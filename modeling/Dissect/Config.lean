/-!
# Dissector settings

Three bounds steer every dissector: the largest HTTP/2 frame a direction may send before a peer
raises it, the number of WebSocket fragments that may wait for the end of their message, and the
largest output of any single decompression. A setting is normalized before use: the frame bound
is brought into `16384`-`16777215`, the protocol's own range, and at least one fragment may wait.
-/

set_option autoImplicit false

namespace Dissect

/-- The bounds a dissector works under. -/
structure Config where
  maxFrameSize : Nat := 16384
  maxPendingFragments : Nat := 50
  maxInflatedSize : Nat := 67108864
  deriving Repr, DecidableEq

namespace Config

def minFrameSize : Nat := 16384

def maxAllowedFrameSize : Nat := 16777215

def clampFrameSize (n : Nat) : Nat := min (max n minFrameSize) maxAllowedFrameSize

/-- The setting with its frame bound in range and at least one fragment allowed to wait. -/
def normalize (c : Config) : Config :=
  { c with
    maxFrameSize := clampFrameSize c.maxFrameSize
    maxPendingFragments := max c.maxPendingFragments 1 }

theorem clampFrameSize_mem (n : Nat) :
    minFrameSize ≤ clampFrameSize n ∧ clampFrameSize n ≤ maxAllowedFrameSize := by
  simp only [clampFrameSize, minFrameSize, maxAllowedFrameSize]; omega

end Config

end Dissect
