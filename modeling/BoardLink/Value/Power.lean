import BoardLink.Bytes

-- Power-on thresholds and the reason of the last power-on.
namespace BoardLink

structure PowerThreshold where
  wiggleCount : UInt16
  samplePeriodMs : UInt16
  ignitionMv : UInt16
  deriving DecidableEq, Repr, Inhabited

namespace PowerThreshold

-- Three big-endian numbers of two bytes.
def toBytes (threshold : PowerThreshold) : Bytes :=
  BigEndian.encode 2 threshold.wiggleCount.toNat ++
    BigEndian.encode 2 threshold.samplePeriodMs.toNat ++
    BigEndian.encode 2 threshold.ignitionMv.toNat

def ofBytes? : Bytes → Option PowerThreshold
  | [a, b, c, d, e, f] =>
    some ⟨UInt16.ofNat (BigEndian.decode [a, b]), UInt16.ofNat (BigEndian.decode [c, d]),
      UInt16.ofNat (BigEndian.decode [e, f])⟩
  | _ => none

@[simp] theorem length_toBytes (threshold : PowerThreshold) : threshold.toBytes.length = 6 := by
  simp [toBytes]

end PowerThreshold

-- A set of flags in one byte. The upper four bits have no meaning but are kept.
structure PowerOnReason where
  raw : UInt8
  deriving DecidableEq, Repr, Inhabited

namespace PowerOnReason

def bit (reason : PowerOnReason) (n : Nat) : Bool := reason.raw.toNat.testBit n

def ignition (reason : PowerOnReason) : Bool := reason.bit 0

def wiggle (reason : PowerOnReason) : Bool := reason.bit 1

def armLockup (reason : PowerOnReason) : Bool := reason.bit 2

def watchdog (reason : PowerOnReason) : Bool := reason.bit 3

def reserved (reason : PowerOnReason) : Nat := reason.raw.toNat / 16

end PowerOnReason
end BoardLink
