import FlagHost.Murmur3

/-!
# Buckets

A text falls into one of a number of buckets, which are counted from one.
-/

namespace FlagHost

def bucketSeed : UInt32 := 0xffffffff

/-- The bucket of a text, of `total` ones; there is none if there are no buckets. -/
def bucket? (total : Nat) (text : String) : Option Nat :=
  if total = 0 then none
  else some ((Murmur3.hash bucketSeed (Utf8.ofText text)).toNat % total + 1)

def percentBucket (text : String) : Nat :=
  (Murmur3.hash bucketSeed (Utf8.ofText text)).toNat % 100 + 1

theorem bucket?_hundred (text : String) : bucket? 100 text = some (percentBucket text) := rfl

theorem percentBucket_mem (text : String) : 1 ≤ percentBucket text ∧ percentBucket text ≤ 100 := by
  unfold percentBucket
  omega

end FlagHost
