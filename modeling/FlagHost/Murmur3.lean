import FlagHost.Text.Utf8

/-!
# Murmur3

The 32-bit hash of bytes that rollouts are drawn with. The bytes are taken in words of four, the
first byte being the lowest, and the one to three bytes left over are a last, shorter word.
-/

namespace FlagHost.Murmur3

def rotateLeft (x : UInt32) (n : UInt32) : UInt32 := (x <<< n) ||| (x >>> (32 - n))

def scramble (k : UInt32) : UInt32 := rotateLeft (k * 0xcc9e2d51) 15 * 0x1b873593

def takeWord (h k : UInt32) : UInt32 := rotateLeft (h ^^^ scramble k) 13 * 5 + 0xe6546b64

def word (a b c d : UInt8) : UInt32 :=
  a.toUInt32 ||| (b.toUInt32 <<< 8) ||| (c.toUInt32 <<< 16) ||| (d.toUInt32 <<< 24)

def takeBytes (h : UInt32) : Bytes → UInt32
  | a :: b :: c :: d :: rest => takeBytes (takeWord h (word a b c d)) rest
  | [a, b, c] => h ^^^ scramble (word a b c 0)
  | [a, b] => h ^^^ scramble (word a b 0 0)
  | [a] => h ^^^ scramble (word a 0 0 0)
  | [] => h

/-- Mixes the bits of the state once all bytes are in it. -/
def finish (h : UInt32) : UInt32 :=
  let h := (h ^^^ (h >>> 16)) * 0x85ebca6b
  let h := (h ^^^ (h >>> 13)) * 0xc2b2ae35
  h ^^^ (h >>> 16)

def hash (seed : UInt32) (bytes : Bytes) : UInt32 :=
  finish (takeBytes seed bytes ^^^ UInt32.ofNat bytes.length)

end FlagHost.Murmur3
