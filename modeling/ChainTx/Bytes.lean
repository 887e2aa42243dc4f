/-!
Contract: byte strings and their big-endian numbers.

Owns: the byte string type, the number a byte string spells, fixed-width and shortest big-endian
spellings, and the passage between text and its UTF-8 bytes.
-/

set_option autoImplicit false

-- Powers are the core library's throughout, also where a module imports another one for them.
attribute [instance (1100), default_instance 10001] instPowNat

namespace ChainTx

abbrev Bytes := List UInt8

namespace Bytes

/-- The number that a byte string spells, most significant byte first. -/
def toNatBE (bytes : Bytes) : Nat :=
  bytes.foldl (fun prior byte => 256 * prior + byte.toNat) 0

/-- The low `width` bytes of a number, most significant first. -/
def ofNatBE : Nat → Nat → Bytes
  | 0, _ => []
  | width + 1, number => ofNatBE width (number / 256) ++ [UInt8.ofNat (number % 256)]

/-- The big-endian spelling of a number without leading zero bytes; zero is the empty string. -/
def minimalBE (number : Nat) : Bytes :=
  if number = 0 then [] else minimalBE (number / 256) ++ [UInt8.ofNat (number % 256)]
termination_by number

/-- The UTF-8 bytes of a text. -/
def ofText (text : String) : Bytes :=
  text.toUTF8.toList

/-- The text with these UTF-8 bytes, if they are well-formed UTF-8. -/
def toText? (bytes : Bytes) : Option String :=
  String.fromUTF8? ⟨bytes.toArray⟩

/-- The first `count` bytes and the rest, if there are that many. -/
def splitAt? (count : Nat) (bytes : Bytes) : Option (Bytes × Bytes) :=
  if count ≤ bytes.length then some (bytes.take count, bytes.drop count) else none

end Bytes

end ChainTx
