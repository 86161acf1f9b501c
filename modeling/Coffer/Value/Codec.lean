import Coffer.Error

/-!
# Codecs

A codec says how the values of a type are kept as bytes, one value under a key or several. Encoding
may refuse a value, and decoding may refuse bytes.
-/

namespace Coffer

/-- How the values of a type are kept as bytes. -/
structure Codec (α : Type) where
  encode : α → Except Error Bytes
  decode : Bytes → Except Error α
  /-- The bytes of several values under one key. -/
  encodeMany : List α → Except Error Bytes
  decodeMany : Bytes → Except Error (List α)

namespace Codec

/-- The value that bytes stand for, if they stand for one. -/
def decode? {α : Type} (c : Codec α) (b : Bytes) : Option α := (c.decode b).toOption

/-- The values that bytes stand for, if they stand for some. -/
def decodeMany? {α : Type} (c : Codec α) (b : Bytes) : Option (List α) := (c.decodeMany b).toOption

end Codec

end Coffer
