import Gatehouse.Bytes

namespace Gatehouse

/-!
# Texts in storage of fixed size

A fixed text keeps its bytes in storage of a fixed number of bytes, one more
than the longest text it takes. Every change wipes the storage first, so bytes
of an earlier value never stay behind a shorter one.
-/

/-- A text in `size` bytes of storage. -/
structure FixedText (size : Nat) where
  storage : Bytes
  length : Nat
deriving DecidableEq, Repr

namespace FixedText

/-- The longest text that fits. -/
def capacity (size : Nat) : Nat :=
  size - 1

/-- No text. -/
def empty (size : Nat) : FixedText size where
  storage := Bytes.zeros size
  length := 0

/-- Wipe the text. -/
def clear (text : FixedText size) : FixedText size where
  storage := Bytes.zeros text.storage.length
  length := 0

/-- Replace the text; one that is too long leaves the text empty. -/
def set (text : FixedText size) (value : Bytes) : FixedText size :=
  let cleared := text.clear
  if value.length ≤ capacity size then
    { storage := cleared.storage.overwrite 0 value, length := value.length }
  else
    cleared

def bytes (text : FixedText size) : Bytes :=
  text.storage.take text.length

/-- The text in UTF-8, if it is. -/
def toText? (text : FixedText size) : Option String :=
  text.bytes.toText?

/-- Whether there is no text. -/
def isEmpty (text : FixedText size) : Bool :=
  text.length = 0

/-- What a log may show of a text that may be a password. -/
def redacted (text : FixedText size) : String :=
  s!"FixedString \x7b len: {text.length} \x7d"

end FixedText

/-- A name or password of at most 31 bytes. -/
abbrev Credential := FixedText 32

namespace Credential

/-- The longest credential. -/
def maxLength : Nat := FixedText.capacity 32

/-- No credential. -/
def empty : Credential := FixedText.empty 32

end Credential

end Gatehouse
