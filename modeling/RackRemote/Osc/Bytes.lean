/-!
# Bytes of a packet

Numbers are big-endian. Text is written as its UTF-8 bytes and one to four zero bytes, so that what
follows starts at a multiple of four.
-/

namespace RackRemote.Osc

/-- The lowest `width` bytes of a number, most significant first. -/
def bigEndian : Nat → Nat → List UInt8
  | 0, _ => []
  | width + 1, n => (n >>> (8 * width)).toUInt8 :: bigEndian width n

/-- The number that big-endian bytes spell. -/
def ofBigEndian (bytes : List UInt8) : Nat :=
  bytes.foldl (fun n b => n * 256 + b.toNat) 0

@[simp] theorem bigEndian_length (width n : Nat) : (bigEndian width n).length = width := by
  induction width with
  | zero => rfl
  | succ width ih => simp [bigEndian, ih]

/-- The UTF-8 bytes of a text. -/
def utf8 (s : String) : List UInt8 := s.toUTF8.data.toList

/-- The text with these UTF-8 bytes, if they are well formed. -/
def ofUtf8? (bytes : List UInt8) : Option String := String.fromUTF8? ⟨bytes.toArray⟩

theorem ofUtf8?_utf8 (s : String) : ofUtf8? (utf8 s) = some s := by
  simp only [ofUtf8?, utf8, String.fromUTF8?]
  exact dif_pos s.isValidUTF8

/-- How many zero bytes end a text of which `size` bytes have been written. -/
def padding (size : Nat) : Nat := 4 - size % 4

/-- A text with the zero bytes that end it. -/
def paddedText (s : String) : List UInt8 :=
  let bytes := utf8 s
  bytes ++ List.replicate (padding bytes.length) 0

end RackRemote.Osc
