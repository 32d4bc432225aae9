/-!
# Bytes of a text

`encode` gives the UTF-8 bytes of a text and `decode?` reads them back; `decode?_encode` says that
nothing is lost, `encode_of_decode?` that a sequence of bytes has at most one reading.
-/

namespace ServiceDiagram

/-- a sequence of bytes: the content of a file or of a stream -/
abbrev Bytes := List UInt8

namespace Text

def encode (s : String) : Bytes := s.toByteArray.data.toList

/-- the text with these UTF-8 bytes, if there is one -/
def decode? (bs : Bytes) : Option String := String.fromUTF8? ⟨bs.toArray⟩

theorem decode?_encode (s : String) : decode? (encode s) = some s := by
  unfold decode? encode String.fromUTF8?
  rw [Array.toArray_toList, dif_pos s.isValidUTF8]
  rfl

theorem encode_of_decode? {bs : Bytes} {s : String} (h : decode? bs = some s) : encode s = bs := by
  unfold decode? String.fromUTF8? at h
  split at h
  · cases h
    rfl
  · cases h

theorem encode_injective {s t : String} (h : encode s = encode t) : s = t := by
  have hs := decode?_encode s
  rw [h, decode?_encode] at hs
  exact (Option.some.inj hs).symm

end Text

end ServiceDiagram
