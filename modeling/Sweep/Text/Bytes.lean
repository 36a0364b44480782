import Sweep.Text.Basic

/-!
Bytes, and text as the bytes of its UTF-8 encoding.
-/

namespace Sweep

abbrev Bytes := List UInt8

def Text.bytes (t : Text) : Bytes := t.flatMap String.utf8EncodeChar

def Bytes.text? (bytes : Bytes) : Option Text :=
  (String.fromUTF8? ⟨bytes.toArray⟩).map String.toList

end Sweep
