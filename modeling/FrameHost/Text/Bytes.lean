/-! Texts as bytes. -/

set_option autoImplicit false

namespace FrameHost

abbrev Bytes := List UInt8

namespace Text

def bytesOf (text : String) : Bytes := text.toUTF8.data.toList

def ofBytes (bytes : Bytes) : String := (String.fromUTF8? ⟨bytes.toArray⟩).getD ""

end Text

end FrameHost
