import Sentinels.Config.Reader
import Sentinels.Failure
import Sentinels.Report
import Sentinels.Utf8

/-!
# Sources

What becomes of the bytes of a file, or of the failure to read them: a document is decoded with
replacement characters, so any bytes will do; a configuration must be valid UTF-8 and valid JSON.
-/

set_option autoImplicit false

namespace Sentinels

/-- What reading a file gives. -/
abbrev ReadResult := Except ReadError (List UInt8)

/-- The document in the file at a path. -/
def Document.ofFile (path : Text) : ReadResult → Except Failure Text
  | .ok bytes => .ok (Utf8.decodeLossy bytes)
  | .error _ => .error (.unreadable path)

/-- The event that a document was read, or was not. -/
def Document.fileEvents (path : Text) : ReadResult → List Event
  | .ok bytes => [.loaded bytes.length path]
  | .error cause => [.unreadable path cause]

/-- The configuration in the file at a path. -/
def Config.ofFile (path : Text) : ReadResult → Except Failure Config
  | .error cause => .error (.configRead path cause)
  | .ok bytes =>
    match Utf8.decode? bytes with
    | none => .error (.configRead path .invalidUtf8)
    | some text =>
      match Config.ofJson text with
      | .ok config => .ok config
      | .error stop => .error (.configParse path (Json.Refusal.ofStop text stop))

end Sentinels
