import Gatekeeper.Failure
import Gatekeeper.Settings.Document
import Gatekeeper.SystemError
import Gatekeeper.Toml.Document
import Gatekeeper.Toml.Report
/-!
# Settings files

`ofToml` reads the settings from the text of a document. A text that is no document is reported by
the place of its fault alone; so is a misfit in a document with a number that does not fit 64 bits.
Any other misfit is reported with its line.

`ofFile` reads them from a file as it is found: its bytes, or the error of reading it.
-/

namespace Gatekeeper.Settings

/-- The failure of a document, with a report of its fault. -/
def unreadable (report : String) : Failure := .invalidConfig s!"Failed to parse config: {report}"

/-- The settings that the text of a document gives. -/
def ofToml (text : List Char) : Except Failure Settings :=
  match Toml.parse text with
  | .error fault => .error (unreadable (Toml.headline text fault))
  | .ok es =>
    match ofEntries es with
    | .ok s => .ok s
    | .error (span, message) =>
      if (Toml.Value.table .explicit es).isPlain then
        .error (unreadable (Toml.report text span message))
      else .error (unreadable (Toml.headline text span.start))

/-- What is found under a path. -/
inductive FileEntry
  | content (bytes : List UInt8)
  /-- Nothing that can be read: the number of the error of trying. -/
  | unreadable (number : Int)
  deriving DecidableEq, Repr

/-- The settings that a file gives. -/
def ofFile : FileEntry → Except Failure Settings
  | .content bytes =>
    match Utf8.decode? bytes with
    | some text => ofToml text
    | none => .error .notText
  | .unreadable number => .error (.io (SystemError.describe number))

end Gatekeeper.Settings
