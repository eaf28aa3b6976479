import Governance.Text.Utf8

/-!
# Files

What may stand at the place of a file, and what comes of reading it as a text: the file may be missing, be a
directory, or hold bytes that are no text. Main statement: a text that was written is read
(`readText_ofText`).
-/

namespace Governance

/-- What may stand at the place of a file. -/
inductive FileContent
  /-- Nothing. -/
  | absent
  /-- A directory, which can be neither read nor written as a file. -/
  | directory
  /-- A file. -/
  | bytes (content : List UInt8)
  deriving DecidableEq, Repr, Inhabited

namespace FileContent

/-- Why a place cannot be read as a text. -/
inductive ReadFault
  | notFound
  | isDirectory
  | notUtf8
  deriving DecidableEq, Repr

/-- The words of the file system for a fault. -/
def ReadFault.message : ReadFault → String
  | notFound => "No such file or directory (os error 2)"
  | isDirectory => "Is a directory (os error 21)"
  | notUtf8 => "stream did not contain valid UTF-8"

/-- The text of a file. -/
def readText : FileContent → Except ReadFault String
  | absent => .error .notFound
  | directory => .error .isDirectory
  | bytes content =>
    match Text.Utf8.decode content with
    | some text => .ok text
    | none => .error .notUtf8

/-- The file with the given text. -/
def ofText (text : String) : FileContent :=
  bytes (Text.Utf8.encode text)

/-- A text that was written is read. -/
theorem readText_ofText (text : String) : (ofText text).readText = .ok text := by
  simp [ofText, readText, Text.Utf8.decode_encode]

end FileContent

end Governance
