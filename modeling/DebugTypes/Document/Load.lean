import DebugTypes.Document.Basic
import DebugTypes.Markup.Tree

/-!
# Reading documents

A document is the text of a file, which has to be UTF-8.

## Main definitions

* `Document.parse` — the document that a text holds.
* `textOfFile` — the text of a file's bytes.
* `Document.load` — the document that a file holds.
-/

namespace DebugTypes

/-- The document that a text holds. -/
def Document.parse (text : String) : Except ReadError Document :=
  match Markup.parse? text with
  | some root => ofRoot root
  | none => .error .malformedMarkup

/-- The text of a file that may not be there. -/
def textOfFile (file : Except FileFault ByteArray) : Except FileFault String :=
  file.bind fun bytes =>
    match String.fromUTF8? bytes with
    | some text => .ok text
    | none => .error .notText

/-- The document that a file holds. -/
def Document.load (file : Except FileFault ByteArray) : Except ReadError Document :=
  match textOfFile file with
  | .ok text => parse text
  | .error fault => .error (.unreadable fault)

end DebugTypes
