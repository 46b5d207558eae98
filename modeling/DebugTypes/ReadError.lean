import DebugTypes.Text.Quoted

/-!
# Why a document cannot be read

Reading stops at the first thing that is wrong.  `ReadError` lists the causes, and
`ReadError.message` holds the wording of all of them.

## Main definitions

* `FileFault` — what can be wrong with a file.
* `ReadError` — why a document or one of its records cannot be read.
-/

namespace DebugTypes

/-- What can be wrong with a file. -/
inductive FileFault where
  /-- Nothing has this name. -/
  | notFound
  /-- A part of the path that should be a folder is a file. -/
  | notFolder
  /-- The path names a folder. -/
  | isFolder
  /-- The path or a name in it is too long. -/
  | nameTooLong
  /-- The bytes are no UTF-8 text. -/
  | notText
  /-- Anything else, in the system's words. -/
  | other (text : String)
  deriving DecidableEq, Repr

/-- The wording of a file fault. -/
def FileFault.message : FileFault → String
  | notFound => "No such file or directory (os error 2)"
  | notFolder => "Not a directory (os error 20)"
  | isFolder => "Is a directory (os error 21)"
  | nameTooLong => "File name too long (os error 36)"
  | notText => "stream did not contain valid UTF-8"
  | other text => text

/-- The closed sets of tokens that a document draws from. -/
inductive Vocabulary where
  | primitiveTypes
  | qualifiers
  | recordKinds
  deriving DecidableEq, Repr

/-- What a token of the vocabulary stands for. -/
def Vocabulary.label : Vocabulary → String
  | primitiveTypes => "primitive type"
  | qualifiers => "type attribute"
  | recordKinds => "type kind"

/-- How a descriptor departs from its grammar. -/
inductive DescriptorFault where
  | emptyBase
  | emptyName
  | tooLong
  | missingOperand
  deriving DecidableEq, Repr

/-- The wording of a descriptor fault. -/
def DescriptorFault.message : DescriptorFault → String
  | emptyBase => "empty base descriptor"
  | emptyName => "empty type name"
  | tooLong => "wrap chain is too long"
  | missingOperand => "wrap operator is missing its operand"

/-- Why a document cannot be read. -/
inductive ReadError where
  /-- A look-up ran past the last record of a section. -/
  | outOfRange (sectionName : String) (position length : Nat)
  /-- Not exactly one record of a section carries the id. -/
  | ambiguousReference (sectionName : String) (id : UInt32) (matchCount : Nat)
  /-- The next record carries another id, and the order is binding. -/
  | outOfOrder (sectionName : String) (expected found : UInt32)
  /-- A token outside its vocabulary. -/
  | unknownToken (vocabulary : Vocabulary) (token : String)
  /-- A record lacks an attribute that it must have. -/
  | missingAttribute (tag field : String)
  /-- A field that should hold an integer in range does not. -/
  | invalidNumber (field value : String)
  /-- A base or wrap descriptor that does not follow its grammar. -/
  | malformedDescriptor (descriptor : String) (fault : DescriptorFault)
  /-- The document has fewer sections than it must have. -/
  | missingSection (position found : Nat)
  /-- The text is not well-formed markup. -/
  | malformedMarkup
  /-- The file cannot be read as text. -/
  | unreadable (fault : FileFault)
  deriving DecidableEq, Repr

/-- The wording of a read error. -/
def ReadError.message : ReadError → String
  | outOfRange name position length =>
    s!"{name} section has no record at position {position} (section length: {length})"
  | ambiguousReference name id count =>
    s!"{name} section has {count} records with id {id}, expected exactly one"
  | outOfOrder name expected found =>
    s!"{name} section out of order: expected id {expected}, found id {found}"
  | unknownToken vocabulary token => s!"unknown {vocabulary.label}: {Text.quoted token}"
  | missingAttribute tag field => s!"<{tag}> record is missing attribute '{field}'"
  | invalidNumber field value =>
    s!"invalid number in '{field}': {Text.quoted value}"
  | malformedDescriptor descriptor fault =>
    s!"malformed descriptor {Text.quoted descriptor}: {fault.message}"
  | missingSection position found =>
    s!"document is missing section {position} (found {found} sections)"
  | malformedMarkup => "XML error"
  | unreadable fault => s!"I/O error: {fault.message}"

end DebugTypes
