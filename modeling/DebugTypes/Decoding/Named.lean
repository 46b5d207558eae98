import DebugTypes.Catalog.Basic
import DebugTypes.Decoding.Session
import DebugTypes.Document.Load

/-!
# Decoding all named types

The named types of a document are decoded in order and go to a store one by one.  The first failure
ends this; what the store has received by then stays in it.

## Main definitions

* `Reading` — the outcome of reading named types into a store.
* `Session.readRecords`, `Session.readInto` — reading a list of records, and a whole document.
* `Catalog.ofDocument` — the catalog of a document.
-/

namespace DebugTypes

/-- The outcome of reading named types into a store: how many were read or why that ended early, and
what the store and the session have become. -/
structure Reading (σ : Type) where
  result : Except ReadError Nat
  contents : σ
  session : Session

namespace Session

/-- Decode records as named types and add them to a store, up to the first failure. -/
def readRecords {σ : Type} (store : Store σ) : List Element → σ → Session → Reading σ
  | [], contents, s => ⟨.ok 0, contents, s⟩
  | record :: rest, contents, s =>
    match decode (Record.namedGroup record) s with
    | (.error e, s) => ⟨.error e, contents, s⟩
    | (.ok (name, t), s) =>
      let (contents, events) := store.add contents name t
      let later := readRecords store rest contents
        (s.note (.decodedType t.kind.label name :: events))
      { later with result := later.result.map (· + 1) }

/-- Decode the named types of a document into a store. -/
def readInto {σ : Type} (store : Store σ) (d : Document) (contents : σ) (s : Session) :
    Reading σ :=
  readRecords store d.named.children contents s

end Session

/-- The catalog of a document, and what there is to report about decoding it. -/
def Catalog.ofDocument (d : Document) (strict : Bool) : Except ReadError Catalog × Array Event :=
  let reading := (Session.start d strict).readInto Store.catalog d Catalog.empty
  match reading.result with
  | .error e => (.error e, reading.session.log)
  | .ok count =>
    (.ok reading.contents, reading.session.log.push (.decoded count reading.session.searches))

/-- The catalog of a document whose order is not binding, from the text of the document. -/
def Catalog.ofText (text : String) : Except ReadError Catalog × Array Event :=
  match Document.parse text with
  | .error e => (.error e, #[])
  | .ok d => ofDocument d false

/-- The catalog of a document whose order is not binding, from the file of the document. -/
def Catalog.ofFile (file : Except FileFault ByteArray) : Except ReadError Catalog × Array Event :=
  match Document.load file with
  | .error e => (.error e, #[])
  | .ok d => ofDocument d false

end DebugTypes
