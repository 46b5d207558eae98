import DebugTypes.Markup.Token

/-!
# Scopes of names

The part of a name before a colon is a *scope*, which has to be bound to a namespace on the element
itself or around it.  Bindings are written as attributes.  An element keeps only the local parts of
its names, but no two of its attributes may have the same namespace and local part.

## Main definitions

* `Bindings` — the scopes bound at a place, the innermost first.
* `mayDeclare` — the rules for the bindings that attributes write, whatever is around them.
* `Tag`, `Tag.ofAttributes?` — the bindings and the attributes of a start tag.
-/

namespace DebugTypes.Markup

/-- The scopes that are bound at a place with their namespaces, the innermost first. -/
abbrev Bindings := List (String × String)

/-- The namespace that a scope is bound to. -/
def Bindings.namespace? (bs : Bindings) (scope : String) : Option String :=
  (bs.find? fun b => b.1 == scope).map Prod.snd

/-- The namespace that the scope `xml` is always bound to. -/
def reservedNamespace : String :=
  "/".intercalate ["http:", "", "www.w3.org", "XML", "1998", "namespace"]

/-- The namespace of bindings themselves, which no scope may be bound to. -/
def bindingNamespace : String := "/".intercalate ["http:", "", "www.w3.org", "2000", "xmlns", ""]

/-- An attribute whose value has been read. -/
abbrev NamedValue := Qualified × String

/-- Whether an attribute binds a scope. -/
def bindsScope (a : NamedValue) : Bool := a.1.scope == "xmlns"

/-- Whether an attribute binds names without a scope. -/
def bindsDefault (a : NamedValue) : Bool := !bindsScope a && a.1.name == "xmlns"

/-- Whether a scope may be bound as an attribute says. -/
def mayBind (a : NamedValue) : Bool :=
  if bindsScope a then
    a.2 != bindingNamespace && ((a.1.name == "xml") == (a.2 == reservedNamespace))
  else a.2 != reservedNamespace && a.2 != bindingNamespace

/-- The bindings that an element adds; the scope `xml` is bound everywhere and is not added. -/
def ownBindings (as : List NamedValue) : Bindings :=
  ((as.filter bindsScope).filter fun a => a.1.name != "xml").map fun a => (a.1.name, a.2)

/-- Whether the members of a list are distinct. -/
def distinct {α : Type} [BEq α] : List α → Bool
  | [] => true
  | x :: xs => !xs.contains x && distinct xs

/-- Whether an attribute writes a binding. -/
def isDeclaration (a : NamedValue) : Bool := bindsScope a || bindsDefault a

/-- Whether the bindings that attributes write are allowed, and none of them binds a scope again. -/
def mayDeclare (as : List NamedValue) : Bool :=
  (as.filter isDeclaration).all mayBind && distinct ((ownBindings as).map Prod.fst)

/-- The namespace and local part of an attribute's name; a name without a scope is in no
namespace. -/
def expanded? (bs : Bindings) (q : Qualified) : Option (Option String × String) :=
  if q.scope == "" then some (none, q.name)
  else if q.scope == "xml" then some (some reservedNamespace, q.name)
  else (bs.namespace? q.scope).map fun n => (some n, q.name)

/-- A start tag whose names have been resolved: the scopes bound inside the element, and its
attributes under their local names. -/
structure Tag where
  bindings : Bindings
  attributes : List (String × String)

/-- Resolve the names of attributes at a place with the bindings `outer`. -/
def Tag.ofAttributes? (outer : Bindings) (as : List NamedValue) : Option Tag := do
  let bindings := ownBindings as ++ outer
  let attributes := as.filter fun a => !isDeclaration a
  let expanded ← attributes.mapM' fun a => expanded? bindings a.1
  if mayDeclare as && distinct expanded then
    some ⟨bindings, attributes.map fun a => (a.1.name, a.2)⟩
  else none

/-- Whether a scope may be that of an element: it is bound, or there is none. -/
def Bindings.isBound (bs : Bindings) (scope : String) : Bool :=
  scope == "" || (bs.namespace? scope).isSome

end DebugTypes.Markup
