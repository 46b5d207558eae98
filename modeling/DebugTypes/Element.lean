import DebugTypes.ReadError
import DebugTypes.Text.Integer

/-!
# Elements

A document is a tree of elements, each with a tag, attributes in document order and child
elements.  Where an attribute name is repeated, the first occurrence counts.

## Main definitions

* `Element` — the tree.
* `Element.attribute?`, `Element.required`, `Element.integer` — the ways to read an attribute.
-/

namespace DebugTypes

/-- A tag, attributes as pairs of a name and a value, and children. -/
inductive Element where
  | mk (tag : String) (attributes : List (String × String)) (children : List Element)
  deriving Repr, Inhabited

namespace Element

/-- The tag of an element. -/
def tag : Element → String
  | mk tag _ _ => tag

/-- The attributes of an element, in document order. -/
def attributes : Element → List (String × String)
  | mk _ attributes _ => attributes

/-- The child elements, in document order. -/
def children : Element → List Element
  | mk _ _ children => children

@[simp] theorem tag_mk (t : String) (as : List (String × String)) (cs : List Element) :
    (mk t as cs).tag = t := rfl
@[simp] theorem attributes_mk (t : String) (as : List (String × String)) (cs : List Element) :
    (mk t as cs).attributes = as := rfl
@[simp] theorem children_mk (t : String) (as : List (String × String)) (cs : List Element) :
    (mk t as cs).children = cs := rfl

/-- The value of the first attribute with the given name. -/
def attribute? (e : Element) (name : String) : Option String :=
  (e.attributes.find? fun a => a.1 == name).map Prod.snd

@[simp] theorem attribute?_cons_self (tag name value : String)
    (attributes : List (String × String)) (children : List Element) :
    (mk tag ((name, value) :: attributes) children).attribute? name = some value := by
  simp [attribute?]

theorem attribute?_cons_of_ne {other name : String} (h : other ≠ name) (tag value : String)
    (attributes : List (String × String)) (children : List Element) :
    (mk tag ((other, value) :: attributes) children).attribute? name =
      (mk tag attributes children).attribute? name := by simp [attribute?, h]

/-- Attributes of other names do not hide one behind them. -/
theorem attribute?_append {before : List (String × String)} {name : String}
    (h : ∀ a ∈ before, a.1 ≠ name) (tag : String) (attributes : List (String × String))
    (children : List Element) :
    (mk tag (before ++ attributes) children).attribute? name =
      (mk tag attributes children).attribute? name := by
  induction before with
  | nil => rfl
  | cons a before ih =>
      rw [List.cons_append, attribute?_cons_of_ne (h a List.mem_cons_self)]
      exact ih fun b hb => h b (List.mem_cons_of_mem a hb)

/-- The value of an attribute that must be present. -/
def required (e : Element) (name : String) : Except ReadError String :=
  match e.attribute? name with
  | some value => .ok value
  | none => .error (.missingAttribute e.tag name)

/-- The element at the end of a path of child positions. -/
def descendant? (e : Element) : List Nat → Option Element
  | [] => some e
  | i :: path => e.children[i]?.bind fun child => child.descendant? path

end Element

/-- The integer in a field, where `field` is the name that an error reports. -/
def readInteger (α : Type) [Text.FixedWidth α] (field value : String) : Except ReadError α :=
  match Text.integer? α value with
  | some n => .ok n
  | none => .error (.invalidNumber field value)

/-- The integer in an attribute that must be present. -/
def Element.integer (α : Type) [Text.FixedWidth α] (e : Element) (name : String) :
    Except ReadError α :=
  e.required name >>= readInteger α name

end DebugTypes
