import DebugTypes.Descriptor

/-!
# The shape of types in records

A record spells a type in three parts: a base, then qualifiers, then a wrap chain.  A member may be
a bit-field instead, which has a width and no wrap chain.  So qualifiers stand directly around a
base, wrap operators around what they qualify, and a bit-field nowhere but at the top of a member.

## Main definitions

* `Shape` — how much of a record a type needs.
* `CType.hasShape t shape` — a record can spell `t` with no more than that.
* `CType.isGroup t` — a struct, union or enum, all of whose members have the shape of members.
-/

namespace DebugTypes

/-- How much of a record a type needs, each shape allowing more than the one before. -/
inductive Shape where
  | base
  | qualified
  | chain
  | member
  deriving DecidableEq, Repr

namespace Shape

/-- A shape that allows qualifiers. -/
def qualifies (shape : Shape) : Bool := shape != .base

/-- A shape that allows wrap operators. -/
def wraps (shape : Shape) : Bool := shape == .chain || shape == .member

end Shape

namespace CType

/-- The number of tokens in the wrap chain of a type. -/
def chainLength : CType → Nat
  | pointer t => chainLength t + 1
  | array t _ => chainLength t + 2
  | function t _ _ => chainLength t + 2
  | _ => 0

mutual

/-- A record can spell the type with no more than the shape allows. -/
def hasShape : CType → Shape → Bool
  | primitive _, _ => true
  | named n, _ => n != ""
  | struct ms, _ => haveMemberShape ms
  | union ms, _ => haveMemberShape ms
  | enum _, _ => true
  | qualified t _, shape => shape.qualifies && hasShape t .base
  | pointer t, shape => shape.wraps && hasShape t .chain
  | array t _, shape => shape.wraps && hasShape t .chain
  | function t _ ps, shape => shape.wraps && hasShape t .chain && haveChainShape ps
  | bitField t _, shape => shape == .member && hasShape t .qualified

/-- Records can spell the members of a struct or union. -/
def haveMemberShape : List (String × CType) → Bool
  | [] => true
  | (_, t) :: ms => hasShape t .member && decide (t.chainLength ≤ wrapLimit) && haveMemberShape ms

/-- Records can spell the parameters of a function. -/
def haveChainShape : List CType → Bool
  | [] => true
  | t :: ts => hasShape t .chain && decide (t.chainLength ≤ wrapLimit) && haveChainShape ts

end

/-- A struct, union or enum that a record can spell. -/
def isGroup (t : CType) : Bool := t.isComposite && t.hasShape .base

end CType

end DebugTypes
