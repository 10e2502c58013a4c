/-!
# `Highlight.Registry.Bindings`: names bound to slots

Finite maps from names to the slots of a registry. A name is bound at most once: binding it
again replaces what it was bound to. All names of a slot can be unbound together.
-/

set_option autoImplicit false

namespace Highlight

/-- Names bound to slots, the latest first. -/
structure Bindings where
  /-- The names with their slots -/
  entries : List (String × Nat)
  deriving DecidableEq, Repr

namespace Bindings

/-- No names. -/
def empty : Bindings := ⟨[]⟩

/-- The slot that a name is bound to. -/
def find? (b : Bindings) (name : String) : Option Nat := b.entries.lookup name

/-- Binds a name to a slot. What it was bound to before is gone, so there is one entry for a
name. -/
def bind (b : Bindings) (name : String) (slot : Nat) : Bindings :=
  ⟨(name, slot) :: b.entries.filter fun e => e.1 != name⟩

/-- Binds several names to a slot, one after another. A name may come twice, which makes no
difference. -/
def bindAll (b : Bindings) (names : List String) (slot : Nat) : Bindings :=
  names.foldl (fun b name => b.bind name slot) b

/-- Unbinds all names of a slot. Other slots keep theirs. -/
def unbindSlot (b : Bindings) (slot : Nat) : Bindings :=
  ⟨b.entries.filter fun e => e.2 != slot⟩

end Bindings

end Highlight
