/-!
# Sets of flags

A family of flags is a finite type whose members are given in bit order. A set of flags is a 32-bit word. It may hold bits
that no member of the family stands for: they are kept, compared and printed, but they have no name.
-/

namespace RuleScanner

/-- A family of flags: the name of the family, its members in bit order, the bit number of each, and its name. -/
class Flag (α : Type) where
  title : String
  members : List α
  position : α → Nat
  name : α → String

/-- A set of flags of the family `α`, as a word. The bit of a member that is set says that the member is in the set. -/
structure FlagSet (α : Type) where
  bits : UInt32

namespace FlagSet

variable {α : Type}

@[ext] theorem ext {s t : FlagSet α} (h : s.bits = t.bits) : s = t := by
  cases s; cases t; cases h; rfl

instance : DecidableEq (FlagSet α) := fun s t => decidable_of_iff (s.bits = t.bits) ⟨ext, fun h => h ▸ rfl⟩

instance : Inhabited (FlagSet α) := ⟨⟨0⟩⟩

/-- The set of no flags. -/
def empty : FlagSet α := ⟨0⟩

instance : EmptyCollection (FlagSet α) := ⟨empty⟩

/-- The flags of either set, bits without a name included. -/
protected def union (s t : FlagSet α) : FlagSet α := ⟨s.bits ||| t.bits⟩

instance : Union (FlagSet α) := ⟨FlagSet.union⟩

/-- The flags of both sets. -/
protected def inter (s t : FlagSet α) : FlagSet α := ⟨s.bits &&& t.bits⟩

instance : Inter (FlagSet α) := ⟨FlagSet.inter⟩

/-- No bit is set. -/
def isEmpty (s : FlagSet α) : Bool := s.bits == 0

/-- The two sets share a bit. -/
def intersects (s t : FlagSet α) : Bool := !(s ∩ t).isEmpty

/-- Every bit of `t` is a bit of `s`. -/
def contains (s t : FlagSet α) : Bool := s ∩ t == t

variable [Flag α]

/-- The set of one flag. -/
def single (a : α) : FlagSet α := ⟨1 <<< UInt32.ofNat (Flag.position a)⟩

/-- The set of all flags of the family. -/
def all : FlagSet α := (Flag.members : List α).foldl (fun s a => s ∪ single a) ∅

/-- The members of the family that are in the set, in bit order. -/
def toList (s : FlagSet α) : List α := Flag.members.filter (fun a => s.contains (single a))

/-- The bits of the set that no member stands for. -/
def unnamed (s : FlagSet α) : UInt32 := s.bits &&& ~~~(all : FlagSet α).bits

/-- The set without the bits that no member stands for. -/
def truncate (s : FlagSet α) : FlagSet α := s ∩ all

/-- The set of the given bits, if a member stands for each of them. -/
def ofBits? (bits : UInt32) : Option (FlagSet α) :=
  let s : FlagSet α := ⟨bits⟩
  if s.unnamed = 0 then some s else none

/-- The hexadecimal text of a word, in lower case. -/
def hex (w : UInt32) : String := "0x" ++ String.ofList (Nat.toDigits 16 w.toNat)

/-- The parts of a set's text: the name of each member in bit order, then the bits without a name in hexadecimal. -/
def parts (s : FlagSet α) : List String :=
  s.toList.map Flag.name ++ if s.unnamed = 0 then [] else [hex s.unnamed]

/-- The text of a set: the family's name, and in parentheses the parts joined by a bar, or a hexadecimal zero for no flags. -/
def render (s : FlagSet α) : String :=
  let inside := if s.isEmpty then hex 0 else " | ".intercalate s.parts
  s!"{Flag.title α}({inside})"

end FlagSet

end RuleScanner
