/-!
# Image plans

What an image is to hold, before it is laid out: its sections with their data, the names that it
imports, and the bytes that follow the last section.
-/
namespace PeSignals.Image

structure PlannedSection where
  name : String
  data : List UInt8 := []
  characteristics : Nat := 0x40000040
  deriving Repr, DecidableEq

inductive PlannedImport
  | named (name : String)
  | ordinal (number : Nat)
  deriving Repr, DecidableEq

/-- A library with the functions that are imported from it, in order. -/
structure PlannedLibrary where
  name : String
  functions : List PlannedImport
  deriving Repr, DecidableEq

/-- An image before it is laid out. -/
structure Plan where
  is64Bit : Bool := false
  sections : List PlannedSection := []
  libraries : List PlannedLibrary := []
  overlay : List UInt8 := []
  deriving Repr, DecidableEq

/-- The next multiple of a unit from a number on. -/
def align (unit n : Nat) : Nat := (n + unit - 1) / unit * unit

theorem le_align {unit : Nat} (h : 0 < unit) (n : Nat) : n ≤ align unit n := by
  have hd := Nat.div_add_mod (n + unit - 1) unit
  have hm := Nat.mod_lt (n + unit - 1) h
  rw [Nat.mul_comm] at hd
  unfold align
  omega

/-- The unit of the addresses of sections. -/
def addressUnit : Nat := 0x1000

/-- The unit of the file offsets and sizes of sections. -/
def fileUnit : Nat := 0x200

namespace Plan

def thunkWidth (p : Plan) : Nat := if p.is64Bit then 8 else 4

/-- The bit that marks an entry of a lookup table as an ordinal. -/
def ordinalFlag (p : Plan) : Nat := if p.is64Bit then 0x8000000000000000 else 0x80000000

def optionalHeaderSize (p : Plan) : Nat := if p.is64Bit then 240 else 224

/-- The offset of the import entry in the optional header. -/
def importEntryOffset (p : Plan) : Nat := if p.is64Bit then 120 else 104

def magic (p : Plan) : Nat := if p.is64Bit then 0x20B else 0x10B

def machine (p : Plan) : Nat := if p.is64Bit then 0x8664 else 0x14C

end Plan

end PeSignals.Image
