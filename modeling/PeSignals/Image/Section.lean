/-!
# Sections

One entry of the section table, the map from addresses to file offsets that a table defines, and
the number of bytes stored after the last section. Fields are integers: the file format bounds
them to 32 bits, the operations here do not need that.
-/
namespace PeSignals.Image

/-- One entry of the section table, in the order of the file. -/
structure Section where
  name : String := ""
  virtualSize : Int := 0
  virtualAddress : Int := 0
  rawSize : Int := 0
  rawPointer : Int := 0
  characteristics : Int := 0
  deriving Repr, DecidableEq

namespace Section

/-- The file offset one past the stored bytes. -/
def rawEnd (s : Section) : Int := s.rawPointer + s.rawSize

/-- Whether `rva` lies in the half-open range that the section occupies once mapped. -/
def contains (s : Section) (rva : Int) : Bool :=
  s.virtualAddress ≤ rva && rva < s.virtualAddress + s.virtualSize

end Section

/-- The file offset of a relative virtual address: the first section in table order that contains
the address decides, even when later sections overlap it. -/
def fileOffset? (sections : List Section) (rva : Int) : Option Int :=
  (sections.find? (·.contains rva)).map fun s => rva - s.virtualAddress + s.rawPointer

/-- The greatest raw end of a table, `none` for the empty table. -/
def lastRawEnd? : List Section → Option Int
  | [] => none
  | s :: rest => some (rest.foldl (fun last t => max last t.rawEnd) s.rawEnd)

/-- Bytes stored after the raw data that reaches furthest; an image without sections has none. -/
def overlaySize (sections : List Section) (fileSize : Int) : Int :=
  match lastRawEnd? sections with
  | none => 0
  | some last => max 0 (fileSize - last)

end PeSignals.Image
