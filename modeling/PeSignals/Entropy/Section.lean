import PeSignals.Bytes.Cursor
import PeSignals.Entropy.Shannon
import PeSignals.Image.Section
import PeSignals.Text.Quoted

/-!
# Section entropy

The entropy of the stored bytes of a section, measured on at most the first 64 KiB of them. Section
fields are taken as they stand: a pointer past the end of the data yields an empty sample, and a
position or size that the source of the bytes refuses is reported. The sections of an image are measured
through one open source, which each measurement leaves somewhere else.
-/
namespace PeSignals.Entropy

/-- Where the bytes of a section are read from; memory and files refuse positions in their own
words. -/
inductive Source
  | memory
  | file
  deriving Repr, DecidableEq

/-- Why a sample could not be taken. -/
inductive SampleFault
  | negativeOffset (offset : Int)
  | offsetTooLarge
  | invalidOffset
  | unfitOffset
  | invalidLength
  | lengthTooLarge
  deriving Repr, DecidableEq

namespace SampleFault

def message : SampleFault → String
  | negativeOffset offset => (Bytes.ReadError.negativeOffset offset).message
  | offsetTooLarge => Bytes.ReadError.offsetTooLarge.message
  | invalidOffset => "[Errno 22] Invalid argument"
  | unfitOffset => "cannot fit 'int' into an offset-sized integer"
  | invalidLength => "read length must be non-negative or -1"
  | lengthTooLarge => "cannot fit 'int' into an index-sized integer"

/-- Whether a fault is reported and passed over; the others end the whole operation. -/
def isContained : SampleFault → Bool
  | offsetTooLarge | lengthTooLarge => false
  | _ => true

end SampleFault

/-- Bytes sampled of one section. -/
def sampleSize : Int := 65536

/-- The position that a source moves to. -/
def Source.position (source : Source) (offset : Int) : Except SampleFault Nat :=
  let fits : Bool := offset < Bytes.positionLimit && -Bytes.positionLimit ≤ offset
  match source with
  | .memory =>
    if !fits then .error .offsetTooLarge
    else if offset < 0 then .error (.negativeOffset offset)
    else .ok offset.toNat
  | .file =>
    if !fits then .error .unfitOffset
    else if offset < 0 then .error .invalidOffset
    else .ok offset.toNat

/-- The limit that a source puts on a read of a requested length. -/
def Source.limit (source : Source) (length : Int) : Except SampleFault Bytes.Limit :=
  if length < -Bytes.positionLimit then .error .lengthTooLarge
  else if source = .file ∧ length < -1 then .error .invalidLength
  else .ok (Bytes.Limit.ofInt length)

/-- The sampled bytes of a section, read from an open source, and where the source stands then. A refused
position leaves it where it stood. -/
def sample {data : ByteArray} (source : Source) (c : Bytes.Cursor data) (s : Image.Section) :
    Except SampleFault ByteArray × Bytes.Cursor data :=
  match source.position s.rawPointer with
  | .error fault => (.error fault, c)
  | .ok position =>
    let c : Bytes.Cursor data := ⟨position⟩
    match source.limit (min s.rawSize sampleSize) with
    | .error fault => (.error fault, c)
    | .ok limit =>
      let got := c.available limit
      (.ok (Bytes.window data c.pos (c.pos + got)), ⟨c.pos + got⟩)

/-- An entropy together with the line that reports why it could not be measured. -/
structure Measurement where
  entropy : Float := 0
  diagnostic? : Option String := none

def sampleFaultLine (s : Image.Section) (fault : SampleFault) : String :=
  "entropy read failed for section " ++ Text.quoted s.name ++ ": " ++ fault.message

/-- The entropy of a section, measured through an open source, and where the source stands then. No stored
bytes and a reported fault both count as zero. -/
def measureThrough {data : ByteArray} (source : Source) (c : Bytes.Cursor data) (s : Image.Section) :
    Except SampleFault Measurement × Bytes.Cursor data :=
  if s.rawSize = 0 then (.ok {}, c)
  else match sample source c s with
    | (.ok bytes, c) => (.ok { entropy := shannon bytes }, c)
    | (.error fault, c) =>
      if fault.isContained then (.ok { diagnostic? := some (sampleFaultLine s fault) }, c)
      else (.error fault, c)

/-- The entropy of a section of data that has just been opened. -/
def ofSection (source : Source) (data : ByteArray) (s : Image.Section) :
    Except SampleFault Measurement :=
  (measureThrough source (Bytes.Cursor.start data) s).1

end PeSignals.Entropy
