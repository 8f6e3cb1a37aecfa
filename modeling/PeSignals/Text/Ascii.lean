/-!
# ASCII text

Bytes and characters of the seven-bit range. What lies outside is replaced, never refused: a high
byte reads as U+FFFD and a character above U+007F is written as a question mark. Folding maps the
letters A to Z only, so it commutes with cutting and joining byte strings.
-/
namespace PeSignals.Text.Ascii

/-- The character of one byte. -/
def ofByte (b : UInt8) : Char :=
  if b < 128 then Char.ofNat b.toNat else '\uFFFD'

/-- One character per byte. -/
def ofBytes (bytes : List UInt8) : String :=
  String.ofList (bytes.map ofByte)

def toByte (c : Char) : UInt8 :=
  if c.toNat < 128 then UInt8.ofNat c.toNat else 63

/-- One byte per character. -/
def encode (text : String) : ByteArray :=
  ⟨(text.toList.map toByte).toArray⟩

/-- Maps A to Z to a to z. -/
def foldByte (b : UInt8) : UInt8 :=
  if 65 ≤ b && b ≤ 90 then b + 32 else b

/-- Appends the `left` bytes from offset `i` on, folded. -/
def foldFrom (data : ByteArray) (i : Nat) (folded : ByteArray) : Nat → ByteArray
  | 0 => folded
  | left + 1 =>
    if h : i < data.size then foldFrom data (i + 1) (folded.push (foldByte data[i])) left
    else folded

def fold (data : ByteArray) : ByteArray :=
  foldFrom data 0 (ByteArray.emptyWithCapacity data.size) data.size

end PeSignals.Text.Ascii
