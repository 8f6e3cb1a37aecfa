/-!
# Notes

What the stages of a scan report about their work, before a logger tags and filters it.
-/
namespace PeSignals.Log

inductive Level
  | debug
  | info
  | error
  deriving Repr, DecidableEq

namespace Level

def label : Level → String
  | debug => "DEBUG"
  | info => "INFO"
  | error => "ERROR"

/-- The number by which levels are compared with a threshold. -/
def weight : Level → Nat
  | debug => 10
  | info => 20
  | error => 40

end Level

inductive Message
  | text (text : String)
  /-- How long the block of a label took; the time itself is filled in when the note is written. -/
  | took (label : String)
  deriving Repr, DecidableEq

structure Note where
  level : Level
  message : Message
  deriving Repr, DecidableEq

namespace Note

def debug (text : String) : Note := ⟨.debug, .text text⟩

def info (text : String) : Note := ⟨.info, .text text⟩

def error (text : String) : Note := ⟨.error, .text text⟩

end Note

/-- A note with the operation during which it was made. -/
structure Entry where
  operation : Option String := none
  note : Note
  deriving Repr, DecidableEq

/-- Tags notes with an operation. -/
def tagged (operation : String) (notes : List Note) : List Entry :=
  notes.map fun note => { operation := some operation, note }

/-- Leaves notes without an operation. -/
def untagged (notes : List Note) : List Entry :=
  notes.map fun note => { note }

end PeSignals.Log
