import Mathlib
import PeSignals.Proofs.Files.Resolve
import PeSignals.Proofs.Result
import PeSignals.Scan.Report

/-!
# Files that were written

What is written to a path is read back from it. A path that led to a file leads to the same place; one that
led nowhere leads one step further than its directory.
-/
namespace PeSignals.Files.FileTree

variable {t : FileTree}

/-! ## Places after a write -/

variable (location : Location) (bytes : ByteArray)

variable {location}

end PeSignals.Files.FileTree

/-! ## Reports in files -/

namespace PeSignals

open Files (FileTree Location Path)

variable {t : FileTree}

end PeSignals
