import PeSignals.Files.Tree
import PeSignals.Image.Basic

/-!
# Images in files

Reading a file of a tree as an image. A file that cannot be opened is refused for its resource; once
open, the outcome is that of its bytes.
-/
namespace PeSignals.Image

open Files (FileTree)

def ofFile (t : FileTree) (path : String) : Reading :=
  match t.read path with
  | .ok data => parse data path
  | .error e =>
    { outcome := .refused { path, reason := .resource, detail := e.message }
      diagnostics := [s!"{path}: cannot read: {e.message}"] }

end PeSignals.Image
