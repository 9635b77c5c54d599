import Notebook.Text.Codec
import Notebook.Text.Lines

set_option autoImplicit false

namespace Notebook

open Notebook.Text

/-- Files by path. -/
structure Files where
  entries : List (String × List UInt8) := []

namespace Files

def has (fs : Files) (path : String) : Bool := fs.entries.any (·.1 == path)

def write (fs : Files) (path : String) (bytes : List UInt8) : Files :=
  ⟨(path, bytes) :: fs.entries.filter (·.1 != path)⟩

def delete (fs : Files) (path : String) : Files := ⟨fs.entries.filter (·.1 != path)⟩

/-- The text of a file, with line feeds for line ends of every kind. -/
def read? (fs : Files) (path : String) : Option (Except DecodeFault String) :=
  (fs.entries.lookup path).map fun bytes =>
    (decodeUtf8 bytes).map fun cs => String.ofList (unifyLineEnds cs)

end Files

end Notebook
