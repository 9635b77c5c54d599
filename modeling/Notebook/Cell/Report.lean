import Notebook.Cell.Compile
import Notebook.Display.Shown
import Notebook.Template

set_option autoImplicit false

namespace Notebook.Cell

open Notebook.Display

def templateFields (file : String) (line character : Int) (message : String) :
    List (String × Shown) :=
  [("file_prefix", .str (if file == "" then "" else file ++ " ")), ("file_name", .str file),
    ("line", .int (line + 1)), ("col", .int (character + 1)), ("message", .str message)]

def Diagnostic.report (template : String) (d : Diagnostic) : Except Template.ParseError String :=
  Template.render template (templateFields d.file d.line d.character d.message)

end Notebook.Cell
