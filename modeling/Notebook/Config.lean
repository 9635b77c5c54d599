import Notebook.Datum
import Notebook.Files
import Notebook.Path
import Notebook.Template

set_option autoImplicit false

namespace Notebook

open Notebook.Text

def defaultTemplate : String :=
  "\x7b\x7bfile_prefix\x7d\x7d\x7b\x7bline\x7d\x7d:\x7b\x7bcol\x7d\x7d - \x7b\x7bmessage\x7d\x7d"

/-- Settings; those that are only handed on may be any data. -/
structure Config where
  rootDir : Datum
  extension : String := ".py"
  selfName : Datum := .str "pycell"
  template : Datum := .str defaultTemplate
  interruptMessage : Datum := .str "Interrupted asynchronously"

inductive ConfigError where
  | unknownKeys (keys : List String)
  /-- A key at a position that is no text. -/
  | keyType (index : Nat) (type : String)
  /-- Keys of two types that have no order. -/
  | keyOrder (a b : String)
  | pathType (type : String)
  /-- A root directory in bytes that would have to be joined to a text. -/
  | mixedPath
  /-- An extension in bytes, which no text starts. -/
  | bytesExtension
  | extensionType (type : String)
  | missingFile (path : String)
  | undecodable (f : DecodeFault)
  | notMapping (path : String)
deriving Repr

def ConfigError.message : ConfigError → String
  | .unknownKeys keys => "Unknown config keys: " ++ joinWith ", " keys
  | .keyType i t => "sequence item " ++ toString i ++ ": expected str instance, " ++ t ++ " found"
  | .keyOrder a b => "'<' not supported between instances of '" ++ a ++ "' and '" ++ b ++ "'"
  | .pathType t => "expected str, bytes or os.PathLike object, not " ++ t
  | .mixedPath => "Can't mix strings and bytes in path components"
  | .bytesExtension => "startswith first arg must be bytes or a tuple of bytes, not str"
  | .extensionType t => "'" ++ t ++ "' object has no attribute 'startswith'"
  | .missingFile p => "[Errno 2] No such file or directory: " ++ quote p
  | .undecodable f => f.message
  | .notMapping p => "Config file " ++ quote p ++ " must contain a mapping"

namespace Config

def knownKeys : List String :=
  ["root_dir", "extension", "self_name", "diagnostic_template", "interrupt_message"]

def isKnownKey : Datum → Bool
  | .str k => knownKeys.contains k
  | _ => false

def smaller (a b : Datum) : Datum :=
  let size (d : Datum) : Option Float := d.number?.map fun
    | .inl n => Decimal.ofInt n
    | .inr x => x
  match size a, size b with
  | some x, some y => if y < x then b else a
  | _, _ => a

def refuseKeys (keys : List Datum) : Except ConfigError Unit :=
  let texts := keys.filterMap fun
    | .str k => some k
    | _ => none
  let others := keys.filter fun
    | .str _ => false
    | _ => true
  match others, texts with
  | [], [] => .ok ()
  | [], ks => .error (.unknownKeys (ks.mergeSort fun a b => a ≤ b))
  | o :: os, [] => .error (.keyType 0 (os.foldl smaller o).typeName)
  | o :: _, _ =>
    match keys with
    | .str _ :: _ => .error (.keyOrder o.typeName "str")
    | _ => .error (.keyOrder "str" o.typeName)

def bytesText (bs : List UInt8) : String := String.ofList (bs.map fun b => Char.ofNat b.toNat)

/-- The root directory from the setting: absolute and normalised, the current one if it is not set.
-/
def rootOf (w : Path.Places) (d : Datum) : Except ConfigError Datum :=
  if d.isTrue then
    match d with
    | .str p => .ok (.str (Path.absolute w (Path.expandHome w p)))
    | .bytes bs =>
      let p := Path.absolute w (Path.expandHome w (bytesText bs))
      .ok (.bytes (p.toList.map fun c => UInt8.ofNat c.toNat))
    | d => .error (.pathType d.shortTypeName)
  else .ok (.str (Path.absolute w w.current))

def extensionOf : Datum → Except ConfigError String
  | .str e => .ok (if e.startsWith "." then e else "." ++ e)
  | .bytes _ => .error .bytesExtension
  | d => .error (.extensionType d.typeName)

def ofEntries (w : Path.Places) (d : Datum) : Except ConfigError Config := do
  let rootDir ← rootOf w ((d.get? "root_dir").getD .none)
  let extension ← extensionOf ((d.get? "extension").getD (.str ".py"))
  return { rootDir, extension
           selfName := (d.get? "self_name").getD (.str "pycell")
           template := (d.get? "diagnostic_template").getD (.str defaultTemplate)
           interruptMessage :=
             (d.get? "interrupt_message").getD (.str "Interrupted asynchronously") }

def entriesOf : Datum → List (Datum × Datum)
  | .dict es => es
  | _ => []

/-- Settings from a mapping, or from nothing. -/
def ofDatum (w : Path.Places) (d : Datum) : Except ConfigError Config := do
  refuseKeys (((entriesOf d).map (·.1)).filter fun k => !isKnownKey k)
  ofEntries w d

def locateRoot (w : Path.Places) (path : String) (d : Datum) : Except ConfigError Datum :=
  match d.get? "root_dir" with
  | none => .ok d
  | some root =>
    if !root.isTrue then .ok d
    else match root with
      | .str r =>
        if Path.isAbsolute (Path.expandHome w r) then .ok d
        else
          let dir := Path.parent (Path.absolute w path)
          .ok (.dict (Datum.setEntry (entriesOf d) (.str "root_dir") (.str (Path.append dir r))))
      | .bytes bs =>
        if Path.isAbsolute (Path.expandHome w (bytesText bs)) then .ok d else .error .mixedPath
      | r => .error (.pathType r.shortTypeName)

def ofFileDatum (w : Path.Places) (path : String) (d : Datum) : Except ConfigError Config :=
  if !d.isTrue then ofDatum w (.dict [])
  else match d with
    | .dict _ => do ofDatum w (← locateRoot w path d)
    | _ => .error (.notMapping path)

/-- The text of a settings file. -/
def readText (w : Path.Places) (fs : Files) (path : String) : Except ConfigError String :=
  match fs.read? (Path.absolute w path) with
  | none => .error (.missingFile path)
  | some (.error f) => .error (.undecodable f)
  | some (.ok s) => .ok s

/-- The root directory as a text. -/
def root (c : Config) : String :=
  match c.rootDir with
  | .str p => p
  | _ => ""

end Config

end Notebook
