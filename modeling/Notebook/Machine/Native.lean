set_option autoImplicit false

namespace Notebook.Machine

structure Native where
  name : String
  bases : List String
  module : String := "builtins"
deriving Repr

def deriving_ (base : String) (names : List String) : List Native :=
  names.map fun n => { name := n, bases := [base] }

def natives : List Native :=
  [{ name := "object", bases := [] }]
  ++ deriving_ "object"
    ["type", "int", "float", "complex", "str", "bytes", "bytearray", "list", "tuple", "dict", "set",
      "frozenset", "range", "slice", "NoneType", "ellipsis", "NotImplementedType", "function",
      "builtin_function_or_method", "method", "method_descriptor", "wrapper_descriptor",
      "method-wrapper", "module", "generator", "coroutine", "async_generator", "cell", "property",
      "staticmethod", "classmethod", "super", "enumerate", "zip", "map", "filter", "reversed",
      "memoryview", "list_iterator", "tuple_iterator", "str_iterator", "range_iterator",
      "dict_keyiterator", "dict_valueiterator", "dict_itemiterator", "dict_reversekeyiterator",
      "dict_reversevalueiterator", "dict_reverseitemiterator", "set_iterator",
      "list_reverseiterator", "bytes_iterator", "callable_iterator", "iterator", "dict_keys",
      "dict_values", "dict_items", "mappingproxy", "getset_descriptor", "traceback",
      "frame", "coroutine_wrapper",
      "async_generator_asend", "anext_awaitable", "BaseException"]
  ++ [{ name := "bool", bases := ["int"] },
      { name := "GenericAlias", bases := ["object"], module := "types" },
      { name := "UnionType", bases := ["object"], module := "types" },
      { name := "OrderedDict", bases := ["dict"], module := "collections" },
      { name := "Future", bases := ["object"], module := "_asyncio" },
      { name := "Task", bases := ["Future"], module := "_asyncio" },
      { name := "_GatheringFuture", bases := ["Future"], module := "asyncio.tasks" },
      { name := "ExportNamespace", bases := ["object"], module := "pycell.cell_namespace" },
      { name := "StringIO", bases := ["object"], module := "_io" },
      { name := "Loader", bases := ["object"], module := "pycell.cell_modules" },
      { name := "Executor", bases := ["object"], module := "pycell.cell_executor" }]
  ++ deriving_ "BaseException"
    ["Exception", "GeneratorExit", "KeyboardInterrupt", "SystemExit", "BaseExceptionGroup"]
  ++ [{ name := "CancelledError", bases := ["BaseException"], module := "asyncio.exceptions" }]
  ++ deriving_ "Exception"
    ["ArithmeticError", "AssertionError", "AttributeError", "BufferError", "EOFError", "ImportError",
      "LookupError", "MemoryError", "NameError", "OSError", "ReferenceError", "RuntimeError",
      "StopAsyncIteration", "StopIteration", "SyntaxError", "SystemError", "TypeError",
      "ValueError", "Warning"]
  ++ [{ name := "ExceptionGroup", bases := ["BaseExceptionGroup", "Exception"] },
      { name := "InvalidStateError", bases := ["Exception"], module := "asyncio.exceptions" },
      { name := "ParsingError", bases := ["Exception"], module := "templates" },
      { name := "CellError", bases := ["Exception"], module := "pycell.cell_datatypes" },
      { name := "Interrupted", bases := ["CellError"], module := "pycell.cell_datatypes" }]
  ++ deriving_ "ArithmeticError" ["FloatingPointError", "OverflowError", "ZeroDivisionError"]
  ++ deriving_ "ImportError" ["ModuleNotFoundError"]
  ++ deriving_ "LookupError" ["IndexError", "KeyError"]
  ++ deriving_ "NameError" ["UnboundLocalError"]
  ++ deriving_ "OSError"
    ["BlockingIOError", "ChildProcessError", "ConnectionError", "FileExistsError",
      "FileNotFoundError", "InterruptedError", "IsADirectoryError", "NotADirectoryError",
      "PermissionError", "ProcessLookupError", "TimeoutError"]
  ++ deriving_ "ConnectionError"
    ["BrokenPipeError", "ConnectionAbortedError", "ConnectionRefusedError",
      "ConnectionResetError"]
  ++ deriving_ "RuntimeError" ["NotImplementedError", "RecursionError"]
  ++ deriving_ "SyntaxError" ["IndentationError"]
  ++ deriving_ "IndentationError" ["TabError"]
  ++ deriving_ "ValueError" ["UnicodeError"]
  ++ deriving_ "UnicodeError"
    ["UnicodeDecodeError", "UnicodeEncodeError", "UnicodeTranslateError"]
  ++ deriving_ "Warning"
    ["BytesWarning", "DeprecationWarning", "EncodingWarning", "FutureWarning", "ImportWarning",
      "PendingDeprecationWarning", "ResourceWarning", "RuntimeWarning", "SyntaxWarning",
      "UnicodeWarning", "UserWarning"]

def nativeAlias : String → String
  | "IOError" => "OSError"
  | "EnvironmentError" => "OSError"
  | n => n

def nativeIndex : List (String × Nat) := natives.zipIdx.map fun (c, i) => (c.name, i)

def nativeArray : Array Native := natives.toArray

def native? (name : String) : Option Native :=
  (nativeIndex.lookup name).bind fun i => nativeArray[i]?

/-- Bases come before what derives from them, so the position of a class bounds the climb. -/
def ancestorsFrom : (fuel : Nat) → String → List String
  | 0, _ => []
  | fuel + 1, name =>
    name :: ((native? name).elim [] fun c => c.bases.flatMap (ancestorsFrom fuel))

/-- A class with the classes it derives from, nearest first, each where it occurs last. -/
def ancestors (name : String) : List String :=
  ((ancestorsFrom 8 name).reverse.eraseDups).reverse

def derives (name base : String) : Bool := (ancestors name).contains base

def systemErrorClass : Int → String
  | 1 => "PermissionError"
  | 2 => "FileNotFoundError"
  | 3 => "ProcessLookupError"
  | 4 => "InterruptedError"
  | 10 => "ChildProcessError"
  | 11 => "BlockingIOError"
  | 13 => "PermissionError"
  | 17 => "FileExistsError"
  | 20 => "NotADirectoryError"
  | 21 => "IsADirectoryError"
  | 32 => "BrokenPipeError"
  | 103 => "ConnectionAbortedError"
  | 104 => "ConnectionResetError"
  | 110 => "TimeoutError"
  | 111 => "ConnectionRefusedError"
  | _ => "OSError"

end Notebook.Machine
