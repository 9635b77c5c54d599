set_option autoImplicit false

namespace Notebook.Cell

/-- The reserved words. -/
def keywords : List String :=
  ["False", "None", "True", "and", "as", "assert", "async", "await", "break", "class",
    "continue", "def", "del", "elif", "else", "except", "finally", "for", "from", "global",
    "if", "import", "in", "is", "lambda", "nonlocal", "not", "or", "pass", "raise", "return",
    "try", "while", "with", "yield"]

/-- A built-in value: its name, the name of its type and the first line of its documentation. -/
structure Builtin where
  name : String
  type : String
  documentation : String
deriving DecidableEq, Repr

def builtins : List Builtin :=
  [
    ⟨"ArithmeticError", "type", "Base class for arithmetic errors."⟩,
    ⟨"AssertionError", "type", "Assertion failed."⟩,
    ⟨"AttributeError", "type", "Attribute not found."⟩,
    ⟨"BaseException", "type", "Common base class for all exceptions"⟩,
    ⟨"BaseExceptionGroup", "type", "A combination of multiple unrelated exceptions."⟩,
    ⟨"BlockingIOError", "type", "I/O operation would block."⟩,
    ⟨"BrokenPipeError", "type", "Broken pipe."⟩,
    ⟨"BufferError", "type", "Buffer error."⟩,
    ⟨"BytesWarning", "type",
      "Base class for warnings about bytes and buffer related problems, mostly"⟩,
    ⟨"ChildProcessError", "type", "Child process error."⟩,
    ⟨"ConnectionAbortedError", "type", "Connection aborted."⟩,
    ⟨"ConnectionError", "type", "Connection error."⟩,
    ⟨"ConnectionRefusedError", "type", "Connection refused."⟩,
    ⟨"ConnectionResetError", "type", "Connection reset."⟩,
    ⟨"DeprecationWarning", "type", "Base class for warnings about deprecated features."⟩,
    ⟨"EOFError", "type", "Read beyond end of file."⟩,
    ⟨"Ellipsis", "ellipsis", ""⟩,
    ⟨"EncodingWarning", "type", "Base class for warnings about encodings."⟩,
    ⟨"EnvironmentError", "type", "Base class for I/O related errors."⟩,
    ⟨"Exception", "type", "Common base class for all non-exit exceptions."⟩,
    ⟨"ExceptionGroup", "type", ""⟩,
    ⟨"False", "bool", "bool(x) -> bool"⟩,
    ⟨"FileExistsError", "type", "File already exists."⟩,
    ⟨"FileNotFoundError", "type", "File not found."⟩,
    ⟨"FloatingPointError", "type", "Floating point operation failed."⟩,
    ⟨"FutureWarning", "type",
      "Base class for warnings about constructs that will change semantically"⟩,
    ⟨"GeneratorExit", "type", "Request that a generator exit."⟩,
    ⟨"IOError", "type", "Base class for I/O related errors."⟩,
    ⟨"ImportError", "type", "Import can't find module, or can't find name in module."⟩,
    ⟨"ImportWarning", "type",
      "Base class for warnings about probable mistakes in module imports"⟩,
    ⟨"IndentationError", "type", "Improper indentation."⟩,
    ⟨"IndexError", "type", "Sequence index out of range."⟩,
    ⟨"InterruptedError", "type", "Interrupted by signal."⟩,
    ⟨"IsADirectoryError", "type", "Operation doesn't work on directories."⟩,
    ⟨"KeyError", "type", "Mapping key not found."⟩,
    ⟨"KeyboardInterrupt", "type", "Program interrupted by user."⟩,
    ⟨"LookupError", "type", "Base class for lookup errors."⟩,
    ⟨"MemoryError", "type", "Out of memory."⟩,
    ⟨"ModuleNotFoundError", "type", "Module not found."⟩,
    ⟨"NameError", "type", "Name not found globally."⟩,
    ⟨"None", "NoneType", ""⟩,
    ⟨"NotADirectoryError", "type", "Operation only works on directories."⟩,
    ⟨"NotImplemented", "NotImplementedType", ""⟩,
    ⟨"NotImplementedError", "type", "Method or function hasn't been implemented yet."⟩,
    ⟨"OSError", "type", "Base class for I/O related errors."⟩,
    ⟨"OverflowError", "type", "Result too large to be represented."⟩,
    ⟨"PendingDeprecationWarning", "type",
      "Base class for warnings about features which will be deprecated"⟩,
    ⟨"PermissionError", "type", "Not enough permissions."⟩,
    ⟨"ProcessLookupError", "type", "Process not found."⟩,
    ⟨"RecursionError", "type", "Recursion limit exceeded."⟩,
    ⟨"ReferenceError", "type", "Weak ref proxy used after referent went away."⟩,
    ⟨"ResourceWarning", "type", "Base class for warnings about resource usage."⟩,
    ⟨"RuntimeError", "type", "Unspecified run-time error."⟩,
    ⟨"RuntimeWarning", "type", "Base class for warnings about dubious runtime behavior."⟩,
    ⟨"StopAsyncIteration", "type", "Signal the end from iterator.__anext__()."⟩,
    ⟨"StopIteration", "type", "Signal the end from iterator.__next__()."⟩,
    ⟨"SyntaxError", "type", "Invalid syntax."⟩,
    ⟨"SyntaxWarning", "type", "Base class for warnings about dubious syntax."⟩,
    ⟨"SystemError", "type", "Internal error in the Python interpreter."⟩,
    ⟨"SystemExit", "type", "Request to exit from the interpreter."⟩,
    ⟨"TabError", "type", "Improper mixture of spaces and tabs."⟩,
    ⟨"TimeoutError", "type", "Timeout expired."⟩,
    ⟨"True", "bool", "bool(x) -> bool"⟩,
    ⟨"TypeError", "type", "Inappropriate argument type."⟩,
    ⟨"UnboundLocalError", "type", "Local name referenced but not bound to a value."⟩,
    ⟨"UnicodeDecodeError", "type", "Unicode decoding error."⟩,
    ⟨"UnicodeEncodeError", "type", "Unicode encoding error."⟩,
    ⟨"UnicodeError", "type", "Unicode related error."⟩,
    ⟨"UnicodeTranslateError", "type", "Unicode translation error."⟩,
    ⟨"UnicodeWarning", "type",
      "Base class for warnings about Unicode related problems, mostly"⟩,
    ⟨"UserWarning", "type", "Base class for warnings generated by user code."⟩,
    ⟨"ValueError", "type", "Inappropriate argument value (of correct type)."⟩,
    ⟨"Warning", "type", "Base class for warning categories."⟩,
    ⟨"ZeroDivisionError", "type",
      "Second argument to a division or modulo operation was zero."⟩,
    ⟨"__build_class__", "builtin_function_or_method",
      "__build_class__(func, name, /, *bases, [metaclass], **kwds) -> class"⟩,
    ⟨"__debug__", "bool", "bool(x) -> bool"⟩,
    ⟨"__doc__", "str", "str(object='') -> str"⟩,
    ⟨"__import__", "builtin_function_or_method", "Import a module."⟩,
    ⟨"__loader__", "type", "Meta path import for built-in modules."⟩,
    ⟨"__name__", "str", "str(object='') -> str"⟩,
    ⟨"__package__", "str", "str(object='') -> str"⟩,
    ⟨"__spec__", "ModuleSpec", "The specification for a module, used for loading."⟩,
    ⟨"abs", "builtin_function_or_method", "Return the absolute value of the argument."⟩,
    ⟨"aiter", "builtin_function_or_method",
      "Return an AsyncIterator for an AsyncIterable object."⟩,
    ⟨"all", "builtin_function_or_method",
      "Return True if bool(x) is True for all values x in the iterable."⟩,
    ⟨"anext", "builtin_function_or_method", "async anext(aiterator[, default])"⟩,
    ⟨"any", "builtin_function_or_method",
      "Return True if bool(x) is True for any x in the iterable."⟩,
    ⟨"ascii", "builtin_function_or_method",
      "Return an ASCII-only representation of an object."⟩,
    ⟨"bin", "builtin_function_or_method", "Return the binary representation of an integer."⟩,
    ⟨"bool", "type", "bool(x) -> bool"⟩,
    ⟨"breakpoint", "builtin_function_or_method", "breakpoint(*args, **kws)"⟩,
    ⟨"bytearray", "type", "bytearray(iterable_of_ints) -> bytearray"⟩,
    ⟨"bytes", "type", "bytes(iterable_of_ints) -> bytes"⟩,
    ⟨"callable", "builtin_function_or_method",
      "Return whether the object is callable (i.e., some kind of function)."⟩,
    ⟨"chr", "builtin_function_or_method",
      "Return a Unicode string of one character with ordinal i; 0 <= i <= 0x10ffff."⟩,
    ⟨"classmethod", "type", "classmethod(function) -> method"⟩,
    ⟨"compile", "builtin_function_or_method",
      "Compile source into a code object that can be executed by exec() or eval()."⟩,
    ⟨"complex", "type",
      "Create a complex number from a real part and an optional imaginary part."⟩,
    ⟨"copyright", "_Printer",
      "interactive prompt objects for printing the license text, a list of"⟩,
    ⟨"credits", "_Printer",
      "interactive prompt objects for printing the license text, a list of"⟩,
    ⟨"delattr", "builtin_function_or_method",
      "Deletes the named attribute from the given object."⟩,
    ⟨"dict", "type", "dict() -> new empty dictionary"⟩,
    ⟨"dir", "builtin_function_or_method", "dir([object]) -> list of strings"⟩,
    ⟨"divmod", "builtin_function_or_method",
      "Return the tuple (x//y, x%y).  Invariant: div*y + mod == x."⟩,
    ⟨"enumerate", "type", "Return an enumerate object."⟩,
    ⟨"eval", "builtin_function_or_method",
      "Evaluate the given source in the context of globals and locals."⟩,
    ⟨"exec", "builtin_function_or_method",
      "Execute the given source in the context of globals and locals."⟩,
    ⟨"exit", "Quitter", ""⟩,
    ⟨"filter", "type", "filter(function or None, iterable) --> filter object"⟩,
    ⟨"float", "type", "Convert a string or number to a floating point number, if possible."⟩,
    ⟨"format", "builtin_function_or_method", "Return value.__format__(format_spec)"⟩,
    ⟨"frozenset", "type", "frozenset() -> empty frozenset object"⟩,
    ⟨"getattr", "builtin_function_or_method", "getattr(object, name[, default]) -> value"⟩,
    ⟨"globals", "builtin_function_or_method",
      "Return the dictionary containing the current scope's global variables."⟩,
    ⟨"hasattr", "builtin_function_or_method",
      "Return whether the object has an attribute with the given name."⟩,
    ⟨"hash", "builtin_function_or_method", "Return the hash value for the given object."⟩,
    ⟨"help", "_Helper", "Define the builtin 'help'."⟩,
    ⟨"hex", "builtin_function_or_method",
      "Return the hexadecimal representation of an integer."⟩,
    ⟨"id", "builtin_function_or_method", "Return the identity of an object."⟩,
    ⟨"input", "builtin_function_or_method",
      "Read a string from standard input.  The trailing newline is stripped."⟩,
    ⟨"int", "type", "int([x]) -> integer"⟩,
    ⟨"isinstance", "builtin_function_or_method",
      "Return whether an object is an instance of a class or of a subclass thereof."⟩,
    ⟨"issubclass", "builtin_function_or_method",
      "Return whether 'cls' is derived from another class or is the same class."⟩,
    ⟨"iter", "builtin_function_or_method", "iter(iterable) -> iterator"⟩,
    ⟨"len", "builtin_function_or_method", "Return the number of items in a container."⟩,
    ⟨"license", "_Printer",
      "interactive prompt objects for printing the license text, a list of"⟩,
    ⟨"list", "type", "Built-in mutable sequence."⟩,
    ⟨"locals", "builtin_function_or_method",
      "Return a dictionary containing the current scope's local variables."⟩,
    ⟨"map", "type", "map(func, *iterables) --> map object"⟩,
    ⟨"max", "builtin_function_or_method", "max(iterable, *[, default=obj, key=func]) -> value"⟩,
    ⟨"memoryview", "type", "Create a new memoryview object which references the given object."⟩,
    ⟨"min", "builtin_function_or_method", "min(iterable, *[, default=obj, key=func]) -> value"⟩,
    ⟨"next", "builtin_function_or_method", "next(iterator[, default])"⟩,
    ⟨"object", "type", "The base class of the class hierarchy."⟩,
    ⟨"oct", "builtin_function_or_method", "Return the octal representation of an integer."⟩,
    ⟨"open", "builtin_function_or_method",
      "Open file and return a stream.  Raise OSError upon failure."⟩,
    ⟨"ord", "builtin_function_or_method",
      "Return the Unicode code point for a one-character string."⟩,
    ⟨"pow", "builtin_function_or_method",
      "Equivalent to base**exp with 2 arguments or base**exp % mod with 3 arguments"⟩,
    ⟨"print", "builtin_function_or_method",
      "Prints the values to a stream, or to sys.stdout by default."⟩,
    ⟨"property", "type", "Property attribute."⟩,
    ⟨"quit", "Quitter", ""⟩,
    ⟨"range", "type", "range(stop) -> range object"⟩,
    ⟨"repr", "builtin_function_or_method",
      "Return the canonical string representation of the object."⟩,
    ⟨"reversed", "type", "Return a reverse iterator over the values of the given sequence."⟩,
    ⟨"round", "builtin_function_or_method",
      "Round a number to a given precision in decimal digits."⟩,
    ⟨"set", "type", "set() -> new empty set object"⟩,
    ⟨"setattr", "builtin_function_or_method",
      "Sets the named attribute on the given object to the specified value."⟩,
    ⟨"slice", "type", "slice(stop)"⟩,
    ⟨"sorted", "builtin_function_or_method",
      "Return a new list containing all items from the iterable in ascending order."⟩,
    ⟨"staticmethod", "type", "staticmethod(function) -> method"⟩,
    ⟨"str", "type", "str(object='') -> str"⟩,
    ⟨"sum", "builtin_function_or_method",
      "Return the sum of a 'start' value (default: 0) plus an iterable of numbers"⟩,
    ⟨"super", "type", "super() -> same as super(__class__, <first argument>)"⟩,
    ⟨"tuple", "type", "Built-in immutable sequence."⟩,
    ⟨"type", "type", "type(object) -> the object's type"⟩,
    ⟨"vars", "builtin_function_or_method", "vars([object]) -> dictionary"⟩,
    ⟨"zip", "type",
      "zip(*iterables, strict=False) --> Yield tuples until an input is exhausted."⟩]

def builtinNames : List String := builtins.map (·.name)

def builtin? (name : String) : Option Builtin := builtins.find? (·.name == name)

end Notebook.Cell
