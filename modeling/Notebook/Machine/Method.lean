set_option autoImplicit false

namespace Notebook.Machine

def bothSides (names : List String) : List String :=
  names.flatMap fun n => ["__" ++ n ++ "__", "__r" ++ n ++ "__"]

def orderMethods : List String := ["__lt__", "__le__", "__gt__", "__ge__"]

def methodTable : List (String × List String) :=
  [("object",
      ["__init__", "__repr__", "__str__", "__eq__", "__ne__", "__hash__", "__setattr__",
        "__getattribute__", "__delattr__", "__init_subclass__", "__format__", "__dir__", "__new__"]),
    ("type", ["mro", "__call__"]),
    ("int",
      ["bit_length", "bit_count", "conjugate", "as_integer_ratio", "__int__", "__index__",
        "__float__", "__neg__", "__pos__", "__abs__", "__invert__", "__bool__",
        "__round__", "__trunc__", "__floor__", "__ceil__"]
        ++ bothSides ["add", "sub", "mul", "truediv", "floordiv", "mod", "divmod", "pow", "lshift",
          "rshift", "and", "or", "xor"]
        ++ orderMethods),
    ("float",
      ["is_integer", "conjugate", "as_integer_ratio", "__int__", "__float__", "__neg__", "__pos__",
        "__abs__", "__bool__", "__round__", "__trunc__", "__floor__", "__ceil__"]
        ++ bothSides ["add", "sub", "mul", "truediv", "floordiv", "mod", "divmod", "pow"]
        ++ orderMethods),
    ("complex",
      ["conjugate", "__neg__", "__pos__", "__abs__", "__bool__"]
        ++ bothSides ["add", "sub", "mul", "truediv", "pow"]),
    ("str",
      ["capitalize", "casefold", "center", "count", "encode", "endswith", "expandtabs", "find",
        "format", "format_map", "maketrans", "translate", "index", "isalnum", "isalpha",
        "isascii", "isdecimal", "isdigit", "isidentifier", "islower", "isnumeric", "isprintable",
        "isspace", "istitle", "isupper", "join", "ljust", "lower", "lstrip", "partition",
        "removeprefix", "removesuffix", "replace", "rfind", "rindex", "rjust", "rpartition",
        "rsplit", "rstrip", "split", "splitlines", "startswith", "strip", "swapcase", "title",
        "upper", "zfill", "__len__", "__getitem__", "__contains__", "__iter__", "__add__",
        "__mul__", "__rmul__", "__mod__"] ++ orderMethods),
    ("bytes",
      ["decode", "hex", "__len__", "__getitem__", "__contains__", "__iter__", "__add__", "__mul__",
        "__rmul__"] ++ orderMethods),
    ("list",
      ["append", "clear", "copy", "count", "extend", "index", "insert", "pop", "remove", "reverse",
        "sort", "__len__", "__getitem__", "__setitem__", "__delitem__", "__contains__", "__iter__",
        "__add__", "__iadd__", "__mul__", "__rmul__", "__imul__", "__reversed__"] ++ orderMethods),
    ("tuple",
      ["count", "index", "__len__", "__getitem__", "__contains__", "__iter__", "__add__", "__mul__",
        "__rmul__"] ++ orderMethods),
    ("dict",
      ["clear", "copy", "fromkeys", "get", "items", "keys", "pop", "popitem", "setdefault", "update",
        "values", "__len__", "__getitem__", "__setitem__", "__delitem__", "__contains__", "__iter__",
        "__or__", "__ror__", "__ior__", "__reversed__"]),
    ("mappingproxy",
      ["copy", "get", "items", "keys", "values", "__len__", "__getitem__", "__contains__", "__iter__",
        "__or__", "__ror__", "__reversed__"]),
    ("set",
      ["add", "clear", "copy", "difference", "difference_update", "discard", "intersection",
        "intersection_update", "isdisjoint", "issubset", "issuperset", "pop", "remove",
        "symmetric_difference", "symmetric_difference_update", "union", "update", "__len__",
        "__contains__", "__iter__", "__iand__", "__ior__", "__isub__", "__ixor__"]
        ++ bothSides ["and", "or", "sub", "xor"] ++ orderMethods),
    ("frozenset",
      ["copy", "difference", "intersection", "isdisjoint", "issubset", "issuperset",
        "symmetric_difference", "union", "__len__", "__contains__", "__iter__"]
        ++ bothSides ["and", "or", "sub", "xor"] ++ orderMethods),
    ("range",
      ["count", "index", "__len__", "__getitem__", "__contains__", "__iter__", "__reversed__"]),
    ("slice", ["indices"]),
    ("dict_keys", ["__len__", "__contains__", "__iter__"]),
    ("dict_values", ["__len__", "__iter__"]),
    ("dict_items", ["__len__", "__contains__", "__iter__"]),
    ("function", ["__call__", "__get__"]),
    ("generator", ["send", "throw", "close", "__next__", "__iter__"]),
    ("coroutine", ["send", "throw", "close", "__await__"]),
    ("async_generator", ["asend", "athrow", "aclose", "__anext__", "__aiter__"]),
    ("property", ["getter", "setter", "deleter"]),
    ("BaseException", ["with_traceback", "add_note"]),
    ("BaseExceptionGroup", ["split", "subgroup", "derive"]),
    ("Future",
      ["cancel", "cancelled", "done", "result", "exception", "set_result", "set_exception",
        "__await__", "__iter__"]),
    ("Task", ["cancelling", "uncancel"]),
    ("ExportNamespace",
      ["assign", "get", "remove", "snapshot", "clear", "pop", "popitem", "setdefault", "update",
        "items", "keys", "values", "__len__", "__getitem__", "__setitem__", "__delitem__",
        "__contains__", "__iter__"]),
    ("StringIO", ["write", "flush"]),
    ("Loader", ["__call__"])]
  ++ ["enumerate", "zip", "map", "filter", "reversed", "list_iterator", "tuple_iterator",
      "str_iterator", "range_iterator", "dict_keyiterator", "dict_valueiterator",
      "dict_itemiterator", "dict_reversekeyiterator",
      "dict_reversevalueiterator", "dict_reverseitemiterator", "set_iterator",
      "list_reverseiterator", "bytes_iterator",
      "callable_iterator", "iterator"].map fun n => (n, ["__iter__", "__next__"])

def hasMethod (cls name : String) : Bool := ((methodTable.lookup cls).getD []).contains name

def isSlot (name : String) : Bool :=
  let plain := ["__init_subclass__", "__format__", "__dir__", "__new__", "__reversed__"]
  name.startsWith "__" && name.endsWith "__" && !plain.contains name

end Notebook.Machine
