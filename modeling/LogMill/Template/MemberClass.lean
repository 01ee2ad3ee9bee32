import LogMill.Text.Quoted

namespace LogMill

inductive MemberClass where
  | text
  | general
  | ofClasses
  | number
  | truth
  | nothing
  | tuple
  | method
  | wrapper
  | methodOfClass
  | wrapperOfClass
  | methodForClass
  | computed
  | kept
  | fields
  | free
  | table
  | filled
deriving DecidableEq, Repr

inductive EntryKind where
  | method
  | wrapper
  | computed
  | kept
  | forClass
  | free
  | function
  | doc
  | nothing
deriving DecidableEq, Repr

namespace MemberClass

def name : MemberClass → String
  | text => "str"
  | general => "object"
  | ofClasses => "type"
  | number => "int"
  | truth => "bool"
  | nothing => "NoneType"
  | tuple => "tuple"
  | method => "builtin_function_or_method"
  | wrapper => "method-wrapper"
  | methodOfClass => "method_descriptor"
  | wrapperOfClass => "wrapper_descriptor"
  | methodForClass => "classmethod_descriptor"
  | computed => "getset_descriptor"
  | kept => "member_descriptor"
  | fields => "mappingproxy"
  | free => "staticmethod"
  | table => "dict"
  | filled => "types.GenericAlias"

def ownName : MemberClass → String
  | filled => "GenericAlias"
  | c => c.name

def module : MemberClass → String
  | filled => "types"
  | _ => "builtins"

def line : MemberClass → List MemberClass
  | general => [general]
  | truth => [truth, number, general]
  | c => [c, general]

def shown (c : MemberClass) : String := "<class " ++ Text.quoted c.name ++ ">"

def sizes : MemberClass → List (String × Int)
  | text => named 80 0 0 0 273159424
  | general => named 16 0 0 0 529664
  | ofClasses => named 904 40 264 368 2148031744
  | number => named 24 4 0 0 21501184
  | truth => named 32 4 0 0 21500160
  | nothing => named 16 0 0 0 528640
  | tuple => named 24 8 0 0 71849248
  | method => named 56 0 0 40 547200
  | wrapper => named 32 0 0 0 545152
  | methodOfClass => named 56 0 0 0 678272
  | wrapperOfClass => named 56 0 0 0 676224
  | methodForClass => named 56 0 0 0 545152
  | computed => named 48 0 0 0 545152
  | kept => named 48 0 0 0 545152
  | fields => named 24 0 0 0 545088
  | free => named 32 0 24 0 546048
  | table => named 48 0 0 0 541611328
  | filled => named 64 0 0 40 548096
where
  named (size item table references flags : Int) : List (String × Int) :=
    [("__basicsize__", size), ("__itemsize__", item), ("__dictoffset__", table), ("__weakrefoffset__", references),
      ("__flags__", flags)]

def runs : MemberClass → List (EntryKind × List String)
  | text => [
    (.function, ["__new__"]),
    (.wrapper, [
      "__repr__", "__hash__", "__str__", "__getattribute__", "__lt__", "__le__", "__eq__", "__ne__", "__gt__",
      "__ge__", "__iter__", "__mod__", "__rmod__", "__len__", "__getitem__", "__add__", "__mul__", "__rmul__",
      "__contains__"]),
    (.method, [
      "encode", "replace", "split", "rsplit", "join", "capitalize", "casefold", "title", "center", "count",
      "expandtabs", "find", "partition", "index", "ljust", "lower", "lstrip", "rfind", "rindex", "rjust",
      "rstrip", "rpartition", "splitlines", "strip", "swapcase", "translate", "upper", "startswith",
      "endswith", "removeprefix", "removesuffix", "isascii", "islower", "isupper", "istitle", "isspace",
      "isdecimal", "isdigit", "isnumeric", "isalpha", "isalnum", "isidentifier", "isprintable", "zfill",
      "format", "format_map", "__format__"]),
    (.free, ["maketrans"]),
    (.method, ["__sizeof__", "__getnewargs__"]),
    (.doc, ["__doc__"])]
  | general => [
    (.function, ["__new__"]),
    (.wrapper, [
      "__repr__", "__hash__", "__str__", "__getattribute__", "__setattr__", "__delattr__", "__lt__", "__le__",
      "__eq__", "__ne__", "__gt__", "__ge__", "__init__"]),
    (.method, ["__reduce_ex__", "__reduce__", "__getstate__"]),
    (.forClass, ["__subclasshook__", "__init_subclass__"]),
    (.method, ["__format__", "__sizeof__", "__dir__"]),
    (.computed, ["__class__"]),
    (.doc, ["__doc__"])]
  | ofClasses => [
    (.function, ["__new__"]),
    (.wrapper, [
      "__repr__", "__call__", "__getattribute__", "__setattr__", "__delattr__", "__init__", "__or__", "__ror__"]),
    (.method, ["mro", "__subclasses__"]),
    (.forClass, ["__prepare__"]),
    (.method, ["__instancecheck__", "__subclasscheck__", "__dir__", "__sizeof__"]),
    (.kept, [
      "__basicsize__", "__itemsize__", "__flags__", "__weakrefoffset__", "__base__", "__dictoffset__",
      "__mro__"]),
    (.computed, [
      "__name__", "__qualname__", "__bases__", "__module__", "__abstractmethods__", "__dict__", "__doc__",
      "__text_signature__", "__annotations__"])]
  | number => [
    (.function, ["__new__"]),
    (.wrapper, [
      "__repr__", "__hash__", "__getattribute__", "__lt__", "__le__", "__eq__", "__ne__", "__gt__", "__ge__",
      "__add__", "__radd__", "__sub__", "__rsub__", "__mul__", "__rmul__", "__mod__", "__rmod__", "__divmod__",
      "__rdivmod__", "__pow__", "__rpow__", "__neg__", "__pos__", "__abs__", "__bool__", "__invert__",
      "__lshift__", "__rlshift__", "__rshift__", "__rrshift__", "__and__", "__rand__", "__xor__", "__rxor__",
      "__or__", "__ror__", "__int__", "__float__", "__floordiv__", "__rfloordiv__", "__truediv__",
      "__rtruediv__", "__index__"]),
    (.method, ["conjugate", "bit_length", "bit_count", "to_bytes"]),
    (.forClass, ["from_bytes"]),
    (.method, [
      "as_integer_ratio", "__trunc__", "__floor__", "__ceil__", "__round__", "__getnewargs__", "__format__",
      "__sizeof__"]),
    (.computed, ["real", "imag", "numerator", "denominator"]),
    (.doc, ["__doc__"])]
  | truth => [
    (.function, ["__new__"]),
    (.wrapper, ["__repr__", "__and__", "__rand__", "__xor__", "__rxor__", "__or__", "__ror__"]),
    (.doc, ["__doc__"])]
  | nothing => [
    (.function, ["__new__"]),
    (.wrapper, ["__repr__", "__bool__"]),
    (.nothing, ["__doc__"])]
  | tuple => [
    (.function, ["__new__"]),
    (.wrapper, [
      "__repr__", "__hash__", "__getattribute__", "__lt__", "__le__", "__eq__", "__ne__", "__gt__", "__ge__",
      "__iter__", "__len__", "__getitem__", "__add__", "__mul__", "__rmul__", "__contains__"]),
    (.method, ["__getnewargs__", "index", "count"]),
    (.forClass, ["__class_getitem__"]),
    (.doc, ["__doc__"])]
  | method => [
    (.wrapper, [
      "__repr__", "__hash__", "__call__", "__getattribute__", "__lt__", "__le__", "__eq__", "__ne__", "__gt__",
      "__ge__"]),
    (.method, ["__reduce__"]),
    (.kept, ["__module__"]),
    (.computed, ["__doc__", "__name__", "__qualname__", "__self__", "__text_signature__"])]
  | wrapper => [
    (.wrapper, [
      "__repr__", "__hash__", "__call__", "__getattribute__", "__lt__", "__le__", "__eq__", "__ne__", "__gt__",
      "__ge__"]),
    (.method, ["__reduce__"]),
    (.kept, ["__self__"]),
    (.computed, ["__objclass__", "__name__", "__qualname__", "__doc__", "__text_signature__"])]
  | methodOfClass => [
    (.wrapper, ["__repr__", "__call__", "__getattribute__", "__get__"]),
    (.method, ["__reduce__"]),
    (.kept, ["__objclass__", "__name__"]),
    (.computed, ["__doc__", "__qualname__", "__text_signature__"])]
  | wrapperOfClass => [
    (.wrapper, ["__repr__", "__call__", "__getattribute__", "__get__"]),
    (.method, ["__reduce__"]),
    (.kept, ["__objclass__", "__name__"]),
    (.computed, ["__doc__", "__qualname__", "__text_signature__"])]
  | methodForClass => [
    (.wrapper, ["__repr__", "__call__", "__getattribute__", "__get__"]),
    (.kept, ["__objclass__", "__name__"]),
    (.computed, ["__doc__", "__qualname__", "__text_signature__"])]
  | computed => [
    (.wrapper, ["__repr__", "__getattribute__", "__get__", "__set__", "__delete__"]),
    (.kept, ["__objclass__", "__name__"]),
    (.computed, ["__doc__", "__qualname__"])]
  | kept => [
    (.wrapper, ["__repr__", "__getattribute__", "__get__", "__set__", "__delete__"]),
    (.method, ["__reduce__"]),
    (.kept, ["__objclass__", "__name__"]),
    (.computed, ["__doc__", "__qualname__"])]
  | fields => [
    (.function, ["__new__"]),
    (.wrapper, [
      "__repr__", "__str__", "__getattribute__", "__lt__", "__le__", "__eq__", "__ne__", "__gt__", "__ge__",
      "__iter__", "__or__", "__ror__", "__ior__", "__len__", "__getitem__", "__contains__"]),
    (.method, ["get", "keys", "values", "items", "copy"]),
    (.forClass, ["__class_getitem__"]),
    (.method, ["__reversed__"]),
    (.nothing, ["__doc__", "__hash__"])]
  | free => [
    (.function, ["__new__"]),
    (.wrapper, ["__repr__", "__call__", "__get__", "__init__"]),
    (.kept, ["__func__", "__wrapped__"]),
    (.computed, ["__isabstractmethod__", "__dict__"]),
    (.doc, ["__doc__"])]
  | table => [
    (.function, ["__new__"]),
    (.wrapper, ["__repr__"]),
    (.nothing, ["__hash__"]),
    (.wrapper, [
      "__getattribute__", "__lt__", "__le__", "__eq__", "__ne__", "__gt__", "__ge__", "__iter__", "__init__",
      "__or__", "__ror__", "__ior__", "__len__"]),
    (.method, ["__getitem__"]),
    (.wrapper, ["__setitem__", "__delitem__"]),
    (.method, [
      "__contains__", "__sizeof__", "get", "setdefault", "pop", "popitem", "keys", "items", "values", "update"]),
    (.forClass, ["fromkeys"]),
    (.method, ["clear", "copy", "__reversed__"]),
    (.forClass, ["__class_getitem__"]),
    (.doc, ["__doc__"])]
  | filled => [
    (.function, ["__new__"]),
    (.wrapper, [
      "__repr__", "__hash__", "__call__", "__getattribute__", "__lt__", "__le__", "__eq__", "__ne__", "__gt__",
      "__ge__", "__iter__", "__or__", "__ror__", "__getitem__"]),
    (.method, ["__mro_entries__", "__instancecheck__", "__subclasscheck__", "__reduce__", "__dir__"]),
    (.kept, ["__origin__", "__args__", "__unpacked__"]),
    (.computed, ["__parameters__", "__typing_unpacked_tuple_args__"]),
    (.doc, ["__doc__"])]

def entries (c : MemberClass) : List (String × EntryKind) := c.runs.flatMap fun (kind, names) => names.map (·, kind)

def find? (c : MemberClass) (name : String) : Option (MemberClass × EntryKind) :=
  c.line.findSome? fun k => (k.entries.lookup name).map (k, ·)

end MemberClass

end LogMill
