import LogMill.Template.MemberClass

namespace LogMill

structure Description where
  signature : Option String := none
  text : Option String := none

namespace Description

def common : List (String × Description) := [
  ("__new__", {
    signature := some "($type, *args, **kwargs)",
    text := some "Create and return a new object.  See help(type) for accurate signature." }),
  ("__repr__", { signature := some "($self, /)", text := some "Return repr(self)." }),
  ("__hash__", { signature := some "($self, /)", text := some "Return hash(self)." }),
  ("__str__", { signature := some "($self, /)", text := some "Return str(self)." }),
  ("__getattribute__", { signature := some "($self, name, /)", text := some "Return getattr(self, name)." }),
  ("__lt__", { signature := some "($self, value, /)", text := some "Return self<value." }),
  ("__le__", { signature := some "($self, value, /)", text := some "Return self<=value." }),
  ("__eq__", { signature := some "($self, value, /)", text := some "Return self==value." }),
  ("__ne__", { signature := some "($self, value, /)", text := some "Return self!=value." }),
  ("__gt__", { signature := some "($self, value, /)", text := some "Return self>value." }),
  ("__ge__", { signature := some "($self, value, /)", text := some "Return self>=value." }),
  ("__iter__", { signature := some "($self, /)", text := some "Implement iter(self)." }),
  ("__mod__", { signature := some "($self, value, /)", text := some "Return self%value." }),
  ("__rmod__", { signature := some "($self, value, /)", text := some "Return value%self." }),
  ("__len__", { signature := some "($self, /)", text := some "Return len(self)." }),
  ("__getitem__", { signature := some "($self, key, /)", text := some "Return self[key]." }),
  ("__add__", { signature := some "($self, value, /)", text := some "Return self+value." }),
  ("__mul__", { signature := some "($self, value, /)", text := some "Return self*value." }),
  ("__rmul__", { signature := some "($self, value, /)", text := some "Return value*self." }),
  ("__contains__", { signature := some "($self, key, /)", text := some "Return key in self." }),
  ("encode", {
    signature := some "($self, /, encoding='utf-8', errors='strict')",
    text := some (
      "Encode the string using the codec registered for encoding.\n\n  encoding\n    The encoding in which " ++
      "to encode the string.\n  errors\n    The error handling scheme to use for encoding errors.\n    The " ++
      "default is 'strict' meaning that encoding errors raise a\n    UnicodeEncodeError.  Other possible " ++
      "values are 'ignore', 'replace' and\n    'xmlcharrefreplace' as well as any other name registered " ++
      "with\n    codecs.register_error that can handle UnicodeEncodeErrors.") }),
  ("replace", {
    signature := some "($self, old, new, count=-1, /)",
    text := some (
      "Return a copy with all occurrences of substring old replaced by new.\n\n  count\n    Maximum number " ++
      "of occurrences to replace.\n    -1 (the default value) means replace all occurrences.\n\nIf the " ++
      "optional argument count is given, only the first count occurrences are\nreplaced.") }),
  ("split", {
    signature := some "($self, /, sep=None, maxsplit=-1)",
    text := some (
      "Return a list of the substrings in the string, using sep as the separator string.\n\n  sep\n    The " ++
      "separator used to split the string.\n\n    When set to None (the default value), will split on any " ++
      "whitespace\n    character (including \\n \\r \\t \\f and spaces) and will discard\n    empty " ++
      "strings from the result.\n  maxsplit\n    Maximum number of splits.\n    -1 (the default value) " ++
      "means no limit.\n\nSplitting starts at the front of the string and works to the end.\n\nNote, " ++
      "str.split() is mainly useful for data that has been intentionally\ndelimited.  With natural text " ++
      "that includes punctuation, consider using\nthe regular expression module.") }),
  ("rsplit", {
    signature := some "($self, /, sep=None, maxsplit=-1)",
    text := some (
      "Return a list of the substrings in the string, using sep as the separator string.\n\n  sep\n    The " ++
      "separator used to split the string.\n\n    When set to None (the default value), will split on any " ++
      "whitespace\n    character (including \\n \\r \\t \\f and spaces) and will discard\n    empty " ++
      "strings from the result.\n  maxsplit\n    Maximum number of splits.\n    -1 (the default value) " ++
      "means no limit.\n\nSplitting starts at the end of the string and works to the front.") }),
  ("join", {
    signature := some "($self, iterable, /)",
    text := some (
      "Concatenate any number of strings.\n\nThe string whose method is called is inserted in between each " ++
      "given string.\nThe result is returned as a new string.\n\nExample: '.'.join(['ab', 'pq', 'rs']) -> " ++
      "'ab.pq.rs'") }),
  ("capitalize", {
    signature := some "($self, /)",
    text := some (
      "Return a capitalized version of the string.\n\nMore specifically, make the first character have " ++
      "upper case and the rest lower\ncase.") }),
  ("casefold", {
    signature := some "($self, /)",
    text := some "Return a version of the string suitable for caseless comparisons." }),
  ("title", {
    signature := some "($self, /)",
    text := some (
      "Return a version of the string where each word is titlecased.\n\nMore specifically, words start " ++
      "with uppercased characters and all remaining\ncased characters have lower case.") }),
  ("center", {
    signature := some "($self, width, fillchar=' ', /)",
    text := some (
      "Return a centered string of length width.\n\nPadding is done using the specified fill character " ++
      "(default is a space).") }),
  ("count", {
    text := some (
      "S.count(sub[, start[, end]]) -> int\n\nReturn the number of non-overlapping occurrences of " ++
      "substring sub in\nstring S[start:end].  Optional arguments start and end are\ninterpreted as in " ++
      "slice notation.") }),
  ("expandtabs", {
    signature := some "($self, /, tabsize=8)",
    text := some (
      "Return a copy where all tab characters are expanded using spaces.\n\nIf tabsize is not given, a tab " ++
      "size of 8 characters is assumed.") }),
  ("find", {
    text := some (
      "S.find(sub[, start[, end]]) -> int\n\nReturn the lowest index in S where substring sub is found,\n" ++
      "such that sub is contained within S[start:end].  Optional\narguments start and end are interpreted " ++
      "as in slice notation.\n\nReturn -1 on failure.") }),
  ("partition", {
    signature := some "($self, sep, /)",
    text := some (
      "Partition the string into three parts using the given separator.\n\nThis will search for the " ++
      "separator in the string.  If the separator is found,\nreturns a 3-tuple containing the part before " ++
      "the separator, the separator\nitself, and the part after it.\n\nIf the separator is not found, " ++
      "returns a 3-tuple containing the original string\nand two empty strings.") }),
  ("index", {
    text := some (
      "S.index(sub[, start[, end]]) -> int\n\nReturn the lowest index in S where substring sub is found,\n" ++
      "such that sub is contained within S[start:end].  Optional\narguments start and end are interpreted " ++
      "as in slice notation.\n\nRaises ValueError when the substring is not found.") }),
  ("ljust", {
    signature := some "($self, width, fillchar=' ', /)",
    text := some (
      "Return a left-justified string of length width.\n\nPadding is done using the specified fill " ++
      "character (default is a space).") }),
  ("lower", { signature := some "($self, /)", text := some "Return a copy of the string converted to lowercase." }),
  ("lstrip", {
    signature := some "($self, chars=None, /)",
    text := some (
      "Return a copy of the string with leading whitespace removed.\n\nIf chars is given and not None, " ++
      "remove characters in chars instead.") }),
  ("rfind", {
    text := some (
      "S.rfind(sub[, start[, end]]) -> int\n\nReturn the highest index in S where substring sub is found,\n" ++
      "such that sub is contained within S[start:end].  Optional\narguments start and end are interpreted " ++
      "as in slice notation.\n\nReturn -1 on failure.") }),
  ("rindex", {
    text := some (
      "S.rindex(sub[, start[, end]]) -> int\n\nReturn the highest index in S where substring sub is found," ++
      "\nsuch that sub is contained within S[start:end].  Optional\narguments start and end are " ++
      "interpreted as in slice notation.\n\nRaises ValueError when the substring is not found.") }),
  ("rjust", {
    signature := some "($self, width, fillchar=' ', /)",
    text := some (
      "Return a right-justified string of length width.\n\nPadding is done using the specified fill " ++
      "character (default is a space).") }),
  ("rstrip", {
    signature := some "($self, chars=None, /)",
    text := some (
      "Return a copy of the string with trailing whitespace removed.\n\nIf chars is given and not None, " ++
      "remove characters in chars instead.") }),
  ("rpartition", {
    signature := some "($self, sep, /)",
    text := some (
      "Partition the string into three parts using the given separator.\n\nThis will search for the " ++
      "separator in the string, starting at the end. If\nthe separator is found, returns a 3-tuple " ++
      "containing the part before the\nseparator, the separator itself, and the part after it.\n\nIf the " ++
      "separator is not found, returns a 3-tuple containing two empty strings\nand the original string.") }),
  ("splitlines", {
    signature := some "($self, /, keepends=False)",
    text := some (
      "Return a list of the lines in the string, breaking at line boundaries.\n\nLine breaks are not " ++
      "included in the resulting list unless keepends is given and\ntrue.") }),
  ("strip", {
    signature := some "($self, chars=None, /)",
    text := some (
      "Return a copy of the string with leading and trailing whitespace removed.\n\nIf chars is given and " ++
      "not None, remove characters in chars instead.") }),
  ("swapcase", {
    signature := some "($self, /)",
    text := some "Convert uppercase characters to lowercase and lowercase characters to uppercase." }),
  ("translate", {
    signature := some "($self, table, /)",
    text := some (
      "Replace each character in the string using the given translation table.\n\n  table\n    Translation " ++
      "table, which must be a mapping of Unicode ordinals to\n    Unicode ordinals, strings, or None.\n\n" ++
      "The table must implement lookup/indexing via __getitem__, for instance a\ndictionary or list.  If " ++
      "this operation raises LookupError, the character is\nleft untouched.  Characters mapped to None are " ++
      "deleted.") }),
  ("upper", { signature := some "($self, /)", text := some "Return a copy of the string converted to uppercase." }),
  ("startswith", {
    text := some (
      "S.startswith(prefix[, start[, end]]) -> bool\n\nReturn True if S starts with the specified prefix, " ++
      "False otherwise.\nWith optional start, test S beginning at that position.\nWith optional end, stop " ++
      "comparing S at that position.\nprefix can also be a tuple of strings to try.") }),
  ("endswith", {
    text := some (
      "S.endswith(suffix[, start[, end]]) -> bool\n\nReturn True if S ends with the specified suffix, " ++
      "False otherwise.\nWith optional start, test S beginning at that position.\nWith optional end, stop " ++
      "comparing S at that position.\nsuffix can also be a tuple of strings to try.") }),
  ("removeprefix", {
    signature := some "($self, prefix, /)",
    text := some (
      "Return a str with the given prefix string removed if present.\n\nIf the string starts with the " ++
      "prefix string, return string[len(prefix):].\nOtherwise, return a copy of the original string.") }),
  ("removesuffix", {
    signature := some "($self, suffix, /)",
    text := some (
      "Return a str with the given suffix string removed if present.\n\nIf the string ends with the suffix " ++
      "string and that suffix is not empty,\nreturn string[:-len(suffix)]. Otherwise, return a copy of the " ++
      "original\nstring.") }),
  ("isascii", {
    signature := some "($self, /)",
    text := some (
      "Return True if all characters in the string are ASCII, False otherwise.\n\nASCII characters have " ++
      "code points in the range U+0000-U+007F.\nEmpty string is ASCII too.") }),
  ("islower", {
    signature := some "($self, /)",
    text := some (
      "Return True if the string is a lowercase string, False otherwise.\n\nA string is lowercase if all " ++
      "cased characters in the string are lowercase and\nthere is at least one cased character in the " ++
      "string.") }),
  ("isupper", {
    signature := some "($self, /)",
    text := some (
      "Return True if the string is an uppercase string, False otherwise.\n\nA string is uppercase if all " ++
      "cased characters in the string are uppercase and\nthere is at least one cased character in the " ++
      "string.") }),
  ("istitle", {
    signature := some "($self, /)",
    text := some (
      "Return True if the string is a title-cased string, False otherwise.\n\nIn a title-cased string, " ++
      "upper- and title-case characters may only\nfollow uncased characters and lowercase characters only " ++
      "cased ones.") }),
  ("isspace", {
    signature := some "($self, /)",
    text := some (
      "Return True if the string is a whitespace string, False otherwise.\n\nA string is whitespace if all " ++
      "characters in the string are whitespace and there\nis at least one character in the string.") }),
  ("isdecimal", {
    signature := some "($self, /)",
    text := some (
      "Return True if the string is a decimal string, False otherwise.\n\nA string is a decimal string if " ++
      "all characters in the string are decimal and\nthere is at least one character in the string.") }),
  ("isdigit", {
    signature := some "($self, /)",
    text := some (
      "Return True if the string is a digit string, False otherwise.\n\nA string is a digit string if all " ++
      "characters in the string are digits and there\nis at least one character in the string.") }),
  ("isnumeric", {
    signature := some "($self, /)",
    text := some (
      "Return True if the string is a numeric string, False otherwise.\n\nA string is numeric if all " ++
      "characters in the string are numeric and there is at\nleast one character in the string.") }),
  ("isalpha", {
    signature := some "($self, /)",
    text := some (
      "Return True if the string is an alphabetic string, False otherwise.\n\nA string is alphabetic if " ++
      "all characters in the string are alphabetic and there\nis at least one character in the string.") }),
  ("isalnum", {
    signature := some "($self, /)",
    text := some (
      "Return True if the string is an alpha-numeric string, False otherwise.\n\nA string is alpha-numeric " ++
      "if all characters in the string are alpha-numeric and\nthere is at least one character in the " ++
      "string.") }),
  ("isidentifier", {
    signature := some "($self, /)",
    text := some (
      "Return True if the string is a valid Python identifier, False otherwise.\n\nCall " ++
      "keyword.iskeyword(s) to test whether string s is a reserved identifier,\nsuch as \"def\" or \"class" ++
      "\".") }),
  ("isprintable", {
    signature := some "($self, /)",
    text := some (
      "Return True if the string is printable, False otherwise.\n\nA string is printable if all of its " ++
      "characters are considered printable in\nrepr() or if it is empty.") }),
  ("zfill", {
    signature := some "($self, width, /)",
    text := some (
      "Pad a numeric string with zeros on the left, to fill a field of the given width.\n\nThe string is " ++
      "never truncated.") }),
  ("format", {
    text := some (
      "S.format(*args, **kwargs) -> str\n\nReturn a formatted version of S, using substitutions from args " ++
      "and kwargs.\nThe substitutions are identified by braces ('\x7b' and '\x7d').") }),
  ("format_map", {
    text := some (
      "S.format_map(mapping) -> str\n\nReturn a formatted version of S, using substitutions from mapping.\n" ++
      "The substitutions are identified by braces ('\x7b' and '\x7d').") }),
  ("__format__", {
    signature := some "($self, format_spec, /)",
    text := some "Return a formatted version of the string as described by format_spec." }),
  ("maketrans", {
    signature := some "(x, y=<unrepresentable>, z=<unrepresentable>, /)",
    text := some (
      "Return a translation table usable for str.translate().\n\nIf there is only one argument, it must be " ++
      "a dictionary mapping Unicode\nordinals (integers) or characters to Unicode ordinals, strings or " ++
      "None.\nCharacter keys will be then converted to ordinals.\nIf there are two arguments, they must be " ++
      "strings of equal length, and\nin the resulting dictionary, each character in x will be mapped to the" ++
      "\ncharacter at the same position in y. If there is a third argument, it\nmust be a string, whose " ++
      "characters will be mapped to None in the result.") }),
  ("__sizeof__", { signature := some "($self, /)", text := some "Return the size of the string in memory, in bytes." }),
  ("__getnewargs__", { signature := some "($self, /)" }),
  ("__setattr__", { signature := some "($self, name, value, /)", text := some "Implement setattr(self, name, value)." }),
  ("__delattr__", { signature := some "($self, name, /)", text := some "Implement delattr(self, name)." }),
  ("__init__", {
    signature := some "($self, /, *args, **kwargs)",
    text := some "Initialize self.  See help(type(self)) for accurate signature." }),
  ("__reduce_ex__", { signature := some "($self, protocol, /)", text := some "Helper for pickle." }),
  ("__getstate__", { signature := some "($self, /)", text := some "Helper for pickle." }),
  ("__subclasshook__", {
    text := some (
      "Abstract classes can override this to customize issubclass().\n\nThis is invoked early on by " ++
      "abc.ABCMeta.__subclasscheck__().\nIt should return True, False or NotImplemented.  If it returns\n" ++
      "NotImplemented, the normal algorithm is used.  Otherwise, it\noverrides the normal algorithm (and " ++
      "the outcome is cached).\n") }),
  ("__init_subclass__", {
    text := some (
      "This method is called when a class is subclassed.\n\nThe default implementation does nothing. It " ++
      "may be\noverridden to extend subclasses.\n") }),
  ("__dir__", { signature := some "($self, /)", text := some "Default dir() implementation." }),
  ("__class__", { text := some "the object's class" }),
  ("__call__", { signature := some "($self, /, *args, **kwargs)", text := some "Call self as a function." }),
  ("__or__", { signature := some "($self, value, /)", text := some "Return self|value." }),
  ("__ror__", { signature := some "($self, value, /)", text := some "Return value|self." }),
  ("mro", { signature := some "($self, /)", text := some "Return a type's method resolution order." }),
  ("__subclasses__", { signature := some "($self, /)", text := some "Return a list of immediate subclasses." }),
  ("__prepare__", { text := some "__prepare__() -> dict\nused to create the namespace for the class statement" }),
  ("__instancecheck__", { signature := some "($self, instance, /)", text := some "Check if an object is an instance." }),
  ("__subclasscheck__", { signature := some "($self, subclass, /)", text := some "Check if a class is a subclass." }),
  ("__radd__", { signature := some "($self, value, /)", text := some "Return value+self." }),
  ("__sub__", { signature := some "($self, value, /)", text := some "Return self-value." }),
  ("__rsub__", { signature := some "($self, value, /)", text := some "Return value-self." }),
  ("__divmod__", { signature := some "($self, value, /)", text := some "Return divmod(self, value)." }),
  ("__rdivmod__", { signature := some "($self, value, /)", text := some "Return divmod(value, self)." }),
  ("__pow__", { signature := some "($self, value, mod=None, /)", text := some "Return pow(self, value, mod)." }),
  ("__rpow__", { signature := some "($self, value, mod=None, /)", text := some "Return pow(value, self, mod)." }),
  ("__neg__", { signature := some "($self, /)", text := some "-self" }),
  ("__pos__", { signature := some "($self, /)", text := some "+self" }),
  ("__abs__", { signature := some "($self, /)", text := some "abs(self)" }),
  ("__bool__", { signature := some "($self, /)", text := some "True if self else False" }),
  ("__invert__", { signature := some "($self, /)", text := some "~self" }),
  ("__lshift__", { signature := some "($self, value, /)", text := some "Return self<<value." }),
  ("__rlshift__", { signature := some "($self, value, /)", text := some "Return value<<self." }),
  ("__rshift__", { signature := some "($self, value, /)", text := some "Return self>>value." }),
  ("__rrshift__", { signature := some "($self, value, /)", text := some "Return value>>self." }),
  ("__and__", { signature := some "($self, value, /)", text := some "Return self&value." }),
  ("__rand__", { signature := some "($self, value, /)", text := some "Return value&self." }),
  ("__xor__", { signature := some "($self, value, /)", text := some "Return self^value." }),
  ("__rxor__", { signature := some "($self, value, /)", text := some "Return value^self." }),
  ("__int__", { signature := some "($self, /)", text := some "int(self)" }),
  ("__float__", { signature := some "($self, /)", text := some "float(self)" }),
  ("__floordiv__", { signature := some "($self, value, /)", text := some "Return self//value." }),
  ("__rfloordiv__", { signature := some "($self, value, /)", text := some "Return value//self." }),
  ("__truediv__", { signature := some "($self, value, /)", text := some "Return self/value." }),
  ("__rtruediv__", { signature := some "($self, value, /)", text := some "Return value/self." }),
  ("__index__", {
    signature := some "($self, /)",
    text := some "Return self converted to an integer, if self is suitable for use as an index into a list." }),
  ("conjugate", { text := some "Returns self, the complex conjugate of any int." }),
  ("bit_length", {
    signature := some "($self, /)",
    text := some (
      "Number of bits necessary to represent self in binary.\n\n>>> bin(37)\n'0b100101'\n>>> " ++
      "(37).bit_length()\n6") }),
  ("bit_count", {
    signature := some "($self, /)",
    text := some (
      "Number of ones in the binary representation of the absolute value of self.\n\nAlso known as the " ++
      "population count.\n\n>>> bin(13)\n'0b1101'\n>>> (13).bit_count()\n3") }),
  ("to_bytes", {
    signature := some "($self, /, length=1, byteorder='big', *, signed=False)",
    text := some (
      "Return an array of bytes representing an integer.\n\n  length\n    Length of bytes object to use.  " ++
      "An OverflowError is raised if the\n    integer is not representable with the given number of " ++
      "bytes.  Default\n    is length 1.\n  byteorder\n    The byte order used to represent the integer.  " ++
      "If byteorder is 'big',\n    the most significant byte is at the beginning of the byte array.  If\n" ++
      "    byteorder is 'little', the most significant byte is at the end of the\n    byte array.  To " ++
      "request the native byte order of the host system, use\n    `sys.byteorder' as the byte order " ++
      "value.  Default is to use 'big'.\n  signed\n    Determines whether two's complement is used to " ++
      "represent the integer.\n    If signed is False and a negative integer is given, an OverflowError\n" ++
      "    is raised.") }),
  ("from_bytes", {
    signature := some "($type, /, bytes, byteorder='big', *, signed=False)",
    text := some (
      "Return the integer represented by the given array of bytes.\n\n  bytes\n    Holds the array of " ++
      "bytes to convert.  The argument must either\n    support the buffer protocol or be an iterable " ++
      "object producing bytes.\n    Bytes and bytearray are examples of built-in objects that support the\n" ++
      "    buffer protocol.\n  byteorder\n    The byte order used to represent the integer.  If byteorder " ++
      "is 'big',\n    the most significant byte is at the beginning of the byte array.  If\n    byteorder " ++
      "is 'little', the most significant byte is at the end of the\n    byte array.  To request the native " ++
      "byte order of the host system, use\n    `sys.byteorder' as the byte order value.  Default is to use " ++
      "'big'.\n  signed\n    Indicates whether two's complement is used to represent the integer.") }),
  ("as_integer_ratio", {
    signature := some "($self, /)",
    text := some (
      "Return integer ratio.\n\nReturn a pair of integers, whose ratio is exactly equal to the original int" ++
      "\nand with a positive denominator.\n\n>>> (10).as_integer_ratio()\n(10, 1)\n>>> " ++
      "(-10).as_integer_ratio()\n(-10, 1)\n>>> (0).as_integer_ratio()\n(0, 1)") }),
  ("__trunc__", { text := some "Truncating an Integral returns itself." }),
  ("__floor__", { text := some "Flooring an Integral returns itself." }),
  ("__ceil__", { text := some "Ceiling of an Integral returns itself." }),
  ("__round__", {
    signature := some "($self, ndigits=<unrepresentable>, /)",
    text := some "Rounding an Integral returns itself.\n\nRounding with an ndigits argument also returns an integer." }),
  ("real", { text := some "the real part of a complex number" }),
  ("imag", { text := some "the imaginary part of a complex number" }),
  ("numerator", { text := some "the numerator of a rational number in lowest terms" }),
  ("denominator", { text := some "the denominator of a rational number in lowest terms" }),
  ("__class_getitem__", { text := some "See PEP 585" }),
  ("__get__", {
    signature := some "($self, instance, owner=None, /)",
    text := some "Return an attribute of instance, which is of type owner." }),
  ("__set__", { signature := some "($self, instance, value, /)", text := some "Set an attribute of instance to value." }),
  ("__delete__", { signature := some "($self, instance, /)", text := some "Delete an attribute of instance." }),
  ("__ior__", { signature := some "($self, value, /)", text := some "Return self|=value." }),
  ("get", { text := some "D.get(k[,d]) -> D[k] if k in D, else d.  d defaults to None." }),
  ("keys", { text := some "D.keys() -> a set-like object providing a view on D's keys" }),
  ("values", { text := some "D.values() -> an object providing a view on D's values" }),
  ("items", { text := some "D.items() -> a set-like object providing a view on D's items" }),
  ("copy", { text := some "D.copy() -> a shallow copy of D" }),
  ("__reversed__", { text := some "D.__reversed__() -> reverse iterator" }),
  ("__setitem__", { signature := some "($self, key, value, /)", text := some "Set self[key] to value." }),
  ("__delitem__", { signature := some "($self, key, /)", text := some "Delete self[key]." }),
  ("setdefault", {
    signature := some "($self, key, default=None, /)",
    text := some (
      "Insert key with a value of default if key is not in the dictionary.\n\nReturn the value for key if " ++
      "key is in the dictionary, else default.") }),
  ("pop", {
    signature := some "($self, key, default=<unrepresentable>, /)",
    text := some (
      "D.pop(k[,d]) -> v, remove specified key and return the corresponding value.\n\nIf the key is not " ++
      "found, return the default if given; otherwise,\nraise a KeyError.") }),
  ("popitem", {
    signature := some "($self, /)",
    text := some (
      "Remove and return a (key, value) pair as a 2-tuple.\n\nPairs are returned in LIFO (last-in, " ++
      "first-out) order.\nRaises KeyError if the dict is empty.") }),
  ("update", {
    text := some (
      "D.update([E, ]**F) -> None.  Update D from dict/iterable E and F.\nIf E is present and has a " ++
      ".keys() method, then does:  for k in E: D[k] = E[k]\nIf E is present and lacks a .keys() method, " ++
      "then does:  for k, v in E: D[k] = v\nIn either case, this is followed by: for k in F:  D[k] = F[k]") }),
  ("fromkeys", {
    signature := some "($type, iterable, value=None, /)",
    text := some "Create a new dictionary with keys from iterable and values set to value." }),
  ("clear", { text := some "D.clear() -> None.  Remove all items from D." }),
  ("__parameters__", { text := some "Type variables in the GenericAlias." })]

def special : List ((MemberClass × String) × Description) := [
  ((.table, "__getitem__"), { text := some "x.__getitem__(y) <==> x[y]" }),
  ((.table, "__contains__"), {
    signature := some "($self, key, /)",
    text := some "True if the dictionary has the specified key, else False." }),
  ((.tuple, "count"), { signature := some "($self, value, /)", text := some "Return number of occurrences of value." }),
  ((.tuple, "index"), {
    signature := some "($self, value, start=0, stop=sys.maxsize, /)",
    text := some "Return first index of value.\n\nRaises ValueError if the value is not present." }),
  ((.general, "__format__"), { signature := some "($self, format_spec, /)", text := some "Default object formatter." }),
  ((.number, "__format__"), { signature := some "($self, format_spec, /)" }),
  ((.general, "__sizeof__"), { signature := some "($self, /)", text := some "Size of object in memory, in bytes." }),
  ((.ofClasses, "__sizeof__"), { signature := some "($self, /)", text := some "Return memory consumption of the type object." }),
  ((.number, "__sizeof__"), { signature := some "($self, /)", text := some "Returns size in memory, in bytes." }),
  ((.table, "__sizeof__"), { text := some "D.__sizeof__() -> size of D in memory, in bytes" }),
  ((.text, "__getnewargs__"), { }),
  ((.general, "__reduce__"), { signature := some "($self, /)", text := some "Helper for pickle." }),
  ((.ofClasses, "__dir__"), { signature := some "($self, /)", text := some "Specialized __dir__ implementation for types." }),
  ((.filled, "__dir__"), { }),
  ((.filled, "__instancecheck__"), { }),
  ((.filled, "__subclasscheck__"), { }),
  ((.table, "get"), {
    signature := some "($self, key, default=None, /)",
    text := some "Return the value for key if key is in the dictionary, else default." }),
  ((.table, "__reversed__"), { signature := some "($self, /)", text := some "Return a reverse iterator over the dict keys." })]

def find (c : MemberClass) (name : String) : Description :=
  ((special.lookup (c, name)).orElse fun _ => common.lookup name).getD {}

end Description

namespace MemberClass

def doc? : MemberClass → Option String
  | text => some (
      "str(object='') -> str\nstr(bytes_or_buffer[, encoding[, errors]]) -> str\n\nCreate a new string " ++
        "object from the given object. If encoding or\nerrors is specified, then the object must expose a " ++
        "data buffer\nthat will be decoded using the given encoding and error handler.\nOtherwise, returns " ++
        "the result of object.__str__() (if defined)\nor repr(object).\nencoding defaults to " ++
        "sys.getdefaultencoding().\nerrors defaults to 'strict'.")
  | general => some (
      "The base class of the class hierarchy.\n\nWhen called, it accepts no arguments and returns a new " ++
        "featureless\ninstance that has no instance attributes and cannot be given any.\n")
  | ofClasses => some (
      "type(object) -> the object's type\ntype(name, bases, dict, **kwds) -> a new type")
  | number => some (
      "int([x]) -> integer\nint(x, base=10) -> integer\n\nConvert a number or string to an integer, or " ++
        "return 0 if no arguments\nare given.  If x is a number, return x.__int__().  For floating point\n" ++
        "numbers, this truncates towards zero.\n\nIf x is not a number or if base is given, then x must be " ++
        "a string,\nbytes, or bytearray instance representing an integer literal in the\ngiven base.  The " ++
        "literal can be preceded by '+' or '-' and be surrounded\nby whitespace.  The base defaults to " ++
        "10.  Valid bases are 0 and 2-36.\nBase 0 means to interpret the base from the string as an " ++
        "integer literal.\n>>> int('0b100', base=0)\n4")
  | truth => some (
      "bool(x) -> bool\n\nReturns True when the argument x is true, False otherwise.\nThe builtins True " ++
        "and False are the only two instances of the class bool.\nThe class bool is a subclass of the " ++
        "class int, and cannot be subclassed.")
  | tuple => some (
      "Built-in immutable sequence.\n\nIf no argument is given, the constructor returns an empty tuple.\n" ++
        "If iterable is specified the tuple is initialized from iterable's items.\n\nIf the argument is a " ++
        "tuple, the return value is the same object.")
  | free => some (
      "staticmethod(function) -> method\n\nConvert a function to be a static method.\n\nA static method " ++
        "does not receive an implicit first argument.\nTo declare a static method, use this idiom:\n\n     " ++
        "class C:\n         @staticmethod\n         def f(arg1, arg2, argN):\n             ...\n\nIt can " ++
        "be called either on the class (e.g. C.f()) or on an instance\n(e.g. C().f()). Both the class and " ++
        "the instance are ignored, and\nneither is passed implicitly as the first argument to the method.\n" ++
        "\nStatic methods in Python are similar to those found in Java or C++.\nFor a more advanced " ++
        "concept, see the classmethod builtin.")
  | table => some (
      "dict() -> new empty dictionary\ndict(mapping) -> new dictionary initialized from a mapping " ++
        "object's\n    (key, value) pairs\ndict(iterable) -> new dictionary initialized as if via:\n    d " ++
        "= \x7b\x7d\n    for k, v in iterable:\n        d[k] = v\ndict(**kwargs) -> new dictionary " ++
        "initialized with the name=value pairs\n    in the keyword argument list.  For example:  " ++
        "dict(one=1, two=2)")
  | filled => some (
      "Represent a PEP 585 generic type\n\nE.g. for t = list[int], t.__origin__ is list and t.__args__ " ++
        "is (int,).")
  | _ => none

def signature? : MemberClass → Option String
  | general => some "()"
  | tuple => some "(iterable=(), /)"
  | _ => none

end MemberClass

end LogMill
