import CachePolicy.Value.Routine.Basic

/-!
# Routines of texts and octets

A buffer of octets has most of the routines of fixed octets, and those that change it.
-/

namespace CachePolicy.Routine

def ofText : List Routine :=
  operators ["add", "contains", "eq", "ge", "getattribute", "getitem", "gt", "hash", "iter", "le",
      "len", "lt", "mod", "mul", "ne", "repr", "rmod", "rmul", "str"] ++
  [creator] ++
  methods ["__getnewargs__"] ++
  [method "__format__" "($self, format_spec, /)"
     "Return a formatted version of the string as described by format_spec.",
   method "__sizeof__" "($self, /)" "Return the size of the string in memory, in bytes.",
   method "capitalize" "($self, /)"
     (words ["Return a capitalized version of the string.\n\nMore specifically, make the ",
             "first character have upper case and the rest lower\ncase."]),
   method "casefold" "($self, /)"
     "Return a version of the string suitable for caseless comparisons.",
   method "center" "($self, width, fillchar=' ', /)"
     (words ["Return a centered string of length width.\n\nPadding is done using the ",
             "specified fill character (default is a space)."]),
   lengthy .method "count" "",
   lengthy .method "encode" "($self, /, encoding='utf-8', errors='strict')",
   lengthy .method "endswith" "",
   method "expandtabs" "($self, /, tabsize=8)"
     (words ["Return a copy where all tab characters are expanded using spaces.\n\nIf tabsize ",
             "is not given, a tab size of 8 characters is assumed."]),
   lengthy .method "find" "",
   lengthy .method "format" "",
   method "format_map" ""
     (words ["S.format_map(mapping) -> str\n\nReturn a formatted version of S, using ",
             "substitutions from mapping.\nThe substitutions are identified by braces ('\x7b' ",
             "and '\x7d')."]),
   lengthy .method "index" "",
   lengthy .method "isalnum" "($self, /)",
   lengthy .method "isalpha" "($self, /)",
   lengthy .method "isascii" "($self, /)",
   lengthy .method "isdecimal" "($self, /)",
   lengthy .method "isdigit" "($self, /)",
   lengthy .method "isidentifier" "($self, /)",
   lengthy .method "islower" "($self, /)",
   lengthy .method "isnumeric" "($self, /)",
   method "isprintable" "($self, /)"
     (words ["Return True if the string is printable, False otherwise.\n\nA string is ",
             "printable if all of its characters are considered printable in\nrepr() or if it ",
             "is empty."]),
   lengthy .method "isspace" "($self, /)",
   lengthy .method "istitle" "($self, /)",
   lengthy .method "isupper" "($self, /)",
   lengthy .method "join" "($self, iterable, /)",
   method "ljust" "($self, width, fillchar=' ', /)"
     (words ["Return a left-justified string of length width.\n\nPadding is done using the ",
             "specified fill character (default is a space)."]),
   method "lower" "($self, /)" "Return a copy of the string converted to lowercase.",
   method "lstrip" "($self, chars=None, /)"
     (words ["Return a copy of the string with leading whitespace removed.\n\nIf chars is ",
             "given and not None, remove characters in chars instead."]),
   lengthy .shared "maketrans" "(x, y=<unrepresentable>, z=<unrepresentable>, /)",
   lengthy .method "partition" "($self, sep, /)",
   lengthy .method "removeprefix" "($self, prefix, /)",
   lengthy .method "removesuffix" "($self, suffix, /)",
   lengthy .method "replace" "($self, old, new, count=-1, /)",
   lengthy .method "rfind" "",
   lengthy .method "rindex" "",
   method "rjust" "($self, width, fillchar=' ', /)"
     (words ["Return a right-justified string of length width.\n\nPadding is done using the ",
             "specified fill character (default is a space)."]),
   lengthy .method "rpartition" "($self, sep, /)",
   lengthy .method "rsplit" "($self, /, sep=None, maxsplit=-1)",
   method "rstrip" "($self, chars=None, /)"
     (words ["Return a copy of the string with trailing whitespace removed.\n\nIf chars is ",
             "given and not None, remove characters in chars instead."]),
   lengthy .method "split" "($self, /, sep=None, maxsplit=-1)",
   method "splitlines" "($self, /, keepends=False)"
     (words ["Return a list of the lines in the string, breaking at line boundaries.\n\nLine ",
             "breaks are not included in the resulting list unless keepends is given and\n",
             "true."]),
   lengthy .method "startswith" "",
   method "strip" "($self, chars=None, /)"
     (words ["Return a copy of the string with leading and trailing whitespace removed.\n\nIf ",
             "chars is given and not None, remove characters in chars instead."]),
   method "swapcase" "($self, /)"
     "Convert uppercase characters to lowercase and lowercase characters to uppercase.",
   lengthy .method "title" "($self, /)",
   lengthy .method "translate" "($self, table, /)",
   method "upper" "($self, /)" "Return a copy of the string converted to uppercase.",
   method "zfill" "($self, width, /)"
     (words ["Pad a numeric string with zeros on the left, to fill a field of the given ",
             "width.\n\nThe string is never truncated."])]

def ofOctets : List Routine :=
  [method "capitalize" ""
     (words ["B.capitalize() -> copy of B\n\nReturn a copy of B with only its first character ",
             "capitalized (ASCII)\nand the rest lower-cased."]),
   method "center" "($self, width, fillchar=b' ', /)"
     (words ["Return a centered string of length width.\n\nPadding is done using the ",
             "specified fill character."]),
   lengthy .method "count" "",
   lengthy .method "endswith" "",
   method "expandtabs" "($self, /, tabsize=8)"
     (words ["Return a copy where all tab characters are expanded using spaces.\n\nIf tabsize ",
             "is not given, a tab size of 8 characters is assumed."]),
   lengthy .method "find" "",
   lengthy .method "index" "",
   method "isalnum" ""
     (words ["B.isalnum() -> bool\n\nReturn True if all characters in B are alphanumeric\nand ",
             "there is at least one character in B, False otherwise."]),
   method "isalpha" ""
     (words ["B.isalpha() -> bool\n\nReturn True if all characters in B are alphabetic\nand ",
             "there is at least one character in B, False otherwise."]),
   method "isascii" ""
     (words ["B.isascii() -> bool\n\nReturn True if B is empty or all characters in B are ",
             "ASCII,\nFalse otherwise."]),
   method "isdigit" ""
     (words ["B.isdigit() -> bool\n\nReturn True if all characters in B are digits\nand there ",
             "is at least one character in B, False otherwise."]),
   method "islower" ""
     (words ["B.islower() -> bool\n\nReturn True if all cased characters in B are lowercase ",
             "and there is\nat least one cased character in B, False otherwise."]),
   method "isspace" ""
     (words ["B.isspace() -> bool\n\nReturn True if all characters in B are whitespace\nand ",
             "there is at least one character in B, False otherwise."]),
   lengthy .method "istitle" "",
   method "isupper" ""
     (words ["B.isupper() -> bool\n\nReturn True if all cased characters in B are uppercase ",
             "and there is\nat least one cased character in B, False otherwise."]),
   method "ljust" "($self, width, fillchar=b' ', /)"
     (words ["Return a left-justified string of length width.\n\nPadding is done using the ",
             "specified fill character."]),
   method "lower" ""
     (words ["B.lower() -> copy of B\n\nReturn a copy of B with all ASCII characters ",
             "converted to lowercase."]),
   lengthy .shared "maketrans" "(frm, to, /)",
   lengthy .method "replace" "($self, old, new, count=-1, /)",
   lengthy .method "rfind" "",
   lengthy .method "rindex" "",
   method "rjust" "($self, width, fillchar=b' ', /)"
     (words ["Return a right-justified string of length width.\n\nPadding is done using the ",
             "specified fill character."]),
   method "rstrip" "($self, bytes=None, /)"
     (words ["Strip trailing bytes contained in the argument.\n\nIf the argument is omitted ",
             "or None, strip trailing ASCII whitespace."]),
   lengthy .method "startswith" "",
   method "strip" "($self, bytes=None, /)"
     (words ["Strip leading and trailing bytes contained in the argument.\n\nIf the argument ",
             "is omitted or None, strip leading and trailing ASCII whitespace."]),
   method "swapcase" ""
     (words ["B.swapcase() -> copy of B\n\nReturn a copy of B with uppercase ASCII characters ",
             "converted\nto lowercase ASCII and vice versa."]),
   method "title" ""
     (words ["B.title() -> copy of B\n\nReturn a titlecased version of B, i.e. ASCII words ",
             "start with uppercase\ncharacters, all remaining cased characters have lowercase."]),
   lengthy .method "translate" "($self, table, /, delete=b'')",
   method "upper" ""
     (words ["B.upper() -> copy of B\n\nReturn a copy of B with all ASCII characters ",
             "converted to uppercase."]),
   method "zfill" "($self, width, /)"
     (words ["Pad a numeric string with zeros on the left, to fill a field of the given ",
             "width.\n\nThe original string is never truncated."])]

def ofBytes : List Routine :=
  operators ["add", "contains", "eq", "ge", "getattribute", "getitem", "gt", "hash", "iter", "le",
      "len", "lt", "mod", "mul", "ne", "repr", "rmod", "rmul", "str"] ++
  [creator] ++
  methods ["__getnewargs__"] ++
  [method "__bytes__" "($self, /)" "Convert this value to exact type bytes.",
   lengthy .method "decode" "($self, /, encoding='utf-8', errors='strict')",
   ofClass "fromhex" "($type, string, /)"
     (words ["Create a bytes object from a string of hexadecimal numbers.\n\nSpaces between ",
             "two numbers are accepted.\nExample: bytes.fromhex('B9 01EF') -> ",
             "b'\\\\xb9\\\\x01\\\\xef'."]),
   lengthy .method "hex" "($self, /, sep=<unrepresentable>, bytes_per_sep=1)",
   lengthy .method "join" "($self, iterable_of_bytes, /)",
   method "lstrip" "($self, bytes=None, /)"
     (words ["Strip leading bytes contained in the argument.\n\nIf the argument is omitted or ",
             "None, strip leading  ASCII whitespace."]),
   lengthy .method "partition" "($self, sep, /)",
   lengthy .method "removeprefix" "($self, prefix, /)",
   lengthy .method "removesuffix" "($self, suffix, /)",
   lengthy .method "rpartition" "($self, sep, /)",
   lengthy .method "rsplit" "($self, /, sep=None, maxsplit=-1)",
   lengthy .method "split" "($self, /, sep=None, maxsplit=-1)",
   method "splitlines" "($self, /, keepends=False)"
     (words ["Return a list of the lines in the bytes, breaking at line boundaries.\n\nLine ",
             "breaks are not included in the resulting list unless keepends is given and\n",
             "true."])]

def ofBuffer : List Routine :=
  operators ["add", "contains", "delitem", "eq", "ge", "getattribute", "getitem", "gt", "iadd",
      "imul", "init", "iter", "le", "len", "lt", "mod", "mul", "ne", "repr", "rmod", "rmul",
      "setitem", "str"] ++
  [creator] ++
  [method "__alloc__" ""
     "B.__alloc__() -> int\n\nReturn the number of bytes actually allocated.",
   method "__reduce__" "($self, /)" "Return state information for pickling.",
   method "__reduce_ex__" "($self, proto=0, /)" "Return state information for pickling.",
   method "__sizeof__" "($self, /)"
     "Returns the size of the bytearray object in memory, in bytes.",
   method "append" "($self, item, /)"
     "Append a single item to the end of the bytearray.\n\n  item\n    The item to be appended.",
   method "clear" "($self, /)" "Remove all items from the bytearray.",
   method "copy" "($self, /)" "Return a copy of B.",
   lengthy .method "decode" "($self, /, encoding='utf-8', errors='strict')",
   method "extend" "($self, iterable_of_ints, /)"
     (words ["Append all the items from the iterator or sequence to the end of the ",
             "bytearray.\n\n  iterable_of_ints\n    The iterable of items to append."]),
   lengthy .ofClass "fromhex" "($type, string, /)",
   lengthy .method "hex" "($self, /, sep=<unrepresentable>, bytes_per_sep=1)",
   method "insert" "($self, index, item, /)"
     (words ["Insert a single item into the bytearray before the given index.\n\n  index\n    ",
             "The index where the value is to be inserted.\n  item\n    The item to be ",
             "inserted."]),
   lengthy .method "join" "($self, iterable_of_bytes, /)",
   method "lstrip" "($self, bytes=None, /)"
     (words ["Strip leading bytes contained in the argument.\n\nIf the argument is omitted or ",
             "None, strip leading ASCII whitespace."]),
   lengthy .method "partition" "($self, sep, /)",
   lengthy .method "pop" "($self, index=-1, /)",
   method "remove" "($self, value, /)"
     (words ["Remove the first occurrence of a value in the bytearray.\n\n  value\n    The ",
             "value to remove."]),
   lengthy .method "removeprefix" "($self, prefix, /)",
   lengthy .method "removesuffix" "($self, suffix, /)",
   method "reverse" "($self, /)" "Reverse the order of the values in B in place.",
   lengthy .method "rpartition" "($self, sep, /)",
   lengthy .method "rsplit" "($self, /, sep=None, maxsplit=-1)",
   lengthy .method "split" "($self, /, sep=None, maxsplit=-1)",
   method "splitlines" "($self, /, keepends=False)"
     (words ["Return a list of the lines in the bytearray, breaking at line boundaries.\n\n",
             "Line breaks are not included in the resulting list unless keepends is given ",
             "and\ntrue."])]

end CachePolicy.Routine
