import CachePolicy.Value.Routine.Basic

/-!
# Routines of numbers

The routines of flags, integers, binary and decimal numbers, and those that every value has.
-/

namespace CachePolicy.Routine

def ofObject : List Routine :=
  operators ["delattr", "eq", "ge", "getattribute", "gt", "hash", "init", "le", "lt", "ne",
      "repr", "setattr", "str"] ++
  [creator] ++
  [reader "__class__" "the object's class",
   method "__dir__" "($self, /)" "Default dir() implementation.",
   method "__format__" "($self, format_spec, /)" "Default object formatter.",
   method "__getstate__" "($self, /)" "Helper for pickle.",
   ofClass "__init_subclass__" ""
     (words ["This method is called when a class is subclassed.\n\nThe default implementation ",
             "does nothing. It may be\noverridden to extend subclasses.\n"]),
   method "__reduce__" "($self, /)" "Helper for pickle.",
   method "__reduce_ex__" "($self, protocol, /)" "Helper for pickle.",
   method "__sizeof__" "($self, /)" "Size of object in memory, in bytes.",
   lengthy .ofClass "__subclasshook__" ""]

def ofNull : List Routine :=
  operators ["bool", "repr"] ++ [creator]

/-- The routines of flags that integers do not give them. -/
def ofFlag : List Routine :=
  operators ["and", "or", "rand", "repr", "ror", "rxor", "xor"] ++ [creator]

def ofInt : List Routine :=
  operators ["abs", "add", "and", "bool", "divmod", "eq", "float", "floordiv", "ge",
      "getattribute", "gt", "hash", "index", "int", "invert", "le", "lshift", "lt", "mod", "mul",
      "ne", "neg", "or", "pos", "pow", "radd", "rand", "rdivmod", "repr", "rfloordiv", "rlshift",
      "rmod", "rmul", "ror", "rpow", "rrshift", "rshift", "rsub", "rtruediv", "rxor", "sub",
      "truediv", "xor"] ++
  [creator] ++
  [method "__ceil__" "" "Ceiling of an Integral returns itself.",
   method "__floor__" "" "Flooring an Integral returns itself.",
   method "__format__" "($self, format_spec, /)" "",
   method "__getnewargs__" "($self, /)" "",
   method "__round__" "($self, ndigits=<unrepresentable>, /)"
     (words ["Rounding an Integral returns itself.\n\nRounding with an ndigits argument also ",
             "returns an integer."]),
   method "__sizeof__" "($self, /)" "Returns size in memory, in bytes.",
   method "__trunc__" "" "Truncating an Integral returns itself.",
   lengthy .method "as_integer_ratio" "($self, /)",
   method "bit_count" "($self, /)"
     (words ["Number of ones in the binary representation of the absolute value of self.\n\n",
             "Also known as the population count.\n\n>>> bin(13)\n'0b1101'\n>>> ",
             "(13).bit_count()\n3"]),
   method "bit_length" "($self, /)"
     (words ["Number of bits necessary to represent self in binary.\n\n>>> bin(37)\n",
             "'0b100101'\n>>> (37).bit_length()\n6"]),
   method "conjugate" "" "Returns self, the complex conjugate of any int.",
   reader "denominator" "the denominator of a rational number in lowest terms",
   lengthy .ofClass "from_bytes" "($type, /, bytes, byteorder='big', *, signed=False)",
   reader "imag" "the imaginary part of a complex number",
   reader "numerator" "the numerator of a rational number in lowest terms",
   reader "real" "the real part of a complex number",
   lengthy .method "to_bytes" "($self, /, length=1, byteorder='big', *, signed=False)"]

def ofFloat : List Routine :=
  operators ["abs", "add", "bool", "divmod", "eq", "float", "floordiv", "ge", "getattribute",
      "gt", "hash", "int", "le", "lt", "mod", "mul", "ne", "neg", "pos", "pow", "radd", "rdivmod",
      "repr", "rfloordiv", "rmod", "rmul", "rpow", "rsub", "rtruediv", "sub", "truediv"] ++
  [creator] ++
  [method "__ceil__" "($self, /)" "Return the ceiling as an Integral.",
   method "__floor__" "($self, /)" "Return the floor as an Integral.",
   method "__format__" "($self, format_spec, /)" "Formats the float according to format_spec.",
   lengthy .ofClass "__getformat__" "($type, typestr, /)",
   method "__getnewargs__" "($self, /)" "",
   method "__round__" "($self, ndigits=None, /)"
     (words ["Return the Integral closest to x, rounding half toward even.\n\nWhen an ",
             "argument is passed, work like built-in round(x, ndigits)."]),
   method "__trunc__" "($self, /)" "Return the Integral closest to x between 0 and x.",
   lengthy .method "as_integer_ratio" "($self, /)",
   method "conjugate" "($self, /)" "Return self, the complex conjugate of any float.",
   ofClass "fromhex" "($type, string, /)"
     (words ["Create a floating-point number from a hexadecimal string.\n\n>>> ",
             "float.fromhex('0x1.ffffp10')\n2047.984375\n>>> float.fromhex('-0x1p-1074')\n",
             "-5e-324"]),
   method "hex" "($self, /)"
     (words ["Return a hexadecimal representation of a floating-point number.\n\n>>> ",
             "(-0.1).hex()\n'-0x1.999999999999ap-4'\n>>> 3.14159.hex()\n'0x1.921f9f01b866ep+1'"]),
   reader "imag" "the imaginary part of a complex number",
   method "is_integer" "($self, /)" "Return True if the float is an integer.",
   reader "real" "the real part of a complex number"]

def ofDecimal : List Routine :=
  operators ["abs", "add", "bool", "divmod", "eq", "float", "floordiv", "ge", "getattribute",
      "gt", "hash", "int", "le", "lt", "mod", "mul", "ne", "neg", "pos", "pow", "radd", "rdivmod",
      "repr", "rfloordiv", "rmod", "rmul", "rpow", "rsub", "rtruediv", "str", "sub", "truediv"] ++
  [creator] ++
  methods ["__ceil__", "__complex__", "__copy__", "__deepcopy__", "__floor__", "__format__",
      "__reduce__", "__round__", "__sizeof__", "__trunc__"] ++
  readers ["imag", "real"] ++
  [method "adjusted" "($self, /)"
     "Return the adjusted exponent of the number.  Defined as exp + digits - 1.\n\n",
   lengthy .method "as_integer_ratio" "($self, /)",
   method "as_tuple" "($self, /)" "Return a tuple representation of the number.\n\n",
   lengthy .method "canonical" "($self, /)",
   lengthy .method "compare" "($self, /, other, context=None)",
   method "compare_signal" "($self, /, other, context=None)"
     "Identical to compare, except that all NaNs signal.\n\n",
   lengthy .method "compare_total" "($self, /, other, context=None)",
   lengthy .method "compare_total_mag" "($self, /, other, context=None)",
   method "conjugate" "($self, /)" "Return self.\n\n",
   method "copy_abs" "($self, /)"
     (words ["Return the absolute value of the argument.  This operation is unaffected by\n",
             "context and is quiet: no flags are changed and no rounding is performed.\n\n"]),
   method "copy_negate" "($self, /)"
     (words ["Return the negation of the argument.  This operation is unaffected by context\n",
             "and is quiet: no flags are changed and no rounding is performed.\n\n"]),
   lengthy .method "copy_sign" "($self, /, other, context=None)",
   lengthy .method "exp" "($self, /, context=None)",
   method "fma" "($self, /, other, third, context=None)"
     (words ["Fused multiply-add.  Return self*other+third with no rounding of the\n",
             "intermediate product self*other.\n\n    >>> Decimal(2).fma(3, 5)\n    ",
             "Decimal('11')\n\n\n"]),
   lengthy .ofClass "from_float" "($type, f, /)",
   method "is_canonical" "($self, /)"
     (words ["Return True if the argument is canonical and False otherwise.  Currently,\na ",
             "Decimal instance is always canonical, so this operation always returns\n",
             "True.\n\n"]),
   method "is_finite" "($self, /)"
     (words ["Return True if the argument is a finite number, and False if the argument\nis ",
             "infinite or a NaN.\n\n"]),
   method "is_infinite" "($self, /)"
     (words ["Return True if the argument is either positive or negative infinity and\nFalse ",
             "otherwise.\n\n"]),
   method "is_nan" "($self, /)"
     "Return True if the argument is a (quiet or signaling) NaN and False\notherwise.\n\n",
   lengthy .method "is_normal" "($self, /, context=None)",
   method "is_qnan" "($self, /)"
     "Return True if the argument is a quiet NaN, and False otherwise.\n\n",
   method "is_signed" "($self, /)"
     (words ["Return True if the argument has a negative sign and False otherwise.\nNote that ",
             "both zeros and NaNs can carry signs.\n\n"]),
   method "is_snan" "($self, /)"
     "Return True if the argument is a signaling NaN and False otherwise.\n\n",
   method "is_subnormal" "($self, /, context=None)"
     (words ["Return True if the argument is subnormal, and False otherwise. A number is\n",
             "subnormal if it is non-zero, finite, and has an adjusted exponent less\nthan ",
             "Emin.\n\n"]),
   method "is_zero" "($self, /)"
     "Return True if the argument is a (positive or negative) zero and False\notherwise.\n\n",
   method "ln" "($self, /, context=None)"
     (words ["Return the natural (base e) logarithm of the operand. The function always\nuses ",
             "the ROUND_HALF_EVEN mode and the result is correctly rounded.\n\n"]),
   method "log10" "($self, /, context=None)"
     (words ["Return the base ten logarithm of the operand. The function always uses the\n",
             "ROUND_HALF_EVEN mode and the result is correctly rounded.\n\n"]),
   lengthy .method "logb" "($self, /, context=None)",
   method "logical_and" "($self, /, other, context=None)"
     "Return the digit-wise 'and' of the two (logical) operands.\n\n",
   method "logical_invert" "($self, /, context=None)"
     "Return the digit-wise inversion of the (logical) operand.\n\n",
   method "logical_or" "($self, /, other, context=None)"
     "Return the digit-wise 'or' of the two (logical) operands.\n\n",
   method "logical_xor" "($self, /, other, context=None)"
     "Return the digit-wise 'exclusive or' of the two (logical) operands.\n\n",
   method "max" "($self, /, other, context=None)"
     (words ["Maximum of self and other.  If one operand is a quiet NaN and the other is\n",
             "numeric, the numeric operand is returned.\n\n"]),
   method "max_mag" "($self, /, other, context=None)"
     (words ["Similar to the max() method, but the comparison is done using the absolute\n",
             "values of the operands.\n\n"]),
   method "min" "($self, /, other, context=None)"
     (words ["Minimum of self and other. If one operand is a quiet NaN and the other is\n",
             "numeric, the numeric operand is returned.\n\n"]),
   method "min_mag" "($self, /, other, context=None)"
     (words ["Similar to the min() method, but the comparison is done using the absolute\n",
             "values of the operands.\n\n"]),
   lengthy .method "next_minus" "($self, /, context=None)",
   lengthy .method "next_plus" "($self, /, context=None)",
   lengthy .method "next_toward" "($self, /, other, context=None)",
   lengthy .method "normalize" "($self, /, context=None)",
   lengthy .method "number_class" "($self, /, context=None)",
   lengthy .method "quantize" "($self, /, exp, rounding=None, context=None)",
   method "radix" "($self, /)"
     (words ["Return Decimal(10), the radix (base) in which the Decimal class does\nall its ",
             "arithmetic. Included for compatibility with the specification.\n\n"]),
   lengthy .method "remainder_near" "($self, /, other, context=None)",
   lengthy .method "rotate" "($self, /, other, context=None)",
   lengthy .method "same_quantum" "($self, /, other, context=None)",
   lengthy .method "scaleb" "($self, /, other, context=None)",
   lengthy .method "shift" "($self, /, other, context=None)",
   method "sqrt" "($self, /, context=None)"
     (words ["Return the square root of the argument to full precision. The result is\n",
             "correctly rounded using the ROUND_HALF_EVEN rounding mode.\n\n"]),
   lengthy .method "to_eng_string" "($self, /, context=None)",
   method "to_integral" "($self, /, rounding=None, context=None)"
     (words ["Identical to the to_integral_value() method.  The to_integral() name has been\n",
             "kept for compatibility with older versions.\n\n"]),
   lengthy .method "to_integral_exact" "($self, /, rounding=None, context=None)",
   lengthy .method "to_integral_value" "($self, /, rounding=None, context=None)"]

end CachePolicy.Routine
