import UrlRouting.Builtin.Basic

/-!
# Tables of the number classes

Integers, truth values and floating values: their slots for arithmetic and comparison,
their methods, and the computed attributes that give a number's parts.

## Main definitions

* `UrlRouting.Builtin.int`, `UrlRouting.Builtin.bool`, `UrlRouting.Builtin.float`
-/

namespace UrlRouting.Builtin

/-- The integers. -/
def int : BuiltinClass where
  name := "int"
  doc := some (lines [
    "int([x]) -> integer",
    "int(x, base=10) -> integer",
    "",
    "Convert a number or string to an integer, or return 0 if no arguments",
    "are given.  If x is a number, return x.__int__().  For floating point",
    "numbers, this truncates towards zero.",
    "",
    "If x is not a number or if base is given, then x must be a string,",
    "bytes, or bytearray instance representing an integer literal in the",
    "given base.  The literal can be preceded by '+' or '-' and be surrounded",
    "by whitespace.  The base defaults to 10.  Valid bases are 0 and 2-36.",
    "Base 0 means to interpret the base from the string as an integer literal.",
    ">>> int('0b100', base=0)",
    "4"])
  signature := none
  layout := ⟨24, 4, 21501184, 0, 0⟩
  entries := [
    ⟨"__new__", .constructor, some constructorDoc, some "($type, *args, **kwargs)"⟩,
    ⟨"__repr__", .descriptor .slotWrapper, some "Return repr(self).", some "($self, /)"⟩,
    ⟨"__hash__", .descriptor .slotWrapper, some "Return hash(self).", some "($self, /)"⟩,
    ⟨"__getattribute__", .descriptor .slotWrapper,
      some "Return getattr(self, name).",
      some "($self, name, /)"⟩,
    ⟨"__lt__", .descriptor .slotWrapper, some "Return self<value.", some "($self, value, /)"⟩,
    ⟨"__le__", .descriptor .slotWrapper, some "Return self<=value.", some "($self, value, /)"⟩,
    ⟨"__eq__", .descriptor .slotWrapper, some "Return self==value.", some "($self, value, /)"⟩,
    ⟨"__ne__", .descriptor .slotWrapper, some "Return self!=value.", some "($self, value, /)"⟩,
    ⟨"__gt__", .descriptor .slotWrapper, some "Return self>value.", some "($self, value, /)"⟩,
    ⟨"__ge__", .descriptor .slotWrapper, some "Return self>=value.", some "($self, value, /)"⟩,
    ⟨"__add__", .descriptor .slotWrapper, some "Return self+value.", some "($self, value, /)"⟩,
    ⟨"__radd__", .descriptor .slotWrapper,
      some "Return value+self.",
      some "($self, value, /)"⟩,
    ⟨"__sub__", .descriptor .slotWrapper, some "Return self-value.", some "($self, value, /)"⟩,
    ⟨"__rsub__", .descriptor .slotWrapper,
      some "Return value-self.",
      some "($self, value, /)"⟩,
    ⟨"__mul__", .descriptor .slotWrapper, some "Return self*value.", some "($self, value, /)"⟩,
    ⟨"__rmul__", .descriptor .slotWrapper,
      some "Return value*self.",
      some "($self, value, /)"⟩,
    ⟨"__mod__", .descriptor .slotWrapper, some "Return self%value.", some "($self, value, /)"⟩,
    ⟨"__rmod__", .descriptor .slotWrapper,
      some "Return value%self.",
      some "($self, value, /)"⟩,
    ⟨"__divmod__", .descriptor .slotWrapper,
      some "Return divmod(self, value).",
      some "($self, value, /)"⟩,
    ⟨"__rdivmod__", .descriptor .slotWrapper,
      some "Return divmod(value, self).",
      some "($self, value, /)"⟩,
    ⟨"__pow__", .descriptor .slotWrapper,
      some "Return pow(self, value, mod).",
      some "($self, value, mod=None, /)"⟩,
    ⟨"__rpow__", .descriptor .slotWrapper,
      some "Return pow(value, self, mod).",
      some "($self, value, mod=None, /)"⟩,
    ⟨"__neg__", .descriptor .slotWrapper, some "-self", some "($self, /)"⟩,
    ⟨"__pos__", .descriptor .slotWrapper, some "+self", some "($self, /)"⟩,
    ⟨"__abs__", .descriptor .slotWrapper, some "abs(self)", some "($self, /)"⟩,
    ⟨"__bool__", .descriptor .slotWrapper, some "True if self else False", some "($self, /)"⟩,
    ⟨"__invert__", .descriptor .slotWrapper, some "~self", some "($self, /)"⟩,
    ⟨"__lshift__", .descriptor .slotWrapper,
      some "Return self<<value.",
      some "($self, value, /)"⟩,
    ⟨"__rlshift__", .descriptor .slotWrapper,
      some "Return value<<self.",
      some "($self, value, /)"⟩,
    ⟨"__rshift__", .descriptor .slotWrapper,
      some "Return self>>value.",
      some "($self, value, /)"⟩,
    ⟨"__rrshift__", .descriptor .slotWrapper,
      some "Return value>>self.",
      some "($self, value, /)"⟩,
    ⟨"__and__", .descriptor .slotWrapper, some "Return self&value.", some "($self, value, /)"⟩,
    ⟨"__rand__", .descriptor .slotWrapper,
      some "Return value&self.",
      some "($self, value, /)"⟩,
    ⟨"__xor__", .descriptor .slotWrapper, some "Return self^value.", some "($self, value, /)"⟩,
    ⟨"__rxor__", .descriptor .slotWrapper,
      some "Return value^self.",
      some "($self, value, /)"⟩,
    ⟨"__or__", .descriptor .slotWrapper, some "Return self|value.", some "($self, value, /)"⟩,
    ⟨"__ror__", .descriptor .slotWrapper, some "Return value|self.", some "($self, value, /)"⟩,
    ⟨"__int__", .descriptor .slotWrapper, some "int(self)", some "($self, /)"⟩,
    ⟨"__float__", .descriptor .slotWrapper, some "float(self)", some "($self, /)"⟩,
    ⟨"__floordiv__", .descriptor .slotWrapper,
      some "Return self//value.",
      some "($self, value, /)"⟩,
    ⟨"__rfloordiv__", .descriptor .slotWrapper,
      some "Return value//self.",
      some "($self, value, /)"⟩,
    ⟨"__truediv__", .descriptor .slotWrapper,
      some "Return self/value.",
      some "($self, value, /)"⟩,
    ⟨"__rtruediv__", .descriptor .slotWrapper,
      some "Return value/self.",
      some "($self, value, /)"⟩,
    ⟨"__index__", .descriptor .slotWrapper,
      some ("Return self converted to an integer, if self is suitable for use as an " ++
        "index into a list."),
      some "($self, /)"⟩,
    ⟨"conjugate", .descriptor .method,
      some "Returns self, the complex conjugate of any int.",
      none⟩,
    ⟨"bit_length", .descriptor .method,
      some (lines [
        "Number of bits necessary to represent self in binary.",
        "",
        ">>> bin(37)",
        "'0b100101'",
        ">>> (37).bit_length()",
        "6"]),
      some "($self, /)"⟩,
    ⟨"bit_count", .descriptor .method,
      some (lines [
        "Number of ones in the binary representation of the absolute value of self.",
        "",
        "Also known as the population count.",
        "",
        ">>> bin(13)",
        "'0b1101'",
        ">>> (13).bit_count()",
        "3"]),
      some "($self, /)"⟩,
    ⟨"to_bytes", .descriptor .method,
      some (lines [
        "Return an array of bytes representing an integer.",
        "",
        "  length",
        "    Length of bytes object to use.  An OverflowError is raised if the",
        "    integer is not representable with the given number of bytes.  Default",
        "    is length 1.",
        "  byteorder",
        "    The byte order used to represent the integer.  If byteorder is 'big',",
        "    the most significant byte is at the beginning of the byte array.  If",
        "    byteorder is 'little', the most significant byte is at the end of the",
        "    byte array.  To request the native byte order of the host system, use",
        "    `sys.byteorder' as the byte order value.  Default is to use 'big'.",
        "  signed",
        "    Determines whether two's complement is used to represent the integer.",
        "    If signed is False and a negative integer is given, an OverflowError",
        "    is raised."]),
      some "($self, /, length=1, byteorder='big', *, signed=False)"⟩,
    ⟨"from_bytes", .descriptor .classMethod,
      some (lines [
        "Return the integer represented by the given array of bytes.",
        "",
        "  bytes",
        "    Holds the array of bytes to convert.  The argument must either",
        "    support the buffer protocol or be an iterable object producing bytes.",
        "    Bytes and bytearray are examples of built-in objects that support the",
        "    buffer protocol.",
        "  byteorder",
        "    The byte order used to represent the integer.  If byteorder is 'big',",
        "    the most significant byte is at the beginning of the byte array.  If",
        "    byteorder is 'little', the most significant byte is at the end of the",
        "    byte array.  To request the native byte order of the host system, use",
        "    `sys.byteorder' as the byte order value.  Default is to use 'big'.",
        "  signed",
        "    Indicates whether two's complement is used to represent the integer."]),
      some "($type, /, bytes, byteorder='big', *, signed=False)"⟩,
    ⟨"as_integer_ratio", .descriptor .method,
      some (lines [
        "Return integer ratio.",
        "",
        "Return a pair of integers, whose ratio is exactly equal to the original int",
        "and with a positive denominator.",
        "",
        ">>> (10).as_integer_ratio()",
        "(10, 1)",
        ">>> (-10).as_integer_ratio()",
        "(-10, 1)",
        ">>> (0).as_integer_ratio()",
        "(0, 1)"]),
      some "($self, /)"⟩,
    ⟨"__trunc__", .descriptor .method, some "Truncating an Integral returns itself.", none⟩,
    ⟨"__floor__", .descriptor .method, some "Flooring an Integral returns itself.", none⟩,
    ⟨"__ceil__", .descriptor .method, some "Ceiling of an Integral returns itself.", none⟩,
    ⟨"__round__", .descriptor .method,
      some (lines [
        "Rounding an Integral returns itself.",
        "",
        "Rounding with an ndigits argument also returns an integer."]),
      some "($self, ndigits=<unrepresentable>, /)"⟩,
    ⟨"__getnewargs__", .descriptor .method, none, some "($self, /)"⟩,
    ⟨"__format__", .descriptor .method, none, some "($self, format_spec, /)"⟩,
    ⟨"__sizeof__", .descriptor .method,
      some "Returns size in memory, in bytes.",
      some "($self, /)"⟩,
    ⟨"real", .descriptor .getset, some "the real part of a complex number", none⟩,
    ⟨"imag", .descriptor .getset, some "the imaginary part of a complex number", none⟩,
    ⟨"numerator", .descriptor .getset,
      some "the numerator of a rational number in lowest terms",
      none⟩,
    ⟨"denominator", .descriptor .getset,
      some "the denominator of a rational number in lowest terms",
      none⟩,
    ⟨"__doc__", .documentation, none, none⟩]

/-- The truth values, a subclass of the integers. -/
def bool : BuiltinClass where
  name := "bool"
  doc := some (lines [
    "bool(x) -> bool",
    "",
    "Returns True when the argument x is true, False otherwise.",
    "The builtins True and False are the only two instances of the class bool.",
    "The class bool is a subclass of the class int, and cannot be subclassed."])
  signature := none
  layout := ⟨32, 4, 21500160, 0, 0⟩
  entries := [
    ⟨"__new__", .constructor, some constructorDoc, some "($type, *args, **kwargs)"⟩,
    ⟨"__repr__", .descriptor .slotWrapper, some "Return repr(self).", some "($self, /)"⟩,
    ⟨"__and__", .descriptor .slotWrapper, some "Return self&value.", some "($self, value, /)"⟩,
    ⟨"__rand__", .descriptor .slotWrapper,
      some "Return value&self.",
      some "($self, value, /)"⟩,
    ⟨"__xor__", .descriptor .slotWrapper, some "Return self^value.", some "($self, value, /)"⟩,
    ⟨"__rxor__", .descriptor .slotWrapper,
      some "Return value^self.",
      some "($self, value, /)"⟩,
    ⟨"__or__", .descriptor .slotWrapper, some "Return self|value.", some "($self, value, /)"⟩,
    ⟨"__ror__", .descriptor .slotWrapper, some "Return value|self.", some "($self, value, /)"⟩,
    ⟨"__doc__", .documentation, none, none⟩]

/-- The floating values. -/
def float : BuiltinClass where
  name := "float"
  doc := some "Convert a string or number to a floating point number, if possible."
  signature := some "(x=0, /)"
  layout := ⟨24, 0, 4723968, 0, 0⟩
  entries := [
    ⟨"__new__", .constructor, some constructorDoc, some "($type, *args, **kwargs)"⟩,
    ⟨"__repr__", .descriptor .slotWrapper, some "Return repr(self).", some "($self, /)"⟩,
    ⟨"__hash__", .descriptor .slotWrapper, some "Return hash(self).", some "($self, /)"⟩,
    ⟨"__getattribute__", .descriptor .slotWrapper,
      some "Return getattr(self, name).",
      some "($self, name, /)"⟩,
    ⟨"__lt__", .descriptor .slotWrapper, some "Return self<value.", some "($self, value, /)"⟩,
    ⟨"__le__", .descriptor .slotWrapper, some "Return self<=value.", some "($self, value, /)"⟩,
    ⟨"__eq__", .descriptor .slotWrapper, some "Return self==value.", some "($self, value, /)"⟩,
    ⟨"__ne__", .descriptor .slotWrapper, some "Return self!=value.", some "($self, value, /)"⟩,
    ⟨"__gt__", .descriptor .slotWrapper, some "Return self>value.", some "($self, value, /)"⟩,
    ⟨"__ge__", .descriptor .slotWrapper, some "Return self>=value.", some "($self, value, /)"⟩,
    ⟨"__add__", .descriptor .slotWrapper, some "Return self+value.", some "($self, value, /)"⟩,
    ⟨"__radd__", .descriptor .slotWrapper,
      some "Return value+self.",
      some "($self, value, /)"⟩,
    ⟨"__sub__", .descriptor .slotWrapper, some "Return self-value.", some "($self, value, /)"⟩,
    ⟨"__rsub__", .descriptor .slotWrapper,
      some "Return value-self.",
      some "($self, value, /)"⟩,
    ⟨"__mul__", .descriptor .slotWrapper, some "Return self*value.", some "($self, value, /)"⟩,
    ⟨"__rmul__", .descriptor .slotWrapper,
      some "Return value*self.",
      some "($self, value, /)"⟩,
    ⟨"__mod__", .descriptor .slotWrapper, some "Return self%value.", some "($self, value, /)"⟩,
    ⟨"__rmod__", .descriptor .slotWrapper,
      some "Return value%self.",
      some "($self, value, /)"⟩,
    ⟨"__divmod__", .descriptor .slotWrapper,
      some "Return divmod(self, value).",
      some "($self, value, /)"⟩,
    ⟨"__rdivmod__", .descriptor .slotWrapper,
      some "Return divmod(value, self).",
      some "($self, value, /)"⟩,
    ⟨"__pow__", .descriptor .slotWrapper,
      some "Return pow(self, value, mod).",
      some "($self, value, mod=None, /)"⟩,
    ⟨"__rpow__", .descriptor .slotWrapper,
      some "Return pow(value, self, mod).",
      some "($self, value, mod=None, /)"⟩,
    ⟨"__neg__", .descriptor .slotWrapper, some "-self", some "($self, /)"⟩,
    ⟨"__pos__", .descriptor .slotWrapper, some "+self", some "($self, /)"⟩,
    ⟨"__abs__", .descriptor .slotWrapper, some "abs(self)", some "($self, /)"⟩,
    ⟨"__bool__", .descriptor .slotWrapper, some "True if self else False", some "($self, /)"⟩,
    ⟨"__int__", .descriptor .slotWrapper, some "int(self)", some "($self, /)"⟩,
    ⟨"__float__", .descriptor .slotWrapper, some "float(self)", some "($self, /)"⟩,
    ⟨"__floordiv__", .descriptor .slotWrapper,
      some "Return self//value.",
      some "($self, value, /)"⟩,
    ⟨"__rfloordiv__", .descriptor .slotWrapper,
      some "Return value//self.",
      some "($self, value, /)"⟩,
    ⟨"__truediv__", .descriptor .slotWrapper,
      some "Return self/value.",
      some "($self, value, /)"⟩,
    ⟨"__rtruediv__", .descriptor .slotWrapper,
      some "Return value/self.",
      some "($self, value, /)"⟩,
    ⟨"conjugate", .descriptor .method,
      some "Return self, the complex conjugate of any float.",
      some "($self, /)"⟩,
    ⟨"__trunc__", .descriptor .method,
      some "Return the Integral closest to x between 0 and x.",
      some "($self, /)"⟩,
    ⟨"__floor__", .descriptor .method,
      some "Return the floor as an Integral.",
      some "($self, /)"⟩,
    ⟨"__ceil__", .descriptor .method,
      some "Return the ceiling as an Integral.",
      some "($self, /)"⟩,
    ⟨"__round__", .descriptor .method,
      some (lines [
        "Return the Integral closest to x, rounding half toward even.",
        "",
        "When an argument is passed, work like built-in round(x, ndigits)."]),
      some "($self, ndigits=None, /)"⟩,
    ⟨"as_integer_ratio", .descriptor .method,
      some (lines [
        "Return integer ratio.",
        "",
        "Return a pair of integers, whose ratio is exactly equal to the original float",
        "and with a positive denominator.",
        "",
        "Raise OverflowError on infinities and a ValueError on NaNs.",
        "",
        ">>> (10.0).as_integer_ratio()",
        "(10, 1)",
        ">>> (0.0).as_integer_ratio()",
        "(0, 1)",
        ">>> (-.25).as_integer_ratio()",
        "(-1, 4)"]),
      some "($self, /)"⟩,
    ⟨"fromhex", .descriptor .classMethod,
      some (lines [
        "Create a floating-point number from a hexadecimal string.",
        "",
        ">>> float.fromhex('0x1.ffffp10')",
        "2047.984375",
        ">>> float.fromhex('-0x1p-1074')",
        "-5e-324"]),
      some "($type, string, /)"⟩,
    ⟨"hex", .descriptor .method,
      some (lines [
        "Return a hexadecimal representation of a floating-point number.",
        "",
        ">>> (-0.1).hex()",
        "'-0x1.999999999999ap-4'",
        ">>> 3.14159.hex()",
        "'0x1.921f9f01b866ep+1'"]),
      some "($self, /)"⟩,
    ⟨"is_integer", .descriptor .method,
      some "Return True if the float is an integer.",
      some "($self, /)"⟩,
    ⟨"__getnewargs__", .descriptor .method, none, some "($self, /)"⟩,
    ⟨"__getformat__", .descriptor .classMethod,
      some (lines [
        "You probably don't want to use this function.",
        "",
        "  typestr",
        "    Must be 'double' or 'float'.",
        "",
        "It exists mainly to be used in Python's test suite.",
        "",
        "This function returns whichever of 'unknown', 'IEEE, big-endian' or 'IEEE,",
        "little-endian' best describes the format of floating point numbers used by the",
        "C type named by typestr."]),
      some "($type, typestr, /)"⟩,
    ⟨"__format__", .descriptor .method,
      some "Formats the float according to format_spec.",
      some "($self, format_spec, /)"⟩,
    ⟨"real", .descriptor .getset, some "the real part of a complex number", none⟩,
    ⟨"imag", .descriptor .getset, some "the imaginary part of a complex number", none⟩,
    ⟨"__doc__", .documentation, none, none⟩]

end UrlRouting.Builtin
