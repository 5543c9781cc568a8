import RecordSchema.Builtin.Basic

/-! # Classes of plain values

What the classes of numbers, texts and containers give to their instances.
-/
namespace RecordSchema.BuiltinClass

def plainClasses : List BuiltinClass := [
  { name := "object"
    ancestors := []
    methods := "__reduce_ex__ __reduce__ __getstate__ __format__ __sizeof__ __dir__"
    operators := "__repr__ __hash__ __str__ __getattribute__ __setattr__ __delattr__ __lt__ __le__" ++
      " __eq__ __ne__ __gt__ __ge__ __init__"
    computed := "__class__"
    bound := "__new__ __subclasshook__ __init_subclass__" },
  { name := "type"
    ancestors := ["object"]
    methods := "mro __subclasses__ __instancecheck__ __subclasscheck__ __dir__ __sizeof__"
    operators := "__repr__ __call__ __getattribute__ __setattr__ __delattr__ __init__ __or__" ++
      " __ror__"
    computed := "__name__ __qualname__ __bases__ __module__ __abstractmethods__ __dict__ __doc__" ++
      " __text_signature__ __annotations__"
    kept := "__basicsize__ __itemsize__ __flags__ __weakrefoffset__ __base__ __dictoffset__" ++
      " __mro__"
    bound := "__new__ __prepare__" },
  { name := "int"
    ancestors := ["object"]
    methods := "conjugate bit_length bit_count to_bytes as_integer_ratio __trunc__ __floor__" ++
      " __ceil__ __round__ __getnewargs__ __format__ __sizeof__"
    operators := "__repr__ __hash__ __getattribute__ __lt__ __le__ __eq__ __ne__ __gt__ __ge__" ++
      " __add__ __radd__ __sub__ __rsub__ __mul__ __rmul__ __mod__ __rmod__ __divmod__" ++
      " __rdivmod__ __pow__ __rpow__ __neg__ __pos__ __abs__ __bool__ __invert__" ++
      " __lshift__ __rlshift__ __rshift__ __rrshift__ __and__ __rand__ __xor__ __rxor__" ++
      " __or__ __ror__ __int__ __float__ __floordiv__ __rfloordiv__ __truediv__" ++
      " __rtruediv__ __index__"
    computed := "real imag numerator denominator"
    bound := "__new__ from_bytes" },
  { name := "bool"
    ancestors := ["int", "object"]
    operators := "__repr__ __and__ __rand__ __xor__ __rxor__ __or__ __ror__"
    bound := "__new__" },
  { name := "float"
    ancestors := ["object"]
    methods := "conjugate __trunc__ __floor__ __ceil__ __round__ as_integer_ratio hex is_integer" ++
      " __getnewargs__ __format__"
    operators := "__repr__ __hash__ __getattribute__ __lt__ __le__ __eq__ __ne__ __gt__ __ge__" ++
      " __add__ __radd__ __sub__ __rsub__ __mul__ __rmul__ __mod__ __rmod__ __divmod__" ++
      " __rdivmod__ __pow__ __rpow__ __neg__ __pos__ __abs__ __bool__ __int__ __float__" ++
      " __floordiv__ __rfloordiv__ __truediv__ __rtruediv__"
    computed := "real imag"
    bound := "__new__ fromhex __getformat__" },
  { name := "complex"
    ancestors := ["object"]
    methods := "conjugate __complex__ __getnewargs__ __format__"
    operators := "__repr__ __hash__ __getattribute__ __lt__ __le__ __eq__ __ne__ __gt__ __ge__" ++
      " __add__ __radd__ __sub__ __rsub__ __mul__ __rmul__ __pow__ __rpow__ __neg__" ++
      " __pos__ __abs__ __bool__ __truediv__ __rtruediv__"
    kept := "real imag"
    bound := "__new__" },
  { name := "str"
    ancestors := ["object"]
    methods := "encode replace split rsplit join capitalize casefold title center count" ++
      " expandtabs find partition index ljust lower lstrip rfind rindex rjust rstrip" ++
      " rpartition splitlines strip swapcase translate upper startswith endswith" ++
      " removeprefix removesuffix isascii islower isupper istitle isspace isdecimal" ++
      " isdigit isnumeric isalpha isalnum isidentifier isprintable zfill format" ++
      " format_map __format__ __sizeof__ __getnewargs__"
    operators := "__repr__ __hash__ __str__ __getattribute__ __lt__ __le__ __eq__ __ne__ __gt__" ++
      " __ge__ __iter__ __mod__ __rmod__ __len__ __getitem__ __add__ __mul__ __rmul__" ++
      " __contains__"
    bound := "__new__ maketrans" },
  { name := "bytes"
    ancestors := ["object"]
    methods := "__getnewargs__ __bytes__ capitalize center count decode endswith expandtabs find" ++
      " hex index isalnum isalpha isascii isdigit islower isspace istitle isupper join" ++
      " ljust lower lstrip partition replace removeprefix removesuffix rfind rindex rjust" ++
      " rpartition rsplit rstrip split splitlines startswith strip swapcase title" ++
      " translate upper zfill"
    operators := "__repr__ __hash__ __str__ __getattribute__ __lt__ __le__ __eq__ __ne__ __gt__" ++
      " __ge__ __iter__ __mod__ __rmod__ __len__ __getitem__ __add__ __mul__ __rmul__" ++
      " __contains__"
    bound := "__new__ fromhex maketrans" },
  { name := "bytearray"
    ancestors := ["object"]
    methods := "__alloc__ __reduce__ __reduce_ex__ __sizeof__ append capitalize center clear copy" ++
      " count decode endswith expandtabs extend find hex index insert isalnum isalpha" ++
      " isascii isdigit islower isspace istitle isupper join ljust lower lstrip partition" ++
      " pop remove replace removeprefix removesuffix reverse rfind rindex rjust" ++
      " rpartition rsplit rstrip split splitlines startswith strip swapcase title" ++
      " translate upper zfill"
    operators := "__repr__ __str__ __getattribute__ __lt__ __le__ __eq__ __ne__ __gt__ __ge__" ++
      " __iter__ __init__ __mod__ __rmod__ __len__ __getitem__ __setitem__ __delitem__" ++
      " __add__ __mul__ __rmul__ __contains__ __iadd__ __imul__"
    bound := "__new__ fromhex maketrans"
    absent := "__hash__" },
  { name := "list"
    ancestors := ["object"]
    methods := "__getitem__ __reversed__ __sizeof__ clear copy append insert extend pop remove" ++
      " index count reverse sort"
    operators := "__repr__ __getattribute__ __lt__ __le__ __eq__ __ne__ __gt__ __ge__ __iter__" ++
      " __init__ __len__ __setitem__ __delitem__ __add__ __mul__ __rmul__ __contains__" ++
      " __iadd__ __imul__"
    bound := "__new__ __class_getitem__"
    absent := "__hash__" },
  { name := "tuple"
    ancestors := ["object"]
    methods := "__getnewargs__ index count"
    operators := "__repr__ __hash__ __getattribute__ __lt__ __le__ __eq__ __ne__ __gt__ __ge__" ++
      " __iter__ __len__ __getitem__ __add__ __mul__ __rmul__ __contains__"
    bound := "__new__ __class_getitem__" },
  { name := "dict"
    ancestors := ["object"]
    methods := "__getitem__ __contains__ __sizeof__ get setdefault pop popitem keys items values" ++
      " update clear copy __reversed__"
    operators := "__repr__ __getattribute__ __lt__ __le__ __eq__ __ne__ __gt__ __ge__ __iter__" ++
      " __init__ __or__ __ror__ __ior__ __len__ __setitem__ __delitem__"
    bound := "__new__ fromkeys __class_getitem__"
    absent := "__hash__" },
  { name := "set"
    ancestors := ["object"]
    methods := "__contains__ add clear copy discard difference difference_update intersection" ++
      " intersection_update isdisjoint issubset issuperset pop __reduce__ remove" ++
      " __sizeof__ symmetric_difference symmetric_difference_update union update"
    operators := "__repr__ __getattribute__ __lt__ __le__ __eq__ __ne__ __gt__ __ge__ __iter__" ++
      " __init__ __sub__ __rsub__ __and__ __rand__ __xor__ __rxor__ __or__ __ror__" ++
      " __isub__ __iand__ __ixor__ __ior__ __len__"
    bound := "__new__ __class_getitem__"
    absent := "__hash__" },
  { name := "frozenset"
    ancestors := ["object"]
    methods := "__contains__ copy difference intersection isdisjoint issubset issuperset" ++
      " __reduce__ __sizeof__ symmetric_difference union"
    operators := "__repr__ __hash__ __getattribute__ __lt__ __le__ __eq__ __ne__ __gt__ __ge__" ++
      " __iter__ __sub__ __rsub__ __and__ __rand__ __xor__ __rxor__ __or__ __ror__" ++
      " __len__"
    bound := "__new__ __class_getitem__" },
  { name := "range"
    ancestors := ["object"]
    methods := "__reversed__ __reduce__ count index"
    operators := "__repr__ __hash__ __getattribute__ __lt__ __le__ __eq__ __ne__ __gt__ __ge__" ++
      " __iter__ __bool__ __len__ __getitem__ __contains__"
    kept := "start stop step"
    bound := "__new__" },
  { name := "slice"
    ancestors := ["object"]
    methods := "indices __reduce__"
    operators := "__repr__ __getattribute__ __lt__ __le__ __eq__ __ne__ __gt__ __ge__"
    kept := "start stop step"
    bound := "__new__"
    absent := "__hash__" }]

end RecordSchema.BuiltinClass
