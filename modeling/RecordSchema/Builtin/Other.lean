import RecordSchema.Builtin.Basic

/-! # Other classes

What the classes of times, functions, modules and errors give to their instances.
-/
namespace RecordSchema.BuiltinClass

def otherClasses : List BuiltinClass := [
  { name := "NoneType"
    ancestors := ["object"]
    operators := "__repr__ __bool__"
    bound := "__new__"
    absent := "__doc__" },
  { name := "ellipsis"
    ancestors := ["object"]
    methods := "__reduce__"
    operators := "__repr__ __getattribute__"
    bound := "__new__"
    absent := "__doc__" },
  { name := "NotImplementedType"
    ancestors := ["object"]
    methods := "__reduce__"
    operators := "__repr__ __bool__"
    bound := "__new__"
    absent := "__doc__" },
  { name := "datetime.timedelta"
    ancestors := ["object"]
    methods := "total_seconds __reduce__"
    operators := "__repr__ __hash__ __str__ __getattribute__ __lt__ __le__ __eq__ __ne__ __gt__" ++
      " __ge__ __add__ __radd__ __sub__ __rsub__ __mul__ __rmul__ __mod__ __rmod__" ++
      " __divmod__ __rdivmod__ __neg__ __pos__ __abs__ __bool__ __floordiv__" ++
      " __rfloordiv__ __truediv__ __rtruediv__"
    kept := "days seconds microseconds"
    bound := "__new__" },
  { name := "datetime.date"
    ancestors := ["object"]
    methods := "ctime strftime __format__ timetuple isocalendar isoformat isoweekday toordinal" ++
      " weekday replace __reduce__"
    operators := "__repr__ __hash__ __str__ __getattribute__ __lt__ __le__ __eq__ __ne__ __gt__" ++
      " __ge__ __add__ __radd__ __sub__ __rsub__"
    computed := "year month day"
    bound := "__new__ fromtimestamp fromordinal fromisoformat fromisocalendar today" },
  { name := "datetime.datetime"
    ancestors := ["datetime.date", "object"]
    methods := "date time timetz ctime timetuple timestamp utctimetuple isoformat utcoffset" ++
      " tzname dst replace astimezone __reduce_ex__ __reduce__"
    operators := "__repr__ __hash__ __str__ __getattribute__ __lt__ __le__ __eq__ __ne__ __gt__" ++
      " __ge__ __add__ __radd__ __sub__ __rsub__"
    computed := "hour minute second microsecond tzinfo fold"
    bound := "__new__ now utcnow fromtimestamp utcfromtimestamp strptime combine fromisoformat" },
  { name := "datetime.time"
    ancestors := ["object"]
    methods := "isoformat strftime __format__ utcoffset tzname dst replace __reduce_ex__" ++
      " __reduce__"
    operators := "__repr__ __hash__ __str__ __getattribute__ __lt__ __le__ __eq__ __ne__ __gt__" ++
      " __ge__"
    computed := "hour minute second microsecond tzinfo fold"
    bound := "__new__ fromisoformat" },
  { name := "datetime.tzinfo"
    ancestors := ["object"]
    methods := "tzname utcoffset dst fromutc __reduce__"
    operators := "__getattribute__"
    bound := "__new__" },
  { name := "datetime.timezone"
    ancestors := ["datetime.tzinfo", "object"]
    methods := "tzname utcoffset dst fromutc __getinitargs__"
    operators := "__repr__ __hash__ __str__ __lt__ __le__ __eq__ __ne__ __gt__ __ge__"
    bound := "__new__" },
  { name := "enum.Enum"
    ancestors := ["object"]
    functions := "__new__ __init__ __repr__ __str__ __dir__ __format__ __hash__ __reduce_ex__" ++
      " __deepcopy__ __copy__ _generate_next_value_"
    computed := "__weakref__" },
  { name := "enum.EnumType"
    ancestors := ["type", "object"]
    functions := "__prepare__ __bool__ __call__ __contains__ __delattr__ __dir__ __getattr__" ++
      " __getitem__ __iter__ __len__ __repr__ __reversed__ __setattr__ _create_ _convert_" ++
      " _check_for_existing_members_ _get_mixins_ _find_data_repr_ _find_data_type_ _find_new_" },
  { name := "function"
    ancestors := ["object"]
    operators := "__repr__ __call__ __get__"
    computed := "__code__ __defaults__ __kwdefaults__ __annotations__ __dict__ __name__" ++
      " __qualname__"
    kept := "__closure__ __doc__ __globals__ __module__ __builtins__"
    bound := "__new__" },
  { name := "method"
    ancestors := ["object"]
    methods := "__reduce__"
    operators := "__repr__ __hash__ __call__ __getattribute__ __setattr__ __delattr__ __lt__ __le__" ++
      " __eq__ __ne__ __gt__ __ge__"
    computed := "__doc__"
    kept := "__func__ __self__"
    bound := "__new__" },
  { name := "builtin_function_or_method"
    ancestors := ["object"]
    methods := "__reduce__"
    operators := "__repr__ __hash__ __call__ __getattribute__ __lt__ __le__ __eq__ __ne__ __gt__" ++
      " __ge__"
    computed := "__doc__ __name__ __qualname__ __self__ __text_signature__"
    kept := "__module__" },
  { name := "method_descriptor"
    ancestors := ["object"]
    methods := "__reduce__"
    operators := "__repr__ __call__ __getattribute__ __get__"
    computed := "__doc__ __qualname__ __text_signature__"
    kept := "__objclass__ __name__" },
  { name := "wrapper_descriptor"
    ancestors := ["object"]
    methods := "__reduce__"
    operators := "__repr__ __call__ __getattribute__ __get__"
    computed := "__doc__ __qualname__ __text_signature__"
    kept := "__objclass__ __name__" },
  { name := "method-wrapper"
    ancestors := ["object"]
    methods := "__reduce__"
    operators := "__repr__ __hash__ __call__ __getattribute__ __lt__ __le__ __eq__ __ne__ __gt__" ++
      " __ge__"
    computed := "__objclass__ __name__ __qualname__ __doc__ __text_signature__"
    kept := "__self__" },
  { name := "getset_descriptor"
    ancestors := ["object"]
    operators := "__repr__ __getattribute__ __get__ __set__ __delete__"
    computed := "__doc__ __qualname__"
    kept := "__objclass__ __name__" },
  { name := "member_descriptor"
    ancestors := ["object"]
    methods := "__reduce__"
    operators := "__repr__ __getattribute__ __get__ __set__ __delete__"
    computed := "__doc__ __qualname__"
    kept := "__objclass__ __name__" },
  { name := "module"
    ancestors := ["object"]
    methods := "__dir__"
    operators := "__repr__ __getattribute__ __setattr__ __delattr__ __init__"
    computed := "__annotations__"
    kept := "__dict__"
    bound := "__new__" },
  { name := "mappingproxy"
    ancestors := ["object"]
    methods := "get keys values items copy __reversed__"
    operators := "__repr__ __str__ __getattribute__ __lt__ __le__ __eq__ __ne__ __gt__ __ge__" ++
      " __iter__ __or__ __ror__ __ior__ __len__ __getitem__ __contains__"
    bound := "__new__ __class_getitem__"
    absent := "__doc__ __hash__" },
  { name := "types.GenericAlias"
    ancestors := ["object"]
    methods := "__mro_entries__ __instancecheck__ __subclasscheck__ __reduce__ __dir__"
    operators := "__repr__ __hash__ __call__ __getattribute__ __lt__ __le__ __eq__ __ne__ __gt__" ++
      " __ge__ __iter__ __or__ __ror__ __getitem__"
    computed := "__parameters__ __typing_unpacked_tuple_args__"
    kept := "__origin__ __args__ __unpacked__"
    bound := "__new__" },
  { name := "types.UnionType"
    ancestors := ["object"]
    operators := "__repr__ __hash__ __getattribute__ __lt__ __le__ __eq__ __ne__ __gt__ __ge__" ++
      " __or__ __ror__ __getitem__"
    computed := "__parameters__"
    kept := "__args__" },
  { name := "BaseException"
    ancestors := ["object"]
    methods := "__reduce__ __setstate__ with_traceback add_note"
    operators := "__repr__ __str__ __getattribute__ __setattr__ __delattr__ __init__"
    computed := "__dict__ args __traceback__ __context__ __cause__"
    kept := "__suppress_context__"
    bound := "__new__" },
  { name := "Exception"
    ancestors := ["BaseException", "object"]
    operators := "__init__"
    bound := "__new__" }]

end RecordSchema.BuiltinClass
