set_option autoImplicit false

namespace Introspection

inductive Fundamental where
  | none
  | boolean
  | char
  | uchar
  | int8
  | uint8
  | int16
  | uint16
  | int32
  | uint32
  | int64
  | uint64
  | long
  | ulong
  | size
  | ssize
  | float
  | double
  | unichar
  | gtype
  | pointer
  | constPointer
  | utf8
  | filename
deriving DecidableEq, Repr

namespace Fundamental

def all : List Fundamental :=
  [none, boolean, char, uchar, int8, uint8, int16, uint16, int32, uint32, int64, uint64, long, ulong, size,
    ssize, float, double, unichar, gtype, pointer, constPointer, utf8, filename]

def name : Fundamental → String
  | none => "none"
  | boolean => "gboolean"
  | char => "gchar"
  | uchar => "guchar"
  | int8 => "gint8"
  | uint8 => "guint8"
  | int16 => "gint16"
  | uint16 => "guint16"
  | int32 => "gint"
  | uint32 => "guint"
  | int64 => "gint64"
  | uint64 => "guint64"
  | long => "glong"
  | ulong => "gulong"
  | size => "gsize"
  | ssize => "gssize"
  | float => "gfloat"
  | double => "gdouble"
  | unichar => "gunichar"
  | gtype => "GType"
  | pointer => "gpointer"
  | constPointer => "gconstpointer"
  | utf8 => "utf8"
  | filename => "filename"

/-- Further names that mean the same type. -/
def synonyms : Fundamental → List String
  | none => ["void", "Void"]
  | char => ["char"]
  | int16 => ["gshort"]
  | uint16 => ["gushort"]
  | int32 => ["gint32", "int"]
  | uint32 => ["guint32"]
  | int64 => ["goffset"]
  | long => ["long"]
  | size => ["guintptr"]
  | ssize => ["gintptr"]
  | float => ["float"]
  | double => ["double"]
  | _ => []

def ofName? (s : String) : Option Fundamental :=
  all.find? fun f => s == f.name || f.synonyms.contains s

def isString : Fundamental → Bool
  | utf8 | filename => true
  | _ => false

def isPointer : Fundamental → Bool
  | pointer | constPointer => true
  | _ => false

def abi : Fundamental → String
  | none => "()"
  | boolean | int32 => "i32"
  | char | int8 => "i8"
  | uchar | uint8 => "u8"
  | int16 => "i16"
  | uint16 => "u16"
  | uint32 | unichar => "u32"
  | int64 => "i64"
  | uint64 => "u64"
  | long => "std::ffi::c_long"
  | ulong => "std::ffi::c_ulong"
  | size | gtype => "usize"
  | ssize => "isize"
  | float => "f32"
  | double => "f64"
  | pointer => "*mut std::ffi::c_void"
  | constPointer => "*const std::ffi::c_void"
  | utf8 | filename => "*const std::ffi::c_char"

def idiomatic (f : Fundamental) : String :=
  match f with
  | boolean => "bool"
  | utf8 | filename => "String"
  | _ => f.abi

def receive (f : Fundamental) (expression : String) : String :=
  match f with
  | boolean => expression ++ " != 0"
  | utf8 | filename =>
    "unsafe \x7b std::ffi::CStr::from_ptr(" ++ expression ++ ") \x7d.to_string_lossy().into_owned()"
  | _ => expression

/-- Turns an expression of the handler's side into one of the C side. A string has no such expression: it
    stays as it is and needs a copy. -/
def send (f : Fundamental) (expression : String) : String :=
  match f with
  | boolean => "i32::from(" ++ expression ++ ")"
  | _ => expression

end Fundamental

end Introspection
