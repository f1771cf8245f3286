import Introspection.Entity.Enumeration
import Introspection.Entity.Record

set_option autoImplicit false

namespace Introspection

inductive Declaration where
  | typeAlias (a : Alias)
  | constant (c : Constant)
  | enumeration (e : Enumeration)
  | bitfield (e : Enumeration)
  | record (r : Record)
  | callback (c : Callable)
deriving Repr, Inhabited

namespace Declaration

def item : Declaration → Item
  | typeAlias a => a.item
  | constant c => c.item
  | enumeration e => e.item
  | bitfield e => e.item
  | record r => r.item
  | callback c => c.item

def name (d : Declaration) : String := d.item.name

def kind : Declaration → String
  | typeAlias _ => "Alias"
  | constant _ => "Constant"
  | enumeration _ => "Enumeration"
  | bitfield _ => "Bitfield"
  | record r => r.kind.title
  | callback _ => "Callback"

def type : Declaration → TypeRef
  | typeAlias a => a.slot.type
  | constant c => c.slot.type
  | enumeration e => e.type
  | bitfield e => e.type
  | record r => r.type
  | callback c => c.type

def record? : Declaration → Option Record
  | record r => some r
  | _ => none

def enumeration? : Declaration → Option Enumeration
  | enumeration e => some e
  | _ => none

def bitfield? : Declaration → Option Enumeration
  | bitfield e => some e
  | _ => none

end Declaration

end Introspection
