import Introspection.Generator
import Introspection.Proofs.Repository.Partition
import Introspection.Proofs.Signal.Account

set_option autoImplicit false

namespace Introspection

open Markup Text

namespace Boundary

variable {b : Boundary} {p : Paths} {record : Record} {signal : Callable} {fault : ArityFault}

end Boundary

namespace Repository

variable {r : Repository} {c : Config} {fault : GenerationFault}

theorem recordText_eq_ok_iff {record : Record} {text : String} :
    r.recordText c record = .ok text ↔ (r.boundary c).renderRecord c.paths record = .ok text :=
  mapError_eq_ok_iff

example :
    let parameter (direction : String) : Element :=
      { Element.named "parameter" with
        attributes := [("name", "x"), ("direction", direction)]
        children := [{ Element.named "type" with attributes := [("name", "gint")] }] }
    let signal (name direction : String) : Element :=
      { Element.named "signal" with
        attributes := [("name", name)], children := parameter direction :: List.replicate 6 (parameter "in") }
    let space : Element :=
      { Element.named "namespace" with
        children := [{ Element.named "class" with
          attributes := [("name", "Widget")], children := [signal "asked" "out", signal "moved" "in"] }] }
    (({} : Loader).loadNamespace ⟨[], [], [space]⟩ space).finish.generate {} = .error (.arity ⟨"Widget", "moved", 7⟩) := by
  decide +kernel

end Repository

end Introspection
