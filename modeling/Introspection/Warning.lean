set_option autoImplicit false

namespace Introspection

inductive Warning where
  | duplicate (kind name : String)
  | missing (element key fallback : String)
  | invalid (element key value fallback : String)
deriving DecidableEq, Repr

def Warning.message : Warning → String
  | .duplicate kind name => "duplicate type '" ++ name ++ "' for " ++ kind ++ " ignored"
  | .missing element key fallback =>
    "missing attribute '" ++ key ++ "' on <" ++ element ++ ">, using '" ++ fallback ++ "'"
  | .invalid element key value fallback =>
    "invalid value '" ++ value ++ "' for attribute '" ++ key ++ "' on <" ++ element ++ ">, using '"
      ++ fallback ++ "'"

structure Warned (α : Type) where
  value : α
  warnings : List Warning := []
deriving Repr

namespace Warned

variable {α β : Type}

instance : Monad Warned where
  pure a := ⟨a, []⟩
  bind x f := ⟨(f x.value).value, x.warnings ++ (f x.value).warnings⟩

@[simp] theorem pure_value (a : α) : (pure a : Warned α).value = a := rfl

@[simp] theorem pure_warnings (a : α) : (pure a : Warned α).warnings = [] := rfl

@[simp] theorem bind_value (x : Warned α) (f : α → Warned β) : (x >>= f).value = (f x.value).value := rfl

@[simp] theorem bind_warnings (x : Warned α) (f : α → Warned β) :
    (x >>= f).warnings = x.warnings ++ (f x.value).warnings := rfl

@[simp] theorem map_value (x : Warned α) (f : α → β) : (f <$> x).value = f x.value := rfl

@[simp] theorem map_warnings (x : Warned α) (f : α → β) : (f <$> x).warnings = x.warnings := by
  change x.warnings ++ [] = x.warnings
  simp

def collect (xs : List (Warned α)) : Warned (List α) := ⟨xs.map value, xs.flatMap warnings⟩

end Warned

end Introspection
