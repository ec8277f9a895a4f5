import SqlBuild.Text.Basic

/-!
# Values with warnings

`Noted α` is a value together with the warnings given on the way to it, in order. Only the value
decides what happens next.
-/

namespace SqlBuild

structure Noted (α : Type) where
  value : α
  warnings : List Text := []
deriving Repr

namespace Noted

def warn (text : Text) : Noted Unit := ⟨(), [text]⟩

protected def bind {α β : Type} (x : Noted α) (f : α → Noted β) : Noted β :=
  let y := f x.value
  ⟨y.value, x.warnings ++ y.warnings⟩

instance : Monad Noted where
  pure a := ⟨a, []⟩
  bind := Noted.bind

@[simp] theorem value_pure {α : Type} (a : α) : (pure a : Noted α).value = a := rfl

@[simp] theorem value_bind {α β : Type} (x : Noted α) (f : α → Noted β) :
    (x >>= f).value = (f x.value).value := rfl

/-- The warnings given after the value was found. -/
def withWarnings {α : Type} (a : α) (warnings : List Text) : Noted α := ⟨a, warnings⟩

end Noted

end SqlBuild
