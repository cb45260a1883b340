/-!
# The log

Steps of the program leave entries in the log. `Logged` is a value with the entries left while it
was made, in order.
-/

namespace ClassFields

/-- How much an entry matters. -/
inductive Level where
  | debug
  | warn
  deriving DecidableEq, Repr

/-- One entry of the log. -/
structure LogEntry where
  level : Level
  text : String
  deriving DecidableEq, Repr

/-- A value and the entries left while it was made. -/
structure Logged (α : Type) where
  entries : List LogEntry
  value : α
  deriving Repr

namespace Logged

instance : Monad Logged where
  pure a := ⟨[], a⟩
  bind x f := ⟨x.entries ++ (f x.value).entries, (f x.value).value⟩

/-- Leaves one entry. -/
def note (level : Level) (text : String) : Logged Unit := ⟨[⟨level, text⟩], ()⟩

/-- Leaves entries. -/
def notes (entries : List LogEntry) : Logged Unit := ⟨entries, ()⟩

/-- Does the same for each value of a list, in order. -/
def each {α β : Type} (f : α → Logged β) : List α → Logged (List β)
  | [] => ⟨[], []⟩
  | a :: rest => ⟨(f a).entries ++ (each f rest).entries, (f a).value :: (each f rest).value⟩

@[simp]
theorem entries_pure {α : Type} (a : α) : (pure a : Logged α).entries = [] := rfl

@[simp]
theorem value_pure {α : Type} (a : α) : (pure a : Logged α).value = a := rfl

@[simp]
theorem entries_bind {α β : Type} (x : Logged α) (f : α → Logged β) :
    (x >>= f).entries = x.entries ++ (f x.value).entries := rfl

@[simp]
theorem value_bind {α β : Type} (x : Logged α) (f : α → Logged β) :
    (x >>= f).value = (f x.value).value := rfl

@[ext]
theorem ext {α : Type} {x y : Logged α} (hr : x.entries = y.entries) (hv : x.value = y.value) :
    x = y := by
  cases x
  cases y
  cases hr
  cases hv
  rfl

instance : LawfulMonad Logged :=
  LawfulMonad.mk' Logged
    (fun x => by ext1 <;> simp [Functor.map])
    (fun _ _ => rfl)
    (fun x f g => by ext1 <;> simp)

end Logged

end ClassFields
