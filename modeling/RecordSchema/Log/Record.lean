/-! # Logged computations

A logged computation yields the log records that it wrote, in order, and its result or its failure.
A failure stops the computation and keeps what was logged before it.
-/
namespace RecordSchema.Log

structure Record where
  level : Int
  message : String
deriving DecidableEq, Repr, Inhabited

end RecordSchema.Log

namespace RecordSchema

@[simp] theorem ok_bind {ε α β : Type} (a : α) (f : α → Except ε β) :
    (Except.ok a >>= f) = f a := rfl

@[simp] theorem error_bind {ε α β : Type} (e : ε) (f : α → Except ε β) :
    ((Except.error e : Except ε α) >>= f) = .error e := rfl

theorem bind_eq_ok_iff {ε α β : Type} {x : Except ε α} {f : α → Except ε β} {b : β} :
    (x >>= f) = .ok b ↔ ∃ a, x = .ok a ∧ f a = .ok b := by
  cases x <;> simp

structure Logged (ε α : Type) where
  log : List Log.Record
  result : Except ε α

namespace Logged

variable {ε ε' α β : Type}

def ok (a : α) : Logged ε α := ⟨[], .ok a⟩

def fail (e : ε) : Logged ε α := ⟨[], .error e⟩

def write (level : Int) (message : String) : Logged ε Unit := ⟨[⟨level, message⟩], .ok ()⟩

def andThen (x : Logged ε α) (f : α → Logged ε β) : Logged ε β :=
  match x.result with
  | .error e => ⟨x.log, .error e⟩
  | .ok a => ⟨x.log ++ (f a).log, (f a).result⟩

instance : Monad (Logged ε) where
  pure := ok
  bind := andThen

/-- Lift a computation that logs nothing. -/
def of (x : Except ε α) : Logged ε α := ⟨[], x⟩

def mapError (f : ε → ε') (x : Logged ε α) : Logged ε' α :=
  ⟨x.log, match x.result with
    | .ok a => .ok a
    | .error e => .error (f e)⟩

@[simp] theorem log_pure (a : α) : (pure a : Logged ε α).log = [] := rfl

@[simp] theorem result_pure (a : α) : (pure a : Logged ε α).result = .ok a := rfl

theorem bind_of_ok {x : Logged ε α} {f : α → Logged ε β} {a : α} (h : x.result = .ok a) :
    x >>= f = ⟨x.log ++ (f a).log, (f a).result⟩ := by
  show andThen x f = _
  simp [andThen, h]

theorem bind_of_error {x : Logged ε α} {f : α → Logged ε β} {e : ε} (h : x.result = .error e) :
    x >>= f = ⟨x.log, .error e⟩ := by
  show andThen x f = _
  simp [andThen, h]

@[simp] theorem result_fail (e : ε) : (fail e : Logged ε α).result = .error e := rfl

@[simp] theorem result_of (x : Except ε α) : (of x).result = x := rfl

@[simp] theorem result_write (level : Int) (message : String) :
    (write level message : Logged ε Unit).result = .ok () := rfl

/-- The log plays no part in the result of a computation. -/
@[simp] theorem result_bind (x : Logged ε α) (f : α → Logged ε β) :
    (x >>= f).result = x.result >>= fun a => (f a).result := by
  cases h : x.result with
  | error e => rw [bind_of_error h]; rfl
  | ok a => rw [bind_of_ok h]; rfl

end Logged

end RecordSchema
