import HostFacts.Failure
import HostFacts.Message

/-!
# Attempts

What an operation comes to: an answer or the cause of its failure, and the
messages that it gave on the way. In a sequence the messages add up, and the
first failure ends it.
-/

namespace HostFacts

structure Attempt (α : Type) where
  result : Except Failure α
  messages : List Message

namespace Attempt

variable {α β : Type}

def succeed (a : α) : Attempt α := ⟨.ok a, []⟩

def fail (failure : Failure) : Attempt α := ⟨.error failure, []⟩

def bind (x : Attempt α) (f : α → Attempt β) : Attempt β :=
  match x.result with
  | .ok a =>
    let y := f a
    ⟨y.result, x.messages ++ y.messages⟩
  | .error failure => ⟨.error failure, x.messages⟩

instance : Monad Attempt where
  pure := succeed
  bind := bind

def say (level : Level) (text : Text) : Attempt Unit := ⟨.ok (), [⟨level, text⟩]⟩

def info (text : Text) : Attempt Unit := say .info text

def warn (text : Text) : Attempt Unit := say .warn text

def ofExcept : Except Failure α → Attempt α
  | .ok a => succeed a
  | .error failure => fail failure

/-- Goes on with `handle` if the attempt fails. -/
def orElse (x : Attempt α) (handle : Failure → Attempt α) : Attempt α :=
  match x.result with
  | .ok _ => x
  | .error failure =>
    let y := handle failure
    ⟨y.result, x.messages ++ y.messages⟩

@[simp] theorem result_pure (a : α) : (pure a : Attempt α).result = .ok a := rfl

@[simp] theorem messages_pure (a : α) : (pure a : Attempt α).messages = [] := rfl

@[simp] theorem result_bind (x : Attempt α) (f : α → Attempt β) :
    (x >>= f).result = x.result.bind fun a => (f a).result := by
  show (bind x f).result = _
  unfold bind
  cases x.result <;> rfl

@[simp] theorem result_map (f : α → β) (x : Attempt α) :
    (f <$> x).result = x.result.map f := by
  show (x >>= pure ∘ f).result = _
  rw [result_bind]
  cases x.result <;> rfl

@[simp] theorem messages_map (f : α → β) (x : Attempt α) : (f <$> x).messages = x.messages := by
  show (bind x (pure ∘ f)).messages = _
  unfold bind
  cases x.result with
  | ok a => exact List.append_nil _
  | error failure => rfl

@[simp] theorem result_ofExcept (x : Except Failure α) : (ofExcept x).result = x := by
  cases x <;> rfl

theorem bind_eq_ok {x : Attempt α} {f : α → Attempt β} {b : β} :
    (x >>= f).result = .ok b ↔ ∃ a, x.result = .ok a ∧ (f a).result = .ok b := by
  rw [result_bind]
  cases x.result with
  | error failure => simp [Except.bind]
  | ok a => simp [Except.bind]

end Attempt

/-! ## Sequences of results -/

theorem except_bind_eq_ok {ε α β : Type} {x : Except ε α} {f : α → Except ε β} {b : β} :
    (x >>= f) = .ok b ↔ ∃ a, x = .ok a ∧ f a = .ok b := by
  cases x with
  | error e => exact ⟨nofun, fun ⟨_, h, _⟩ => nomatch h⟩
  | ok a => exact ⟨fun h => ⟨a, rfl, h⟩, fun ⟨_, h, hf⟩ => Except.ok.inj h ▸ hf⟩

end HostFacts
