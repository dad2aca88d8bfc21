import LoginReport.Fault
import LoginReport.Notice

set_option autoImplicit false

/-!
# Runs

A run prints lines and gives notices, in order, until it ends with a value or a fault. What was
printed before a fault stays printed.
-/

namespace LoginReport

structure Run (α : Type) where
  lines : List Text
  notices : List Notice
  result : Except Fault α

namespace Run

variable {α β : Type}

def pure (a : α) : Run α := ⟨[], [], .ok a⟩

def bind (run : Run α) (next : α → Run β) : Run β :=
  match run.result with
  | .error fault => ⟨run.lines, run.notices, .error fault⟩
  | .ok a =>
    ⟨run.lines ++ (next a).lines, run.notices ++ (next a).notices, (next a).result⟩

instance : Monad Run where
  pure := Run.pure
  bind := Run.bind

def print (lines : List Text) : Run Unit := ⟨lines, [], .ok ()⟩

def note (notices : List Notice) : Run Unit := ⟨[], notices, .ok ()⟩

def fail (fault : Fault) : Run α := ⟨[], [], .error fault⟩

def ofExcept (result : Except Fault α) : Run α := ⟨[], [], result⟩

theorem bind_ok (lines : List Text) (notices : List Notice) (a : α) (next : α → Run β) :
    bind ⟨lines, notices, .ok a⟩ next =
      ⟨lines ++ (next a).lines, notices ++ (next a).notices, (next a).result⟩ := rfl

end Run

end LoginReport
