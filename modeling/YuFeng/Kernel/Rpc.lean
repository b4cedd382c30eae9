import YuFeng.Library.Outcome

/-!
# Errors of the remote calls

The status codes that the services answer with, and the check that most of
their handlers are made of.
-/

namespace YuFeng

open YuFeng.Library

inductive Code where
  | invalidArgument
  | failedPrecondition
  | unauthenticated
  | permissionDenied
  | resourceExhausted
  | notFound
  | alreadyExists
  | aborted
  | unknown
  deriving DecidableEq, Repr

structure RpcError where
  code : Code
  message : String
  deriving DecidableEq

def require (holds : Bool) (code : Code) (message : String) : Except RpcError Unit :=
  ensure holds ⟨code, message⟩

@[simp] theorem require_bind_ok {α : Type} {holds code message} {rest : Unit → Except RpcError α}
    {a} : (require holds code message >>= rest) = .ok a ↔ holds = true ∧ rest () = .ok a :=
  ensure_bind_ok

@[simp] theorem require_ok {holds code message u} :
    require holds code message = .ok u ↔ holds = true :=
  ensure_ok

end YuFeng
