import PlanChain.Part
import PlanChain.Sandbox.Basic
import PlanChain.Timeline

set_option autoImplicit false

namespace PlanChain

abbrev SandboxOutcome := Except SandboxError SandboxReply

structure Provider (σ : Type) where
  create : (sessionId : String) → (traceId : Option String) → σ → σ
  call : (sessionId : String) → SandboxCall → σ → Pending σ SandboxOutcome × σ
  close : (sessionId : String) → σ → Pending σ Unit × σ
  shutdown : σ → Pending σ Unit × σ

namespace Provider

variable {σ τ : Type}

def within (part : Part σ τ) (provider : Provider τ) : Provider σ where
  create sessionId traceId world :=
    part.set (provider.create sessionId traceId (part.get world)) world
  call sessionId call := part.begin (provider.call sessionId call)
  close sessionId := part.begin (provider.close sessionId)
  shutdown := part.begin provider.shutdown

end Provider

end PlanChain
