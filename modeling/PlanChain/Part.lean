import PlanChain.Timeline

set_option autoImplicit false

namespace PlanChain

structure Part (σ τ : Type) where
  get : σ → τ
  set : τ → σ → σ

namespace Part

variable {σ τ α : Type}

def begin (part : Part σ τ) (start : τ → Pending τ α × τ) (world : σ) : Pending σ α × σ :=
  let (pending, inner) := start (part.get world)
  ({ delay := pending.delay
     finish := fun world =>
      let (value, inner) := pending.finish (part.get world)
      (value, part.set inner world) },
    part.set inner world)

end Part

end PlanChain
