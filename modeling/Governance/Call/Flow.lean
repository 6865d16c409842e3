import Governance.Circuit.Registry
import Governance.Election.Picker
import Governance.Response
import Governance.Telemetry

set_option autoImplicit false

namespace Governance.Call

structure Session (σ : Type) where
  clock : Millis
  balancer : Balancer
  breakers : Option Circuit.Registry
  world : σ

inductive Happening where
  | routed
  | advised (candidates : List Endpoint)
  | emitted (e : Event)
  | invoked (e : Endpoint)
  | succeeded (e : Endpoint)
  | failed (e : Endpoint) (error : ServiceError)
  | slept (d : Duration)
  | logged (entry : Log.Entry)

structure Outcome (σ β : Type) where
  value : β
  session : Session σ
  trace : List Happening

def Flow (σ β : Type) := Session σ → Outcome σ β

namespace Flow

variable {σ β γ : Type}

def run (x : Flow σ β) (s : Session σ) : Outcome σ β := x s

instance : Monad (Flow σ) where
  pure b := fun s => ⟨b, s, []⟩
  bind x f := fun s =>
    let first := x s
    let second := f first.value first.session
    ⟨second.value, second.session, first.trace ++ second.trace⟩

theorem run_pure (b : β) (s : Session σ) : (pure b : Flow σ β).run s = ⟨b, s, []⟩ := rfl

theorem run_bind (x : Flow σ β) (f : β → Flow σ γ) (s : Session σ) :
    (x >>= f).run s =
      ⟨((f (x.run s).value).run (x.run s).session).value,
        ((f (x.run s).value).run (x.run s).session).session,
        (x.run s).trace ++ ((f (x.run s).value).run (x.run s).session).trace⟩ := rfl

def session : Flow σ (Session σ) := fun s => ⟨s, s, []⟩

def now : Flow σ Millis := fun s => ⟨s.clock, s, []⟩

def change (f : Session σ → Session σ) : Flow σ Unit := fun s => ⟨(), f s, []⟩

def through (f : Session σ → β × Session σ) : Flow σ β := fun s => ⟨(f s).1, (f s).2, []⟩

def note (h : Happening) : Flow σ Unit := fun s => ⟨(), s, [h]⟩

def log (entries : List Log.Entry) : Flow σ Unit := fun s => ⟨(), s, entries.map .logged⟩

end Flow

end Governance.Call
