import Governance.Proofs.Call.Parts
import Governance.Proofs.Election.Candidates

/-!
Calls among parts that leave the breakers alone. What adapters, sinks and pauses do may change the
world and let time pass, but it does not turn the clock back and does not touch the breakers.

A scene is what stays true of the clock and the world whatever these parts do.
-/

set_option autoImplicit false

namespace Governance.Call

variable {σ α β γ : Type}

structure Session.Fair (scene : Millis → σ → Prop) (s : Session σ) : Prop where
  inScene : scene s.clock s.world
  faithful : s.balancer.Faithful

structure Undisturbed (scene : Millis → σ → Prop) (s later : Session σ) : Prop where
  breakers_eq : later.breakers = s.breakers
  clock_le : s.clock ≤ later.clock
  fair : later.Fair scene

def Keeps (scene : Millis → σ → Prop) (f : Session σ → Session σ) : Prop :=
  ∀ s, s.Fair scene → Undisturbed scene s (f s)

section Undisturbed

variable {scene : Millis → σ → Prop} {s next later : Session σ}

theorem Undisturbed.refl (fair : s.Fair scene) : Undisturbed scene s s :=
  ⟨rfl, UInt64.le_refl _, fair⟩

theorem Undisturbed.trans (first : Undisturbed scene s next)
    (second : Undisturbed scene next later) : Undisturbed scene s later :=
  ⟨second.breakers_eq.trans first.breakers_eq, UInt64.le_trans first.clock_le second.clock_le,
    second.fair⟩

end Undisturbed

namespace Flow

variable {scene : Millis → σ → Prop}

def Calm (scene : Millis → σ → Prop) (x : Flow σ β) : Prop :=
  ∀ s, s.Fair scene → Undisturbed scene s (x.run s).session

end Flow

open Governance.Call.Flow

-- A call of a service under a valid breaker policy, with at most built-in advice. Its adapter lists
-- the same addresses whenever it lists any, its filters keep what they like of that, and none of
-- its parts disturbs the breakers.
structure Fits (scene : Millis → σ → Prop) (service : String) (addresses : List String)
    (c : Call σ α) : Prop where
  service_eq : c.request.service = service
  breaking : ∃ p config, c.limits.breaker = some p ∧ Circuit.Config.ofPolicy p = .ok config
  builtIn : Advice.IsBuiltIn c.advice
  narrows : ∀ filter ∈ c.invoker.routes, filter.Narrows
  lists : ∀ s, s.Fair scene → ∀ pool, (c.adapter.route c.request s).1 = .ok pool →
    ∀ a, a ∈ pool.map Endpoint.address ↔ a ∈ addresses
  route : Keeps scene (fun s => (c.adapter.route c.request s).2)
  invoke : ∀ e, Keeps scene (fun s => (c.adapter.invoke c.request e s).2)
  onSuccess : ∀ e, Keeps scene (c.adapter.onSuccess c.request e)
  onFailure : ∀ e error, Keeps scene (c.adapter.onFailure c.request e error)
  sleep : ∀ d, Keeps scene (c.invoker.sleep d)
  deliver : ∀ event, Keeps scene (fun s => (c.invoker.deliver event s).1)

namespace Fits

variable {scene : Millis → σ → Prop} {service : String} {addresses : List String} {c : Call σ α}

theorem parts (fits : Fits scene service addresses c) :
    Parts (fun s later => s.Fair scene → Undisturbed scene s later) c where
  refl _ fair := .refl fair
  trans first second fair := (first fair).trans (second (first fair).fair)
  route := fits.route
  onSuccess := fits.onSuccess
  onFailure := fits.onFailure
  sleep := fits.sleep
  deliver := fits.deliver
  balance _ _ _ fair :=
    ⟨rfl, UInt64.le_refl _, fair.inScene, Picker.elect_faithful fair.faithful⟩

theorem emit_calm (fits : Fits scene service addresses c) (e : Event) :
    Calm scene (c.invoker.emit e) := fits.parts.emit e

theorem route_calm (fits : Fits scene service addresses c) : Calm scene c.route :=
  fits.parts.listing

theorem pick_calm (fits : Fits scene service addresses c) (earlier : Nat)
    (candidates : List Endpoint) : Calm scene (c.pick earlier candidates) :=
  fits.parts.pick earlier candidates

end Fits

theorem pick_value (c : Call σ α) (earlier : Nat) (candidates : List Endpoint) (s : Session σ) :
    ((c.pick earlier candidates).run s).value =
      (Picker.elect ⟨s.balancer, c.invoker.mode⟩ c.request candidates c.advice earlier).outcome := by
  unfold pick
  rw [run_session_bind]
  extract_lets picker verdict outcome report
  have told (u : Unit) : Returns (· = verdict.outcome) (report u) := by
    apply returns_rest
    intro _
    split
    · exact returns_rest (fun _ => returns_pure rfl)
    · exact returns_pure rfl
  rw [run_bind]
  dsimp only
  split
  · exact returns_rest told _
  · exact told () _

end Governance.Call
