import Governance.Call.Flow

set_option autoImplicit false

namespace Governance.Call

variable {σ β γ : Type}

def Outcome.after (earlier : List Happening) (o : Outcome σ β) : Outcome σ β :=
  { o with trace := earlier ++ o.trace }

theorem Outcome.after_after (first second : List Happening) (o : Outcome σ β) :
    (o.after second).after first = o.after (first ++ second) := by
  simp [after]

namespace Flow

theorem run_bind_after (x : Flow σ β) (f : β → Flow σ γ) (s : Session σ) :
    (x >>= f).run s =
      ((f (x.run s).value).run (x.run s).session).after (x.run s).trace := rfl

theorem run_now (s : Session σ) : (now : Flow σ Millis).run s = ⟨s.clock, s, []⟩ := rfl

theorem run_session_bind (f : Session σ → Flow σ γ) (s : Session σ) :
    (session >>= f).run s = (f s).run s := rfl

theorem run_through (f : Session σ → β × Session σ) (s : Session σ) :
    (through f).run s = ⟨(f s).1, (f s).2, []⟩ := rfl

theorem run_note (h : Happening) (s : Session σ) :
    (note h : Flow σ Unit).run s = ⟨(), s, [h]⟩ := rfl

theorem run_log (entries : List Log.Entry) (s : Session σ) :
    (log entries : Flow σ Unit).run s = ⟨(), s, entries.map .logged⟩ := rfl

theorem run_map (f : β → γ) (x : Flow σ β) (s : Session σ) :
    (f <$> x).run s = ⟨f (x.run s).value, (x.run s).session, (x.run s).trace⟩ := by
  change (x >>= fun b => pure (f b)).run s = _
  simp [run_bind, run_pure]

theorem run_map_trace (f : β → γ) (x : Flow σ β) (s : Session σ) :
    ((f <$> x).run s).trace = (x.run s).trace := by rw [run_map]

def Returns (P : β → Prop) (x : Flow σ β) : Prop := ∀ s, P (x.run s).value

section Returns

variable {P : γ → Prop} {Q : β → Prop}

theorem returns_pure {c : γ} (holds : P c) : Returns (σ := σ) P (pure c) := fun _ => holds

theorem returns_bind {x : Flow σ β} {f : β → Flow σ γ} (first : Returns Q x)
    (rest : ∀ b, Q b → Returns P (f b)) : Returns P (x >>= f) := fun s =>
  rest _ (first s) (x.run s).session

theorem returns_map {x : Flow σ β} {f : β → γ} (first : Returns Q x) (rest : ∀ b, Q b → P (f b)) :
    Returns P (f <$> x) := fun s => by
  rw [run_map]
  exact rest _ (first s)

theorem returns_imp {x : Flow σ γ} {R : γ → Prop} (strong : Returns R x) (weaken : ∀ c, R c → P c) :
    Returns P x := fun s => weaken _ (strong s)

theorem returns_rest {x : Flow σ β} {f : β → Flow σ γ} (rest : ∀ b, Returns P (f b)) :
    Returns P (x >>= f) := fun _ => rest _ _

theorem returns_through (f : Session σ → β × Session σ) :
    Returns (fun b => ∃ s, (f s).1 = b) (through f) := fun s => ⟨s, rfl⟩

end Returns

-- Of the happenings in view the flow shows exactly these, in order.
def Shows (view : Happening → Bool) (x : Flow σ β) (shown : List Happening) : Prop :=
  ∀ s, (x.run s).trace.filter view = shown

section Shows

variable {view : Happening → Bool}

theorem shows_pure (b : β) : Shows (σ := σ) view (pure b) [] := fun _ => rfl

theorem shows_bind {x : Flow σ β} {f : β → Flow σ γ} {first second : List Happening}
    (left : Shows view x first) (right : ∀ b, Shows view (f b) second) :
    Shows view (x >>= f) (first ++ second) := by
  intro s
  rw [run_bind, List.filter_append, left s, right _ _]

theorem shows_bind_nil {x : Flow σ β} {f : β → Flow σ γ} {shown : List Happening}
    (left : Shows view x []) (right : ∀ b, Shows view (f b) shown) :
    Shows view (x >>= f) shown := shows_bind left right

theorem shows_bind_of_nil {x : Flow σ β} {f : β → Flow σ γ} {shown : List Happening}
    (left : Shows view x shown) (right : ∀ b, Shows view (f b) []) :
    Shows view (x >>= f) shown := by
  simpa using shows_bind left right

theorem shows_map (f : β → γ) {x : Flow σ β} {shown : List Happening} (own : Shows view x shown) :
    Shows view (f <$> x) shown := fun s => by
  rw [run_map]
  exact own s

theorem shows_session : Shows (σ := σ) view session [] := fun _ => rfl

theorem shows_now : Shows (σ := σ) view now [] := fun _ => rfl

theorem shows_change (f : Session σ → Session σ) : Shows view (change f) [] := fun _ => rfl

theorem shows_through (f : Session σ → β × Session σ) : Shows view (through f) [] := fun _ => rfl

theorem shows_note {h : Happening} (inView : view h) : Shows (σ := σ) view (note h) [h] :=
  fun _ => by simp [run, Flow.note, inView]

theorem shows_note_hidden {h : Happening} (hidden : view h = false) :
    Shows (σ := σ) view (note h) [] :=
  fun _ => by simp [run, Flow.note, hidden]

theorem shows_note_filter (h : Happening) : Shows (σ := σ) view (note h) ([h].filter view) :=
  fun _ => rfl

theorem shows_log (hidden : ∀ entry, view (.logged entry) = false) (entries : List Log.Entry) :
    Shows (σ := σ) view (log entries) [] := fun _ => by
  simp [run, log, List.filter_eq_nil_iff, hidden]

end Shows

end Flow

end Governance.Call
