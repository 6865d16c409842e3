import Governance.Telemetry
import Mathlib.Algebra.BigOperators.Group.Finset.Basic
import Mathlib.Data.List.DropRight
import Mathlib.Data.List.Induction

set_option autoImplicit false

namespace Governance.MemorySink

inductive Change where
  | deliver (e : Event)
  | clear
  deriving DecidableEq, Repr

def Change.event? : Change → Option Event
  | .deliver e => some e
  | .clear => none

def apply (m : MemorySink) : Change → MemorySink
  | .deliver e => Sink.memory.deliver e m
  | .clear => m.clear

def after (capacity : Nat) (changes : List Change) : MemorySink :=
  changes.foldl apply (withCapacity capacity)

def delivered (changes : List Change) : List Event := changes.filterMap Change.event?

def sinceClear (changes : List Change) : List Event :=
  delivered (changes.rtakeWhile (· ≠ .clear))

def stored (capacity : Nat) (changes : List Change) : Nat :=
  min (sinceClear changes).length (max capacity 1)

def dropped (capacity : Nat) (changes : List Change) : Nat :=
  ∑ i ∈ Finset.range changes.length,
    if changes[i]? = some .clear then stored capacity (changes.take i) else 0

-- How many events are neither stored nor taken out by a clear.
def displaced (capacity : Nat) (changes : List Change) : Nat :=
  (delivered changes).length - stored capacity changes - dropped capacity changes

structure Retains (capacity : Nat) (changes : List Change) (m : MemorySink) : Prop where
  capacity_eq : m.capacity = max capacity 1
  latest : m.events <:+ sinceClear changes
  length_eq : m.events.length = stored capacity changes
  evicted_eq : m.evicted = .ofNat (displaced capacity changes)

section Changes

variable (capacity : Nat) (changes : List Change)

theorem after_concat (change : Change) :
    after capacity (changes ++ [change]) = (after capacity changes).apply change := by
  simp [after]

theorem delivered_concat (change : Change) :
    delivered (changes ++ [change]) = delivered changes ++ change.event?.toList := by
  cases change <;> simp [delivered, Change.event?]

theorem sinceClear_deliver (e : Event) :
    sinceClear (changes ++ [.deliver e]) = sinceClear changes ++ [e] := by
  rw [sinceClear, List.rtakeWhile_concat_pos _ _ _ (by simp), delivered_concat]
  rfl

theorem sinceClear_clear : sinceClear (changes ++ [.clear]) = [] := by
  rw [sinceClear, List.rtakeWhile_concat_neg _ _ _ (by simp)]
  rfl

theorem stored_deliver (e : Event) :
    stored capacity (changes ++ [.deliver e]) =
      min (stored capacity changes + 1) (max capacity 1) := by
  simp only [stored, sinceClear_deliver, List.length_append, List.length_singleton]
  omega

theorem stored_clear : stored capacity (changes ++ [.clear]) = 0 := by
  rw [stored, sinceClear_clear]
  exact Nat.zero_min _

theorem dropped_concat (change : Change) :
    dropped capacity (changes ++ [change]) =
      dropped capacity changes + if change = .clear then stored capacity changes else 0 := by
  have earlier : ∀ i ∈ Finset.range changes.length,
      (if (changes ++ [change])[i]? = some .clear
        then stored capacity ((changes ++ [change]).take i) else 0) =
      if changes[i]? = some .clear then stored capacity (changes.take i) else 0 := by
    intro i mem
    have inside := Finset.mem_range.1 mem
    rw [List.getElem?_append_left inside, List.take_append_of_le_length inside.le]
  rw [dropped, List.length_append, List.length_singleton, Finset.sum_range_succ,
    Finset.sum_congr rfl earlier]
  simp [dropped]

theorem dropped_deliver (e : Event) :
    dropped capacity (changes ++ [.deliver e]) = dropped capacity changes := by
  simp [dropped_concat]

theorem dropped_clear :
    dropped capacity (changes ++ [.clear]) =
      dropped capacity changes + stored capacity changes := by
  simp [dropped_concat]

theorem stored_add_dropped_le :
    stored capacity changes + dropped capacity changes ≤ (delivered changes).length := by
  induction changes using List.reverseRecOn with
  | nil => exact Nat.le_refl 0
  | append_singleton changes change ih =>
    rw [delivered_concat, List.length_append]
    cases change with
    | deliver e =>
      rw [stored_deliver, dropped_deliver, Change.event?, Option.toList_some, List.length_singleton]
      omega
    | clear =>
      rw [stored_clear, dropped_clear]
      omega

-- A delivery displaces what was stored or is new, and is not stored then.
theorem displaced_deliver (e : Event) :
    displaced capacity (changes ++ [.deliver e]) = displaced capacity changes +
      (stored capacity changes + 1 - stored capacity (changes ++ [.deliver e])) := by
  have before := stored_add_dropped_le capacity changes
  rw [displaced, displaced, dropped_deliver, delivered_concat, List.length_append, Change.event?,
    Option.toList_some, List.length_singleton, stored_deliver]
  omega

theorem displaced_clear :
    displaced capacity (changes ++ [.clear]) = displaced capacity changes := by
  rw [displaced, displaced, stored_clear, dropped_clear, delivered_concat, Change.event?,
    Option.toList_none, List.append_nil]
  omega

end Changes

section Store

variable {m : MemorySink} (e : Event)

theorem store_capacity : (m.store e).capacity = m.capacity := by
  unfold store
  split <;> rfl

theorem length_store (bounded : m.events.length ≤ m.capacity) :
    (m.store e).events.length = min (m.events.length + 1) m.capacity := by
  have room := m.capacity_pos
  unfold store
  split
  all_goals
    simp only [List.length_append, List.length_drop, List.length_singleton]
    omega

theorem store_latest {since : List Event} (latest : m.events <:+ since) :
    (m.store e).events <:+ since ++ [e] := by
  unfold store
  split
  · exact List.suffix_append_self_iff.2 ((m.events.drop_suffix 1).trans latest)
  · exact List.suffix_append_self_iff.2 latest

theorem store_evicted :
    (m.store e).evicted =
      m.evicted + .ofNat (m.events.length + 1 - (m.store e).events.length) := by
  have room := m.capacity_pos
  unfold store
  split
  · rename_i full
    have one : m.events.length + 1 - (m.events.drop 1 ++ [e]).length = 1 := by
      simp only [List.length_append, List.length_drop, List.length_singleton]
      omega
    exact congrArg (m.evicted + UInt64.ofNat ·) one.symm
  · simp

end Store

namespace Retains

variable {capacity : Nat} {changes : List Change} {m : MemorySink}

theorem start (capacity : Nat) : Retains capacity [] (withCapacity capacity) where
  capacity_eq := rfl
  latest := List.nil_suffix
  length_eq := (Nat.zero_min _).symm
  evicted_eq := rfl

theorem bounded (retains : Retains capacity changes m) : m.events.length ≤ m.capacity := by
  rw [retains.length_eq, retains.capacity_eq]
  exact Nat.min_le_right _ _

theorem deliver (retains : Retains capacity changes m) (e : Event) :
    Retains capacity (changes ++ [.deliver e]) (m.store e) := by
  have length : (m.store e).events.length = stored capacity (changes ++ [.deliver e]) := by
    rw [length_store e retains.bounded, retains.length_eq, retains.capacity_eq, stored_deliver]
  constructor
  · exact (store_capacity e).trans retains.capacity_eq
  · rw [sinceClear_deliver]
    exact store_latest e retains.latest
  · exact length
  · rw [store_evicted, length, retains.length_eq, retains.evicted_eq, displaced_deliver,
      UInt64.ofNat_add]

theorem clear (retains : Retains capacity changes m) :
    Retains capacity (changes ++ [.clear]) m.clear := by
  constructor
  · exact retains.capacity_eq
  · exact List.nil_suffix
  · exact (stored_clear capacity changes).symm
  · rw [displaced_clear]
    exact retains.evicted_eq

theorem apply (retains : Retains capacity changes m) (change : Change) :
    Retains capacity (changes ++ [change]) (m.apply change) := by
  cases change with
  | deliver e => exact retains.deliver e
  | clear => exact retains.clear

theorem accounted (retains : Retains capacity changes m) :
    (delivered changes).length =
      m.events.length + dropped capacity changes + displaced capacity changes := by
  have enough := stored_add_dropped_le capacity changes
  rw [retains.length_eq, displaced]
  omega

end Retains

theorem retains_after (capacity : Nat) (changes : List Change) :
    Retains capacity changes (after capacity changes) := by
  induction changes using List.reverseRecOn with
  | nil => exact Retains.start capacity
  | append_singleton changes change ih =>
    rw [after_concat]
    exact ih.apply change

/-- After every history the sink holds the latest events since it was cleared, never more than there
is room for. Every event delivered is stored, was taken out by a clear or made way, and those that
made way are what the sink has counted, exactly so as long as 64 bits can say how many they are. -/
theorem after_retainsLatest (capacity : Nat) (changes : List Change) :
    Retains capacity changes (after capacity changes) ∧
      (after capacity changes).events.length ≤ max capacity 1 ∧
      (delivered changes).length = (after capacity changes).events.length +
        dropped capacity changes + displaced capacity changes ∧
      ((after capacity changes).evicted.toNat = displaced capacity changes ↔
        displaced capacity changes < 2 ^ 64) := by
  have retains := retains_after capacity changes
  refine ⟨retains, ?_, retains.accounted, ?_⟩
  · rw [← retains.capacity_eq]
    exact retains.bounded
  · rw [retains.evicted_eq, UInt64.toNat_ofNat']
    exact Nat.mod_eq_iff_lt (by decide)

-- Room for one event is the least: the first of three makes way, and a clear takes the second.
example :
    let changes : List Change := ["a", "b"].map (.deliver <| .adviceFailed ·) ++
      [.clear, .deliver (.adviceFailed "c")]
    (after 0 changes).events = [.adviceFailed "c"] ∧ (after 0 changes).evicted = 1 ∧
      dropped 0 changes = 1 := by
  decide

end Governance.MemorySink
