import Governance.Proofs.Circuit.Keys

set_option autoImplicit false

namespace Governance.Circuit

structure Use where
  service : String
  address : String
  config : Config
  live : List String
  asked : Millis
  outcome : Breaker.Outcome
  told : Millis

def Use.key (u : Use) : String := Registry.endpointKey u.service u.address

namespace Breaker

def afterUse (b : Breaker) (u : Use) : Breaker :=
  if (b.tryAcquire u.asked).1 = .refused then (b.tryAcquire u.asked).2
  else
    (b.tryAcquire u.asked).2.settle ((b.tryAcquire u.asked).1 == .probe) u.outcome u.told

def HasFailed (n : Nat) (b : Breaker) : Prop :=
  match b.state with
  | .closed => n ≤ b.failures.toNat
  | .halfOpen => n = 0
  | .opened => True

theorem hasFailed_zero (b : Breaker) : b.HasFailed 0 := by
  unfold HasFailed
  split <;> simp

section Use

variable {b : Breaker} {u : Use}

theorem Idle.afterUse_of_refused (idle : b.Idle) (refused : (b.tryAcquire u.asked).1 = .refused) :
    b.afterUse u = b := by
  have admits := b.tryAcquire_admits u.asked
  rw [refused] at admits
  rw [afterUse, if_pos refused]
  exact admits.eq_of_refused idle

theorem Idle.afterUse (idle : b.Idle) (u : Use) : (b.afterUse u).Idle := by
  by_cases refused : (b.tryAcquire u.asked).1 = .refused
  · rw [idle.afterUse_of_refused refused]
    exact idle
  · rw [Breaker.afterUse, if_neg refused]
    exact ((b.tryAcquire_admits u.asked).lent idle refused).settle_idle _ _

theorem HasFailed.afterUse {n : Nat} (failed : b.HasFailed n) (idle : b.Idle)
    (fails : u.outcome = .failure) : (b.afterUse u).HasFailed (n + 1) := by
  have admits := b.tryAcquire_admits u.asked
  unfold Breaker.afterUse
  generalize (b.tryAcquire u.asked).1 = admission at admits
  generalize (b.tryAcquire u.asked).2 = after at admits
  rw [fails]
  cases admits with
  | call closed =>
    have counted : n ≤ b.failures.toNat := by simpa [HasFailed, closed] using failed
    have next := toNat_failures_succ (idle.below closed)
    change (b.settle false .failure u.told).HasFailed (n + 1)
    rw [settle_call_failure closed]
    split
    · trivial
    · simp only [HasFailed, closed, next]
      omega
  | recovering opened =>
    change b.HasFailed (n + 1)
    simp [HasFailed, opened]
  | probe => trivial
  | full offers full => exact absurd idle.hasSlot full

-- Below the threshold is a closed breaker, and one failure is too many for a half-open one.
theorem HasFailed.opened {n : Nat} (failed : b.HasFailed n) (idle : b.Idle)
    (reached : b.config.failureThreshold.toNat ≤ n) : b.state = .opened := by
  have positive := UInt64.lt_iff_toNat_lt.1 b.config.zero_lt_threshold
  cases state : b.state with
  | opened => rfl
  | closed =>
    have counted : n ≤ b.failures.toNat := by simpa [HasFailed, state] using failed
    have below := UInt64.lt_iff_toNat_lt.1 (idle.below state)
    omega
  | halfOpen =>
    have none : n = 0 := by simpa [HasFailed, state] using failed
    subst none
    omega

end Use

end Breaker

namespace Registry

def provide (r : Registry) (u : Use) : Handle × Registry :=
  match r.get? u.key with
  | some h => (h, r)
  | none => (r.breakers.length, (r.grow u.key u.config).prune u.service u.live)

def taken (r : Registry) (u : Use) : Breaker := (r.find? u.key).getD (.new u.key u.config)

def use (r : Registry) (u : Use) : Registry :=
  (r.provide u).2.put (r.provide u).1 ((r.taken u).afterUse u)

def uses (r : Registry) (us : List Use) : Registry := us.foldl use r

theorem uses_append (r : Registry) (first second : List Use) :
    r.uses (first ++ second) = (r.uses first).uses second := List.foldl_append

def Makes (r : Registry) (u : Use) : Prop := r.get? u.key = none

-- The use makes a breaker, and the key is one of its service at an address that is not live.
def Drops (r : Registry) (u : Use) (key : String) : Prop :=
  r.Makes u ∧ ∃ address ∉ u.live, key = endpointKey u.service address

structure Own (r : Registry) (key : String) (h : Handle) : Prop where
  known : h < r.breakers.length
  only : ∀ other, r.get? other = some h → other = key

structure Sound (r : Registry) : Prop where
  own : ∀ {key h}, r.get? key = some h → r.Own key h
  idle : ∀ {key h b}, r.get? key = some h → r.breaker? h = some b → b.Idle

theorem empty_sound : empty.Sound := ⟨nofun, nofun⟩

section Use

variable {r : Registry} {u : Use} {key : String} {h : Handle}

theorem get?_use_of_found (found : ¬ r.Makes u) (key : String) :
    (r.use u).get? key = r.get? key := by
  obtain ⟨h, found⟩ := Option.ne_none_iff_exists'.1 found
  rw [use, provide, found]
  rfl

theorem get?_use_of_makes (makes : r.Makes u) (key : String) :
    (r.use u).get? key = if outlives u.service u.live key then
      if key = u.key then some r.breakers.length else r.get? key else none := by
  have missing : r.get? u.key = none := makes
  rw [use, provide, missing]
  change ((r.grow u.key u.config).prune u.service u.live).get? key = _
  rw [get?, prune_keys, Table.get?_retain, ← get?, get?_grow]

theorem provide_of_get? {h : Handle} (found : r.get? u.key = some h) : r.provide u = (h, r) := by
  rw [provide, found]

theorem provide_of_makes (makes : r.Makes u) :
    r.provide u = (r.breakers.length, (r.grow u.key u.config).prune u.service u.live) := by
  have missing : r.get? u.key = none := makes
  rw [provide, missing]

theorem get?_provide_of_makes (makes : r.Makes u) (key : String) :
    (r.provide u).2.get? key = if outlives u.service u.live key then
      if key = u.key then some r.breakers.length else r.get? key else none :=
  get?_use_of_makes makes key

theorem length_provide_of_makes (makes : r.Makes u) :
    (r.provide u).2.breakers.length = r.breakers.length + 1 := by
  rw [provide_of_makes makes]
  exact List.length_append

theorem of_get?_provide (makes : r.Makes u) {key : String} {h : Handle}
    (held : (r.provide u).2.get? key = some h) :
    (∀ address, key = endpointKey u.service address → address ∈ u.live) ∧
      (key = u.key ∧ h = r.breakers.length ∨ r.get? key = some h) := by
  rw [get?_provide_of_makes makes, Option.ite_none_right_eq_some] at held
  obtain ⟨outlives, held⟩ := held
  constructor
  · intro address same
    by_contra gone
    have out := outlives_eq_false_iff.2 ⟨address, gone, same⟩
    rw [outlives] at out
    cases out
  · split at held
    · exact .inl ⟨‹_›, (Option.some.inj held).symm⟩
    · exact .inr held

theorem drops_iff (makes : r.Makes u) :
    r.Drops u key ↔ outlives u.service u.live key = false := by
  rw [outlives_eq_false_iff]
  exact and_iff_right makes

theorem get?_use_eq_some_iff (known : h < r.breakers.length) :
    (r.use u).get? key = some h ↔ r.get? key = some h ∧ ¬ r.Drops u key := by
  by_cases makes : r.Makes u
  · have missing : r.get? u.key = none := makes
    rw [get?_use_of_makes makes, drops_iff makes]
    by_cases lives : outlives u.service u.live key = true
    · by_cases here : key = u.key
      · subst here
        have isNew : r.breakers.length ≠ h := Nat.ne_of_gt known
        simp [lives, missing, isNew]
      · simp [lives, here]
    · simp [lives]
  · have stays : ¬ r.Drops u key := fun drops => makes drops.1
    rw [get?_use_of_found makes]
    exact (and_iff_left stays).symm

-- Whatever a breaker made in between is, it is not this one.
theorem length_le_use (r : Registry) (u : Use) : r.breakers.length ≤ (r.use u).breakers.length := by
  rw [use, put, List.length_set, provide]
  split
  · rfl
  · simp [prune, grow]

theorem Own.use (own : r.Own key h) (u : Use) : (r.use u).Own key h where
  known := Nat.lt_of_lt_of_le own.known (length_le_use r u)
  only other found := own.only other ((get?_use_eq_some_iff own.known).1 found).1

theorem breaker?_use (own : r.Own key h) (elsewhere : u.key ≠ key) :
    (r.use u).breaker? h = r.breaker? h := by
  have known := own.known
  rw [breaker?, breaker?, Registry.use, put]
  cases found : r.get? u.key with
  | some taken =>
    have differ : taken ≠ h := fun same => elsewhere (own.only _ (same ▸ found))
    simp [provide, found, differ]
  | none =>
    simp [provide, found, prune, grow, List.getElem?_append_left known]

theorem Sound.provided (sound : r.Sound) (u : Use) :
    (r.provide u).2.breaker? (r.provide u).1 = some (r.taken u) := by
  rw [taken, find?]
  cases found : r.get? u.key with
  | none => simp [provide, found, prune, grow, breaker?]
  | some h =>
    obtain ⟨b, breaker⟩ : ∃ b, r.breaker? h = some b :=
      ⟨_, List.getElem?_eq_getElem (sound.own found).known⟩
    simp [provide, found, breaker]

theorem Sound.taken_idle (sound : r.Sound) (u : Use) : (r.taken u).Idle := by
  cases found : r.find? u.key with
  | none =>
    rw [taken, found]
    exact Breaker.new_idle u.key u.config
  | some b =>
    obtain ⟨h, get, breaker⟩ := Option.bind_eq_some_iff.1 found
    rw [taken, found]
    exact sound.idle get breaker

theorem Sound.breaker?_use_self (sound : r.Sound) (u : Use) :
    (r.use u).breaker? (r.provide u).1 = some ((r.taken u).afterUse u) := by
  have known : (r.provide u).1 < (r.provide u).2.breakers.length :=
    (List.getElem?_eq_some_iff.1 (sound.provided u)).1
  simp [breaker?, Registry.use, put, known]

theorem Sound.acquire_of_refused (sound : r.Sound)
    (refused : ((r.taken u).tryAcquire u.asked).1 = .refused) :
    ((r.provide u).2.acquire (r.provide u).1 u.asked).permit = none ∧
      ((r.provide u).2.acquire (r.provide u).1 u.asked).registry = r.use u := by
  rw [Registry.use, Breaker.afterUse, if_pos refused]
  simp [acquire, sound.provided u, refused]

theorem Sound.settle_of_acquired (sound : r.Sound)
    (passes : ((r.taken u).tryAcquire u.asked).1 ≠ .refused) :
    ∃ permit, ((r.provide u).2.acquire (r.provide u).1 u.asked).permit = some permit ∧
      (((r.provide u).2.acquire (r.provide u).1 u.asked).registry.settle permit u.outcome
        u.told).1 = r.use u := by
  obtain ⟨given, registry⟩ := acquire_of_passes (sound.provided u) passes
  refine ⟨_, given, ?_⟩
  rw [registry, settle_put (sound.provided u), Registry.use, Breaker.afterUse, if_neg passes]

theorem drops_self_iff : r.Drops u u.key ↔ r.get? u.key = none ∧ u.address ∉ u.live := by
  refine and_congr_right fun _ => ⟨?_, fun gone => ⟨u.address, gone, rfl⟩⟩
  rintro ⟨address, gone, same⟩
  rwa [endpointKey_inj same]

theorem get?_use_self_iff (r : Registry) (u : Use) :
    (r.use u).get? u.key = some (r.provide u).1 ↔ ¬ r.Drops u u.key := by
  by_cases makes : r.Makes u
  · have missing : r.get? u.key = none := makes
    rw [get?_use_of_makes makes, if_pos rfl, provide, missing, drops_iff makes]
    simp
  · obtain ⟨h, found⟩ := Option.ne_none_iff_exists'.1 makes
    have stays : ¬ r.Drops u u.key := fun drops => makes drops.1
    simp [get?_use_of_found makes, provide, found, stays]

theorem provide_of_get?_use (found : (r.use u).get? u.key = some h) : (r.provide u).1 = h := by
  by_cases makes : r.Makes u
  · have missing : r.get? u.key = none := makes
    rw [get?_use_of_makes makes, if_pos rfl, Option.ite_none_right_eq_some] at found
    rw [provide, missing]
    exact Option.some.inj found.2
  · rw [get?_use_of_found makes] at found
    rw [provide, found]

theorem get?_of_get?_use (elsewhere : key ≠ u.key) (found : (r.use u).get? key = some h) :
    r.get? key = some h := by
  by_cases makes : r.Makes u
  · rw [get?_use_of_makes makes, if_neg elsewhere, Option.ite_none_right_eq_some] at found
    exact found.2
  · rwa [get?_use_of_found makes] at found

theorem Sound.own_use (sound : r.Sound) (u : Use) : (r.use u).Own u.key (r.provide u).1 where
  known := (List.getElem?_eq_some_iff.1 (sound.breaker?_use_self u)).1
  only other found := by
    by_contra elsewhere
    have before := get?_of_get?_use elsewhere found
    cases own : r.get? u.key with
    | none =>
      have known := (sound.own before).known
      simp [provide, own] at known
    | some h =>
      rw [provide, own] at before
      exact elsewhere ((sound.own own).only other before)

theorem Sound.use (sound : r.Sound) (u : Use) : (r.use u).Sound where
  own {key h} found := by
    by_cases here : key = u.key
    · subst here
      rw [← provide_of_get?_use found]
      exact sound.own_use u
    · exact (sound.own (get?_of_get?_use here found)).use u
  idle {key h b} found breaker := by
    by_cases here : key = u.key
    · subst here
      rw [← provide_of_get?_use found, sound.breaker?_use_self] at breaker
      cases breaker
      exact (sound.taken_idle u).afterUse u
    · have before := get?_of_get?_use here found
      rw [breaker?_use (sound.own before) (Ne.symm here)] at breaker
      exact sound.idle before breaker

theorem Sound.uses (sound : r.Sound) (us : List Use) : (r.uses us).Sound := by
  induction us generalizing r with
  | nil => exact sound
  | cons u us ih => exact ih (sound.use u)

end Use

section Count

variable {r : Registry} {u : Use} {key : String} {n : Nat}

def Counted (r : Registry) (key : String) (n : Nat) : Prop :=
  0 < n → ∃ b, r.find? key = some b ∧ b.HasFailed n

theorem find?_use_of_ne {b : Breaker} (sound : r.Sound) (found : r.find? key = some b)
    (elsewhere : u.key ≠ key) (stays : ¬ r.Drops u key) : (r.use u).find? key = some b := by
  obtain ⟨h, get, breaker⟩ := Option.bind_eq_some_iff.1 found
  have own := sound.own get
  rw [find?, (get?_use_eq_some_iff own.known).2 ⟨get, stays⟩]
  exact (breaker?_use own elsewhere).trans breaker

theorem find?_use_self (sound : r.Sound) (stays : ¬ r.Drops u u.key) :
    (r.use u).find? u.key = some ((r.taken u).afterUse u) := by
  rw [find?, (get?_use_self_iff r u).2 stays]
  exact sound.breaker?_use_self u

theorem Counted.taken (counted : r.Counted u.key n) : (r.taken u).HasFailed n := by
  cases n with
  | zero => exact Breaker.hasFailed_zero _
  | succ n =>
    obtain ⟨b, found, failed⟩ := counted n.succ_pos
    rw [Registry.taken, found]
    exact failed

theorem Counted.use (sound : r.Sound) (counted : r.Counted key n) (stays : ¬ r.Drops u key)
    (fails : u.key = key → u.outcome = .failure) :
    (r.use u).Counted key (n + if u.key = key then 1 else 0) := by
  by_cases here : u.key = key
  · subst here
    rw [if_pos rfl]
    exact fun _ => ⟨_, find?_use_self sound stays,
      counted.taken.afterUse (sound.taken_idle u) (fails rfl)⟩
  · rw [if_neg here, Nat.add_zero]
    intro positive
    obtain ⟨b, found, failed⟩ := counted positive
    exact ⟨b, find?_use_of_ne sound found here stays, failed⟩

theorem Counted.opened (sound : r.Sound) (counted : r.Counted key n) (positive : 0 < n) :
    ∃ b, r.find? key = some b ∧ (b.config.failureThreshold.toNat ≤ n → b.state = .opened) := by
  obtain ⟨b, found, failed⟩ := counted positive
  obtain ⟨h, get, breaker⟩ := Option.bind_eq_some_iff.1 found
  exact ⟨b, found, failed.opened (sound.idle get breaker)⟩

end Count

end Registry

end Governance.Circuit
