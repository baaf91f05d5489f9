import GraphicsBuffers.Proofs.Balanced
import GraphicsBuffers.Proofs.LazyContext
import Mathlib.Data.List.Nodup

/-!
The life of a device, from its creation until its last holder lets go of it, and of the library that
it was created with.
-/

namespace GraphicsBuffers

namespace Trace

variable {es pre post : List Event} {l : Ledger} {e : Event} {c : Context} {x : Library}

theorem destroyed_count (h : Trace es l) (hc : c ∈ created es) :
    (destroyed es).count c = if c ∈ l.alive then 0 else 1 := by
  have hperm := h.created_perm.count_eq c
  rw [List.count_append, List.count_eq_one_of_mem h.created_nodup hc] at hperm
  split
  · rename_i ha
    have := List.count_pos_iff.mpr ha
    omega
  · rename_i ha
    rw [List.count_eq_zero.mpr ha] at hperm
    omega

theorem destroyed_sub (h : Trace es l) : ∀ c ∈ destroyed es, c ∈ created es :=
  fun _ hc => h.created_perm.mem_iff.mpr (List.mem_append_left _ hc)

/-- When nothing is left over, a library was unloaded unless its device is alive. -/
theorem unloaded_count (h : Trace es l) (hl : l.loaded = []) (hs : l.spent = [])
    (hx : x ∈ loaded es) :
    (unloaded es).count x = if ∃ c ∈ l.alive, c.library = x then 0 else 1 := by
  have hload := h.loaded_perm.count_eq x
  have hcreate := (h.created_perm.map Context.library).count_eq x
  have hunload := h.unloaded_perm.count_eq x
  rw [List.count_eq_one_of_mem h.loaded_nodup hx] at hload
  simp only [hl, hs, List.map_append, List.count_append, List.count_nil] at hload hcreate hunload
  split
  · rename_i ha
    obtain ⟨c, hc, rfl⟩ := ha
    have := List.count_pos_iff.mpr (List.mem_map_of_mem (f := Context.library) hc)
    omega
  · rename_i ha
    have hzero : (l.alive.map Context.library).count x = 0 := by
      apply List.count_eq_zero.mpr
      intro hm
      obtain ⟨c, hc, he⟩ := List.mem_map.mp hm
      exact ha ⟨c, hc, he⟩
    omega

/-- A library that refused a device never gave one. -/
theorem refused_never (h : Trace es l) (hx : x ∈ refused es) : ∀ c ∈ created es, c.library ≠ x := by
  rintro c hc rfl
  have hn := (List.nodup_append.mp h.users_nodup).1
  exact (List.nodup_append.mp hn).2.2 _ (List.mem_map_of_mem hc) _ hx rfl

/-- A library gives one device at most. -/
theorem created_inj (h : Trace es l) {d : Context} (hc : c ∈ created es) (hd : d ∈ created es)
    (he : c.library = d.library) : c = d := by
  have hn := (List.nodup_append.mp (List.nodup_append.mp h.users_nodup).1).1
  exact List.inj_on_of_nodup_map hn hc hd he

/-- The library goes after its device. -/
theorem unloaded_after (h : Trace es l) (hes : es = pre ++ e :: post)
    (hu : e.unloaded? = some c.library) (hc : c ∈ created es) : c ∈ destroyed pre := by
  obtain ⟨m, m', hm, hs⟩ := h.split hes
  have hspent : c.library ∈ m.spent := by
    cases hs with
    | quiet he =>
      obtain ⟨-, -, -, -, hn, -⟩ := he
      rw [hn] at hu
      cases hu
    | unload hl =>
      cases hu
      exact hl
    | load | create | refuse | destroy | importBuffer | free | map | unmap => cases hu
  have hmem := hm.unloaded_perm.mem_iff.mpr (List.mem_append_right _ hspent)
  rcases List.mem_append.mp hmem with hd | hr
  · obtain ⟨d, hd, he⟩ := List.mem_map.mp hd
    have hd' : d ∈ created es := by
      rw [hes, created_append]
      exact List.mem_append_left _ (hm.destroyed_sub d hd)
    rwa [h.created_inj hc hd' he.symm]
  · have hr' : c.library ∈ refused es := by
      rw [hes, refused, List.filterMap_append]
      exact List.mem_append_left _ hr
    exact absurd rfl (h.refused_never hr' c hc)

end Trace

namespace Session

variable {s : Session} {c : Context}

theorem contextOf_held {driver : Nat} (h : s.contextOf driver = some c) : c ∈ s.holders := by
  refine (s.holders_split driver).mem_iff.mpr (List.mem_append_left _ ?_)
  change s.contextOf driver = some c at h
  unfold contextOf at h
  rw [h]
  exact List.mem_singleton.mpr rfl

/-- A device is destroyed once it has no holder left, and not before. -/
theorem Balanced.destroyed_count (h : s.Balanced) (hc : c ∈ created s.host.events) :
    (destroyed s.host.events).count c = if c ∈ s.holders then 0 else 1 := by
  obtain ⟨l, ht, hl⟩ := h.traced
  rw [ht.destroyed_count hc]
  simp only [hl.alive]

theorem Balanced.holders_created (h : s.Balanced) (hc : c ∈ s.holders) :
    c ∈ created s.host.events := by
  obtain ⟨l, ht, hl⟩ := h.traced
  exact ((ht.mem_alive_iff c).mp ((hl.alive c).mpr hc)).1

theorem Balanced.destroyed_created (h : s.Balanced) (hc : c ∉ created s.host.events) :
    (destroyed s.host.events).count c = 0 := by
  obtain ⟨l, ht, -⟩ := h.traced
  exact List.count_eq_zero.mpr fun hd => hc (ht.destroyed_sub c hd)

/-- An operation destroys the devices whose last holder it takes away, each of them once. -/
theorem step_destroyed (h : s.Balanced) (op : Operation) :
    ∃ es, (s.step op).1.host.events = s.host.events ++ es ∧ ∀ c, (destroyed es).count c =
      if c ∈ s.holders ∧ c ∉ (s.step op).1.holders then 1 else 0 := by
  obtain ⟨es, hevents, hcreated⟩ := step_created s op
  have h' := step_balanced h op
  generalize (s.step op).1 = s' at hevents hcreated h' ⊢
  refine ⟨es, hevents, fun c => ?_⟩
  have hsum : (destroyed s'.host.events).count c =
      (destroyed s.host.events).count c + (destroyed es).count c := by
    rw [hevents, destroyed, List.filterMap_append, List.count_append]
    rfl
  have hmem : c ∈ created s'.host.events ↔ c ∈ created s.host.events ∨ c ∈ created es := by
    rw [hevents, created_append, List.mem_append]
  by_cases hc : c ∈ created s.host.events
  · rw [h.destroyed_count hc, h'.destroyed_count (hmem.mpr (Or.inl hc))] at hsum
    by_cases hb : c ∈ s.holders <;> by_cases hb' : c ∈ s'.holders
    all_goals simp only [hb, hb', ↓reduceIte, not_true_eq_false, not_false_eq_true, and_self,
      and_false, and_true] at hsum ⊢
    all_goals omega
  · have hs : c ∉ s.holders := fun hh => hc (h.holders_created hh)
    rw [h.destroyed_created hc] at hsum
    rw [if_neg fun hh => hs hh.1]
    by_cases hn : c ∈ created es
    · obtain ⟨driver, hd⟩ := hcreated c hn
      rw [h'.destroyed_count (hmem.mpr (Or.inr hn)), if_pos (contextOf_held hd)] at hsum
      omega
    · rw [h'.destroyed_created fun hh => (hmem.mp hh).elim hc hn] at hsum
      omega

/-- A device is destroyed exactly once, by the operation that takes away its last holder, and its
library is unloaded exactly once behind it. A library that refuses a device is unloaded at once. -/
theorem Reachable.device_lifetime (h : Reachable s) :
    (∀ c ∈ created s.host.events,
      (destroyed s.host.events).count c = if c ∈ s.holders then 0 else 1) ∧
    (∀ op, ∃ es, (s.step op).1.host.events = s.host.events ++ es ∧ ∀ c, (destroyed es).count c =
      if c ∈ s.holders ∧ c ∉ (s.step op).1.holders then 1 else 0) ∧
    (∀ library ∈ loaded s.host.events, (unloaded s.host.events).count library =
      if ∃ c ∈ s.holders, c.library = library then 0 else 1) ∧
    (∀ pre e post c, s.host.events = pre ++ e :: post → e.unloaded? = some c.library →
      c ∈ created s.host.events → c ∈ destroyed pre) ∧
    (∀ library ∈ refused s.host.events, (unloaded s.host.events).count library = 1 ∧
      ∀ c ∈ destroyed s.host.events, c.library ≠ library) ∧
    (destroyed s.finish.host.events).Perm (created s.finish.host.events) := by
  have hb := h.balanced
  obtain ⟨l, ht, hl⟩ := hb.traced
  have hunloaded : ∀ library ∈ loaded s.host.events, (unloaded s.host.events).count library =
      if ∃ c ∈ s.holders, c.library = library then 0 else 1 := by
    intro library hx
    rw [ht.unloaded_count hl.loaded hl.spent hx]
    simp only [hl.alive]
  refine ⟨fun c hc => hb.destroyed_count hc, step_destroyed hb, hunloaded, ?_, ?_, ?_⟩
  · exact fun pre e post c he hu hc => ht.unloaded_after he hu hc
  · intro library hx
    have hnever := ht.refused_never hx
    constructor
    · have hload : library ∈ loaded s.host.events := by
        refine ht.loaded_perm.mem_iff.mpr (List.mem_append_left _ (List.mem_append_right _ hx))
      rw [hunloaded library hload, if_neg]
      intro h
      obtain ⟨c, hc, he⟩ := h
      exact hnever c (hb.holders_created hc) he
    · exact fun c hc => hnever c (ht.destroyed_sub c hc)
  · obtain ⟨l', ht', hl'⟩ := (finish_balanced hb).traced
    have halive : l'.alive = [] := by
      apply List.eq_nil_iff_forall_not_mem.mpr
      intro c hc
      have := (hl'.alive c).mp hc
      rw [(finish_holders s).2] at this
      cases this
    have hperm := ht'.created_perm
    rw [halive, List.append_nil] at hperm
    exact hperm.symm

/-- Two buffers of one driver, which is closed, and of which one is left. -/
def survivor : Session :=
  (start ⟨.supplied, .linked⟩ { supported := [.r8] }).1.run
    [.create 0 0 ⟨64, 4, .r8, .softwareReadOften⟩, .create 0 1 ⟨64, 4, .r8, .softwareReadOften⟩,
      .close 0, .dropBuffer 0]

theorem device_lifetime_of_survivor :
    (destroyed survivor.host.events).count ⟨⟨.linked, 1⟩, 1⟩ = 0 ∧
    ∃ es, (survivor.step (.dropBuffer 1)).1.host.events = survivor.host.events ++ es ∧
      (destroyed es).count ⟨⟨.linked, 1⟩, 1⟩ = 1 := by
  have h : Reachable survivor := (Reachable.start ⟨.supplied, .linked⟩ rfl rfl).run _
  obtain ⟨hcount, hstep, -⟩ := h.device_lifetime
  obtain ⟨es, hevents, hes⟩ := hstep (.dropBuffer 1)
  refine ⟨?_, es, hevents, ?_⟩
  · rw [hcount _ (by decide +kernel), if_pos (by decide +kernel)]
  · rw [hes, if_pos (by decide +kernel)]

end Session

end GraphicsBuffers
