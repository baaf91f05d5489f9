import GraphicsBuffers.Proofs.Grant

/-!
What is added to the events where things are let go of: handles are freed, and devices and libraries
given back.
-/

namespace GraphicsBuffers

/-- A message, or a call that gives something back. -/
def Event.IsRelease : Event → Prop
  | .log .. => True
  | .call (.free ..) | .call (.destroyDevice ..) | .call (.unload _) => True
  | .call _ => False

theorem Event.IsLog.isRelease {e : Event} (h : e.IsLog) : e.IsRelease := by
  cases e with
  | log => exact trivial
  | call => exact h.elim

theorem Event.IsRelease.offered {e : Event} (h : e.IsRelease) : e.offered? = none := by
  unfold IsRelease at h
  split at h
  all_goals first | rfl | exact h.elim

theorem Event.IsRelease.asked {e : Event} (h : e.IsRelease) : e.asked? = none := by
  unfold IsRelease at h
  split at h
  all_goals first | rfl | exact h.elim

/-- From one host to the other, events with `p` were added. -/
def Extends (p : Event → Prop) (h h' : Host) : Prop :=
  ∃ es, h'.events = h.events ++ es ∧ ∀ e ∈ es, p e

namespace Extends

variable {p q : Event → Prop} {h h' h'' : Host}

theorem refl (h : Host) : Extends p h h := ⟨[], by simp, by simp⟩

theorem trans (h₁ : Extends p h h') (h₂ : Extends p h' h'') : Extends p h h'' := by
  obtain ⟨es, he, hp⟩ := h₁
  obtain ⟨es', he', hp'⟩ := h₂
  refine ⟨es ++ es', by rw [he', he, List.append_assoc], ?_⟩
  intro e hm
  rcases List.mem_append.mp hm with hm | hm
  · exact hp e hm
  · exact hp' e hm

theorem mono (hpq : ∀ e, p e → q e) (h₁ : Extends p h h') : Extends q h h' := by
  obtain ⟨es, he, hp⟩ := h₁
  exact ⟨es, he, fun e hm => hpq e (hp e hm)⟩

theorem of_appends (hh : Appends p h h') : Extends p h h' := hh.events

theorem record (c : Call) (hc : p (.call c)) : Extends p h (h.record c) :=
  of_appends (.record c hc)

end Extends

@[simp] theorem Host.release_supported (h : Host) (c : Context) :
    (h.release c).supported = h.supported := by
  unfold release
  dsimp only
  split <;> rfl

@[simp] theorem Host.discard_supported (h : Host) (state : Option BufferState) :
    (h.discard state).supported = h.supported := by
  unfold discard
  split
  · exact release_supported _ _
  · rfl

@[simp] theorem Host.detach_supported (h : Host) (state : Option DriverState) :
    (h.detach state).supported = h.supported := by
  unfold detach
  split
  · exact release_supported _ _
  · rfl

@[simp] theorem Allocator.close_supported (d : Driver) (h : Host) :
    (close d h).2.supported = h.supported := by
  unfold close
  cases d.state with
  | none => rfl
  | some state => exact h.detach_supported _

@[simp] theorem Host.holdFor_supported (h : Host) (o : Option Import) :
    (h.holdFor o).supported = h.supported := by
  cases o <;> rfl

@[simp] theorem Allocator.attach_supported (k : Backing) (f : Focus) :
    (attach k f).host.supported = f.host.supported := by
  unfold attach
  rw [Host.discard_supported, Host.holdFor_supported]

@[simp] theorem Allocator.settled_supported (k : Backing) (f : Focus) :
    (settled k f).host.supported = f.host.supported := attach_supported k _

@[simp] theorem Allocator.withdraw_supported (k : Backing) (f : Focus) :
    (withdraw k f).host.supported = f.host.supported := by
  unfold withdraw
  rw [Host.discard_supported, Host.holdFor_supported]

theorem Host.release_extends (h : Host) (c : Context) :
    Extends Event.IsRelease h (h.release c) := by
  unfold release
  dsimp only
  split
  · exact ⟨[], by simp, by simp⟩
  · refine ⟨[.call (.destroyDevice c.library c.device), .call (.unload c.library)], ?_, ?_⟩
    · simp [record]
    · simp [Event.IsRelease]

theorem Host.discard_extends (h : Host) (state : Option BufferState) :
    Extends Event.IsRelease h (h.discard state) := by
  unfold discard
  split
  · exact (Extends.record _ trivial).trans (release_extends _ _)
  · exact .refl h

theorem Host.detach_extends (h : Host) (state : Option DriverState) :
    Extends Event.IsRelease h (h.detach state) := by
  unfold detach
  split
  · exact release_extends h _
  · exact .refl h

theorem Allocator.close_extends (d : Driver) (h : Host) :
    Extends Event.IsRelease h (close d h).2 := by
  unfold close
  cases d.state with
  | none => exact .refl h
  | some state =>
    exact (h.detach_extends _).trans (.of_appends (.log .debug _ trivial))

theorem Host.holdFor_extends {p : Event → Prop} (h : Host) (o : Option Import) :
    Extends p h (h.holdFor o) := by
  cases o <;> exact ⟨[], by simp [holdFor, hold], by simp⟩

theorem Allocator.attach_extends (k : Backing) (f : Focus) :
    Extends Event.IsRelease f.host (attach k f).host :=
  (Host.holdFor_extends _ _).trans (Host.discard_extends _ _)

theorem Allocator.settled_extends (k : Backing) (f : Focus) :
    Extends Event.IsRelease f.host (settled k f).host :=
  attach_extends k (notedFrom 0 k.descriptors f)

theorem Allocator.withdraw_extends (k : Backing) (f : Focus) :
    Extends Event.IsRelease f.host (withdraw k f).host :=
  (Host.holdFor_extends _ _).trans (Host.discard_extends _ _)

end GraphicsBuffers
