import GraphicsBuffers.Proofs.Balanced
import GraphicsBuffers.Proofs.Creation
import GraphicsBuffers.Proofs.Demand

/-!
How a buffer is mapped and unmapped. Either operation asks for the driver's context before it looks
at the buffer, and then goes through the library that the buffer was imported with.
-/

namespace GraphicsBuffers

/-- The buffer in focus was mapped as it is known, whether or not this came to a place. -/
structure Mapped (f : Focus) (i : Import) (f' : Focus) : Prop where
  handle : f.buffer.import? = some i
  call : ∃ width height format h logs, f.known = .ok (width, height, format) ∧
    width.toNat < 0x80000000 ∧ height.toNat < 0x80000000 ∧ Idles f.host h ∧
    f'.host.events = h.events ++ .call (.map i.context.library i.handle width height) :: logs ∧
    ∀ e ∈ logs, e.IsLog
  supported : f'.host.supported = f.host.supported
  buffer : f'.buffer = f.buffer

theorem Mapped.log {f f' : Focus} {i : Import} (h : Mapped f i f') (level : LogLevel)
    (text : String) : Mapped f i { f' with host := f'.host.log level text } := by
  obtain ⟨hi, ⟨width, height, format, h, logs, hk, hw, hh, hidle, he, hlogs⟩, hs, hb⟩ := h
  refine ⟨hi, ⟨width, height, format, h, logs ++ [.log level text], hk, hw, hh, hidle, ?_, ?_⟩,
    hs, hb⟩
  · simp [Host.log, he]
  · intro e he
    rcases List.mem_append.mp he with he | he
    · exact hlogs e he
    · rw [List.mem_singleton.mp he]
      exact trivial

/-- The library was called to map a handle, at a size that it can be passed. -/
structure Vendor.MapCalled (library : Library) (handle : Nat) (width height : UInt32)
    (h h' : Host) : Prop where
  width_lt : width.toNat < 0x80000000
  height_lt : height.toNat < 0x80000000
  events : h'.events = h.events ++ [.call (.map library handle width height)]
  supported : h'.supported = h.supported

theorem Vendor.map_calls (library : Library) (handle : Nat) (width height : UInt32) (h : Host) :
    Yields (Vendor.map library handle width height) h
      (fun _ h' => MapCalled library handle width height h h')
      (fun _ h' => h' = h ∨ MapCalled library handle width height h h') := by
  unfold Vendor.map
  simp only [yields_bind, yields_ofExcept, yields_get, HostM.record, yields_modify]
  refine ⟨fun _ hw => ⟨fun _ hh => ?_, fun _ _ => Or.inl trivial⟩, fun _ _ => Or.inl trivial⟩
  have hw := (signed_ok hw).2
  have hh := (signed_ok hh).2
  exact ⟨fun _ _ => ⟨hw, hh, rfl, rfl⟩, fun _ _ => Or.inr ⟨hw, hh, rfl, rfl⟩⟩

namespace Allocator

variable (a : Allocator) (f : Focus)

theorem map_maps (flags : MapFlags) :
    Yields (map a flags) f
      (fun m f' => m.length = f.buffer.metadata.totalSize ∧ ∃ i, Mapped f i f')
      (fun _ f' => Idles f.host f'.host ∧ f'.buffer = f.buffer ∨ ∃ i, Mapped f i f') := by
  unfold map
  rw [yields_bind]
  apply (requireContext_idles a true f).imp
  · intro c f₁ h
    obtain ⟨hidle, hb⟩ := h
    obtain ⟨es, ht, -⟩ := id hidle
    have hk : f₁.known = f.known := Focus.known_congr ht.supported (by rw [hb])
    rw [yields_bind]
    apply (mappable_yields _ f₁).imp
    · intro i f₂ h
      obtain ⟨rfl, hi⟩ := h
      simp only [yields_bind, yields_get, yields_ofExcept, yields_onHost, yields_pure]
      refine ⟨?_, fun _ _ => Or.inl ⟨hidle, hb⟩⟩
      rintro ⟨width, height, format⟩ hknown
      have hmapped {h : Host}
          (hm : Vendor.MapCalled i.context.library i.handle width height f₂.host h) :
          Mapped f i { f₂ with host := h } := by
        refine ⟨by rw [← hb, hi], ⟨width, height, format, f₂.host, [], ?_, hm.width_lt,
          hm.height_lt, hidle, hm.events, by simp⟩, hm.supported.trans ht.supported, hb⟩
        rw [← hk]
        exact hknown
      apply (Vendor.map_calls i.context.library i.handle width height f₂.host).imp
      · exact fun _ h hm => ⟨by rw [hb], i, hmapped hm⟩
      · intro _ h hm
        rcases hm with rfl | hm
        · exact Or.inl ⟨hidle, hb⟩
        · exact Or.inr ⟨i, hmapped hm⟩
    · intro _ f₂ h
      obtain ⟨hb₂, hs⟩ := h
      exact Or.inl ⟨hidle.trans (.of_appends (fun _ he => he.aside) hs.host), hb₂.trans hb⟩
  · exact fun _ _ h => Or.inl h

theorem mapBuffer_maps (flags : MapFlags) :
    Yields ((backend a).mapBuffer flags) f
      (fun m f' => m.length = f.buffer.metadata.totalSize ∧ ∃ i, Mapped f i f')
      (fun _ f' => Idles f.host f'.host ∧ f'.buffer = f.buffer ∨ ∃ i, Mapped f i f') := by
  unfold Backend.mapBuffer
  rw [yields_bind]
  apply (map_maps a f flags).imp
  · intro m f' h
    obtain ⟨hl, i, hm⟩ := h
    rw [yields_bind, yields_log, yields_pure]
    exact ⟨hl, i, hm.log _ _⟩
  · exact fun _ _ h => h

variable {f}

theorem mappable_held {i : Import} (hi : f.buffer.import? = some i) (complaint : String) :
    Yields (mappable complaint) f (fun i' f' => i' = i ∧ f' = f) (fun _ _ => False) := by
  obtain ⟨k, hk, hi⟩ := Option.bind_eq_some_iff.mp hi
  unfold mappable
  simp only [yields_bind, yields_get, hk, hi, yields_pure]
  exact ⟨trivial, trivial⟩

/-- Once the driver's context is at hand, which has no part in it, a handle is unmapped by one
call. -/
theorem unmapBuffer_requires {i : Import} (hi : f.buffer.import? = some i) {m : Mapping}
    {token : Nat} (ht : m.token = some token) :
    Yields ((backend a).unmapBuffer m) f
      (fun m' f' => m' = { m with token := none, address := 0 } ∧
        ∃ c f₁, Requires a true f (some c) f₁ ∧
          f' = { f₁ with host := Vendor.unmap i.context.library i.handle token f₁.host })
      (fun e f' => e = contextFailed ∧ Requires a true f none f') := by
  unfold Backend.unmapBuffer
  rw [yields_bind]
  change Yields (unmap a m) f _ _
  unfold unmap
  rw [yields_bind]
  apply (requireContext_requires a true f).imp
  · intro c f₁ hr
    rw [yields_bind]
    have hi : f₁.buffer.import? = some i := by rw [hr.buffer, hi]
    apply (mappable_held hi _).imp
    · rintro _ _ ⟨rfl, rfl⟩
      simp only [ht, yields_bind, yields_modify, yields_pure]
      exact ⟨trivial, c, _, hr, rfl⟩
    · exact fun _ _ h => h.elim
  · exact fun _ _ h => h

end Allocator

namespace Session

/-- A mapping that was undone. -/
def undone (m : Mapping) : Mapping := { m with token := none, address := 0 }

/-- Where the driver has a context, a live mapping is undone by one call through the library that
the buffer was imported with. Where it has none, one is created first; if this fails, no call is
made and the mapping stays as it is. -/
theorem unmap_live {s : Session} {driver buffer mapping token : Nat} {d : Driver} {b : Buffer}
    {m : Mapping} {i : Import} (hd : s.drivers.get? driver = some d)
    (hb : s.buffers.get? buffer = some b) (hi : b.import? = some i)
    (hm : s.mappings.get? mapping = some m) (ht : m.token = some token) :
    let r := s.step (.unmap driver buffer mapping)
    let call := Call.unmap i.context.library i.handle token
    (∀ n, r.1.buffers.get? n = s.buffers.get? n) ∧
    (∀ c, s.contextOf driver = some c →
      r.2 = .mapping (undone m) ∧ r.1.mappings = s.mappings.put mapping (undone m) ∧
      r.1.host = s.host.record call ∧ ∀ n, r.1.drivers.get? n = s.drivers.get? n) ∧
    (s.contextOf driver = none →
      (∃ h, Attempted s.allocator true s.host h none ∧ Appends Event.IsLog h r.1.host ∧
        r.2 = .failedOnMapping Allocator.contextFailed m ∧ r.1.mappings = s.mappings ∧
        ∀ n, r.1.drivers.get? n = s.drivers.get? n) ∨
      ∃ c h h', Attempted s.allocator true s.host h (some c) ∧
        Appends Event.IsLog (h.hold c) h' ∧ r.1.host = h'.record call ∧
        r.2 = .mapping (undone m) ∧ r.1.mappings = s.mappings.put mapping (undone m) ∧
        r.1.contextOf driver = some c) := by
  dsimp only
  simp only [step, onDriver, hd, onBuffer, hb, onMapping, hm, contextOf_of hd]
  -- What becomes of the driver's context is all that is open; the call goes through the handle's.
  have hy := Allocator.unmapBuffer_requires s.allocator (f := ⟨s.host, d, b⟩) hi ht
  unfold unmapBuffer backend
  cases hr : (Allocator.backend s.allocator).unmapBuffer m ⟨s.host, d, b⟩ with
  | ok m' f' =>
    obtain ⟨rfl, c, f₁, hq, rfl⟩ := hy.of_ok hr
    cases hq with
    | shared hc =>
      refine ⟨get?_put_same hb, fun _ _ => ⟨rfl, rfl, rfl, get?_put_same hd⟩, fun hn => ?_⟩
      cases hn.symm.trans hc
    | created hn ha hl =>
      refine ⟨get?_put_same hb, fun c hc => ?_, fun _ => Or.inr ⟨c, _, _, ha, hl, rfl, rfl, rfl, ?_⟩⟩
      · cases hn.symm.trans hc
      · exact contextOf_resume _
  | error e f' =>
    obtain ⟨rfl, hq⟩ := hy.of_error hr
    cases hq with
    | failed hn ha hl =>
      refine ⟨get?_put_same hb, fun c hc => ?_, fun _ => Or.inl ⟨_, ha, hl, rfl, rfl, ?_⟩⟩
      · cases hn.symm.trans hc
      · exact get?_put_same hd

/-- A buffer is mapped, and then its driver is closed and no node can be found any more. -/
def lost : Session :=
  (start ⟨.supplied, .linked⟩ { supported := [.r8] }).1.run [
    .create 0 0 ⟨64, 4, .r8, .softwareReadOften⟩, .map 0 0 0 ⟨0⟩, .close 0,
    .script { answers := { searches := [some .noUsableNode] } }]

theorem unmap_live_of_lost : (lost.step (.unmap 0 0 0)).1.mappings = lost.mappings ∧
    ∃ h, Attempted lost.allocator true lost.host h none := by
  obtain ⟨d, hd⟩ := Option.isSome_iff_exists.mp (show (lost.drivers.get? 0).isSome by decide +kernel)
  obtain ⟨i, hi⟩ := Option.isSome_iff_exists.mp
    (show ((lost.buffers.get? 0).bind Buffer.import?).isSome by decide +kernel)
  obtain ⟨b, hb, hi⟩ := Option.bind_eq_some_iff.mp hi
  obtain ⟨m, hm, ht⟩ := Option.bind_eq_some_iff.mp
    (show (lost.mappings.get? 0).bind Mapping.token = some 1 by decide +kernel)
  have hfails : (lost.step (.unmap 0 0 0)).2.error? = some Allocator.contextFailed := by
    decide +kernel
  obtain ⟨-, -, hnone⟩ := unmap_live hd hb hi hm ht
  rcases hnone (by decide +kernel) with ⟨h, ha, -, -, hs, -⟩ | ⟨c, h, h', -, -, -, hr, -⟩
  · exact ⟨hs, h, ha⟩
  · rw [hr] at hfails
    cases hfails

/-- Clients can come to where a live mapping cannot be undone, though its buffer has all that the
call needs: nodes are searched in vain, and the call is not made. -/
theorem unmap_without_context : Reachable lost ∧
    ((lost.buffers.get? 0).bind Buffer.import?).isSome ∧
    (lost.mappings.get? 0).bind Mapping.token = some 1 ∧
    (lost.step (.unmap 0 0 0)).2.error? = some Allocator.contextFailed ∧
    ((lost.step (.unmap 0 0 0)).1.host.events.drop lost.host.events.length).filterMap Event.call? =
      [.findNodes .supplied true] :=
  ⟨(Reachable.start ⟨.supplied, .linked⟩ rfl rfl).run _, by decide +kernel, by decide +kernel,
    by decide +kernel, by decide +kernel⟩

end Session

end GraphicsBuffers
