import GraphicsBuffers.Proofs.Effect
import GraphicsBuffers.Proofs.Trace

/-!
The events account for what is held. What has been imported and not freed is what the buffers have,
and a device is alive as long as a driver, a buffer or a client holds it.
-/

namespace GraphicsBuffers

theorem Event.IsProbe.quiet {e : Event} (h : e.IsProbe) : e.IsQuiet := by
  unfold IsProbe at h
  split at h
  all_goals first | exact h.elim | exact ⟨rfl, rfl, rfl, rfl, rfl, rfl, rfl⟩

theorem Event.IsLog.quiet {e : Event} (h : e.IsLog) : e.IsQuiet := by
  cases e with
  | log => exact ⟨rfl, rfl, rfl, rfl, rfl, rfl, rfl⟩
  | call => exact h.elim

theorem Event.Concerns.idle {l : Ledger} {c : Context} {o : Option Import} {e : Event}
    (h : e.Concerns c o) (ho : ∀ i ∈ o, i ∈ l.imports) : l.Step e l := by
  unfold Concerns at h
  split at h
  · exact .quiet ⟨rfl, rfl, rfl, rfl, rfl, rfl, rfl⟩
  · exact .quiet ⟨rfl, rfl, rfl, rfl, rfl, rfl, rfl⟩
  · exact .quiet ⟨rfl, rfl, rfl, rfl, rfl, rfl, rfl⟩
  · obtain ⟨i, hi, rfl, rfl⟩ := h
    exact .map (ho i hi) _ _
  · obtain ⟨i, hi, rfl, rfl⟩ := h
    exact .unmap (ho i hi) _
  · exact h.elim

theorem Trace.search {es probes : List Event} {l : Ledger} (h : Trace es l)
    (hp : ∀ e ∈ probes, e.IsProbe) (source : NodeSource) (mapOnly : Bool) :
    Trace (es ++ .call (.findNodes source mapOnly) :: probes) l := by
  apply h.idle
  intro e he
  rcases List.mem_cons.mp he with rfl | he
  · exact .quiet ⟨rfl, rfl, rfl, rfl, rfl, rfl, rfl⟩
  · exact .quiet (hp e he).quiet

/-- Between operations nothing is left over of a library, and the books show the handles and the
holders of devices. -/
structure Ledger.Settled (l : Ledger) (loads : Nat) (imports : List Import)
    (holders : List Context) : Prop where
  loads : l.loads = loads
  loaded : l.loaded = []
  spent : l.spent = []
  imports : l.imports.Perm imports
  alive : ∀ c, c ∈ l.alive ↔ c ∈ holders

/-- The host's events account for the handles and the holders of devices. -/
structure Accounted (h : Host) (imports : List Import) (holders : List Context) : Prop where
  traced : ∃ l, Trace h.events l ∧ l.Settled h.loads imports holders
  held : h.held.Perm holders

namespace Accounted

variable {h h' : Host} {I I' : List Import} {H H' : List Context} {c : Context} {i : Import}

theorem perm (ha : Accounted h I H) (hI : I.Perm I') (hH : H.Perm H') : Accounted h I' H' := by
  obtain ⟨l, ht, hs⟩ := ha.traced
  refine ⟨⟨l, ht, ?_⟩, ha.held.trans hH⟩
  exact { hs with
    imports := hs.imports.trans hI
    alive := fun c => (hs.alive c).trans hH.mem_iff }

/-- Only what is held, loaded and recorded counts. -/
theorem congr (ha : Accounted h I H) (hheld : h'.held = h.held) (hloads : h'.loads = h.loads)
    (hevents : h'.events = h.events) : Accounted h' I H := by
  obtain ⟨⟨l, ht, hs⟩, hh⟩ := ha
  exact ⟨⟨l, by rwa [hevents], by rwa [hloads]⟩, by rwa [hheld]⟩

/-- Events are added that leave any books with these handles as they are. -/
theorem idle {p : Event → Prop} (ha : Accounted h I H) (hh : Appends p h h')
    (hp : ∀ l : Ledger, (∀ i ∈ I, i ∈ l.imports) → ∀ e, p e → l.Step e l) :
    Accounted h' I H := by
  obtain ⟨l, ht, hs⟩ := ha.traced
  obtain ⟨es, hevents, hes⟩ := hh.events
  have hl : ∀ i ∈ I, i ∈ l.imports := fun i hi => hs.imports.mem_iff.mpr hi
  refine ⟨⟨l, ?_, { hs with loads := hs.loads.trans hh.loads.symm }⟩, by rw [hh.held]; exact ha.held⟩
  rw [hevents]
  exact ht.idle fun e he => hp l hl e (hes e he)

theorem log (ha : Accounted h I H) (hh : Appends Event.IsLog h h') : Accounted h' I H :=
  ha.idle hh fun _ _ _ he => .quiet he.quiet

/-! ### Handles -/

theorem imported (ha : Accounted h I H) (hc : c ∈ H) {request : ImportRequest} {n : Nat}
    (hheld : h'.held = h.held) (hloads : h'.loads = h.loads)
    (hevents : h'.events =
      h.events ++ [.call (.importBuffer c.library c.device request (some n))]) :
    Accounted h' (⟨c, n⟩ :: I) H := by
  obtain ⟨l, ht, hs⟩ := ha.traced
  refine ⟨⟨{ l with imports := ⟨c, n⟩ :: l.imports }, ?_, ?_⟩, by rw [hheld]; exact ha.held⟩
  · rw [hevents]
    exact ht.snoc (.importBuffer ((hs.alive c).mpr hc) request n)
  · exact ⟨by rw [hloads]; exact hs.loads, hs.loaded, hs.spent, hs.imports.cons _, hs.alive⟩

theorem freed (ha : Accounted h (i :: I) H) :
    Accounted (Vendor.free i.context.library i.handle h) I H := by
  obtain ⟨l, ht, hs⟩ := ha.traced
  refine ⟨⟨{ l with imports := l.imports.erase i }, ?_, ?_⟩, ha.held⟩
  · exact ht.snoc (.free (hs.imports.mem_iff.mpr List.mem_cons_self))
  · have hperm := hs.imports.erase i
    rw [List.erase_cons_head] at hperm
    exact ⟨hs.loads, hs.loaded, hs.spent, hperm, hs.alive⟩

/-! ### Holders -/

theorem hold (ha : Accounted h I H) (hc : c ∈ H) : Accounted (h.hold c) I (c :: H) := by
  obtain ⟨l, ht, hs⟩ := ha.traced
  refine ⟨⟨l, ht, { hs with alive := ?_ }⟩, ha.held.cons c⟩
  intro d
  rw [hs.alive, List.mem_cons]
  constructor
  · exact Or.inr
  · intro h
    rcases h with rfl | hd
    · exact hc
    · exact hd

/-- The device goes with its last holder, which no handle of it outlives. -/
theorem release (ha : Accounted h I (c :: H)) (hb : ∀ i ∈ I, i.context ∈ H) :
    Accounted (h.release c) I H := by
  obtain ⟨l, ht, hs⟩ := ha.traced
  have hheld : (h.held.erase c).Perm H := by
    have hperm := ha.held.erase c
    rwa [List.erase_cons_head] at hperm
  unfold Host.release
  dsimp only
  split
  · rename_i hc
    have hc : c ∈ H := hheld.mem_iff.mp hc
    refine ⟨⟨l, ht, { hs with alive := ?_ }⟩, hheld⟩
    intro d
    rw [hs.alive, List.mem_cons]
    constructor
    · intro h
      rcases h with rfl | hd
      · exact hc
      · exact hd
    · exact Or.inr
  · rename_i hc
    have hc : c ∉ H := fun hn => hc (hheld.mem_iff.mpr hn)
    have halive : c ∈ l.alive := (hs.alive c).mpr List.mem_cons_self
    have hfree : ∀ i ∈ l.imports, i.context ≠ c := by
      rintro i hi rfl
      exact hc (hb i (hs.imports.mem_iff.mp hi))
    have hdestroyed := (ht.snoc (.destroy halive hfree)).snoc (.unload List.mem_cons_self)
    refine ⟨⟨_, hdestroyed, ?_⟩, hheld⟩
    refine ⟨hs.loads, hs.loaded, ?_, hs.imports, ?_⟩
    · simp [hs.spent]
    · intro d
      rw [ht.alive_nodup.mem_erase_iff, hs.alive, List.mem_cons]
      constructor
      · intro h
        rcases h with ⟨hne, rfl | hd⟩
        · exact absurd rfl hne
        · exact hd
      · exact fun hd => ⟨fun he => hc (he ▸ hd), Or.inr hd⟩

theorem discard (b : Buffer)
    (ha : Accounted h (b.import?.toList ++ I) (b.import?.toList.map Import.context ++ H))
    (hb : ∀ i ∈ I, i.context ∈ H) : Accounted (h.discard b.state) I H := by
  unfold Buffer.import? Buffer.backing? at ha
  unfold Host.discard
  split
  · rename_i hs
    rw [hs] at ha
    exact (freed ha).release hb
  · rename_i hs
    cases hb : b.state with
    | none => simpa [hb] using ha
    | some v =>
      cases v with
      | foreign => simpa [hb] using ha
      | backing k =>
        obtain ⟨ds, imported, stride⟩ := k
        cases imported with
        | none => simpa [hb] using ha
        | some i => exact absurd hb (hs ds i stride)

/-! ### Attempts to create a context -/

theorem failed {a : Allocator} {mapOnly : Bool} (ha : Accounted h I H)
    (hh : Attempted a mapOnly h h' none) : Accounted h' I H := by
  obtain ⟨l, ht, hs⟩ := ha.traced
  obtain ⟨es, hevents, hes⟩ := hh.events
  have hheld : h'.held.Perm H := by
    rw [hh.held]
    exact ha.held
  refine ⟨?_, hheld⟩
  rw [hevents]
  generalize h'.loads = loads at hes
  generalize hfound : (none : Option Context) = found at hes
  cases hes with
  | noNodes hp => exact ⟨l, ht.search hp a.nodes mapOnly, hs⟩
  | noLibrary hp hl =>
    refine ⟨l, ?_, hs⟩
    rw [← List.append_assoc]
    apply (ht.search hp a.nodes mapOnly).idle
    intro e he
    rcases List.mem_cons.mp he with rfl | he
    · exact .quiet ⟨rfl, rfl, rfl, rfl, rfl, rfl, rfl⟩
    · exact .quiet (hl e he).quiet
  | @noDevice probes hp nodes _ _ level text =>
    rw [← hs.loads, ← List.append_assoc]
    have hload := (ht.search hp a.nodes mapOnly).snoc (.load a.library)
    have hrefuse := hload.snoc (.refuse List.mem_cons_self (some nodes.device))
    have hlog := hrefuse.snoc (.quiet (e := .log level text) ⟨rfl, rfl, rfl, rfl, rfl, rfl, rfl⟩)
    have hunload := hlog.snoc (.unload List.mem_cons_self)
    refine ⟨_, by simpa using hunload, ?_⟩
    exact ⟨rfl, by simp [hs.loaded], by simp [hs.spent], hs.imports, hs.alive⟩
  | created => cases hfound

theorem created {a : Allocator} {mapOnly : Bool} (ha : Accounted h I H)
    (hh : Attempted a mapOnly h h' (some c)) : Accounted (h'.hold c) I (c :: H) := by
  obtain ⟨l, ht, hs⟩ := ha.traced
  obtain ⟨es, hevents, hes⟩ := hh.events
  have hheld : (h'.hold c).held.Perm (c :: H) := by
    change (c :: h'.held).Perm _
    rw [hh.held]
    exact ha.held.cons c
  refine ⟨?_, hheld⟩
  change ∃ l, Trace h'.events l ∧ l.Settled h'.loads I (c :: H)
  rw [hevents]
  generalize h'.loads = loads at hes
  generalize hfound : some c = found at hes
  cases hes with
  | noNodes | noLibrary | noDevice => cases hfound
  | @created probes hp nodes _ _ device =>
    cases hfound
    rw [← hs.loads, ← List.append_assoc]
    have hload := (ht.search hp a.nodes mapOnly).snoc (.load a.library)
    have hcreate := hload.snoc (.create List.mem_cons_self (some nodes.device) device)
    refine ⟨_, by simpa using hcreate, ?_⟩
    refine ⟨rfl, by simp [hs.loaded], hs.spent, hs.imports, ?_⟩
    intro d
    simp only [List.mem_cons, hs.alive]

end Accounted

end GraphicsBuffers
