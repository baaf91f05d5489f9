import GraphicsBuffers.Proofs.Mapping

/-!
The tokens of mappings. A map call yields one, which stays with the mapping that came of the call
until it is passed to an unmap call, and is gone after it.
-/

namespace GraphicsBuffers

/-! ### Calls that undo mappings -/

/-- The token that an unmap call is passed. -/
def Event.unmapped? : Event → Option Nat
  | .call (.unmap _ _ token) => some token
  | _ => none

def unmapped (es : List Event) : List Nat := es.filterMap Event.unmapped?

/-- From one host to the other, the library was told to undo the mappings with these tokens. -/
def Unmaps (h h' : Host) (tokens : List Nat) : Prop := Finds Event.unmapped? h h' tokens

theorem Event.unmapped_of_use {e : Event} (h : e.use? = none) : e.unmapped? = none := by
  unfold unmapped?
  split
  · cases h
  · rfl

theorem Event.IsRelease.unmapped {e : Event} (h : e.IsRelease) : e.unmapped? = none := by
  unfold IsRelease at h
  split at h
  all_goals first | exact h.elim | rfl

/-- Where there is no handle, there is nothing to undo. -/
theorem Event.Concerns.unmapped {c : Context} {e : Event} (h : e.Concerns c none) :
    e.unmapped? = none := by
  unfold Concerns at h
  split at h
  all_goals first | exact h.elim | rfl | skip
  all_goals
    obtain ⟨i, hi, -⟩ := h
    cases hi

namespace Unmaps

variable {h h' h'' : Host} {ts ts' : List Nat} {es : List Event}

theorem none {p : Event → Prop} (hp : ∀ e, p e → e.unmapped? = none) (hx : Extends p h h') :
    Unmaps h h' [] := by
  obtain ⟨es, he, hes⟩ := hx
  exact Finds.none he fun e hm => hp e (hes e hm)

theorem releases (hx : Extends Event.IsRelease h h') : Unmaps h h' [] :=
  none (fun _ he => he.unmapped) hx

theorem logs (hh : Appends Event.IsLog h h') : Unmaps h h' [] :=
  none (fun _ he => he.isRelease.unmapped) (.of_appends hh)

theorem refl (h : Host) : Unmaps h h [] := releases (.refl h)

theorem trans (h₁ : Unmaps h h' ts) (h₂ : Unmaps h' h'' ts') : Unmaps h h'' (ts ++ ts') :=
  Finds.trans h₁ h₂

theorem eq (hu : Unmaps h h' ts) : unmapped (added h h') = ts := Finds.eq hu

theorem takes (ht : Takes h es h') : Unmaps h h' [] :=
  none (p := Event.IsAside) (fun _ he => Event.unmapped_of_use he.2) ⟨es, ht.events, ht.aside⟩

theorem idles (hi : Idles h h') : Unmaps h h' [] := by
  obtain ⟨es, ht, -⟩ := hi
  exact takes ht

/-- After a call there are only messages. -/
theorem called {call : Call} {logs : List Event} (he : h'.events = h.events ++ .call call :: logs)
    (hlogs : ∀ e ∈ logs, e.IsLog) : Unmaps h h' (Event.call call).unmapped?.toList :=
  Finds.single he fun e hm => (hlogs e hm).isRelease.unmapped

theorem record (h : Host) (c : Call) : Unmaps h (h.record c) (Event.call c).unmapped?.toList :=
  called rfl (List.forall_mem_nil _)

end Unmaps

/-! ### The operations of the allocator -/

/-- The mapping lies at an address, and has a token to undo it with. -/
structure Mapping.Live (m : Mapping) : Prop where
  placed : m.address ≠ 0
  mapped : m.address ≠ Vendor.mapFailed
  token : ∃ token, m.token = some token ∧ token ≠ 0

/-- What stands in the way of undoing a mapping, by the error that it is answered with. The driver's
context is looked for first, then the buffer's handle, and the mapping's token last. -/
def obstacle (c : Option Context) (b : Buffer) (m : Mapping) : Option Error :=
  match c, b.import?, m.token with
  | none, _, _ => some Allocator.contextFailed
  | some _, none, _ => some .noBufferHandle
  | some _, some _, none => some .noMappingToken
  | some _, some _, some _ => none

/-- Whatever comes of it, the action undoes no mapping. -/
def SparesMappings {α : Type} (act : FocusM α) : Prop :=
  ∀ f, Yields act f (fun _ f' => Unmaps f.host f'.host []) (fun _ f' => Unmaps f.host f'.host [])

namespace Vendor

theorem placement_ok {n : Nat} {answer : MapAnswer} {p : Placement}
    (h : placement n answer = .ok p) :
    p.address ≠ 0 ∧ p.address ≠ mapFailed ∧ p.token ≠ 0 := by
  unfold placement at h
  dsimp only at h
  split at h
  · cases h
  · rename_i haddress
    split at h
    · rename_i htoken
      cases h
      exact ⟨fun h0 => haddress (Or.inl h0), fun hf => haddress (Or.inr hf), htoken⟩
    · cases h

theorem map_lands (library : Library) (handle : Nat) (width height : UInt32) (h : Host) :
    Yields (map library handle width height) h
      (fun p _ => p.address ≠ 0 ∧ p.address ≠ mapFailed ∧ p.token ≠ 0) (fun _ _ => True) := by
  unfold map
  simp only [yields_bind, yields_ofExcept, yields_get, HostM.record, yields_modify]
  exact ⟨fun _ _ => ⟨fun _ _ => ⟨fun _ hp => placement_ok hp, fun _ _ => trivial⟩,
    fun _ _ => trivial⟩, fun _ _ => trivial⟩

end Vendor

section

variable {a : Allocator} {flags : UseFlags} {f f' : Focus} {c : Context}

theorem Offered.unmaps {stride : UInt32} {request : ImportRequest} {handle : Option Nat}
    (h : Offered c stride f request handle f') : Unmaps f.host f'.host [] := by
  obtain ⟨logs, hlogs, he⟩ := h.events
  exact .called he hlogs

theorem Mapped.unmaps {i : Import} (h : Mapped f i f') : Unmaps f.host f'.host [] := by
  obtain ⟨-, ⟨_, _, _, h, logs, -, -, -, hidle, he, hlogs⟩, -, -⟩ := h
  exact (Unmaps.idles hidle).trans (.called he hlogs)

theorem Backed.unmaps {plan : Plan} {al : Vendor.Allocation} (h : Backed flags f plan al f') :
    Unmaps f.host f'.host [] := by
  obtain ⟨es, _, ht, -⟩ := h.takes
  exact .takes ht

theorem Made.unmaps {failure : Option Error} (h : Made flags f failure f') :
    Unmaps f.host f'.host [] := by
  cases h with
  | early ht => exact .takes ht
  | uncopied hb => exact hb.unmaps
  | refused hb ho => exact hb.unmaps.trans ho.unmaps
  | unseen hb => exact hb.unmaps
  | freed hb ho =>
    exact (hb.unmaps.trans ho.unmaps).trans (.releases (Allocator.withdraw_extends _ _))
  | bare hb => exact hb.unmaps.trans (.releases (Allocator.settled_extends _ _))
  | held hb ho =>
    exact (hb.unmaps.trans ho.unmaps).trans (.releases (Allocator.settled_extends _ _))

theorem Attempted.unmaps {mapOnly : Bool} {h h' : Host} {found : Option Context}
    (ha : Attempted a mapOnly h h' found) : Unmaps h h' [] := by
  obtain ⟨es, he, hes⟩ := ha.events
  refine .none (p := Event.Attempts a mapOnly found) ?_ ⟨es, he, hes.each⟩
  intro e hm
  cases hm with
  | probe hp => exact Event.unmapped_of_use hp.aside.2.2
  | search | load | create | unload => rfl

theorem Requires.unmaps {mapOnly : Bool} {r : Option Context} (h : Requires a mapOnly f r f') :
    Unmaps f.host f'.host [] := by
  cases h with
  | shared => exact .refl _
  | @created c h h' hn ha hl =>
    have hlogs : Unmaps (h.hold c) h' [] := .logs hl
    exact ha.unmaps.trans hlogs
  | failed hn ha hl => exact ha.unmaps.trans (.logs hl)

/-- Where the buffer has no handle, nothing comes of the context that could undo a mapping. -/
theorem Works.unmaps {mapOnly : Bool} (h : Works a mapOnly f c f') (hn : f.buffer.import? = none) :
    Unmaps f.host f'.host [] := by
  obtain ⟨f₁, hr, hs⟩ := h
  rw [hr.buffer, hn] at hs
  exact hr.unmaps.trans (.none (fun _ he => he.unmapped) (.of_appends hs.host))

theorem Obtains.unmaps {o : Option Import} (h : Obtains c f o f') : Unmaps f.host f'.host [] := by
  cases h with
  | nothing hs => exact .logs hs.host
  | handle request n driver state held loads system events => exact .called events (by simp)

/-- Where a context is demanded only for a buffer without a handle, no mapping is undone. -/
theorem Effect.unmaps {demand : Option Bool} {r : Option Error} (h : Effect a f demand r f')
    (hn : demand ≠ none → f.buffer.import? = none) : Unmaps f.host f'.host [] := by
  cases h with
  | idle h => exact .logs h.host
  | wrapped hk h => exact (Unmaps.logs h.host).trans (.releases (Allocator.attach_extends _ _))
  | failed h =>
    have hr := h.unmaps
    exact hr
  | worked h =>
    have hw := h.unmaps (hn nofun)
    exact hw
  | attached h ho =>
    have hw := h.unmaps (hn nofun)
    exact (hw.trans ho.unmaps).trans (.releases (Allocator.attach_extends _ _))
  | withdrawn h ho =>
    have hw := h.unmaps (hn nofun)
    exact (hw.trans ho.unmaps).trans (.releases (Allocator.withdraw_extends _ _))

end

namespace Allocator

variable (a : Allocator)

theorem context_spares (mapOnly : Bool) : SparesMappings (context a mapOnly) := by
  intro f
  exact (context_idles a mapOnly f).imp (fun _ _ h => .idles h.1) (fun _ _ h => .idles h.1)

theorem create_spares (flags : UseFlags) : SparesMappings (create a flags) := by
  intro f
  exact (create_made a flags f).imp (fun _ _ hm => hm.unmaps) (fun _ _ hm => hm.unmaps)

theorem createBuffer_spares (width height : UInt32) (format : Format) (flags : UseFlags) :
    SparesMappings ((backend a).createBuffer width height format flags) := by
  intro f
  apply (createBuffer_made a flags f width height format).imp
  · intro _ f' h
    obtain ⟨m, -, hm⟩ := h
    exact hm.unmaps
  · intro e f' h
    rcases h with rfl | ⟨m, -, hm⟩
    · exact .refl _
    · exact hm.unmaps

theorem importData_spares (data : ImportData) : SparesMappings (importData a data) := by
  intro f
  exact (importData_effect a data f).imp (fun _ _ he => he.unmaps import_of_demand)
    (fun _ _ he => he.unmaps import_of_demand)

theorem wrapBuffer_spares (data : ImportData) (described : Except Error Metadata) :
    SparesMappings ((backend a).wrapBuffer data described) := by
  intro f
  apply (wrapBuffer_effect a data described f).imp
  · intro _ f' h
    obtain ⟨m, -, he⟩ := h
    exact he.unmaps fun _ => rfl
  · intro e f' h
    rcases h with ⟨-, rfl⟩ | ⟨m, -, he⟩
    · exact .refl _
    · exact he.unmaps fun _ => rfl

theorem mapBuffer_spares (flags : MapFlags) : SparesMappings ((backend a).mapBuffer flags) := by
  intro f
  apply (mapBuffer_maps a f flags).imp
  · intro _ f' h
    obtain ⟨-, _, hm⟩ := h
    exact hm.unmaps
  · intro _ f' h
    rcases h with ⟨hidle, -⟩ | ⟨_, hm⟩
    · exact .idles hidle
    · exact hm.unmaps

variable (f : Focus)

theorem mapBuffer_lives (flags : MapFlags) :
    Yields ((backend a).mapBuffer flags) f (fun m _ => m.Live) (fun _ _ => True) := by
  unfold Backend.mapBuffer
  rw [yields_bind]
  change Yields (map a flags) f _ _
  unfold map
  rw [yields_bind]
  apply (requireContext_idles a true f).imp_ok
  intro c f₁ _
  rw [yields_bind]
  apply (mappable_yields _ f₁).imp_ok
  intro i f₂ _
  simp only [yields_bind, yields_get, yields_ofExcept, yields_onHost, yields_pure, yields_log]
  refine ⟨fun _ _ => ?_, fun _ _ => trivial⟩
  apply (Vendor.map_lands i.context.library i.handle _ _ f₂.host).imp_ok
  intro p _ h
  obtain ⟨hzero, hfailed, htoken⟩ := h
  exact ⟨hzero, hfailed, p.token, rfl, htoken⟩

/-- A mapping is undone by one call if nothing stands in the way, and is otherwise left alone. -/
theorem unmapBuffer_ends (m : Mapping) :
    Yields ((backend a).unmapBuffer m) f
      (fun m' f' => f'.buffer = f.buffer ∧ obstacle f'.driver.context? f.buffer m = none ∧
        ∃ token, m.token = some token ∧ m' = Session.undone m ∧ Unmaps f.host f'.host [token])
      (fun e f' => f'.buffer = f.buffer ∧ obstacle f'.driver.context? f.buffer m = some e ∧
        Unmaps f.host f'.host []) := by
  unfold Backend.unmapBuffer
  rw [yields_bind]
  change Yields (unmap a m) f _ _
  unfold unmap
  rw [yields_bind]
  apply (requireContext_requires a true f).imp
  · intro c f₁ hr
    rw [yields_bind]
    apply ((mappable_yields _ f₁).and (mappable_error _ f₁)).imp
    · intro i _ h
      obtain ⟨⟨rfl, hi⟩, -⟩ := h
      rw [hr.buffer] at hi
      cases ht : m.token with
      | none =>
        refine ⟨hr.buffer, ?_, hr.unmaps.trans (.logs (.log _ _ trivial))⟩
        simp [obstacle, hr.context, hi, ht]
      | some token =>
        simp only [yields_bind, yields_modify, yields_pure]
        refine ⟨hr.buffer, ?_, token, rfl, rfl, hr.unmaps.trans (.record _ (.unmap _ _ token))⟩
        simp [obstacle, hr.context, hi, ht]
    · intro e f₂ h
      obtain ⟨⟨hb, hs⟩, rfl, hi⟩ := h
      rw [hr.buffer] at hi
      refine ⟨hb.trans hr.buffer, ?_, hr.unmaps.trans (.logs hs.host)⟩
      rw [hs.driver]
      simp [obstacle, hr.context, hi]
  · intro e f' h
    obtain ⟨rfl, hr⟩ := h
    refine ⟨hr.buffer, ?_, hr.unmaps⟩
    cases hr with
    | failed hn => simp [obstacle, hn]

end Allocator

/-! ### The operations of a session -/

/-- The slot of the mapping that the operation may change. -/
def Operation.mapping? : Operation → Option Nat
  | .setToken mapping _ | .map _ _ mapping _ | .unmap _ _ mapping => some mapping
  | _ => none

namespace Session

/-- From one session to the other, the library was told to undo no mapping. -/
def UndoesNone (s t : Session) : Prop := Unmaps s.host t.host []

/-- The slots hold the same mappings in both sessions. -/
def KeepsMappings (s t : Session) : Prop := t.mappings = s.mappings

/-- What an operation does to the mappings, and the tokens that it passes to unmap calls. -/
inductive Turns (s : Session) : Operation → Session × Answer → Prop
  | kept {op : Operation} {s' : Session} {answer : Answer} (hu : Unmaps s.host s'.host [])
      (hm : s'.mappings = s.mappings)
      (ha : op.mapping? = none ∨ ∀ m, answer ≠ .mapping m) : Turns s op (s', answer)
  | mapped {driver buffer mapping : Nat} {flags : MapFlags} {m : Mapping} {s' : Session}
      (hu : Unmaps s.host s'.host []) (hl : m.Live)
      (hm : s'.mappings = s.mappings.put mapping m) :
      Turns s (.map driver buffer mapping flags) (s', .mapping m)
  | written {mapping number : Nat} {token : Option Nat} {m : Mapping} {s' : Session}
      (ho : s.mappings.get? mapping = some m) (hu : Unmaps s.host s'.host [])
      (hm : s'.mappings = s.mappings.put mapping { m with token }) :
      Turns s (.setToken mapping number) (s', .mapping { m with token })
  | undone {driver buffer mapping token : Nat} {m : Mapping} {s' : Session}
      (ho : s.mappings.get? mapping = some m) (ht : m.token = some token)
      (hu : Unmaps s.host s'.host [token]) (hm : s'.mappings = s.mappings.put mapping (undone m)) :
      Turns s (.unmap driver buffer mapping) (s', .mapping (undone m))

section

variable {s : Session} {driver buffer mapping : Nat} {d : Driver} {b : Buffer} {op : Operation}

theorem makeBuffer_undoes_none {act : FocusM Unit} (h : SparesMappings act) :
    s.UndoesNone (s.makeBuffer driver buffer d act).1 := by
  have h := h { host := s.host, driver := d }
  unfold makeBuffer
  cases hr : act { host := s.host, driver := d } with
  | ok _ f => exact (h.of_ok hr).trans (.releases (Host.discard_extends _ _))
  | error e f => exact h.of_error hr

theorem changeBuffer_undoes_none {act : FocusM Unit} (h : SparesMappings act) :
    s.UndoesNone (s.changeBuffer driver buffer d b act).1 := by
  have h := h ⟨s.host, d, b⟩
  unfold changeBuffer
  cases hr : act ⟨s.host, d, b⟩ with
  | ok _ f => exact h.of_ok hr
  | error e f => exact h.of_error hr

theorem takeContext_undoes_none (mapOnly : Bool) (slot : Option Nat) (format : Format) :
    s.UndoesNone (s.takeContext driver mapOnly slot format d).1 := by
  have h := Allocator.context_spares s.allocator mapOnly ⟨s.host, d, {}⟩
  unfold takeContext
  cases hr : Allocator.context s.allocator mapOnly ⟨s.host, d, {}⟩ with
  | error e f => exact h.of_error hr
  | ok c f =>
    have hu : Unmaps s.host f.host [] := h.of_ok hr
    cases slot with
    | none => exact hu
    | some slot => exact hu.trans (.releases (storeContext_extends (s.resume driver f) slot c))

/-- Of the operations that are not about a mapping, only those that demand a context call the
library at all, other than to give something back. -/
theorem step_undoes_none (h : op.mapping? = none) : s.UndoesNone (s.step op).1 := by
  cases hd : s.demand op with
  | none => exact .releases (step_abstains op hd).releases
  | some demanded =>
    cases op with
    | create k n r =>
      exact onDriver_of (.refl _) fun _ _ =>
        makeBuffer_undoes_none (Allocator.createBuffer_spares _ _ _ _ _)
    | importBuffer k n slots data =>
      exact onDriver_of (.refl _) fun _ _ => onDescriptors_of (.refl _) fun _ _ =>
        importBuffer_result (q := fun r => s.UndoesNone r.1) (fun _ => .refl _) fun _ _ =>
          makeBuffer_undoes_none (Allocator.wrapBuffer_spares _ _ _)
    | backendCreate k n r =>
      exact onDriver_of (.refl _) fun _ _ => onBuffer_of (.refl _) fun _ _ =>
        changeBuffer_undoes_none (Allocator.create_spares _ _)
    | backendImport k n slots data =>
      exact onDriver_of (.refl _) fun _ _ => onDescriptors_of (.refl _) fun _ _ =>
        onBuffer_of (.refl _) fun _ _ =>
          changeBuffer_undoes_none (Allocator.importData_spares _ _)
    | context k only slot format =>
      exact onDriver_of (.refl _) fun _ _ => takeContext_undoes_none only slot format
    | setToken | map | unmap => cases h
    | _ => cases hd

theorem makeBuffer_keeps_mappings {act : FocusM Unit} :
    s.KeepsMappings (s.makeBuffer driver buffer d act).1 := by
  unfold makeBuffer
  cases act { host := s.host, driver := d } <;> rfl

theorem changeBuffer_keeps_mappings {act : FocusM Unit} :
    s.KeepsMappings (s.changeBuffer driver buffer d b act).1 := by
  unfold changeBuffer
  cases act ⟨s.host, d, b⟩ <;> rfl

theorem exportPlane_keeps_mappings {act : HostM Descriptor} :
    s.KeepsMappings (s.exportPlane act).1 := by
  unfold exportPlane
  cases act s.host <;> rfl

theorem step_keeps_mappings (h : op.mapping? = none) : s.KeepsMappings (s.step op).1 := by
  cases op with
  | script | setNodes | makeMemory | makeStream | dropBuffer | defaultBuffer => rfl
  | openDriver driver =>
    simp only [step, openDriver]
    split <;> rfl
  | dropDriver driver =>
    simp only [step, dropDriver]
    split <;> rfl
  | releaseContext slot =>
    simp only [step, dropContext]
    split <;> rfl
  | inspectBuffer | editMetadata | attachForeign | detachBuffer | hasBacking | backendDestroy =>
    exact onBuffer_of rfl fun _ _ => rfl
  | backendPlane => exact onBuffer_of rfl fun _ _ => exportPlane_keeps_mappings
  | inspectMapping => exact onMapping_of rfl fun _ _ => rfl
  | create => exact onDriver_of rfl fun _ _ => makeBuffer_keeps_mappings
  | importBuffer =>
    exact onDriver_of rfl fun _ _ => onDescriptors_of rfl fun _ _ =>
      importBuffer_result (q := fun r => s.KeepsMappings r.1) (fun _ => rfl) fun _ _ =>
        makeBuffer_keeps_mappings
  | backendCreate =>
    exact onDriver_of rfl fun _ _ => onBuffer_of rfl fun _ _ => changeBuffer_keeps_mappings
  | backendImport =>
    exact onDriver_of rfl fun _ _ => onDescriptors_of rfl fun _ _ => onBuffer_of rfl fun _ _ =>
      changeBuffer_keeps_mappings
  | destroy => exact onDriver_of rfl fun _ _ => onBuffer_of rfl fun _ _ => rfl
  | plane =>
    exact onDriver_of rfl fun _ _ => onBuffer_of rfl fun _ _ => exportPlane_keeps_mappings
  | context driver mapOnly slot format =>
    refine onDriver_of rfl fun d _ => ?_
    unfold takeContext
    cases Allocator.context s.allocator mapOnly { host := s.host, driver := d } with
    | ok c f => cases slot <;> rfl
    | error e f => rfl
  | close | attachForeignToDriver | detachDriver | name | resolve | combinations | best
  | addCombination | addCombinations | widen | widenLinear =>
    exact onDriver_of rfl fun _ _ => rfl
  | setToken | map | unmap => cases h

theorem Turns.vacant (kind : SlotKind) : s.Turns op (s, .vacant kind) :=
  .kept (.refl _) rfl (Or.inr nofun)

theorem mapBuffer_turns (flags : MapFlags) : s.Turns (.map driver buffer mapping flags)
    (s.mapBuffer driver buffer mapping flags d b) := by
  have hu := Allocator.mapBuffer_spares s.allocator flags ⟨s.host, d, b⟩
  have hl := Allocator.mapBuffer_lives s.allocator ⟨s.host, d, b⟩ flags
  unfold mapBuffer backend
  cases hr : (Allocator.backend s.allocator).mapBuffer flags ⟨s.host, d, b⟩ with
  | ok m f => exact .mapped (hu.of_ok hr) (hl.of_ok hr) rfl
  | error e f => exact .kept (hu.of_error hr) rfl (Or.inr nofun)

/-- How unmapping ends, by what stands in its way once a context was asked for. -/
structure Ends (s : Session) (driver mapping : Nat) (b : Buffer) (m : Mapping)
    (r : Session × Answer) : Prop where
  buffers : ∀ n, r.1.buffers.get? n = s.buffers.get? n
  failed : ∀ e, obstacle (r.1.contextOf driver) b m = some e →
    r.2 = .failedOnMapping e m ∧ r.1.mappings = s.mappings ∧ Unmaps s.host r.1.host []
  done : obstacle (r.1.contextOf driver) b m = none → ∃ token, m.token = some token ∧
    r.2 = .mapping (undone m) ∧ r.1.mappings = s.mappings.put mapping (undone m) ∧
    Unmaps s.host r.1.host [token]

theorem unmapBuffer_ends (hb : s.buffers.get? buffer = some b) (m : Mapping) :
    s.Ends driver mapping b m (s.unmapBuffer driver buffer mapping d b m) := by
  have h := Allocator.unmapBuffer_ends s.allocator ⟨s.host, d, b⟩ m
  unfold unmapBuffer backend
  cases hr : (Allocator.backend s.allocator).unmapBuffer m ⟨s.host, d, b⟩ with
  | ok m' f =>
    obtain ⟨hbuffer, hnone, token, ht, rfl, hu⟩ := h.of_ok hr
    have hc : (((s.resumeBuffer driver buffer f).storeMapping mapping (undone m)).contextOf driver)
        = f.driver.context? := contextOf_resume f
    refine ⟨get?_put_same (hb.trans (congrArg some hbuffer.symm)), fun e he => ?_,
      fun _ => ⟨token, ht, rfl, rfl, hu⟩⟩
    rw [hc, hnone] at he
    cases he
  | error e f =>
    obtain ⟨hbuffer, hsome, hu⟩ := h.of_error hr
    have hc : (s.resumeBuffer driver buffer f).contextOf driver = f.driver.context? :=
      contextOf_resume f
    refine ⟨get?_put_same (hb.trans (congrArg some hbuffer.symm)), fun e' he => ?_, fun hn => ?_⟩
    · rw [hc, hsome] at he
      cases he
      exact ⟨rfl, rfl, hu⟩
    · rw [hc, hsome] at hn
      cases hn

theorem Ends.turns {m : Mapping} {r : Session × Answer} (h : s.Ends driver mapping b m r)
    (ho : s.mappings.get? mapping = some m) : s.Turns (.unmap driver buffer mapping) r := by
  obtain ⟨t, answer⟩ := r
  obtain ⟨-, hfailed, hdone⟩ := h
  cases hr : obstacle (t.contextOf driver) b m with
  | some e =>
    obtain ⟨rfl, hm, hu⟩ := hfailed e hr
    exact .kept hu hm (Or.inr nofun)
  | none =>
    obtain ⟨token, ht, rfl, hm, hu⟩ := hdone hr
    exact .undone ho ht hu hm

theorem step_turns (s : Session) (op : Operation) : s.Turns op (s.step op) := by
  cases hm : op.mapping? with
  | none => exact .kept (step_undoes_none hm) (step_keeps_mappings hm) (Or.inl hm)
  | some mapping =>
    cases op with
    | setToken mapping number =>
      exact onMapping_result (.vacant _) fun m ho => .written ho (.refl _) rfl
    | map driver buffer mapping flags =>
      exact onDriver_result (.vacant _) fun d _ => onBuffer_result (.vacant _) fun b _ =>
        mapBuffer_turns flags
    | unmap driver buffer mapping =>
      exact onDriver_result (.vacant _) fun d _ => onBuffer_result (.vacant _) fun b hb =>
        onMapping_result (.vacant _) fun m ho => (unmapBuffer_ends hb m).turns ho
    | _ => cases hm

end

/-! ### Runs -/

/-- The tokens that mappings have. -/
def tokens (s : Session) : List Nat := s.mappings.collect Mapping.token

/-- The operations of a run, with their answers. -/
def history (s : Session) : List Operation → List (Operation × Answer)
  | [] => []
  | op :: rest => (op, (s.step op).2) :: history (s.step op).1 rest

/-- The token that a mapping was made with. -/
def given? : Operation × Answer → Option Nat
  | (.map .., .mapping m) => m.token
  | _ => none

/-- The token that a client put into a mapping by hand. -/
def written? : Operation × Answer → Option Nat
  | (.setToken .., .mapping m) => m.token
  | _ => none

/-- Another mapping came into the slot, or a token by hand. -/
def Renews (mapping : Nat) : Operation × Answer → Prop
  | (.map _ _ n _, .mapping _) => n = mapping
  | (.setToken n _, .mapping m) => n = mapping ∧ m.token ≠ none
  | _ => False

def given (s : Session) (ops : List Operation) : List Nat := (s.history ops).filterMap given?

def written (s : Session) (ops : List Operation) : List Nat := (s.history ops).filterMap written?

section

variable {s : Session} {op : Operation} {r : Session × Answer} {mapping : Nat} {m : Mapping}

/-- A token is passed to an unmap call only if a mapping loses it. -/
theorem Turns.count_le (h : s.Turns op r) (token : Nat) :
    ∃ ts, Unmaps s.host r.1.host ts ∧ ts.count token + r.1.tokens.count token ≤
      s.tokens.count token + (given? (op, r.2)).toList.count token +
        (written? (op, r.2)).toList.count token := by
  -- What goes out of a slot and what comes in, as far as this one token goes.
  have hput (m : Mapping) (n : Nat) :=
    Slots.count_collect_put Mapping.token s.mappings n m token
  unfold tokens
  cases h with
  | kept hu hm =>
    refine ⟨_, hu, ?_⟩
    rw [hm, List.count_nil]
    omega
  | @mapped _ _ mapping _ m _ hu hl hm =>
    refine ⟨_, hu, ?_⟩
    have := hput m mapping
    simp only [given?, written?, hm, List.count_nil, Option.toList_none]
    omega
  | @written mapping _ t m _ ho hu hm =>
    refine ⟨_, hu, ?_⟩
    have := hput { m with token := t } mapping
    simp only [given?, written?, hm, List.count_nil, Option.toList_none]
    dsimp only at this
    omega
  | @undone _ _ mapping t m _ ho ht hu hm =>
    refine ⟨_, hu, ?_⟩
    have := hput (Session.undone m) mapping
    rw [ho, Option.bind_some, ht] at this
    simp only [Session.undone, given?, written?, hm, List.count_nil, Option.toList_none,
      Option.toList_some] at this ⊢
    omega

theorem Turns.remains (h : s.Turns op r) (hs : s.mappings.get? mapping = some m)
    (ht : m.token = none) (hn : ¬Renews mapping (op, r.2)) :
    r.1.mappings.get? mapping = some m := by
  cases h with
  | kept hu hm => rw [hm, hs]
  | mapped hu hl hm =>
    rw [hm, Slots.get?_put_other _ _ (Ne.symm hn), hs]
  | @written n _ token m' _ ho hu hm =>
    rw [hm]
    by_cases hne : mapping = n
    · -- Only to have no token at all can be written without renewing the slot.
      subst hne
      cases hs.symm.trans ho
      have hnone : token = none := Decidable.not_not.mp fun hne => hn ⟨rfl, hne⟩
      rw [Slots.get?_put_self, hnone, ← ht]
    · rw [Slots.get?_put_other _ _ hne, hs]
  | @undone _ _ n token m' _ ho ht' hu hm =>
    have hne : mapping ≠ n := by
      rintro rfl
      cases hs.symm.trans ho
      cases ht.symm.trans ht'
    rw [hm, Slots.get?_put_other _ _ hne, hs]

theorem Turns.live {driver buffer : Nat} {flags : MapFlags}
    (h : s.Turns (.map driver buffer mapping flags) r) (hm : r.2 = .mapping m) : m.Live := by
  cases h with
  | kept hu hk ha =>
    rcases ha with ha | ha
    · cases ha
    · exact absurd hm (ha m)
  | mapped hu hl =>
    cases hm
    exact hl

theorem Turns.ended {driver buffer : Nat} (h : s.Turns (.unmap driver buffer mapping) r)
    (hm : r.2 = .mapping m) :
    m.address = 0 ∧ m.token = none ∧ r.1.mappings.get? mapping = some m := by
  cases h with
  | kept hu hk ha =>
    rcases ha with ha | ha
    · cases ha
    · exact absurd hm (ha m)
  | undone ho ht hu hk =>
    cases hm
    exact ⟨rfl, rfl, by rw [hk, Slots.get?_put_self]⟩

theorem Turns.kept_of_spent {driver buffer : Nat} (h : s.Turns (.unmap driver buffer mapping) r)
    (hs : s.mappings.get? mapping = some m) (ht : m.token = none) :
    Unmaps s.host r.1.host [] ∧ r.1.mappings = s.mappings := by
  cases h with
  | kept hu hm => exact ⟨hu, hm⟩
  | undone ho ht' =>
    cases hs.symm.trans ho
    cases ht.symm.trans ht'

theorem given_cons (s : Session) (op : Operation) (ops : List Operation) :
    s.given (op :: ops) = (given? (op, (s.step op).2)).toList ++ (s.step op).1.given ops := by
  cases h : given? (op, (s.step op).2) <;> simp [given, history, h]

theorem written_cons (s : Session) (op : Operation) (ops : List Operation) :
    s.written (op :: ops) = (written? (op, (s.step op).2)).toList ++ (s.step op).1.written ops := by
  cases h : written? (op, (s.step op).2) <;> simp [written, history, h]

theorem run_count_le (s : Session) (ops : List Operation) (token : Nat) :
    ∃ ts, Unmaps s.host (s.run ops).host ts ∧ ts.count token + (s.run ops).tokens.count token ≤
      s.tokens.count token + (s.given ops).count token + (s.written ops).count token := by
  induction ops generalizing s with
  | nil =>
    refine ⟨[], .refl _, ?_⟩
    change 0 + s.tokens.count token ≤ s.tokens.count token + 0 + 0
    omega
  | cons op ops ih =>
    obtain ⟨ts, hu, hstep⟩ := (step_turns s op).count_le token
    obtain ⟨ts', hu', hrest⟩ := ih (s.step op).1
    refine ⟨ts ++ ts', hu.trans hu', ?_⟩
    rw [given_cons, written_cons, List.count_append, List.count_append, List.count_append]
    change _ + ((s.step op).1.run ops).tokens.count token ≤ _
    omega

theorem run_remains {ops : List Operation} (hs : s.mappings.get? mapping = some m)
    (ht : m.token = none) (hn : ∀ p ∈ s.history ops, ¬Renews mapping p) :
    (s.run ops).mappings.get? mapping = some m := by
  induction ops generalizing s with
  | nil => exact hs
  | cons op ops ih =>
    obtain ⟨hop, hops⟩ := List.forall_mem_cons.mp hn
    exact ih ((step_turns s op).remains hs ht hop) hops

theorem foldl_extends {f : Session → Nat → Session}
    (hf : ∀ s n, Extends Event.IsRelease s.host (f s n).host) (ns : List Nat) (s : Session) :
    Extends Event.IsRelease s.host (ns.foldl f s).host := by
  induction ns generalizing s with
  | nil => exact .refl _
  | cons n ns ih => exact (hf s n).trans (ih (f s n))

/-- At the end of a session things are only let go of. -/
theorem finish_extends (s : Session) : Extends Event.IsRelease s.host s.finish.host := by
  have hbuffers := foldl_extends (f := dropBuffer) (fun s n => s.host.discard_extends _)
  have hcontexts := foldl_extends (f := dropContext)
    (fun s n => (step_abstains (s := s) (.releaseContext n) rfl).releases)
  have hdrivers := foldl_extends (f := dropDriver) (fun s n => (dropDriver_abstains s n).releases)
  exact ((hbuffers _ { s with mappings := {} }).trans (hcontexts _ _)).trans (hdrivers _ _)

end

/-! ### Undone mappings -/

theorem obstacle_of_no_token {m : Mapping} (ht : m.token = none) (c : Option Context) (b : Buffer) :
    ∃ e, obstacle c b m = some e ∧ (c ≠ none → b.import? ≠ none → e = .noMappingToken) := by
  cases c with
  | none => exact ⟨_, rfl, fun h => absurd rfl h⟩
  | some c =>
    cases hi : b.import? with
    | none => exact ⟨.noBufferHandle, by simp [obstacle, hi], fun _ h => absurd rfl h⟩
    | some i => exact ⟨.noMappingToken, by simp [obstacle, hi, ht], fun _ _ => rfl⟩

/-- How unmapping ends where the mapping has no token. -/
structure Spent (s : Session) (mapping : Nat) (m : Mapping) (driver buffer : Nat)
    (r : Session × Answer) : Prop where
  unmaps : Unmaps s.host r.1.host []
  mappings : r.1.mappings = s.mappings
  fails : ∀ d b, s.drivers.get? driver = some d → s.buffers.get? buffer = some b →
    ∃ e, r.2 = .failedOnMapping e m ∧
      (r.1.contextOf driver ≠ none → b.import? ≠ none → e = .noMappingToken)

theorem step_ends {s : Session} {driver buffer mapping : Nat} {d : Driver} {b : Buffer}
    {m : Mapping} (hd : s.drivers.get? driver = some d) (hb : s.buffers.get? buffer = some b)
    (hm : s.mappings.get? mapping = some m) :
    s.Ends driver mapping b m (s.step (.unmap driver buffer mapping)) := by
  simp only [step, onDriver, hd, onBuffer, hb, onMapping, hm]
  exact unmapBuffer_ends hb m

theorem step_spent {s : Session} {mapping : Nat} {m : Mapping}
    (hs : s.mappings.get? mapping = some m) (ht : m.token = none) (driver buffer : Nat) :
    s.Spent mapping m driver buffer (s.step (.unmap driver buffer mapping)) := by
  obtain ⟨hu, hm⟩ := (step_turns s (.unmap driver buffer mapping)).kept_of_spent hs ht
  refine ⟨hu, hm, fun d b hd hb => ?_⟩
  obtain ⟨e, he, hwhich⟩ := obstacle_of_no_token ht
    ((s.step (.unmap driver buffer mapping)).1.contextOf driver) b
  exact ⟨e, ((step_ends hd hb hs).failed e he).1, hwhich⟩

/-- Whatever clients do, a token is passed to unmap calls at most as often as mappings were made
with it and it was put into one by hand. A mapping is made only at an address and with a token.
While something stands in the way of undoing it, it stays as it is, and so does its buffer; once it
is undone, the library is not told so again unless the slot is renewed. -/
theorem token_protocol (s : Session) :
    (∀ ops token, (unmapped (added s.host (s.run ops).finish.host)).count token +
        (s.run ops).tokens.count token ≤
      s.tokens.count token + (s.given ops).count token + (s.written ops).count token) ∧
    (∀ driver buffer mapping flags m,
      (s.step (.map driver buffer mapping flags)).2 = .mapping m → m.Live) ∧
    (∀ driver buffer mapping d b m, s.drivers.get? driver = some d →
      s.buffers.get? buffer = some b → s.mappings.get? mapping = some m →
      s.Ends driver mapping b m (s.step (.unmap driver buffer mapping))) ∧
    ∀ driver buffer mapping m ops, (s.step (.unmap driver buffer mapping)).2 = .mapping m →
      (∀ p ∈ s.history (.unmap driver buffer mapping :: ops), ¬Renews mapping p) →
      let t := s.run (.unmap driver buffer mapping :: ops)
      m.address = 0 ∧ m.token = none ∧ t.mappings.get? mapping = some m ∧
        ∀ driver buffer, t.Spent mapping m driver buffer
          (t.step (.unmap driver buffer mapping)) := by
  refine ⟨?_, ?_, ?_, ?_⟩
  · intro ops token
    obtain ⟨ts, hu, hcount⟩ := run_count_le s ops token
    have hall : Unmaps s.host (s.run ops).finish.host (ts ++ []) :=
      hu.trans (.releases (finish_extends (s.run ops)))
    rwa [hall.eq, List.append_nil]
  · exact fun driver buffer mapping flags m hm => (step_turns s _).live hm
  · exact fun _ _ _ _ _ _ hd hb hm => step_ends hd hb hm
  · intro driver buffer mapping m ops hm hn
    obtain ⟨haddress, htoken, hs⟩ := (step_turns s (.unmap driver buffer mapping)).ended hm
    have hremains := run_remains hs htoken (List.forall_mem_cons.mp hn).2
    exact ⟨haddress, htoken, hremains, step_spent hremains htoken⟩

/-- A buffer is mapped twice, and the library has the same token for both mappings. -/
def sharing : Session :=
  (start ⟨.supplied, .linked⟩
    { supported := [.r8]
      answers := { maps := [{ number := some 7 }, { number := some 7 }] } }).1.run
    [.create 0 0 ⟨64, 4, .r8, .softwareReadOften⟩, .map 0 0 0 ⟨0⟩, .map 0 0 1 ⟨0⟩]

def undoEach : List Operation := [.unmap 0 0 0, .unmap 0 0 0, .unmap 0 0 1]

theorem token_protocol_of_sharing :
    (unmapped (added sharing.host (sharing.run undoEach).finish.host)).count 7 ≤ 2 ∧
    Mapping.Live ⟨0x10003000, 1024, ⟨0⟩, some 3⟩ ∧
    (∀ n, (sharing.step (.unmap 0 0 0)).1.buffers.get? n = sharing.buffers.get? n) ∧
    ((sharing.run [.unmap 0 0 0]).step (.unmap 0 0 0)).2 =
      .failedOnMapping .noMappingToken ⟨0, 1024, ⟨0⟩, none⟩ := by
  obtain ⟨hcount, hlive, hends, hspent⟩ := token_protocol sharing
  refine ⟨?_, ?_, ?_, ?_⟩
  · have hbefore : sharing.tokens.count 7 = 2 := by decide +kernel
    have hgiven : sharing.given undoEach = [] := by decide +kernel
    have hwritten : sharing.written undoEach = [] := by decide +kernel
    have h := hcount undoEach 7
    rw [hbefore, hgiven, hwritten] at h
    exact Nat.le_trans (Nat.le_add_right _ _) h
  · have hmapped : (sharing.step (.map 0 0 2 ⟨0⟩)).2 =
        .mapping ⟨0x10003000, 1024, ⟨0⟩, some 3⟩ := by decide +kernel
    exact hlive 0 0 2 ⟨0⟩ _ hmapped
  · obtain ⟨d, hd⟩ := Option.isSome_iff_exists.mp
      (show (sharing.drivers.get? 0).isSome by decide +kernel)
    obtain ⟨b, hb⟩ := Option.isSome_iff_exists.mp
      (show (sharing.buffers.get? 0).isSome by decide +kernel)
    obtain ⟨m, hm⟩ := Option.isSome_iff_exists.mp
      (show (sharing.mappings.get? 0).isSome by decide +kernel)
    exact (hends 0 0 0 d b m hd hb hm).buffers
  · obtain ⟨d, hd⟩ := Option.isSome_iff_exists.mp
      (show ((sharing.run [.unmap 0 0 0]).drivers.get? 0).isSome by decide +kernel)
    obtain ⟨i, hi⟩ := Option.isSome_iff_exists.mp
      (show (((sharing.run [.unmap 0 0 0]).buffers.get? 0).bind Buffer.import?).isSome by
        decide +kernel)
    obtain ⟨b, hb, hi⟩ := Option.bind_eq_some_iff.mp hi
    have hended : (sharing.step (.unmap 0 0 0)).2 = .mapping ⟨0, 1024, ⟨0⟩, none⟩ := by
      decide +kernel
    have hcontext : ((sharing.run [.unmap 0 0 0]).step (.unmap 0 0 0)).1.contextOf 0 ≠ none := by
      decide +kernel
    have hrenewed : ∀ p ∈ sharing.history [.unmap 0 0 0], ¬Renews 0 p :=
      List.forall_mem_singleton.mpr id
    obtain ⟨-, -, -, hagain⟩ := hspent 0 0 0 _ [] hended hrenewed
    obtain ⟨e, he, hwhich⟩ := (hagain 0 0).fails d b hd hb
    rw [he, hwhich hcontext (by simp [hi])]

end Session

end GraphicsBuffers
