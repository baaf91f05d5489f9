import GraphicsBuffers.Proofs.Accounted
import GraphicsBuffers.Proofs.LazyContext
import GraphicsBuffers.Proofs.Shape

/-!
What is left of a buffer that could not be made. Whichever step fails, and be it that the process is
out of descriptors, no handle stays behind, and the driver has gained its first context at most.
-/

namespace GraphicsBuffers

/-! ### What a failure leaves -/

/-- No handle is imported, used or freed, and no device destroyed. -/
def Event.IsHarmless (e : Event) : Prop :=
  e.imported? = none ∧ e.use? = none ∧ e.destroyed? = none

theorem Event.IsQuiet.harmless {e : Event} (h : e.IsQuiet) : e.IsHarmless := by
  obtain ⟨-, -, -, hd, -, hi, hu⟩ := h
  exact ⟨hi, hu, hd⟩

/-- Without a handle to work on, nothing is mapped or unmapped either. -/
theorem Event.Concerns.harmless {c : Context} {e : Event} (h : e.Concerns c none) :
    e.IsHarmless := by
  unfold Concerns at h
  split at h
  · exact ⟨rfl, rfl, rfl⟩
  · exact ⟨rfl, rfl, rfl⟩
  · exact ⟨rfl, rfl, rfl⟩
  · obtain ⟨i, hi, -⟩ := h
    cases hi
  · obtain ⟨i, hi, -⟩ := h
    cases hi
  · exact h.elim

theorem Attempt.harmless {a : Allocator} {mapOnly : Bool} {h : Host} {es : List Event} {n : Nat}
    {found : Option Context} (ha : Attempt a mapOnly h es n found) :
    ∀ e ∈ es, e.IsHarmless := by
  intro e he
  cases ha.each e he with
  | search | load | create | unload => exact ⟨rfl, rfl, rfl⟩
  | probe hp => exact hp.quiet.harmless

/-- A driver and the contexts in use, from before to after a call that failed, by the contexts that
it created. The driver may have gained its first context; a client's own value is none. -/
inductive Residue (d : Driver) (held : List Context) : List Context → Driver → List Context → Prop
  | nothing : Residue d held [] d held
  | context {c : Context} (hn : d.context? = none) :
      Residue d held [c] { d with state := some (.context c) } (c :: held)

/-- Only harmless events are added, and of what was created only the driver's context is left. -/
def Withdrawn (h : Host) (d : Driver) (h' : Host) (d' : Driver) : Prop :=
  ∃ es, h'.events = h.events ++ es ∧ (∀ e ∈ es, e.IsHarmless) ∧
    Residue d h.held (created es) d' h'.held

section

variable {a : Allocator} {mapOnly : Bool} {f f' : Focus} {h h' h'' : Host} {d d' : Driver}
  {r : Option Context}

theorem Withdrawn.refl (h : Host) (d : Driver) : Withdrawn h d h d :=
  ⟨[], by simp, by simp, .nothing⟩

/-- Nothing that follows creates a context. -/
theorem Withdrawn.appends {p : Event → Prop} (hw : Withdrawn h d h' d') (ha : Appends p h' h'')
    (hp : ∀ e, p e → e.IsHarmless ∧ e.created? = none) : Withdrawn h d h'' d' := by
  obtain ⟨es, hevents, hes, hr⟩ := hw
  obtain ⟨es', hevents', hes'⟩ := ha.events
  refine ⟨es ++ es', by rw [hevents', hevents, List.append_assoc], fun e he => ?_, ?_⟩
  · rcases List.mem_append.mp he with he | he
    · exact hes e he
    · exact (hp e (hes' e he)).1
  · have hnone : created es' = [] :=
      List.filterMap_eq_nil_iff.mpr fun e he => (hp e (hes' e he)).2
    rw [created_append, hnone, List.append_nil, ha.held]
    exact hr

theorem Event.IsLog.withdrawn {e : Event} (h : e.IsLog) : e.IsHarmless ∧ e.created? = none :=
  ⟨h.quiet.harmless, h.quiet.2.1⟩

theorem Requires.withdrawn (hr : Requires a mapOnly f r f') :
    Withdrawn f.host f.driver f'.host f'.driver := by
  cases hr with
  | shared hc => exact .refl _ _
  | @created c h₁ h₂ hn ha hl =>
    obtain ⟨es, hevents, hes⟩ := ha.events
    have hnew : Withdrawn f.host f.driver (h₁.hold c)
        { f.driver with state := some (.context c) } := by
      refine ⟨es, hevents, hes.harmless, ?_⟩
      rw [hes.created_eq, Host.hold, ha.held]
      exact .context hn
    exact hnew.appends hl fun _ he => he.withdrawn
  | @failed h₁ h₂ hn ha hl =>
    obtain ⟨es, hevents, hes⟩ := ha.events
    have hnone : Withdrawn f.host f.driver h₁ f.driver := by
      refine ⟨es, hevents, hes.harmless, ?_⟩
      rw [hes.created_eq, ha.held]
      exact .nothing
    exact hnone.appends hl fun _ he => he.withdrawn

/-- An operation on a buffer without a handle that fails leaves no handle behind. While inodes can be
found out, it does not come to one. -/
theorem Effect.withdraws {demand : Option Bool} {e : Error} (h : Effect a f demand (some e) f')
    (hi : f.buffer.import? = none) (hn : Unfailing f.host.answers.inspections) :
    Withdrawn f.host f.driver f'.host f'.driver := by
  cases h with
  | idle h =>
    rw [h.driver]
    exact (Withdrawn.refl _ _).appends h.host fun _ he => he.withdrawn
  | failed h => exact h.withdrawn
  | worked h =>
    obtain ⟨f₁, hr, hs⟩ := h
    have hnone : f₁.buffer.import? = none := by
      rw [hr.buffer]
      exact hi
    rw [hnone] at hs
    rw [hs.driver]
    exact hr.withdrawn.appends hs.host fun _ he => ⟨he.harmless, he.on.created⟩
  | withdrawn _ _ hc => cases hn _ hc

end

namespace Allocator

variable (a : Allocator) {f : Focus}

theorem createBuffer_withdraws (width height : UInt32) (format : Format) (flags : UseFlags)
    (hn : Unfailing f.host.answers.inspections) :
    Yields ((backend a).createBuffer width height format flags) f (fun _ _ => True)
      (fun _ f' => Withdrawn f.host f.driver f'.host f'.driver) := by
  apply (createBuffer_effect a width height format flags f).imp_error
  intro e f' h
  rcases h with ⟨-, rfl⟩ | ⟨m, -, h⟩
  · exact .refl _ _
  · exact h.withdraws rfl hn

theorem wrapBuffer_withdraws (data : ImportData) (described : Except Error Metadata)
    (hn : Unfailing f.host.answers.inspections) :
    Yields ((backend a).wrapBuffer data described) f (fun _ _ => True)
      (fun _ f' => Withdrawn f.host f.driver f'.host f'.driver) := by
  apply (wrapBuffer_effect a data described f).imp_error
  intro e f' h
  rcases h with ⟨-, rfl⟩ | ⟨m, -, h⟩
  · exact .refl _ _
  · exact h.withdraws rfl hn

/-- A buffer that holds something is refused before anything is looked at. -/
theorem importData_occupied (data : ImportData) (h : f.buffer.state.isSome) :
    importData a data f = .error bufferNotEmpty
      { f with host := f.host.log .error "bo_import: bo isn't empty" } := by
  unfold importData
  rw [bind_get, if_pos h]
  rfl

end Allocator

/-! ### Sessions -/

/-- The driver that is to make a new buffer. -/
def Operation.maker? : Operation → Option Nat
  | .create driver .. | .importBuffer driver .. => some driver
  | _ => none

namespace Session

/-- All is as it was, but for what a failed call leaves of the driver. -/
structure Undone (s : Session) (driver : Nat) (t : Session) : Prop where
  allocator : t.allocator = s.allocator
  buffers : t.buffers = s.buffers
  mappings : t.mappings = s.mappings
  contexts : t.contexts = s.contexts
  descriptors : t.descriptors = s.descriptors
  others : ∀ n, n ≠ driver → t.drivers.get? n = s.drivers.get? n
  driver : ∃ d d', s.drivers.get? driver = some d ∧ t.drivers.get? driver = some d' ∧
    Withdrawn s.host d t.host d'

/-- If the operation fails, it is undone. -/
def Undoes (s : Session) (driver : Nat) (r : Session × Answer) : Prop :=
  ∀ e, r.2 = .failed e → s.Undone driver r.1

variable {s : Session} {driver buffer : Nat} {d : Driver}

theorem makeBuffer_undoes {act : FocusM Unit} (hd : s.drivers.get? driver = some d)
    (h : Yields act { host := s.host, driver := d } (fun _ _ => True)
      (fun _ f => Withdrawn s.host d f.host f.driver)) :
    s.Undoes driver (s.makeBuffer driver buffer d act) := by
  unfold makeBuffer
  cases hr : act { host := s.host, driver := d } with
  | ok _ f => exact nofun
  | error e f =>
    have hw := h.of_error hr
    exact fun _ _ => ⟨rfl, rfl, rfl, rfl, rfl, fun n hn => Slots.get?_put_other _ _ hn,
      d, f.driver, hd, Slots.get?_put_self _ _ _, hw⟩

theorem step_undoes {op : Operation} (hop : op.maker? = some driver)
    (hn : Unfailing s.host.answers.inspections) : s.Undoes driver (s.step op) := by
  cases op with
  | create k buffer r =>
    cases hop
    exact onDriver_result nofun fun d hd =>
      makeBuffer_undoes hd (Allocator.createBuffer_withdraws s.allocator _ _ _ _ hn)
  | importBuffer k buffer slots data =>
    cases hop
    exact onDriver_result nofun fun d hd => onDescriptors_result nofun fun ds _ =>
      importBuffer_result (fun _ => nofun) fun described _ =>
        makeBuffer_undoes hd (Allocator.wrapBuffer_withdraws s.allocator _ described hn)
  | _ => cases hop

/-- An import into a buffer that fails leaves it as it was; one into a buffer that holds something
fails before anything else is looked at. Where a new buffer cannot be made, all is as before, but
that the driver keeps a context which it created meanwhile, if it had none. All this holds where the
process runs out of descriptors, too, while the inodes of those that it has can be found out. -/
theorem failure_atomic (s : Session) :
    (∀ data f e f', Unfailing f.host.answers.inspections →
      s.backend.importData data f = .error e f' → f'.buffer = f.buffer) ∧
    (∀ data f, f.buffer.state.isSome →
      s.backend.importData data f = .error Allocator.bufferNotEmpty
        { f with host := f.host.log .error "bo_import: bo isn't empty" }) ∧
    (Unfailing s.host.answers.inspections → ∀ op driver e, op.maker? = some driver →
      (s.step op).2 = .failed e → s.Undone driver (s.step op).1) :=
  ⟨fun data f _ _ hn h => (Allocator.importData_ends s.allocator data f).of_error h hn,
    fun data _ h => Allocator.importData_occupied s.allocator data h,
    fun hn _ _ e hop he => step_undoes hop hn e he⟩

/-- One driver, under the given answers of its surroundings. -/
def answering (answers : Answers) : Session :=
  (start ⟨.supplied, .linked⟩ { supported := [.r8], answers }).1

def createToMap : Operation := .create 0 0 ⟨64, 4, .r8, .softwareReadOften⟩

/-- The library will refuse the first handle. -/
def refusedImport : Session := answering { imports := [false] }

/-- The process has no descriptor left. -/
def exhausted : Session := answering { duplicates := [some 24] }

/-- A buffer with a client's own value, and an import that lacks a descriptor besides. -/
def occupied : Focus := { host := {}, buffer := { state := some (.foreign 7) } }

def nothingGiven : ImportData := ⟨[], .zero, .zero, 0, 64, 4, .r8, .softwareReadOften⟩

theorem failure_atomic_of_refused :
    (refusedImport.step createToMap).2 = .failed .importRefused ∧
    refusedImport.Undone 0 (refusedImport.step createToMap).1 ∧
    (refusedImport.step createToMap).1.contextOf 0 = some ⟨⟨.linked, 1⟩, 1⟩ ∧
    (exhausted.step createToMap).2 = .failed (.io (.numbered 24)) ∧
    exhausted.Undone 0 (exhausted.step createToMap).1 ∧
    ∃ f, refusedImport.backend.importData nothingGiven occupied =
        .error Allocator.bufferNotEmpty f ∧ f.buffer = occupied.buffer := by
  obtain ⟨hkept, hoccupied, hundone⟩ := failure_atomic refusedImport
  obtain ⟨-, -, hundone'⟩ := failure_atomic exhausted
  have hrefused : (refusedImport.step createToMap).2 = .failed .importRefused := by
    decide +kernel
  have hout : (exhausted.step createToMap).2 = .failed (.io (.numbered 24)) := by decide +kernel
  have himport := hoccupied nothingGiven occupied rfl
  exact ⟨hrefused, hundone (by decide +kernel) createToMap 0 _ rfl hrefused, by decide +kernel,
    hout, hundone' (by decide +kernel) createToMap 0 _ rfl hout, _, himport,
    hkept _ _ _ _ (by decide +kernel) himport⟩

end Session

end GraphicsBuffers
