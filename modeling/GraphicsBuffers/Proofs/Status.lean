import GraphicsBuffers.Proofs.Atomicity
import GraphicsBuffers.Proofs.Negative

/-!
The statuses that a client's operations fail under. The vendor library's own code for a refused
allocation is passed on as it is; all else has a negative one, as long as the numbers of the system
are positive.
-/

namespace GraphicsBuffers

/-! ### Refused memory -/

/-- The failure has a positive code, with which the library answered a request for memory since. -/
def Refused (h h' : Host) (e : Error) : Prop :=
  ∃ es request answer, h'.events = h.events ++ es ∧
    (request, answer) ∈ answered h.answers.allocs (asked es) ∧ 0 < answer.status ∧
      e = .component answer.status

section

variable {h h' h'' : Host} {es : List Event} {e : Error}

theorem Refused.after (ht : Takes h es h') (hr : Refused h' h'' e) : Refused h h'' e := by
  obtain ⟨es', request, answer, hevents, hm, hstatus⟩ := hr
  refine ⟨es ++ es', request, answer, ?_, ht.answered_right hm, hstatus⟩
  rw [hevents, ht.events, List.append_assoc]

theorem Refused.log (hr : Refused h h' e) (level : LogLevel) (text : String) :
    Refused h (h'.log level text) e := by
  obtain ⟨es, request, answer, hevents, hm, hstatus⟩ := hr
  refine ⟨es ++ [.log level text], request, answer, ?_, answered_left hm _, hstatus⟩
  simp [Host.log, hevents]

end

namespace Allocator

theorem alloc_refuses (library : Library) (device : Nat) (request : AllocRequest) (h : Host) :
    Yields (Vendor.alloc library device request) h (fun _ _ => True)
      (fun e h' => e.IsNegative ∨ Refused h h' e) := by
  unfold Vendor.alloc
  simp only [yields_bind, yields_ofExcept, HostM.record, yields_modify, yields_get]
  refine ⟨fun _ _ => ⟨fun _ _ => ?_, fun e he => Or.inl (signed_negative _ e he)⟩,
    fun e he => Or.inl (signed_negative _ e he)⟩
  generalize hanswer : (h.record (.alloc library device request)).answers.allocs.headD {} = answer
  split
  · rename_i hstatus
    rw [yields_throw]
    by_cases hn : answer.status < 0
    · exact Or.inl hn
    · refine Or.inr ⟨[.call (.alloc library device request)], request, answer, rfl, ?_, ?_, rfl⟩
      · rw [← hanswer]
        exact List.mem_singleton.mpr rfl
      · grind
  split
  · exact trivial
  · exact Or.inl (by decide : Vendor.noDescriptor.IsNegative)

theorem allocPlanned_refuses (c : Context) (plan : Plan) (h : Host) :
    Yields (allocPlanned c plan) h (fun _ _ => True)
      (fun e h' => e.IsNegative ∨ Refused h h' e) := by
  unfold allocPlanned allocOrFallBack
  rw [yields_explain, yields_bind, yields_attempt]
  apply ((alloc_refuses c.library c.device plan.request h).and
    (alloc_takes c.library c.device plan.request h)).imp_error
  rintro e h₁ ⟨hr, es, ht⟩
  dsimp only
  split
  · exact hr.imp_right fun hr => hr.log _ _
  rw [yields_bind]
  apply (alloc_refuses c.library c.device { plan.request with scanout := false } _).imp_error
  exact fun _ h₂ hr' => hr'.imp_right fun hr' => (hr'.after (ht.log _ _)).log _ _

variable (a : Allocator) (c : Context) (flags : UseFlags) (data : ImportData)

theorem allocateMemory_refuses (f : Focus) :
    Yields (allocateMemory c flags) f (fun _ _ => True)
      (fun e f' => e.IsNegative ∨ Refused f.host f'.host e) := by
  unfold allocateMemory
  simp only [yields_bind, yields_get, yields_ofExcept]
  refine ⟨?_, fun e he => Or.inl (Plan.draw_negative _ _ _ e he)⟩
  rintro ⟨plan, notes⟩ -
  apply (notes_append (p := Event.IsLog) (fun _ _ => trivial) notes f).imp
  · rintro _ _ ⟨h, rfl, hlogs⟩
    simp only [yields_onHost]
    obtain ⟨es, ht, -⟩ := Idles.of_appends (fun _ he => he.aside) hlogs
    apply (allocPlanned_refuses c plan h).imp
    · intro al h₁ _
      have hlay : FailsNegative (recordLayout plan al f.buffer.metadata.format) := by
        unfold recordLayout
        split
        · exact (FailsNegative.modify _).bind fun _ => .modify _
        · exact (FailsNegative.onMetadata (Metadata.layOut_negative _ _ _)).bind fun _ => .modify _
      exact (hlay _).imp_error fun _ _ he => Or.inl he
    · exact fun _ h₁ hr => hr.imp_right fun hr => hr.after ht
  · exact fun _ _ h => h.elim

theorem requireContext_negative (mapOnly : Bool) : FailsNegative (requireContext a mapOnly) := by
  intro f
  apply (requireContext_requires a mapOnly f).imp_error
  rintro _ _ ⟨rfl, -⟩
  exact Error.negative_of_own rfl

theorem importOn_negative (d : Descriptor) (stride : UInt32) (modifier : UInt64)
    (refused : String) : FailsNegative (importOn c d stride modifier refused) := by
  refine FailsNegative.get.bind fun f => ?_
  refine (FailsNegative.ofExcept (geometry_negative _ _)).bind fun size => ?_
  dsimp only
  refine (FailsNegative.set _).bind fun _ => ?_
  split
  · exact .pure _
  · exact (FailsNegative.logged _ _).bind fun _ => .throw rfl

theorem importAllocated_negative (al : Vendor.Allocation) :
    FailsNegative (importAllocated c flags al) := by
  unfold importAllocated
  split
  · exact FailsNegative.get.bind fun _ => (importOn_negative c _ _ _ _).map _
  · exact .pure none

theorem importForMapping_negative : FailsNegative (importForMapping a data) := by
  unfold importForMapping
  split
  · refine (requireContext_negative a true).bind fun c => ?_
    split
    · exact .throw rfl
    · exact (importOn_negative c _ _ _ _).map _
  · exact .pure none

section

variable {f : Focus} (hp : f.host.answers.Positive)

include hp

theorem settle_negative (k : Backing) :
    Yields (settle k) f (fun _ _ => True) (fun e _ => e.IsNegative) := by
  apply (settle_yields k f).imp_error
  rintro _ _ ⟨n, inodes, code, rfl, -, hfault⟩
  exact hp.inspection_negative (mem_of_faultWithin hfault)

/-- Once there is memory, no code of the library is in the way. -/
theorem attachAllocated_negative (al : Vendor.Allocation) :
    Yields (attachAllocated c flags al) f (fun _ _ => True) (fun e _ => e.IsNegative) := by
  unfold attachAllocated
  rw [yields_bind]
  apply (copyPlanes_yields al.descriptor f).imp
  · rintro _ _ ⟨rfl, rfl, -⟩
    rw [yields_bind]
    apply ((importAllocated_negative c flags al _).and (importAllocated_handle c flags al _)).imp
    · rintro i f₁ ⟨-, -, hretains⟩
      exact settle_negative (hp.of_follows ((f.copied_retains _).trans hretains).system) _
    · exact fun _ _ h => h.1
  · rintro _ _ ⟨n, code, rfl, -, hfault⟩
    exact hp.duplicate_negative (mem_of_faultWithin hfault)

theorem create_refuses :
    Yields (create a flags) f (fun _ _ => True)
      (fun e f' => e.IsNegative ∨ Refused f.host f'.host e) := by
  unfold create
  rw [yields_bind]
  apply ((requireContext_negative a false f).and (requireContext_idles a false f)).imp
  · rintro c f₁ ⟨-, ⟨es, ht, -⟩, -⟩
    rw [allocateOn_eq, yields_bind]
    apply ((allocateMemory_refuses c flags f₁).and (allocateMemory_stays c flags f₁)).imp
    · rintro al f₂ ⟨-, hstays⟩
      exact (attachAllocated_negative c flags
        (hp.of_follows (ht.system.trans hstays.host.system)) al).imp_error fun _ _ he => Or.inl he
    · exact fun _ f₂ h => h.1.imp_right fun hr => hr.after ht
  · exact fun _ _ h => Or.inl h.1

theorem importData_negative :
    Yields (importData a data) f (fun _ _ => True) (fun e _ => e.IsNegative) := by
  unfold importData
  simp only [yields_bind, yields_get]
  split
  · exact Error.negative_of_own rfl
  split
  · exact Error.negative_of_own rfl
  rename_i hcount
  rw [yields_bind]
  apply (takeDescriptors_yields (Nat.le_of_not_lt hcount)).imp
  · rintro _ _ ⟨rfl, rfl, -⟩
    rw [yields_bind]
    apply ((importForMapping_negative a data _).and (importForMapping_handle a data _)).imp
    · rintro i f₁ ⟨-, -, hretains⟩
      exact settle_negative (hp.of_follows ((f.copied_retains _).trans hretains).system) _
    · exact fun _ _ h => h.1
  · rintro _ _ ⟨n, code, rfl, -, hfault⟩
    exact hp.duplicate_negative (mem_of_faultWithin hfault)

theorem createBuffer_refuses (width height : UInt32) (format : Format) :
    Yields ((backend a).createBuffer width height format flags) f (fun _ _ => True)
      (fun e f' => e.IsNegative ∨ Refused f.host f'.host e) := by
  unfold Backend.createBuffer
  simp only [yields_bind, yields_ofExcept, yields_modify]
  exact ⟨fun m _ => create_refuses a flags (f := onNew m f) hp,
    fun e he => Or.inl (Metadata.unplaced_negative _ _ _ _ e he)⟩

theorem wrapBuffer_negative {described : Except Error Metadata} (hd : OnlyNegative described) :
    Yields ((backend a).wrapBuffer data described) f (fun _ _ => True)
      (fun e _ => e.IsNegative) := by
  unfold Backend.wrapBuffer
  simp only [yields_bind, yields_ofExcept, yields_modify]
  exact ⟨fun m _ => importData_negative a data (f := onNew m f) hp, hd⟩

end

theorem planeDescriptor_negative {h : Host} (hp : h.answers.Positive) (b : Buffer) (plane : Nat) :
    Yields (planeDescriptor b plane) h (fun _ _ => True) (fun e _ => e.IsNegative) := by
  unfold planeDescriptor
  cases b.backing? with
  | none => exact Error.negative_of_own rfl
  | some k =>
    dsimp only
    cases k.descriptors[plane]? with
    | none => exact Error.negative_of_own rfl
    | some d =>
      apply (duplicate_yields d h).imp_error
      rintro _ _ ⟨code, rfl, -, hcode⟩
      exact hp.duplicate_negative (mem_of_headD hcode)

theorem bufferPlane_negative {h : Host} (hp : h.answers.Positive) (b : Buffer) (plane : Nat) :
    Yields ((backend a).bufferPlane b plane) h (fun _ _ => True) (fun e _ => e.IsNegative) := by
  unfold Backend.bufferPlane
  split
  · exact Error.negative_of_own rfl
  · exact planeDescriptor_negative hp b plane

theorem mappable_negative (complaint : String) : FailsNegative (mappable complaint) := by
  refine FailsNegative.get.bind fun f => ?_
  split
  · exact .throw rfl
  · split
    · exact .pure _
    · exact (FailsNegative.logged _ _).bind fun _ => .throw rfl

theorem mapBuffer_negative (flags : MapFlags) : FailsNegative ((backend a).mapBuffer flags) := by
  refine FailsNegative.bind ?_ fun _ => (FailsNegative.logged _ _).bind fun _ => .pure _
  refine (requireContext_negative a true).bind fun _ => (mappable_negative _).bind fun i => ?_
  refine FailsNegative.get.bind fun f => ?_
  refine (FailsNegative.ofExcept (geometry_negative _ _)).bind fun size => ?_
  exact (FailsNegative.onHost (Vendor.map_negative _ _ _ _)).bind fun _ => .pure _

theorem unmapBuffer_negative (m : Mapping) : FailsNegative ((backend a).unmapBuffer m) := by
  refine FailsNegative.bind ?_ fun _ => .pure _
  refine (requireContext_negative a true).bind fun _ => (mappable_negative _).bind fun i => ?_
  split
  · exact (FailsNegative.logged _ _).bind fun _ => .throw rfl
  · exact (FailsNegative.modify _).bind fun _ => .pure _

theorem Settings.build_negative (settings : Settings) : OnlyNegative settings.build := by
  unfold build
  split
  · exact .own rfl
  · split
    · exact .own rfl
    · exact .ok _

/-- Why there is no context is told as it is to whoever asks for the context itself. -/
theorem createContext_relays (mapOnly : Bool) {h : Host} (hp : h.answers.Positive) :
    Yields (createContext a mapOnly) h (fun _ _ => True)
      (fun e _ => e.IsNegative ∨ Discovery.Relays a.nodes h e) := by
  unfold createContext
  rw [yields_bind]
  apply (Discovery.findNodes_relays a.nodes mapOnly hp).imp
  · intro nodes h₁ _
    refine Yields.imp_error ((?_ : FailsNegative _) h₁) fun _ _ he => Or.inl he
    refine (Vendor.load_negative _).bind fun library => FailsNegative.get.bind fun h₂ => ?_
    dsimp only
    refine (FailsNegative.set _).bind fun _ => ?_
    split
    · exact .pure _
    · exact (FailsNegative.log _ _).bind fun _ => (FailsNegative.record _).bind fun _ =>
        .throw rfl
  · exact fun _ _ h => h

theorem context_relays (mapOnly : Bool) {f : Focus} (hp : f.host.answers.Positive) :
    Yields (context a mapOnly) f (fun _ _ => True)
      (fun e _ => e.IsNegative ∨ Discovery.Relays a.nodes f.host e) := by
  unfold context
  rw [yields_bind, yields_get]
  split
  · exact trivial
  · rw [yields_bind, yields_onHost]
    apply (createContext_relays a mapOnly hp).imp_error
    exact fun _ _ h => h

end Allocator

/-! ### Sessions -/

namespace Session

/-- The system fails under positive numbers only, whatever it is asked. -/
structure Positive (s : Session) : Prop where
  answers : s.host.answers.Positive
  descriptors : ∀ n d, s.descriptors.get? n = some d → d.Positive

/-- What is reported to a client has a negative status, or is the library's code for a refused
allocation. Who asks for a context may be told the failure of a supplied search. -/
def Reports (s : Session) (asks : Bool) (r : Session × Answer) : Prop :=
  ∀ e, r.2.error? = some e → e.IsNegative ∨ Refused s.host r.1.host e ∨
    (asks = true ∧ Discovery.Relays s.allocator.nodes s.host e)

variable {s : Session} {asks : Bool} {driver buffer mapping : Nat} {d : Driver} {b : Buffer}

theorem Reports.silent {r : Session × Answer} (h : r.2.error? = none) : s.Reports asks r := by
  intro e he
  rw [h] at he
  cases he

theorem Reports.negative {t : Session} {e : Error} (h : e.IsNegative) :
    s.Reports asks (t, .failed e) := by
  intro _ he
  cases he
  exact Or.inl h

theorem makeBuffer_reports {act : FocusM Unit}
    (h : Yields act { host := s.host, driver := d } (fun _ _ => True)
      (fun e f => e.IsNegative ∨ Refused s.host f.host e)) :
    s.Reports asks (s.makeBuffer driver buffer d act) := by
  unfold makeBuffer
  cases hr : act { host := s.host, driver := d } with
  | ok _ f => exact .silent rfl
  | error e f =>
    intro _ he
    cases he
    exact (h.of_error hr).imp_right Or.inl

theorem changeBuffer_reports {act : FocusM Unit}
    (h : Yields act ⟨s.host, d, b⟩ (fun _ _ => True)
      (fun e f => e.IsNegative ∨ Refused s.host f.host e)) :
    s.Reports asks (s.changeBuffer driver buffer d b act) := by
  unfold changeBuffer
  cases hr : act ⟨s.host, d, b⟩ with
  | ok _ f => exact .silent rfl
  | error e f =>
    intro _ he
    cases he
    exact (h.of_error hr).imp_right Or.inl

theorem exportPlane_reports {act : HostM Descriptor}
    (h : Yields act s.host (fun _ _ => True) (fun e _ => e.IsNegative)) :
    s.Reports asks (s.exportPlane act) := by
  unfold exportPlane
  cases hr : act s.host with
  | ok d host => exact .silent rfl
  | error e host => exact .negative (h.of_error hr)

theorem mapBuffer_reports (flags : MapFlags) :
    s.Reports asks (s.mapBuffer driver buffer mapping flags d b) := by
  have h := Allocator.mapBuffer_negative s.allocator flags ⟨s.host, d, b⟩
  unfold mapBuffer backend
  cases hr : (Allocator.backend s.allocator).mapBuffer flags ⟨s.host, d, b⟩ with
  | ok m f => exact .silent rfl
  | error e f => exact .negative (h.of_error hr)

theorem unmapBuffer_reports (m : Mapping) :
    s.Reports asks (s.unmapBuffer driver buffer mapping d b m) := by
  have h := Allocator.unmapBuffer_negative s.allocator m ⟨s.host, d, b⟩
  unfold unmapBuffer backend
  cases hr : (Allocator.backend s.allocator).unmapBuffer m ⟨s.host, d, b⟩ with
  | ok m f => exact .silent rfl
  | error e f =>
    intro _ he
    cases he
    exact Or.inl (h.of_error hr)

theorem takeContext_reports (hp : s.host.answers.Positive) (mapOnly : Bool) (slot : Option Nat)
    (format : Format) : s.Reports true (s.takeContext driver mapOnly slot format d) := by
  have h := Allocator.context_relays s.allocator mapOnly (f := ⟨s.host, d, {}⟩) hp
  unfold takeContext
  cases hr : Allocator.context s.allocator mapOnly ⟨s.host, d, {}⟩ with
  | ok c f => cases slot <;> exact .silent rfl
  | error e f =>
    intro _ he
    cases he
    exact (h.of_error hr).imp_right fun h => Or.inr ⟨rfl, h⟩

/-- What is read from slots was stored there. -/
theorem Positive.of_slots (hs : s.Positive) {slots : List Nat} {ds : List Descriptor}
    (hds : slots.mapM s.descriptors.get? = some ds) : ∀ d ∈ ds, d.Positive := by
  induction slots generalizing ds with
  | nil =>
    cases hds
    exact nofun
  | cons slot rest ih =>
    rw [List.mapM_cons] at hds
    obtain ⟨d, hd, hds⟩ := Option.bind_eq_some_iff.mp hds
    obtain ⟨ds', hds', hds⟩ := Option.bind_eq_some_iff.mp hds
    cases hds
    exact List.forall_mem_cons.mpr ⟨hs.descriptors slot d hd, ih hds'⟩

theorem step_reports (hs : s.Positive) (op : Operation) :
    s.Reports op.asksForContext (s.step op) := by
  cases op with
  | create driver buffer r =>
    exact onDriver_result (.silent rfl) fun d _ =>
      makeBuffer_reports (Allocator.createBuffer_refuses s.allocator r.useFlags hs.answers _ _ _)
  | importBuffer driver buffer slots data =>
    refine onDriver_result (.silent rfl) fun d _ => onDescriptors_result (.silent rfl)
      fun ds hds => importBuffer_result (fun _ => .silent rfl) fun described hd => ?_
    have hdescribed : OnlyNegative described := ImportData.metadata_negative (hs.of_slots hds) hd
    exact makeBuffer_reports ((Allocator.wrapBuffer_negative s.allocator _ hs.answers
      hdescribed).imp (fun _ _ h => h) fun _ _ h => Or.inl h)
  | backendCreate driver buffer r =>
    exact onDriver_result (.silent rfl) fun d _ => onBuffer_result (.silent rfl) fun b _ =>
      changeBuffer_reports (Allocator.create_refuses s.allocator r.useFlags hs.answers)
  | backendImport driver buffer slots data =>
    exact onDriver_result (.silent rfl) fun d _ => onDescriptors_result (.silent rfl) fun ds _ =>
      onBuffer_result (.silent rfl) fun b _ =>
        changeBuffer_reports ((Allocator.importData_negative s.allocator _ hs.answers).imp
          (fun _ _ h => h) fun _ _ h => Or.inl h)
  | plane driver buffer plane =>
    exact onDriver_result (.silent rfl) fun _ _ => onBuffer_result (.silent rfl) fun b _ =>
      exportPlane_reports (Allocator.bufferPlane_negative s.allocator hs.answers b plane)
  | backendPlane buffer plane =>
    exact onBuffer_result (.silent rfl) fun b _ =>
      exportPlane_reports (Allocator.planeDescriptor_negative hs.answers b plane)
  | map driver buffer mapping flags =>
    exact onDriver_result (.silent rfl) fun d _ => onBuffer_result (.silent rfl) fun b _ =>
      mapBuffer_reports flags
  | unmap driver buffer mapping =>
    exact onDriver_result (.silent rfl) fun d _ => onBuffer_result (.silent rfl) fun b _ =>
      onMapping_result (.silent rfl) fun m _ => unmapBuffer_reports m
  | context driver mapOnly slot format =>
    exact onDriver_result (.silent rfl) fun d _ =>
      takeContext_reports hs.answers mapOnly slot format
  | openDriver driver =>
    exact .silent rfl
  | script | setNodes | makeMemory | makeStream | dropDriver | dropBuffer | releaseContext =>
    exact .silent rfl
  | defaultBuffer => exact .silent rfl
  | inspectBuffer | editMetadata | attachForeign | detachBuffer | hasBacking | backendDestroy =>
    exact onBuffer_result (.silent rfl) fun _ _ => .silent rfl
  | setToken | inspectMapping => exact onMapping_result (.silent rfl) fun _ _ => .silent rfl
  | destroy =>
    exact onDriver_result (.silent rfl) fun _ _ => onBuffer_result (.silent rfl) fun _ _ =>
      .silent rfl
  | close | name | resolve | attachForeignToDriver | detachDriver | combinations | best =>
    exact onDriver_result (.silent rfl) fun _ _ => .silent rfl
  | addCombination | addCombinations | widen | widenLinear =>
    exact onDriver_result (.silent rfl) fun _ _ => .silent rfl

/-- Every failure has a negative status, as long as the numbers of the system are positive, but for
the library's own positive code in answer to a request for memory. -/
theorem failure_status (hs : s.Positive) :
    (∀ op, s.Reports op.asksForContext (s.step op)) ∧
    (∀ settings : Allocator.Settings, OnlyNegative settings.build) ∧
    (∀ source, FailsNegative (Vendor.load source)) ∧
    (∀ c stop, FailsNegative (Discovery.findDevices c stop)) ∧
    (∀ displayless, FailsNegative (Discovery.findGpu displayless)) ∧
    FailsNegative Discovery.findDisplayCard ∧
    (∀ displayless mapOnly, Yields (Discovery.findNodes (.directory displayless) mapOnly) s.host
      (fun _ _ => True) (fun e _ => e.IsNegative)) ∧
    (∀ format stride height, FailsNegative (Metadata.layOut format stride height)) ∧
    (∀ format width, OnlyNegative (Metadata.strideFromWidth format width)) ∧
    (∀ format : Format, OnlyNegative format.planes) ∧
    (∀ m flags supported, OnlyNegative (planAllocation m flags supported)) ∧
    (∀ value align, OnlyNegative (align32 value align)) ∧
    (∀ value align, OnlyNegative (align64 value align)) ∧
    (∀ range sign x y, OnlyNegative (checked range sign x y)) :=
  ⟨step_reports hs, Allocator.Settings.build_negative, Vendor.load_negative,
    Discovery.findDevices_negative, Discovery.findGpu_negative,
    Discovery.findDisplayCard_negative,
    fun displayless mapOnly => Discovery.findNodes_negative displayless mapOnly hs.answers,
    Metadata.layOut_negative, Metadata.strideFromWidth_negative, Format.planes_negative,
    planAllocation_negative, roundUp_negative, roundUp_negative, checked_negative⟩

theorem failure_status_of_exhausted : exhausted.Positive ∧
    ∃ e, (exhausted.step createToMap).2 = .failed e ∧ e.IsNegative := by
  have hs : exhausted.Positive := by
    refine ⟨⟨fun code hc => ?_, nofun⟩, nofun⟩
    obtain rfl : code = 24 := Option.some.inj (List.mem_singleton.mp hc)
    decide
  have hfails : (exhausted.step createToMap).2 = .failed (.io (.numbered 24)) := by decide +kernel
  refine ⟨hs, _, hfails, ?_⟩
  rcases (failure_status hs).1 createToMap _ (congrArg Answer.error? hfails) with h | h | ⟨h, -⟩
  · exact h
  · obtain ⟨_, _, _, _, _, _, he⟩ := h
    cases he
  · cases h

/-- One driver, whose library will refuse memory twice, under a code of its own. -/
def refusedMemory : Session := answering { allocs := [{ status := 5 }, { status := 5 }] }

/-- The status of a failure may be positive: the library's code is not looked at. -/
theorem create_status_positive : Reachable refusedMemory ∧
    (refusedMemory.step createToMap).2 = .failed (.component 5) ∧
    ¬(Error.component 5).IsNegative :=
  ⟨.start ⟨.supplied, .linked⟩ rfl rfl, by decide +kernel, by decide⟩

end Session

end GraphicsBuffers
