import GraphicsBuffers.Proofs.Release
import GraphicsBuffers.Session.Run

/-!
Which operations demand a context of which driver, and what they do to come by it.
-/

namespace GraphicsBuffers

/-! ### What is added to the events -/

/-- Nothing is searched, loaded or created, and what is allocated or imported is so on the context's
device. -/
def Event.On (c : Context) : Event → Prop
  | .log .. => True
  | .call (.free ..) | .call (.destroyDevice ..) | .call (.unload _) => True
  | .call (.map ..) | .call (.unmap ..) => True
  | .call (.alloc library device _) => (⟨library, device⟩ : Context) = c
  | .call (.importBuffer library device _ _) => (⟨library, device⟩ : Context) = c
  | .call _ => False

theorem Event.IsRelease.on {c : Context} {e : Event} (h : e.IsRelease) : e.On c := by
  unfold IsRelease at h
  split at h
  all_goals first | exact h.elim | exact trivial

theorem Event.Concerns.on {c : Context} {o : Option Import} {e : Event} (h : e.Concerns c o) :
    e.On c := by
  unfold Concerns at h
  split at h
  all_goals first | exact h.elim | exact h | exact trivial

/-! ### How an operation comes by a context -/

/-- The context of a driver before and after an operation that demands one, and the host after it.
A context that is there is used; otherwise an attempt is made to create one, maybe once descriptors
have been duplicated, and either nothing else is done or everything that follows is on the new
device. -/
inductive Draws (a : Allocator) (mapOnly : Bool) (h : Host) :
    Option Context → Option Context → Host → Prop
  | shared {c : Context} {h' : Host} (hu : Extends (Event.On c) h h') :
      Draws a mapOnly h (some c) (some c) h'
  | created {n : Nat} {c : Context} {h₁ h' : Host}
      (ha : Attempted a mapOnly (h.copied n) h₁ (some c)) (hu : Extends (Event.On c) h₁ h') :
      Draws a mapOnly h none (some c) h'
  | failed {n : Nat} {h₁ h' : Host} (ha : Attempted a mapOnly (h.copied n) h₁ none)
      (hl : Extends Event.IsLog h₁ h') : Draws a mapOnly h none none h'

theorem Draws.extend {a : Allocator} {mapOnly : Bool} {h h' h'' : Host} {before : Option Context}
    {c : Context} (hd : Draws a mapOnly h before (some c) h') (hu : Extends (Event.On c) h' h'') :
    Draws a mapOnly h before (some c) h'' := by
  cases hd with
  | shared hu' => exact .shared (hu'.trans hu)
  | created ha hu' => exact .created ha (hu'.trans hu)

section

variable {a : Allocator} {mapOnly : Bool} {f f' : Focus} {c : Context} {r : Option Context}

theorem Requires.draws {n : Nat} (h : Requires a mapOnly (f.copied n) r f') :
    Draws a mapOnly f.host f.driver.context? f'.driver.context? f'.host := by
  cases h with
  | shared hc =>
    have hc : f.driver.context? = some _ := hc
    have hcopied : (f.copied n).driver.context? = f.driver.context? := rfl
    rw [hcopied, hc]
    exact .shared (.of_appends (.copied f.host n))
  | created hn ha hl =>
    have hn : f.driver.context? = none := hn
    rw [hn]
    exact .created ha ((Extends.of_appends hl).mono fun _ he => he.isRelease.on)
  | failed hn ha hl =>
    have hn : f.driver.context? = none := hn
    change Draws a mapOnly f.host f.driver.context? f.driver.context? _
    rw [hn]
    exact .failed ha (.of_appends hl)

theorem Works.draws {n : Nat} (h : Works a mapOnly (f.copied n) c f') :
    f'.driver.context? = some c ∧
      Draws a mapOnly f.host f.driver.context? (some c) f'.host := by
  obtain ⟨f₁, hr, hs⟩ := h
  have hd := hr.draws
  rw [hr.context] at hd
  refine ⟨by rw [hs.driver]; exact hr.context, ?_⟩
  exact hd.extend ((Extends.of_appends hs.host).mono fun _ he => he.on)

theorem Obtains.draws {n : Nat} {f₁ f₂ : Focus} {o : Option Import}
    (h : Works a mapOnly (f.copied n) c f₁) (ho : Obtains c f₁ o f₂) :
    f₂.driver.context? = some c ∧
      Draws a mapOnly f.host f.driver.context? (some c) f₂.host := by
  obtain ⟨hc, hd⟩ := h.draws
  cases ho with
  | nothing hs =>
    rw [hs.driver]
    exact ⟨hc, hd.extend ((Extends.of_appends hs.host).mono fun _ he => he.isRelease.on)⟩
  | handle request number driver _ _ _ _ events =>
    rw [driver]
    exact ⟨hc, hd.extend ⟨_, events, by simp [Event.On]⟩⟩

/-- An operation that demands a context and fails for the lack of one leaves all but the host. -/
theorem Effect.draws {e : Option Error} (h : Effect a f (some mapOnly) e f') :
    Draws a mapOnly f.host f.driver.context? f'.driver.context? f'.host ∧
      (f'.driver.context? = none →
        e = some Allocator.contextFailed ∧ f'.driver = f.driver ∧ f'.buffer = f.buffer) := by
  cases h with
  | failed h =>
    refine ⟨h.draws, fun _ => ?_⟩
    cases h
    exact ⟨rfl, rfl, rfl⟩
  | worked h =>
    obtain ⟨hc, hd⟩ := h.draws
    rw [hc]
    exact ⟨hd, nofun⟩
  | @attached _ _ c k f₁ f₂ h ho =>
    obtain ⟨hc, hd⟩ := ho.draws h
    have hc' : (Allocator.attach k f₂).driver.context? = some c := hc
    rw [hc']
    exact ⟨hd.extend ((Allocator.attach_extends k f₂).mono fun _ he => he.on), nofun⟩
  | @withdrawn _ _ c k _ f₁ f₂ h ho =>
    obtain ⟨hc, hd⟩ := ho.draws h
    have hc' : (Allocator.withdraw k f₂).driver.context? = some c := hc
    rw [hc']
    exact ⟨hd.extend ((Allocator.withdraw_extends k f₂).mono fun _ he => he.on), nofun⟩

/-- Without a demand nothing is done but to let go. -/
theorem Effect.releases {e : Option Error} (h : Effect a f none e f') :
    Extends Event.IsRelease f.host f'.host ∧ f'.driver = f.driver := by
  have hlog {f' : Focus} (h : Stays Event.IsLog f f') : Extends Event.IsRelease f.host f'.host :=
    (Extends.of_appends h.host).mono fun _ he => he.isRelease
  cases h with
  | idle h => exact ⟨hlog h, h.driver⟩
  | @wrapped k f₁ hk h => exact ⟨(hlog h).trans (Allocator.attach_extends k f₁), h.driver⟩

end

/-! ### The operations of a session -/

def Answer.error? : Answer → Option Error
  | .failed e | .failedOnBuffer e _ | .failedOnMapping e _ => some e
  | _ => none

/-- The driver that the operation takes the context from, or replaces. -/
def Operation.closes? : Operation → Option Nat
  | .openDriver driver | .dropDriver driver | .close driver => some driver
  | .attachForeignToDriver driver | .detachDriver driver => some driver
  | _ => none

/-- Whether the operation asks for the context as such, and so learns why there is none. -/
def Operation.asksForContext : Operation → Bool
  | .context .. => true
  | _ => false

namespace Session

def contextOf (s : Session) (driver : Nat) : Option Context :=
  (s.drivers.get? driver).bind Driver.context?

/-- The driver that the operation demands a context of, and whether it is to map only. Creating
demands one for a format that has planes, importing for valid memory that is to be mapped. -/
def demand (s : Session) : Operation → Option (Nat × Bool)
  | .create driver _ r => do
    let _ ← s.drivers.get? driver
    let _ ← r.format.planes?
    pure (driver, false)
  | .importBuffer driver _ slots data => do
    let _ ← s.drivers.get? driver
    let ds ← slots.mapM s.descriptors.get?
    let described ← { data with descriptors := ds }.metadata
    let m ← described.toOption
    let mapOnly ← Allocator.importDemand { data with descriptors := ds } { metadata := m } s.host
    pure (driver, mapOnly)
  | .backendCreate driver buffer _ => do
    let _ ← s.drivers.get? driver
    let _ ← s.buffers.get? buffer
    pure (driver, false)
  | .backendImport driver buffer slots data => do
    let _ ← s.drivers.get? driver
    let ds ← slots.mapM s.descriptors.get?
    let b ← s.buffers.get? buffer
    let mapOnly ← Allocator.importDemand { data with descriptors := ds } b s.host
    pure (driver, mapOnly)
  | .map driver buffer _ _ => do
    let _ ← s.drivers.get? driver
    let _ ← s.buffers.get? buffer
    pure (driver, true)
  | .unmap driver buffer mapping => do
    let _ ← s.drivers.get? driver
    let _ ← s.buffers.get? buffer
    let _ ← s.mappings.get? mapping
    pure (driver, true)
  | .context driver mapOnly _ _ => do
    let _ ← s.drivers.get? driver
    pure (driver, mapOnly)
  | _ => none

/-- An operation that demanded a context of the driver either has it in the end, or failed for the
lack of it and left the drivers and buffers as they were. -/
structure Meets (s : Session) (driver : Nat) (mapOnly asks : Bool) (r : Session × Answer) :
    Prop where
  draws : Draws s.allocator mapOnly s.host (s.contextOf driver) (r.1.contextOf driver) r.1.host
  failed : r.1.contextOf driver = none →
    (∃ e, r.2.error? = some e ∧ (asks = false → e = Allocator.contextFailed)) ∧
    ∀ n, r.1.drivers.get? n = s.drivers.get? n ∧ r.1.buffers.get? n = s.buffers.get? n

/-- An operation that demanded no context lets go of things at most, and of no driver's context but
the one's that it closes. -/
structure Abstains (s : Session) (closed : Option Nat) (s' : Session) : Prop where
  releases : Extends Event.IsRelease s.host s'.host
  context : ∀ driver, closed ≠ some driver → s'.contextOf driver = s.contextOf driver

variable {s : Session} {driver buffer : Nat} {d : Driver} {b : Buffer} {mapOnly : Bool}

theorem contextOf_of (hd : s.drivers.get? driver = some d) : s.contextOf driver = d.context? := by
  simp [contextOf, hd]

@[simp] theorem contextOf_resume (f : Focus) :
    (s.resume driver f).contextOf driver = f.driver.context? := by
  simp [contextOf, resume]

theorem get?_put_same {α : Type} {t : Slots α} {n : Nat} {a : α} (h : t.get? n = some a) (m : Nat) :
    (t.put n a).get? m = t.get? m := by
  by_cases hm : m = n
  · subst hm
    rw [Slots.get?_put_self, h]
  · exact Slots.get?_put_other t a hm

/-! ### Demands that are met -/

theorem makeBuffer_meets {act : FocusM Unit} (hd : s.drivers.get? driver = some d)
    (h : Yields act { host := s.host, driver := d }
      (fun _ f => ∃ m,
        Effect s.allocator (Allocator.onNew m ⟨s.host, d, {}⟩) (some mapOnly) none f)
      (fun e f => ∃ m,
        Effect s.allocator (Allocator.onNew m ⟨s.host, d, {}⟩) (some mapOnly) (some e) f)) :
    s.Meets driver mapOnly false (s.makeBuffer driver buffer d act) := by
  unfold Yields at h
  unfold makeBuffer
  cases hr : act { host := s.host, driver := d } with
  | ok _ f =>
    rw [hr] at h
    obtain ⟨m, h⟩ := h
    obtain ⟨hdraws, hnone⟩ := h.draws
    change Draws _ _ s.host d.context? _ _ at hdraws
    cases hc : f.driver.context? with
    | none => exact absurd (hnone hc).1 nofun
    | some c =>
      have hc' : ((s.resume driver f).storeBuffer buffer f.buffer).contextOf driver = some c := by
        rw [← hc]
        exact contextOf_resume f
      rw [hc] at hdraws
      refine ⟨?_, fun hn => ?_⟩
      · dsimp only
        rw [contextOf_of hd, hc']
        exact hdraws.extend ((Host.discard_extends _ _).mono fun _ he => he.on)
      · dsimp only at hn
        rw [hc'] at hn
        cases hn
  | error e f =>
    rw [hr] at h
    obtain ⟨m, h⟩ := h
    obtain ⟨hdraws, hnone⟩ := h.draws
    refine ⟨?_, fun hn => ?_⟩
    · dsimp only
      rw [contextOf_of hd, contextOf_resume]
      exact hdraws
    · obtain ⟨he, hdriver, -⟩ := hnone (by simpa using hn)
      refine ⟨⟨e, rfl, fun _ => Option.some.inj he⟩, fun n => ⟨?_, rfl⟩⟩
      change (s.drivers.put driver f.driver).get? n = _
      rw [hdriver]
      exact get?_put_same hd n

/-- An operation on a buffer that is there, whatever is answered. -/
theorem resumeBuffer_meets (hd : s.drivers.get? driver = some d)
    (hb : s.buffers.get? buffer = some b) {e : Option Error} {f : Focus}
    (h : Effect s.allocator ⟨s.host, d, b⟩ (some mapOnly) e f) {r : Session × Answer}
    (hs : r.1 = s.resumeBuffer driver buffer f ∨
      ∃ n m, r.1 = (s.resumeBuffer driver buffer f).storeMapping n m)
    (hr : ∀ e', e = some e' → r.2.error? = some e') :
    s.Meets driver mapOnly false r := by
  obtain ⟨hdraws, hnone⟩ := h.draws
  have hsame : r.1.host = f.host ∧ r.1.drivers = s.drivers.put driver f.driver ∧
      r.1.buffers = s.buffers.put buffer f.buffer := by
    rcases hs with hs | ⟨n, m, hs⟩ <;> rw [hs] <;> exact ⟨rfl, rfl, rfl⟩
  obtain ⟨hhost, hdrivers, hbuffers⟩ := hsame
  have hc : r.1.contextOf driver = f.driver.context? := by simp [contextOf, hdrivers]
  refine ⟨?_, fun hn => ?_⟩
  · rw [contextOf_of hd, hc, hhost]
    exact hdraws
  · rw [hc] at hn
    obtain ⟨he, hdriver, hbuffer⟩ := hnone hn
    refine ⟨⟨_, hr _ he, fun _ => rfl⟩, fun n => ⟨?_, ?_⟩⟩
    · rw [hdrivers, hdriver]
      exact get?_put_same hd n
    · rw [hbuffers, hbuffer]
      exact get?_put_same hb n

theorem storeContext_extends (s : Session) (slot : Nat) (c : Context) :
    Extends Event.IsRelease s.host (s.storeContext slot c).host := by
  unfold storeContext
  dsimp only
  split
  · exact Host.release_extends _ _
  · exact .refl _

theorem takeContext_meets (hd : s.drivers.get? driver = some d) (slot : Option Nat)
    (format : Format) :
    s.Meets driver mapOnly true (s.takeContext driver mapOnly slot format d) := by
  have h := Allocator.context_requires s.allocator mapOnly ⟨s.host, d, {}⟩
  unfold takeContext
  cases hr : Allocator.context s.allocator mapOnly ⟨s.host, d, {}⟩ with
  | error e f =>
    have hq := h.of_error hr
    have hdraws := Requires.draws (f := ⟨s.host, d, {}⟩) (n := 0) hq
    have hdriver : f.driver = d := by
      cases hq
      rfl
    refine ⟨?_, fun _ => ⟨⟨e, rfl, nofun⟩, fun n => ⟨?_, rfl⟩⟩⟩
    · dsimp only
      rw [contextOf_of hd, contextOf_resume]
      exact hdraws
    · change (s.drivers.put driver f.driver).get? n = _
      rw [hdriver]
      exact get?_put_same hd n
  | ok c f =>
    have hq := h.of_ok hr
    have hdraws := Requires.draws (f := ⟨s.host, d, {}⟩) (n := 0) hq
    rw [hq.context] at hdraws
    have hc : (s.resume driver f).contextOf driver = f.driver.context? := contextOf_resume f
    rw [hq.context] at hc
    cases slot with
    | none =>
      refine ⟨?_, fun hn => ?_⟩
      · dsimp only
        rw [contextOf_of hd, hc]
        exact hdraws
      · cases hc.symm.trans hn
    | some slot =>
      have hc' : ((s.resume driver f).storeContext slot c).contextOf driver = some c := hc
      refine ⟨?_, fun hn => ?_⟩
      · dsimp only
        rw [contextOf_of hd, hc']
        exact hdraws.extend ((storeContext_extends _ slot c).mono fun _ he => he.on)
      · cases hc'.symm.trans hn

theorem changeBuffer_meets (hd : s.drivers.get? driver = some d)
    (hb : s.buffers.get? buffer = some b) {act : FocusM Unit}
    (h : Yields act ⟨s.host, d, b⟩
      (fun _ f => Effect s.allocator ⟨s.host, d, b⟩ (some mapOnly) none f)
      (fun e f => Effect s.allocator ⟨s.host, d, b⟩ (some mapOnly) (some e) f)) :
    s.Meets driver mapOnly false (s.changeBuffer driver buffer d b act) := by
  unfold changeBuffer
  cases hr : act ⟨s.host, d, b⟩ with
  | ok _ f => exact resumeBuffer_meets hd hb (h.of_ok hr) (Or.inl rfl) nofun
  | error e f => exact resumeBuffer_meets hd hb (h.of_error hr) (Or.inl rfl) fun _ he => he

theorem mapBuffer_meets (hd : s.drivers.get? driver = some d)
    (hb : s.buffers.get? buffer = some b) (mapping : Nat) (flags : MapFlags) :
    s.Meets driver true false (s.mapBuffer driver buffer mapping flags d b) := by
  have h := Allocator.mapBuffer_effect s.allocator flags ⟨s.host, d, b⟩
  unfold mapBuffer backend
  cases hr : (Allocator.backend s.allocator).mapBuffer flags ⟨s.host, d, b⟩ with
  | ok m f => exact resumeBuffer_meets hd hb (h.of_ok hr) (Or.inr ⟨mapping, m, rfl⟩) nofun
  | error e f => exact resumeBuffer_meets hd hb (h.of_error hr) (Or.inl rfl) fun _ he => he

theorem unmapBuffer_meets (hd : s.drivers.get? driver = some d)
    (hb : s.buffers.get? buffer = some b) (mapping : Nat) (m : Mapping) :
    s.Meets driver true false (s.unmapBuffer driver buffer mapping d b m) := by
  have h := Allocator.unmapBuffer_effect s.allocator m ⟨s.host, d, b⟩
  unfold unmapBuffer backend
  cases hr : (Allocator.backend s.allocator).unmapBuffer m ⟨s.host, d, b⟩ with
  | ok m f => exact resumeBuffer_meets hd hb (h.of_ok hr) (Or.inr ⟨mapping, m, rfl⟩) nofun
  | error e f => exact resumeBuffer_meets hd hb (h.of_error hr) (Or.inl rfl) fun _ he => he

theorem createBuffer_meets (hd : s.drivers.get? driver = some d) (r : BufferRequest)
    (hf : r.format.planes? ≠ none) : s.Meets driver false false (s.makeBuffer driver buffer d
      (s.backend.createBuffer r.width r.height r.format r.useFlags)) := by
  apply makeBuffer_meets hd
  apply (Allocator.createBuffer_effect s.allocator _ _ _ _ _).imp
  · exact fun _ _ ⟨m, _, he⟩ => ⟨m, he⟩
  · intro e f h
    rcases h with ⟨hn, -⟩ | ⟨m, -, he⟩
    · exact absurd hn hf
    · exact ⟨m, he⟩

theorem wrapBuffer_meets (hd : s.drivers.get? driver = some d) {data : ImportData} {m : Metadata}
    (ho : Allocator.importDemand data { metadata := m } s.host = some mapOnly) :
    s.Meets driver mapOnly false
      (s.makeBuffer driver buffer d (s.backend.wrapBuffer data (.ok m))) := by
  apply makeBuffer_meets hd
  apply (Allocator.wrapBuffer_effect s.allocator data (.ok m) _).imp
  · intro _ f h
    obtain ⟨m', hm', he⟩ := h
    cases hm'
    rw [ho] at he
    exact ⟨m, he⟩
  · intro e f h
    rcases h with ⟨hn, -⟩ | ⟨m', hm', he⟩
    · cases hn
    · cases hm'
      rw [ho] at he
      exact ⟨m, he⟩

theorem step_meets (op : Operation) (h : s.demand op = some (driver, mapOnly)) :
    s.Meets driver mapOnly op.asksForContext (s.step op) := by
  cases op with
  | create k n r =>
    simp only [demand, Option.bind_eq_bind, Option.bind_eq_some_iff] at h
    obtain ⟨d, hd, shapes, hf, h⟩ := h
    cases h
    simp only [step, onDriver, hd]
    exact createBuffer_meets hd r (by rw [hf]; exact Option.some_ne_none shapes)
  | importBuffer k n slots data =>
    simp only [demand, Option.bind_eq_bind, Option.bind_eq_some_iff] at h
    obtain ⟨d, hd, ds, hds, described, hr, m, hm, only, ho, h⟩ := h
    cases h
    simp only [step, onDriver, hd, onDescriptors, hds]
    obtain rfl : described = .ok m := by
      cases described with
      | error e => cases hm
      | ok m' => exact congrArg _ (Option.some.inj hm)
    refine importBuffer_result (fun hn => ?_) fun m' hm' => ?_
    · cases hr.symm.trans hn
    · cases hr.symm.trans hm'
      exact wrapBuffer_meets hd ho
  | backendCreate k n r =>
    simp only [demand, Option.bind_eq_bind, Option.bind_eq_some_iff] at h
    obtain ⟨d, hd, b, hb, h⟩ := h
    cases h
    simp only [step, onDriver, hd, onBuffer, hb]
    exact changeBuffer_meets hd hb (Allocator.create_effect s.allocator _ _)
  | backendImport k n slots data =>
    simp only [demand, Option.bind_eq_bind, Option.bind_eq_some_iff] at h
    obtain ⟨d, hd, ds, hds, b, hb, only, ho, h⟩ := h
    cases h
    simp only [step, onDriver, hd, onDescriptors, hds, onBuffer, hb]
    apply changeBuffer_meets hd hb
    have he := Allocator.importData_effect s.allocator { data with descriptors := ds } ⟨s.host, d, b⟩
    rw [ho] at he
    exact he
  | map k n mapping flags =>
    simp only [demand, Option.bind_eq_bind, Option.bind_eq_some_iff] at h
    obtain ⟨d, hd, b, hb, h⟩ := h
    cases h
    simp only [step, onDriver, hd, onBuffer, hb]
    exact mapBuffer_meets hd hb mapping flags
  | unmap k n mapping =>
    simp only [demand, Option.bind_eq_bind, Option.bind_eq_some_iff] at h
    obtain ⟨d, hd, b, hb, m, hm, h⟩ := h
    cases h
    simp only [step, onDriver, hd, onBuffer, hb, onMapping, hm]
    exact unmapBuffer_meets hd hb mapping m
  | context k only slot format =>
    simp only [demand, Option.bind_eq_bind, Option.bind_eq_some_iff] at h
    obtain ⟨d, hd, h⟩ := h
    cases h
    simp only [step, onDriver, hd]
    exact takeContext_meets hd slot format
  | _ => cases h

/-! ### No demand -/

variable {closed : Option Nat} {s' : Session}

theorem Abstains.of_host (hh : Extends Event.IsRelease s.host s'.host)
    (hd : s'.drivers = s.drivers) : s.Abstains closed s' :=
  ⟨hh, fun n _ => by simp [contextOf, hd]⟩

theorem Abstains.refl (s : Session) : s.Abstains closed s := .of_host (.refl _) rfl

theorem Abstains.of_put (hh : Extends Event.IsRelease s.host s'.host) {d' : Driver}
    (hd : s'.drivers = s.drivers.put driver d') : s.Abstains (some driver) s' := by
  refine ⟨hh, fun n hn => ?_⟩
  have hn : n ≠ driver := fun he => hn (he ▸ rfl)
  simp [contextOf, hd, Slots.get?_put_other _ _ hn]

/-- A driver comes to its slot with the context that it had. -/
theorem Abstains.of_kept (hh : Extends Event.IsRelease s.host s'.host)
    (hd : s.drivers.get? driver = some d) {d' : Driver} (hc : d'.context? = d.context?)
    (hs : s'.drivers = s.drivers.put driver d') : s.Abstains closed s' := by
  refine ⟨hh, fun n _ => ?_⟩
  by_cases hn : n = driver
  · subst hn
    simp [contextOf, hs, hd, hc]
  · simp [contextOf, hs, Slots.get?_put_other _ _ hn]

theorem onDriver_abstains {act : Driver → Session × Answer}
    (h : ∀ d, s.drivers.get? driver = some d → s.Abstains closed (act d).1) :
    s.Abstains closed (s.onDriver driver act).1 := onDriver_of (p := s.Abstains closed) (.refl s) h

theorem onBuffer_abstains {act : Buffer → Session × Answer}
    (h : ∀ b, s.buffers.get? buffer = some b → s.Abstains closed (act b).1) :
    s.Abstains closed (s.onBuffer buffer act).1 := onBuffer_of (p := s.Abstains closed) (.refl s) h

theorem onMapping_abstains {mapping : Nat} {act : Mapping → Session × Answer}
    (h : ∀ m, s.mappings.get? mapping = some m → s.Abstains closed (act m).1) :
    s.Abstains closed (s.onMapping mapping act).1 :=
  onMapping_of (p := s.Abstains closed) (.refl s) h

theorem onDescriptors_abstains {slots : List Nat} {act : List Descriptor → Session × Answer}
    (h : ∀ ds, slots.mapM s.descriptors.get? = some ds → s.Abstains closed (act ds).1) :
    s.Abstains closed (s.onDescriptors slots act).1 :=
  onDescriptors_of (p := s.Abstains closed) (.refl s) h

theorem makeBuffer_abstains {act : FocusM Unit} (hd : s.drivers.get? driver = some d)
    (h : Yields act { host := s.host, driver := d }
      (fun _ f => Extends Event.IsRelease s.host f.host ∧ f.driver = d)
      (fun _ f => Extends Event.IsRelease s.host f.host ∧ f.driver = d)) :
    s.Abstains closed (s.makeBuffer driver buffer d act).1 := by
  unfold makeBuffer
  cases hr : act { host := s.host, driver := d } with
  | ok _ f =>
    obtain ⟨hh, rfl⟩ := h.of_ok hr
    exact .of_kept (hh.trans (Host.discard_extends _ _)) hd rfl rfl
  | error e f =>
    obtain ⟨hh, rfl⟩ := h.of_error hr
    exact .of_kept hh hd rfl rfl

theorem changeBuffer_abstains {act : FocusM Unit} (hd : s.drivers.get? driver = some d)
    (h : Yields act ⟨s.host, d, b⟩
      (fun _ f => Extends Event.IsRelease s.host f.host ∧ f.driver = d)
      (fun _ f => Extends Event.IsRelease s.host f.host ∧ f.driver = d)) :
    s.Abstains closed (s.changeBuffer driver buffer d b act).1 := by
  unfold changeBuffer
  cases hr : act ⟨s.host, d, b⟩ with
  | ok _ f =>
    obtain ⟨hh, rfl⟩ := h.of_ok hr
    exact .of_kept hh hd rfl rfl
  | error e f =>
    obtain ⟨hh, rfl⟩ := h.of_error hr
    exact .of_kept hh hd rfl rfl

theorem createBuffer_abstains (hd : s.drivers.get? driver = some d) (r : BufferRequest)
    (hf : r.format.planes? = none) : s.Abstains closed (s.makeBuffer driver buffer d
      (s.backend.createBuffer r.width r.height r.format r.useFlags)).1 := by
  apply makeBuffer_abstains hd
  apply (Allocator.createBuffer_effect s.allocator _ _ _ _ _).imp
  · intro _ f h
    obtain ⟨m, hs, -⟩ := h
    simp [hf] at hs
  · intro e f h
    rcases h with ⟨-, rfl⟩ | ⟨m, hs, -⟩
    · exact ⟨.refl _, rfl⟩
    · simp [hf] at hs

theorem wrapBuffer_abstains (hd : s.drivers.get? driver = some d) {data : ImportData}
    {described : Except Error Metadata} (hn : ∀ m, described = .ok m →
      Allocator.importDemand data { metadata := m } s.host = none) :
    s.Abstains closed
      (s.makeBuffer driver buffer d (s.backend.wrapBuffer data described)).1 := by
  apply makeBuffer_abstains hd
  apply (Allocator.wrapBuffer_effect s.allocator data described _).imp
  · intro _ f h
    obtain ⟨m, hm, he⟩ := h
    rw [hn m hm] at he
    exact he.releases
  · intro e f h
    rcases h with ⟨-, rfl⟩ | ⟨m, hm, he⟩
    · exact ⟨.refl _, rfl⟩
    · rw [hn m hm] at he
      exact he.releases

theorem importOn_abstains (hd : s.drivers.get? driver = some d) {data : ImportData}
    (hn : Allocator.importDemand data b s.host = none) :
    s.Abstains closed (s.changeBuffer driver buffer d b (s.backend.importData data)).1 := by
  have he := Allocator.importData_effect s.allocator data ⟨s.host, d, b⟩
  rw [hn] at he
  apply changeBuffer_abstains hd
  exact he.imp (fun _ _ he => he.releases) (fun _ _ he => he.releases)

theorem exportPlane_abstains {act : HostM Descriptor} (h : Adds Event.IsLog act) :
    s.Abstains closed (s.exportPlane act).1 := by
  have hadds := h s.host
  have hreleases {h' : Host} (hh : Appends Event.IsLog s.host h') :
      Extends Event.IsRelease s.host h' := (Extends.of_appends hh).mono fun _ he => he.isRelease
  unfold exportPlane
  cases hr : act s.host with
  | ok d h' => exact .of_host (hreleases (hadds.of_ok hr)) rfl
  | error e h' => exact .of_host (hreleases (hadds.of_error hr)) rfl

theorem storeDriver_extends (s : Session) (driver : Nat) (d : Driver) :
    Extends Event.IsRelease s.host (s.storeDriver driver d).host := by
  unfold storeDriver
  dsimp only
  split
  · exact Allocator.close_extends _ _
  · exact .refl _

theorem openDriver_abstains (s : Session) (driver : Nat) :
    s.Abstains (some driver) (s.openDriver driver).1 := by
  refine .of_put (Extends.trans ?_ (storeDriver_extends { s with host := _ } driver _)) rfl
  exact .of_appends (.log .info _ trivial)

theorem dropDriver_abstains (s : Session) (driver : Nat) :
    s.Abstains (some driver) (s.dropDriver driver) := by
  unfold dropDriver
  split
  · refine ⟨Allocator.close_extends _ _, fun n hn => ?_⟩
    have hn : n ≠ driver := fun he => hn (he ▸ rfl)
    simp [contextOf, Slots.get?_erase_other _ hn]
  · exact .refl s

theorem setCombinations_abstains (hd : s.drivers.get? driver = some d)
    (table : List Combination) : s.Abstains closed (s.setCombinations driver d table) :=
  .of_kept (.refl _) hd (show Driver.context? { d with combinations := table } = _ from rfl) rfl

theorem step_abstains (op : Operation) (h : s.demand op = none) :
    s.Abstains op.closes? (s.step op).1 := by
  cases op with
  | script | setNodes | makeMemory | makeStream =>
    exact .of_host ⟨[], (List.append_nil _).symm, by simp⟩ rfl
  | openDriver driver => exact openDriver_abstains s driver
  | dropDriver driver => exact dropDriver_abstains s driver
  | dropBuffer | defaultBuffer => exact .of_host (Host.discard_extends _ _) rfl
  | releaseContext slot =>
    change s.Abstains _ (s.dropContext slot)
    unfold dropContext
    split
    · exact .of_host (Host.release_extends _ _) rfl
    · exact .refl s
  | inspectBuffer | hasBacking => exact onBuffer_abstains fun _ _ => .refl s
  | backendPlane n plane =>
    exact onBuffer_abstains fun b _ => exportPlane_abstains (Allocator.planeDescriptor_adds b plane)
  | editMetadata => exact onBuffer_abstains fun _ _ => .of_host (.refl _) rfl
  | attachForeign | detachBuffer | backendDestroy =>
    exact onBuffer_abstains fun _ _ => .of_host (Host.discard_extends _ _) rfl
  | setToken | inspectMapping => exact onMapping_abstains fun _ _ => .of_host (.refl _) rfl
  | create k n r =>
    refine onDriver_abstains fun d hd => createBuffer_abstains hd r ?_
    cases hf : r.format.planes? with
    | none => rfl
    | some shapes => simp [demand, hd, hf] at h
  | importBuffer k n slots data =>
    refine onDriver_abstains fun d hd => onDescriptors_abstains fun ds hds =>
      importBuffer_result (q := fun r => s.Abstains _ r.1) (fun _ => .refl s) fun described hr =>
        wrapBuffer_abstains hd fun m hm => ?_
    cases ho : Allocator.importDemand { data with descriptors := ds } { metadata := m } s.host with
    | none => rfl
    | some only => simp [demand, hd, hds, hr, hm, ho, Except.toOption] at h
  | backendCreate k n r =>
    refine onDriver_abstains fun d hd => onBuffer_abstains fun b hb => ?_
    simp [demand, hd, hb] at h
  | backendImport k n slots data =>
    refine onDriver_abstains fun d hd => onDescriptors_abstains fun ds hds =>
      onBuffer_abstains fun b hb => importOn_abstains hd ?_
    cases ho : Allocator.importDemand { data with descriptors := ds } b s.host with
    | none => rfl
    | some only => simp [demand, hd, hds, hb, ho] at h
  | map k n mapping flags =>
    refine onDriver_abstains fun d hd => onBuffer_abstains fun b hb => ?_
    simp [demand, hd, hb] at h
  | unmap k n mapping =>
    refine onDriver_abstains fun d hd => onBuffer_abstains fun b hb =>
      onMapping_abstains fun m hm => ?_
    simp [demand, hd, hb, hm] at h
  | context k only slot format =>
    refine onDriver_abstains fun d hd => ?_
    simp [demand, hd] at h
  | destroy =>
    exact onDriver_abstains fun _ _ => onBuffer_abstains fun _ _ =>
      .of_host (Host.discard_extends _ _) rfl
  | plane k n plane =>
    exact onDriver_abstains fun _ _ => onBuffer_abstains fun b _ =>
      exportPlane_abstains (Allocator.bufferPlane_adds s.allocator b plane)
  | close => exact onDriver_abstains fun _ _ => .of_put (Allocator.close_extends _ _) rfl
  | name | resolve | combinations | best => exact onDriver_abstains fun _ _ => .refl s
  | attachForeignToDriver | detachDriver =>
    exact onDriver_abstains fun _ _ => .of_put (Host.detach_extends _ _) rfl
  | addCombination | addCombinations | widen | widenLinear =>
    exact onDriver_abstains fun d hd => setCombinations_abstains hd _

end Session

end GraphicsBuffers
