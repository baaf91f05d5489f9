import GraphicsBuffers.Proofs.Accounted
import GraphicsBuffers.Session.Run

/-!
The events account for what a session holds, after any operations in any order: its drivers and its
buffers, and the contexts that clients keep.
-/

namespace GraphicsBuffers

/-! ### One operation -/

/-- The host accounts for what is in focus, for the handles `I` of other buffers and for the other
holders `H`. -/
def Focus.Balanced (I : List Import) (H : List Context) (f : Focus) : Prop :=
  Accounted f.host (f.buffer.import?.toList ++ I)
    (f.driver.context?.toList ++ (f.buffer.import?.toList ++ I).map Import.context ++ H)

theorem Allocator.attach_import (k : Backing) (f : Focus) :
    (attach k f).buffer.import? = k.imported := rfl

section

variable {a : Allocator} {I : List Import} {H : List Context} {f f' : Focus} {c : Context}

theorem Requires.balanced {mapOnly : Bool} {r : Option Context} (h : Requires a mapOnly f r f')
    (hf : f.Balanced I H) : f'.Balanced I H := by
  unfold Focus.Balanced at hf
  cases h with
  | shared => exact hf
  | created hn ha hl =>
    rw [hn] at hf
    exact (hf.created ha).log hl
  | failed hn ha hl => exact (hf.failed ha).log hl

theorem Stays.balanced {p : Event → Prop} (h : Stays p f f')
    (hp : ∀ l : Ledger, (∀ i ∈ f.buffer.import?, i ∈ l.imports) → ∀ e, p e → l.Step e l)
    (hf : f.Balanced I H) : f'.Balanced I H := by
  unfold Focus.Balanced at hf ⊢
  rw [h.driver, h.import_eq]
  refine hf.idle h.host fun l hl => hp l fun i hi => hl i ?_
  exact List.mem_append_left _ (Option.mem_toList.mpr hi)

theorem Works.balanced {mapOnly : Bool} (h : Works a mapOnly f c f') (hf : f.Balanced I H) :
    f'.Balanced I H := by
  obtain ⟨f₁, hr, hs⟩ := h
  exact hs.balanced (fun _ hl _ he => he.idle hl) (hr.balanced hf)

theorem Works.context {mapOnly : Bool} (h : Works a mapOnly f c f') :
    f'.driver.context? = some c := by
  obtain ⟨f₁, hr, hs⟩ := h
  rw [hs.driver]
  exact hr.context

/-- An operation that came by the context leaves the buffer's handle as it is. -/
theorem Works.import_eq {mapOnly : Bool} {n : Nat} (h : Works a mapOnly (f.copied n) c f') :
    f'.buffer.import? = f.buffer.import? := by
  obtain ⟨f₁, hr, hs⟩ := h
  rw [hs.import_eq, hr.buffer]
  rfl

theorem Focus.Balanced.copied (hf : f.Balanced I H) (n : Nat) : (f.copied n).Balanced I H :=
  (Stays.copied (p := Event.IsLog) f n).balanced (fun _ _ _ he => .quiet he.quiet) hf

theorem Obtains.kept {o : Option Import} (ho : Obtains c f o f') :
    f'.driver = f.driver ∧ f'.buffer.state = f.buffer.state := by
  cases ho with
  | nothing h => exact ⟨h.driver, h.state⟩
  | handle request n driver state => exact ⟨driver, state⟩

/-- A new handle adds to the books, and so does its holder. -/
theorem Obtains.accounted {o : Option Import} (ho : Obtains c f o f')
    (hc : f.driver.context? = some c) (hf : f.Balanced I H) :
    Accounted (f'.host.holdFor o) (o.toList ++ (f'.buffer.import?.toList ++ I))
      (o.toList.map Import.context ++ (f'.driver.context?.toList ++
        (f'.buffer.import?.toList ++ I).map Import.context ++ H)) := by
  unfold Focus.Balanced at hf
  obtain ⟨hdriver, hstate⟩ := ho.kept
  have himport : f'.buffer.import? = f.buffer.import? := by
    simp only [Buffer.import?, Buffer.backing?, hstate]
  rw [himport, hdriver]
  cases ho with
  | nothing h => exact hf.log h.host
  | handle request n _ _ held loads _ events =>
    exact (hf.imported (c := c) (by simp [hc]) held loads events).hold (by simp [hc])

/-- The handle that a backing brings along takes the place of the buffer's old one. -/
theorem Obtains.attached {k : Backing} (ho : Obtains c f k.imported f')
    (hc : f.driver.context? = some c) (hf : f.Balanced I H) :
    (Allocator.attach k f').Balanced I H := by
  have ha := ho.accounted hc hf
  unfold Focus.Balanced
  rw [Allocator.attach_import]
  refine Accounted.discard f'.buffer (ha.perm ?_ ?_) fun i hi => ?_
  · rw [← List.append_assoc, ← List.append_assoc]
    exact List.perm_append_comm.append_right I
  · rw [List.perm_iff_count]
    intro d
    simp only [Allocator.attach, List.map_append, List.count_append]
    omega
  · exact List.mem_append_left _ (List.mem_append_right _ (List.mem_map_of_mem hi))

/-- A backing that is let go of at once leaves the books as they were. -/
theorem Obtains.withdrawn {k : Backing} (ho : Obtains c f k.imported f')
    (hc : f.driver.context? = some c) (hf : f.Balanced I H) :
    (Allocator.withdraw k f').Balanced I H := by
  refine Accounted.discard { state := some (.backing k) } (ho.accounted hc hf) fun i hi => ?_
  exact List.mem_append_left _ (List.mem_append_right _ (List.mem_map_of_mem hi))

theorem Effect.balanced {m : Option Bool} {e : Option Error} (h : Effect a f m e f')
    (hf : f.Balanced I H) : f'.Balanced I H := by
  have hlog {f' : Focus} (h : Stays Event.IsLog f f') : f'.Balanced I H :=
    h.balanced (fun _ _ _ he => .quiet he.quiet) hf
  cases h with
  | idle h => exact hlog h
  | @wrapped k f₁ hk h =>
    have hf₁ := hlog h
    unfold Focus.Balanced at hf₁ ⊢
    rw [Allocator.attach_import, hk]
    unfold Allocator.attach
    rw [hk]
    refine Accounted.discard f₁.buffer (hf₁.perm (by simp) ?_) fun i hi => ?_
    · rw [List.perm_iff_count]
      intro d
      simp only [Option.toList_none, List.nil_append, List.map_append, List.count_append]
      omega
    · exact List.mem_append_left _ (List.mem_append_right _ (List.mem_map_of_mem hi))
  | failed h => exact h.balanced (hf.copied _)
  | worked h => exact h.balanced (hf.copied _)
  | attached h ho => exact ho.attached h.context (h.balanced (hf.copied _))
  | withdrawn h ho => exact ho.withdrawn h.context (h.balanced (hf.copied _))

/-- What fails leaves the buffer's handle as it is. -/
theorem Effect.import_eq {m : Option Bool} {e : Error} (h : Effect a f m (some e) f') :
    f'.buffer.import? = f.buffer.import? := by
  cases h with
  | idle h => exact h.import_eq
  | failed h =>
    rw [h.buffer]
    rfl
  | worked h => exact h.import_eq
  | withdrawn h ho =>
    have hstate := ho.kept.2
    rw [← h.import_eq]
    simp only [Allocator.withdraw, Buffer.import?, Buffer.backing?, hstate]

end

/-! ### A session -/

theorem Accounted.detach {h : Host} {I : List Import} {H : List Context} (d : Driver)
    (ha : Accounted h I (d.context?.toList ++ H)) (hb : ∀ i ∈ I, i.context ∈ H) :
    Accounted (h.detach d.state) I H := by
  cases hc : d.context? with
  | none =>
    rw [Allocator.detach_no_context hc]
    simpa [hc] using ha
  | some c =>
    have hs : d.state = some (.context c) := by
      unfold Driver.context? at hc
      split at hc
      · rename_i hs
        rw [hs, Option.some.inj hc]
      · cases hc
    rw [hc] at ha
    rw [hs]
    exact ha.release hb

theorem Accounted.close {h : Host} {I : List Import} {H : List Context} (d : Driver)
    (ha : Accounted h I (d.context?.toList ++ H)) (hb : ∀ i ∈ I, i.context ∈ H) :
    Accounted (Allocator.close d h).2 I H := by
  unfold Allocator.close
  cases hs : d.state with
  | none => simpa [Driver.context?, hs] using ha
  | some state =>
    have hd := ha.detach d hb
    rw [hs] at hd
    exact hd.log (.log _ _ trivial)

namespace Session

/-- The handles that the buffers have. -/
def imports (s : Session) : List Import := s.buffers.collect Buffer.import?

/-- The holders of device contexts: the buffers with a handle, the drivers, and the clients. -/
def holders (s : Session) : List Context :=
  s.imports.map Import.context ++ (s.drivers.collect Driver.context? ++ s.contexts.values)

def Balanced (s : Session) : Prop := Accounted s.host s.imports s.holders

variable {s : Session} {I : List Import} {b : Buffer} {d : Driver} {driver buffer : Nat}

/-! ### What the slots hold -/

/-- The holders that are no buffers, other than the driver. -/
def others (s : Session) (driver : Nat) : List Context :=
  (s.drivers.erase driver).collect Driver.context? ++ s.contexts.values

/-- The handles of the buffers other than this one. -/
def importsBut (s : Session) (buffer : Nat) : List Import :=
  (s.buffers.erase buffer).collect Buffer.import?

theorem holders_split (s : Session) (driver : Nat) : s.holders.Perm
    (((s.drivers.get? driver).bind Driver.context?).toList ++
      (s.imports.map Import.context ++ s.others driver)) := by
  have h := s.drivers.collect_split Driver.context? driver
  rw [List.perm_iff_count] at h ⊢
  intro c
  have := h c
  simp only [holders, others, List.count_append] at this ⊢
  omega

theorem imports_split (s : Session) (buffer : Nat) : s.imports.Perm
    (((s.buffers.get? buffer).bind Buffer.import?).toList ++ s.importsBut buffer) :=
  s.buffers.collect_split Buffer.import? buffer

theorem mem_contexts (H : List Context) : ∀ i ∈ I, i.context ∈ I.map Import.context ++ H :=
  fun _ hi => List.mem_append_left _ (List.mem_map_of_mem hi)

theorem driver_accounted (hs : s.Balanced) (hd : s.drivers.get? driver = some d) :
    Accounted s.host s.imports
      (d.context?.toList ++ (s.imports.map Import.context ++ s.others driver)) := by
  have hp := s.holders_split driver
  rw [hd] at hp
  exact hs.perm (.refl _) hp

theorem balanced_driver (hs : s.Balanced) (hd : s.drivers.get? driver = some d) :
    (Focus.mk s.host d {}).Balanced s.imports (s.others driver) := by
  unfold Focus.Balanced
  rw [List.append_assoc]
  exact driver_accounted hs hd

/-- A driver comes to a slot whose old driver no longer counts. -/
theorem balanced_put {h : Host} (ha : Accounted h s.imports
      (d.context?.toList ++ (s.imports.map Import.context ++ s.others driver))) :
    Balanced { s with host := h, drivers := s.drivers.put driver d } := by
  refine ha.perm (.refl _) ?_
  have h := s.drivers.collect_put Driver.context? driver d
  rw [List.perm_iff_count] at h ⊢
  intro c
  have := h c
  simp only [holders, imports, others, List.count_append] at this ⊢
  omega

theorem balanced_buffer (hs : s.Balanced) (hd : s.drivers.get? driver = some d)
    (hb : s.buffers.get? buffer = some b) :
    (Focus.mk s.host d b).Balanced (s.importsBut buffer) (s.others driver) := by
  have hi := s.imports_split buffer
  rw [hb] at hi
  unfold Focus.Balanced
  rw [List.append_assoc]
  refine (driver_accounted hs hd).perm hi ?_
  exact (((hi.map Import.context).append_right _).append_left _).trans (by simp)

/-- A buffer comes to a slot whose old buffer no longer counts. -/
theorem balanced_put_buffer {h : Host} (ha : Accounted h (b.import?.toList ++ s.importsBut buffer)
      ((b.import?.toList ++ s.importsBut buffer).map Import.context ++
        (s.drivers.collect Driver.context? ++ s.contexts.values))) :
    Balanced { s with host := h, buffers := s.buffers.put buffer b } := by
  have hi := (s.buffers.collect_put Buffer.import? buffer b).symm
  exact ha.perm hi ((hi.map Import.context).append_right _)

theorem balanced_resume_buffer {f : Focus}
    (hf : f.Balanced (s.importsBut buffer) (s.others driver)) :
    (s.resumeBuffer driver buffer f).Balanced := by
  apply balanced_put_buffer (s := s.resume driver f)
  refine Accounted.perm hf (.refl _) ?_
  have h := s.drivers.collect_put Driver.context? driver f.driver
  rw [List.perm_iff_count] at h ⊢
  intro c
  have := h c
  simp only [resume, importsBut, others, List.count_append] at this ⊢
  omega

/-! ### Storing and dropping -/

/-- What the slot held goes; `b` may be a new buffer whose handle is not the session's yet. -/
theorem balanced_discard {h : Host} {H : List Context}
    (ha : Accounted h (I ++ s.imports) ((I ++ s.imports).map Import.context ++ H)) :
    Accounted (h.discard ((s.buffers.get? buffer).bind Buffer.state)) (I ++ s.importsBut buffer)
      ((I ++ s.importsBut buffer).map Import.context ++ H) := by
  have hi := s.imports_split buffer
  cases hb : s.buffers.get? buffer with
  | none =>
    rw [hb] at hi
    have hi := hi.append_left I
    exact ha.perm hi ((hi.map Import.context).append_right H)
  | some old =>
    rw [hb] at hi
    change s.imports.Perm (old.import?.toList ++ s.importsBut buffer) at hi
    have hi : (I ++ s.imports).Perm (old.import?.toList ++ (I ++ s.importsBut buffer)) := by
      rw [← List.append_assoc]
      exact (hi.append_left I).trans (by
        rw [← List.append_assoc]
        exact List.perm_append_comm.append_right _)
    refine Accounted.discard old (ha.perm hi ?_) (mem_contexts H)
    exact ((hi.map Import.context).append_right H).trans (by simp)

theorem storeBuffer_balanced (ha : Accounted s.host (b.import?.toList ++ s.imports)
      (b.import?.toList.map Import.context ++ s.holders)) : (s.storeBuffer buffer b).Balanced := by
  apply balanced_put_buffer
  apply balanced_discard
  exact ha.perm (.refl _) (by simp [holders])

theorem dropBuffer_balanced (hs : s.Balanced) (buffer : Nat) : (s.dropBuffer buffer).Balanced :=
  balanced_discard (I := []) hs

/-- What is attached to a buffer gives way to something without a handle. -/
theorem replace_balanced (hs : s.Balanced) {old : Buffer} (hb : s.buffers.get? buffer = some old)
    (hn : b.import? = none) :
    Balanced { s with host := s.host.discard old.state, buffers := s.buffers.put buffer b } := by
  apply balanced_put_buffer
  have hd : Accounted (s.host.discard ((s.buffers.get? buffer).bind Buffer.state))
      (s.importsBut buffer) _ := balanced_discard (I := []) hs
  rw [hb] at hd
  rw [hn]
  exact hd

theorem editMetadata_balanced (hs : s.Balanced) (hb : s.buffers.get? buffer = some b)
    (m : Metadata) : (s.editMetadata buffer b m).Balanced := by
  have hi := s.imports_split buffer
  rw [hb] at hi
  apply balanced_put_buffer
  exact hs.perm hi ((hi.map Import.context).append_right _)

/-- The driver of a slot lets go of its context. -/
theorem detach_balanced (hs : s.Balanced) {old : Driver} (hd : s.drivers.get? driver = some old) :
    Accounted (s.host.detach old.state) s.imports
      (s.imports.map Import.context ++ s.others driver) :=
  Accounted.detach old (driver_accounted hs hd) (mem_contexts _)

theorem close_balanced (hs : s.Balanced) {old : Driver} (hd : s.drivers.get? driver = some old) :
    Accounted (Allocator.close old s.host).2 s.imports
      (s.imports.map Import.context ++ s.others driver) :=
  Accounted.close old (driver_accounted hs hd) (mem_contexts _)

theorem closeDriver_balanced (hs : s.Balanced) (hd : s.drivers.get? driver = some d) :
    (s.closeDriver driver d).Balanced := by
  refine balanced_put ?_
  have hn := Allocator.close_no_context d s.host
  change Accounted _ _ ((Allocator.close d s.host).1.context?.toList ++ _)
  rw [hn]
  exact close_balanced hs hd

theorem replaceDriverState_balanced (hs : s.Balanced) (hd : s.drivers.get? driver = some d)
    {state : Option DriverState} (hn : Driver.context? { d with state } = none) :
    (s.replaceDriverState driver d state).Balanced := by
  refine balanced_put ?_
  rw [hn]
  exact detach_balanced hs hd

theorem setCombinations_balanced (hs : s.Balanced) (hd : s.drivers.get? driver = some d)
    (table : List Combination) : (s.setCombinations driver d table).Balanced := by
  have ha := driver_accounted hs hd
  exact balanced_put ha

theorem storeDriver_balanced (hs : s.Balanced) (hn : d.context? = none) (driver : Nat) :
    (s.storeDriver driver d).Balanced := by
  refine balanced_put ?_
  rw [hn]
  cases hd : s.drivers.get? driver with
  | some old => exact close_balanced hs hd
  | none =>
    have hp := s.holders_split driver
    rw [hd] at hp
    exact hs.perm (.refl _) hp

theorem dropDriver_balanced (hs : s.Balanced) (driver : Nat) : (s.dropDriver driver).Balanced := by
  unfold dropDriver
  cases hd : s.drivers.get? driver with
  | none => exact hs
  | some old => exact close_balanced hs hd

theorem dropContext_balanced (hs : s.Balanced) (slot : Nat) : (s.dropContext slot).Balanced := by
  unfold dropContext
  cases hc : s.contexts.get? slot with
  | none => exact hs
  | some old =>
    have hsplit := s.contexts.values_split slot
    rw [hc] at hsplit
    refine Accounted.release (c := old) (hs.perm (.refl _) ?_) (mem_contexts _)
    rw [List.perm_iff_count] at hsplit ⊢
    intro c
    have := hsplit c
    simp only [holders, imports, Option.toList_some, List.cons_append, List.nil_append,
      List.count_append, List.count_cons] at this ⊢
    omega

/-- A client keeps a context that is held already, in place of the one it kept before. -/
theorem storeContext_balanced (hs : s.Balanced) {c : Context} (hc : c ∈ s.holders) (slot : Nat) :
    (s.storeContext slot c).Balanced := by
  have hsplit := s.contexts.values_split slot
  have hput := s.contexts.values_put slot c
  rw [List.perm_iff_count] at hsplit hput
  have hheld := Accounted.hold hs hc
  unfold storeContext Balanced
  cases ho : s.contexts.get? slot with
  | none =>
    refine hheld.perm (.refl _) ?_
    rw [List.perm_iff_count]
    intro d
    have := hsplit d
    have := hput d
    simp only [ho, holders, imports, Option.toList_none, List.nil_append, List.count_append,
      List.count_cons] at *
    omega
  | some old =>
    refine Accounted.release (hheld.perm (.refl _) ?_) (mem_contexts _)
    rw [List.perm_iff_count]
    intro d
    have := hsplit d
    have := hput d
    simp only [ho, holders, imports, Option.toList_some, List.cons_append, List.nil_append,
      List.count_append, List.count_cons] at *
    omega

/-! ### Operations -/

/-- A new buffer is in focus while the others wait. -/
theorem onNew_balanced {I : List Import} {H : List Context} {f : Focus} (m : Metadata)
    (hf : (Focus.mk f.host f.driver {}).Balanced I H) : (Allocator.onNew m f).Balanced I H := hf

/-- Making a buffer is refused at once, or goes on with a new buffer, which has no handle until it
succeeds. -/
theorem makeBuffer_balanced (hs : s.Balanced) (hd : s.drivers.get? driver = some d)
    {act : FocusM Unit} (h : Yields act ⟨s.host, d, {}⟩
      (fun _ f => ∃ m demand,
        Effect s.allocator (Allocator.onNew m ⟨s.host, d, {}⟩) demand none f)
      (fun e f => f = ⟨s.host, d, {}⟩ ∨ ∃ m demand,
        Effect s.allocator (Allocator.onNew m ⟨s.host, d, {}⟩) demand (some e) f)) :
    (s.makeBuffer driver buffer d act).1.Balanced := by
  have hnew := balanced_driver hs hd
  unfold makeBuffer
  cases hr : act { host := s.host, driver := d } with
  | ok _ f =>
    obtain ⟨m, demand, he⟩ := h.of_ok hr
    have hf := he.balanced (onNew_balanced m hnew)
    apply storeBuffer_balanced
    refine Accounted.perm hf (.refl _) ?_
    have hput := s.drivers.collect_put Driver.context? driver f.driver
    rw [List.perm_iff_count] at hput ⊢
    intro c
    have := hput c
    simp only [resume, holders, imports, others, List.map_append, List.count_append] at this ⊢
    omega
  | error e f =>
    have hf : f.Balanced s.imports (s.others driver) ∧ f.buffer.import? = none := by
      rcases h.of_error hr with rfl | ⟨m, demand, he⟩
      · exact ⟨hnew, rfl⟩
      · exact ⟨he.balanced (onNew_balanced m hnew), he.import_eq⟩
    obtain ⟨hf, hn⟩ := hf
    apply balanced_put
    unfold Focus.Balanced at hf
    rw [hn, List.append_assoc] at hf
    exact hf

theorem changeBuffer_balanced {act : FocusM Unit}
    (h : Yields act ⟨s.host, d, b⟩
      (fun _ f => f.Balanced (s.importsBut buffer) (s.others driver))
      (fun _ f => f.Balanced (s.importsBut buffer) (s.others driver))) :
    (s.changeBuffer driver buffer d b act).1.Balanced := by
  unfold Yields at h
  unfold changeBuffer
  cases hr : act ⟨s.host, d, b⟩ with
  | ok _ f =>
    rw [hr] at h
    exact balanced_resume_buffer h
  | error e f =>
    rw [hr] at h
    exact balanced_resume_buffer h

theorem mapBuffer_balanced (hs : s.Balanced) (hd : s.drivers.get? driver = some d)
    (hb : s.buffers.get? buffer = some b) (mapping : Nat) (flags : MapFlags) :
    (s.mapBuffer driver buffer mapping flags d b).1.Balanced := by
  have hf := balanced_buffer hs hd hb
  have h := Allocator.mapBuffer_effect s.allocator flags ⟨s.host, d, b⟩
  unfold mapBuffer backend
  cases hr : (Allocator.backend s.allocator).mapBuffer flags ⟨s.host, d, b⟩ with
  | ok m f => exact balanced_resume_buffer ((h.of_ok hr).balanced hf)
  | error e f => exact balanced_resume_buffer ((h.of_error hr).balanced hf)

theorem unmapBuffer_balanced (hs : s.Balanced) (hd : s.drivers.get? driver = some d)
    (hb : s.buffers.get? buffer = some b) (mapping : Nat) (m : Mapping) :
    (s.unmapBuffer driver buffer mapping d b m).1.Balanced := by
  have hf := balanced_buffer hs hd hb
  have h := Allocator.unmapBuffer_effect s.allocator m ⟨s.host, d, b⟩
  unfold unmapBuffer backend
  cases hr : (Allocator.backend s.allocator).unmapBuffer m ⟨s.host, d, b⟩ with
  | ok m f => exact balanced_resume_buffer ((h.of_ok hr).balanced hf)
  | error e f => exact balanced_resume_buffer ((h.of_error hr).balanced hf)

theorem takeContext_balanced (hs : s.Balanced) (hd : s.drivers.get? driver = some d)
    (mapOnly : Bool) (slot : Option Nat) (format : Format) :
    (s.takeContext driver mapOnly slot format d).1.Balanced := by
  have hf := balanced_driver hs hd
  have h := Allocator.context_requires s.allocator mapOnly ⟨s.host, d, {}⟩
  unfold takeContext
  cases hr : Allocator.context s.allocator mapOnly ⟨s.host, d, {}⟩ with
  | error e f =>
    have hq := h.of_error hr
    have hq' := hq.balanced hf
    unfold Focus.Balanced at hq'
    rw [hq.buffer, List.append_assoc] at hq'
    exact balanced_put hq'
  | ok c f =>
    have hq := h.of_ok hr
    have hq' := hq.balanced hf
    unfold Focus.Balanced at hq'
    rw [hq.buffer, List.append_assoc] at hq'
    have hresume : (s.resume driver f).Balanced := balanced_put hq'
    cases slot with
    | none => exact hresume
    | some slot =>
      refine storeContext_balanced hresume ?_ slot
      have hsplit := (s.resume driver f).holders_split driver
      have hget : (s.resume driver f).drivers.get? driver = some f.driver :=
        Slots.get?_put_self _ _ _
      rw [hget, Option.bind_some, hq.context] at hsplit
      exact hsplit.mem_iff.mpr List.mem_cons_self

theorem openDriver_balanced (hs : s.Balanced) (driver : Nat) :
    (s.openDriver driver).1.Balanced := by
  refine storeDriver_balanced (s := { s with host := _ }) ?_ rfl driver
  exact Accounted.log hs (.log .info _ trivial)

theorem createBuffer_balanced (hs : s.Balanced) (hd : s.drivers.get? driver = some d) (buffer : Nat)
    (r : BufferRequest) : (s.makeBuffer driver buffer d
      (s.backend.createBuffer r.width r.height r.format r.useFlags)).1.Balanced := by
  apply makeBuffer_balanced hs hd
  apply (Allocator.createBuffer_effect s.allocator _ _ _ _ _).imp
  · exact fun _ _ ⟨m, _, he⟩ => ⟨m, some false, he⟩
  · exact fun _ _ h => h.imp And.right fun ⟨m, _, he⟩ => ⟨m, some false, he⟩

theorem wrapBuffer_balanced (hs : s.Balanced) (hd : s.drivers.get? driver = some d) (buffer : Nat)
    (data : ImportData) (described : Except Error Metadata) :
    (s.makeBuffer driver buffer d (s.backend.wrapBuffer data described)).1.Balanced := by
  apply makeBuffer_balanced hs hd
  apply (Allocator.wrapBuffer_effect s.allocator data described _).imp
  · exact fun _ _ ⟨m, _, he⟩ => ⟨m, _, he⟩
  · exact fun _ _ h => h.imp And.right fun ⟨m, _, he⟩ => ⟨m, _, he⟩

theorem createOn_balanced (hs : s.Balanced) (hd : s.drivers.get? driver = some d)
    (hb : s.buffers.get? buffer = some b) (r : BufferRequest) : (s.changeBuffer driver buffer d b
      (s.backend.create r.width r.height r.format r.useFlags)).1.Balanced := by
  have hf := balanced_buffer hs hd hb
  apply changeBuffer_balanced
  exact (Allocator.create_effect s.allocator r.useFlags ⟨s.host, d, b⟩).imp
    (fun _ _ he => he.balanced hf) (fun _ _ he => he.balanced hf)

theorem importOn_balanced (hs : s.Balanced) (hd : s.drivers.get? driver = some d)
    (hb : s.buffers.get? buffer = some b) (data : ImportData) :
    (s.changeBuffer driver buffer d b (s.backend.importData data)).1.Balanced := by
  have hf := balanced_buffer hs hd hb
  apply changeBuffer_balanced
  exact (Allocator.importData_effect s.allocator data ⟨s.host, d, b⟩).imp
    (fun _ _ he => he.balanced hf) (fun _ _ he => he.balanced hf)

/-- Exporting a plane asks for a duplicate at most. -/
theorem exportPlane_balanced (hs : s.Balanced) {act : HostM Descriptor}
    (h : Adds Event.IsLog act) : (s.exportPlane act).1.Balanced := by
  have hadds := h s.host
  unfold exportPlane
  cases hr : act s.host with
  | ok d h' => exact Accounted.log hs (hadds.of_ok hr)
  | error e h' => exact Accounted.log hs (hadds.of_error hr)

theorem step_balanced (hs : s.Balanced) (op : Operation) : (s.step op).1.Balanced := by
  cases op with
  | script | setNodes | makeMemory =>
    exact Accounted.congr hs rfl rfl rfl
  | makeStream => exact hs
  | openDriver driver => exact openDriver_balanced hs driver
  | dropDriver driver => exact dropDriver_balanced hs driver
  | dropBuffer buffer => exact dropBuffer_balanced hs buffer
  | releaseContext slot => exact dropContext_balanced hs slot
  | defaultBuffer buffer m => exact storeBuffer_balanced hs
  | inspectBuffer | hasBacking => exact onBuffer_of hs fun _ _ => hs
  | backendPlane buffer plane =>
    exact onBuffer_of hs fun b _ => exportPlane_balanced hs (Allocator.planeDescriptor_adds b plane)
  | editMetadata buffer edit =>
    exact onBuffer_of hs fun b hb => editMetadata_balanced hs hb _
  | attachForeign | detachBuffer | backendDestroy =>
    exact onBuffer_of hs fun b hb => replace_balanced hs hb rfl
  | setToken | inspectMapping => exact onMapping_of hs fun _ _ => hs
  | create driver buffer r =>
    exact onDriver_of hs fun d hd => createBuffer_balanced hs hd buffer r
  | importBuffer driver buffer slots data =>
    exact onDriver_of hs fun d hd => onDescriptors_of hs fun ds _ =>
      importBuffer_result (q := fun r => r.1.Balanced) (fun _ => hs) fun m _ =>
        wrapBuffer_balanced hs hd buffer _ m
  | backendCreate driver buffer r =>
    exact onDriver_of hs fun d hd => onBuffer_of hs fun b hb =>
      createOn_balanced hs hd hb r
  | backendImport driver buffer slots data =>
    exact onDriver_of hs fun d hd => onDescriptors_of hs fun ds _ =>
      onBuffer_of hs fun b hb => importOn_balanced hs hd hb _
  | destroy driver buffer =>
    exact onDriver_of hs fun d _ => onBuffer_of hs fun b hb =>
      replace_balanced hs hb rfl
  | plane driver buffer plane =>
    exact onDriver_of hs fun _ _ => onBuffer_of hs fun b _ =>
      exportPlane_balanced hs (Allocator.bufferPlane_adds s.allocator b plane)
  | map driver buffer mapping flags =>
    exact onDriver_of hs fun d hd => onBuffer_of hs fun b hb =>
      mapBuffer_balanced hs hd hb mapping flags
  | unmap driver buffer mapping =>
    exact onDriver_of hs fun d hd => onBuffer_of hs fun b hb =>
      onMapping_of hs fun m _ => unmapBuffer_balanced hs hd hb mapping m
  | context driver mapOnly slot format =>
    exact onDriver_of hs fun d hd => takeContext_balanced hs hd mapOnly slot format
  | close driver => exact onDriver_of hs fun d hd => closeDriver_balanced hs hd
  | name | resolve | combinations | best => exact onDriver_of hs fun _ _ => hs
  | attachForeignToDriver | detachDriver =>
    exact onDriver_of hs fun d hd => replaceDriverState_balanced hs hd rfl
  | addCombination | addCombinations | widen | widenLinear =>
    exact onDriver_of hs fun d hd => setCombinations_balanced hs hd _

/-! ### Runs -/

theorem start_balanced (a : Allocator) {h : Host} (he : h.events = []) (hh : h.held = []) :
    (start a h).1.Balanced := by
  have hempty : Balanced { allocator := a, host := h } := by
    refine ⟨⟨{ loads := h.loads }, ?_, ?_⟩, ?_⟩
    · rw [he]
      exact .nil _
    · refine ⟨rfl, rfl, rfl, .refl _, fun c => ?_⟩
      simp [holders, imports, Slots.collect, Slots.values]
    · rw [hh]
      exact .refl _
  exact openDriver_balanced hempty 0

/-- What any operations lead to, from one driver on a host where nothing happened yet. -/
inductive Reachable : Session → Prop
  | start (a : Allocator) {h : Host} (he : h.events = []) (hh : h.held = []) :
      Reachable (start a h).1
  | step {s : Session} (h : Reachable s) (op : Operation) : Reachable (s.step op).1

theorem Reachable.run (h : Reachable s) (ops : List Operation) : Reachable (s.run ops) := by
  induction ops generalizing s with
  | nil => exact h
  | cons op ops ih => exact ih (h.step op)

theorem Reachable.balanced (h : Reachable s) : s.Balanced := by
  induction h with
  | start a he hh => exact start_balanced a he hh
  | step _ op ih => exact step_balanced ih op

/-! ### The end of a session -/

theorem dropAll_balanced (hs : s.Balanced) (bs cs ds : List Nat) :
    Balanced (ds.foldl dropDriver (cs.foldl dropContext (bs.foldl dropBuffer s))) := by
  have hb : (bs.foldl dropBuffer s).Balanced := by
    induction bs generalizing s with
    | nil => exact hs
    | cons n bs ih => exact ih (dropBuffer_balanced hs n)
  generalize bs.foldl dropBuffer s = t at hb ⊢
  have hc : (cs.foldl dropContext t).Balanced := by
    induction cs generalizing t with
    | nil => exact hb
    | cons n cs ih => exact ih _ (dropContext_balanced hb n)
  generalize cs.foldl dropContext t = u at hc ⊢
  induction ds generalizing u with
  | nil => exact hc
  | cons n ds ih => exact ih _ (dropDriver_balanced hc n)

theorem finish_balanced (hs : s.Balanced) : s.finish.Balanced :=
  dropAll_balanced (s := { s with mappings := {} }) hs _ _ _

theorem foldl_dropBuffer (ns : List Nat) (s : Session) :
    (ns.foldl dropBuffer s).buffers = ns.foldl Slots.erase s.buffers ∧
      (ns.foldl dropBuffer s).contexts = s.contexts ∧
      (ns.foldl dropBuffer s).drivers = s.drivers := by
  induction ns generalizing s with
  | nil => exact ⟨rfl, rfl, rfl⟩
  | cons n ns ih => exact ih (s.dropBuffer n)

theorem foldl_dropContext (ns : List Nat) (s : Session) :
    (ns.foldl dropContext s).buffers = s.buffers ∧
      (ns.foldl dropContext s).contexts = ns.foldl Slots.erase s.contexts ∧
      (ns.foldl dropContext s).drivers = s.drivers := by
  induction ns generalizing s with
  | nil => exact ⟨rfl, rfl, rfl⟩
  | cons n ns ih =>
    have hone : (s.dropContext n).buffers = s.buffers ∧
        (s.dropContext n).contexts = s.contexts.erase n ∧
        (s.dropContext n).drivers = s.drivers := by
      unfold dropContext
      cases hc : s.contexts.get? n with
      | none => exact ⟨rfl, (Slots.erase_vacant hc).symm, rfl⟩
      | some c => exact ⟨rfl, rfl, rfl⟩
    obtain ⟨hb, hc, hd⟩ := hone
    have := ih (s.dropContext n)
    rwa [hb, hc, hd] at this

theorem foldl_dropDriver (ns : List Nat) (s : Session) :
    (ns.foldl dropDriver s).buffers = s.buffers ∧
      (ns.foldl dropDriver s).contexts = s.contexts ∧
      (ns.foldl dropDriver s).drivers = ns.foldl Slots.erase s.drivers := by
  induction ns generalizing s with
  | nil => exact ⟨rfl, rfl, rfl⟩
  | cons n ns ih =>
    have hone : (s.dropDriver n).buffers = s.buffers ∧
        (s.dropDriver n).contexts = s.contexts ∧
        (s.dropDriver n).drivers = s.drivers.erase n := by
      unfold dropDriver
      cases hd : s.drivers.get? n with
      | none => exact ⟨rfl, rfl, (Slots.erase_vacant hd).symm⟩
      | some d => exact ⟨rfl, rfl, rfl⟩
    obtain ⟨hb, hc, hd⟩ := hone
    have := ih (s.dropDriver n)
    rwa [hb, hc, hd] at this

/-- In the end nothing holds a context. -/
theorem finish_holders (s : Session) : s.finish.imports = [] ∧ s.finish.holders = [] := by
  obtain ⟨hb, hc, hd⟩ :=
    foldl_dropBuffer (s.buffers.entries.map Prod.fst) { s with mappings := {} }
  unfold finish
  dsimp only
  generalize (s.buffers.entries.map Prod.fst).foldl dropBuffer { s with mappings := {} } = t
    at hb hc hd ⊢
  obtain ⟨hb', hc', hd'⟩ := foldl_dropContext (t.contexts.entries.map Prod.fst) t
  generalize (t.contexts.entries.map Prod.fst).foldl dropContext t = u at hb' hc' hd' ⊢
  obtain ⟨hb'', hc'', hd''⟩ := foldl_dropDriver (u.drivers.entries.map Prod.fst) u
  have hi : (Session.imports ((u.drivers.entries.map Prod.fst).foldl dropDriver u)) = [] := by
    rw [imports, hb'', hb', hb, Slots.collect, Slots.values_erase_all]
    rfl
  refine ⟨hi, ?_⟩
  rw [holders, hi, hd'', hc'', hc', Slots.collect, Slots.values_erase_all, Slots.values_erase_all]
  rfl

end Session

end GraphicsBuffers
