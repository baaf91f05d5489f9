import GraphicsBuffers.Proofs.Demand
import GraphicsBuffers.Proofs.Trace

/-!
The context of a driver is created when it is first demanded, and every later operation shares it
until the driver is closed.
-/

namespace GraphicsBuffers

/-- The context on whose device a call allocates or imports, or which it creates. -/
def Event.device? : Event → Option Context
  | .call (.createDevice library _ (some device)) => some ⟨library, device⟩
  | .call (.alloc library device _) => some ⟨library, device⟩
  | .call (.importBuffer library device _ _) => some ⟨library, device⟩
  | _ => none

theorem Event.device_of_created {e : Event} {c : Context} (h : e.created? = some c) :
    e.device? = some c := by
  unfold created? at h
  split at h
  · exact h
  · cases h

theorem Event.On.device {e : Event} {c : Context} (h : e.On c) : ∀ d ∈ e.device?, d = c := by
  intro d hd
  unfold On at h
  split at h
  all_goals first | exact h.elim | exact (Option.some.inj hd).symm.trans h | cases hd

theorem Event.On.created {e : Event} {c : Context} (h : e.On c) : e.created? = none := by
  unfold On at h
  split at h
  all_goals first | exact h.elim | rfl

theorem Event.IsRelease.device {e : Event} (h : e.IsRelease) : e.device? = none := by
  unfold IsRelease at h
  split at h
  all_goals first | exact h.elim | rfl

theorem Event.IsProbe.device {e : Event} (h : e.IsProbe) : e.device? = none := by
  unfold IsProbe at h
  split at h
  all_goals first | exact h.elim | rfl

theorem created_of_devices {es : List Event} (h : ∀ e ∈ es, e.device? = none) :
    created es = [] := by
  apply List.filterMap_eq_nil_iff.mpr
  intro e he
  cases hc : e.created? with
  | none => rfl
  | some c =>
    have := h e he
    rw [Event.device_of_created hc] at this
    cases this

theorem created_append (es es' : List Event) : created (es ++ es') = created es ++ created es' :=
  List.filterMap_append

namespace Attempt

variable {a : Allocator} {mapOnly : Bool} {h : Host} {es : List Event} {n : Nat}
  {found : Option Context}

theorem search_device (a : Allocator) (mapOnly : Bool) {probes : List Event}
    (hp : ∀ e ∈ probes, e.IsProbe) :
    ∀ e ∈ .call (.findNodes a.nodes mapOnly) :: probes, e.device? = none := by
  intro e he
  rcases List.mem_cons.mp he with rfl | he
  · rfl
  · exact (hp e he).device

/-- An attempt creates what it comes to, and neither allocates nor imports. -/
theorem device (ha : Attempt a mapOnly h es n found) : ∀ e ∈ es, ∀ c ∈ e.device?, found = some c := by
  intro e he c hc
  cases ha.each e he with
  | search | load | unload => cases hc
  | probe hp =>
    rw [hp.device] at hc
    cases hc
  | @create library node device hd =>
    cases device with
    | none => cases hc
    | some device => exact hd.trans hc

theorem created_eq (ha : Attempt a mapOnly h es n found) :
    GraphicsBuffers.created es = found.toList := by
  cases hf : found with
  | none =>
    apply created_of_devices
    intro e he
    cases hc : e.device? with
    | none => rfl
    | some c =>
      have := ha.device e he c hc
      rw [hf] at this
      cases this
  | some c =>
    subst hf
    cases ha with
    | created hp =>
      rw [created_append, created_of_devices (search_device a mapOnly hp), List.nil_append]
      rfl

end Attempt

/-- The driver whose context the operation may come to use. -/
def Operation.user? : Operation → Option Nat
  | .create driver .. | .importBuffer driver .. | .backendCreate driver .. => some driver
  | .backendImport driver .. | .map driver .. | .unmap driver .. => some driver
  | .context driver .. => some driver
  | _ => none

namespace Session

theorem demand_user {s : Session} {op : Operation} {driver : Nat} {mapOnly : Bool}
    (h : s.demand op = some (driver, mapOnly)) : op.user? = some driver := by
  cases op with
  | create | map | backendCreate =>
    simp only [demand, Option.bind_eq_bind, Option.bind_eq_some_iff] at h
    obtain ⟨_, -, _, -, h⟩ := h
    cases h
    rfl
  | unmap =>
    simp only [demand, Option.bind_eq_bind, Option.bind_eq_some_iff] at h
    obtain ⟨_, -, _, -, _, -, h⟩ := h
    cases h
    rfl
  | importBuffer =>
    simp only [demand, Option.bind_eq_bind, Option.bind_eq_some_iff] at h
    obtain ⟨_, -, _, -, _, -, _, -, _, -, h⟩ := h
    cases h
    rfl
  | backendImport =>
    simp only [demand, Option.bind_eq_bind, Option.bind_eq_some_iff] at h
    obtain ⟨_, -, _, -, _, -, _, -, h⟩ := h
    cases h
    rfl
  | context =>
    simp only [demand, Option.bind_eq_bind, Option.bind_eq_some_iff] at h
    obtain ⟨_, -, h⟩ := h
    cases h
    rfl
  | _ => cases h

/-- What happens to one driver from a session to another in which it is not closed: one context is
created at most, and that one, or the one that was there, is the only one in use. -/
structure Period (s : Session) (driver : Nat) (es : List Event) (s' : Session) : Prop where
  events : s'.host.events = s.host.events ++ es
  once : (created es).length ≤ 1
  kept : ∀ c, s.contextOf driver = some c → s'.contextOf driver = some c ∧ created es = []
  device : ∀ e ∈ es, ∀ c ∈ e.device?, s'.contextOf driver = some c

variable {s s' s'' : Session} {driver : Nat} {es es' : List Event} {op : Operation}

theorem Period.refl (s : Session) (driver : Nat) : s.Period driver [] s :=
  ⟨by simp, by simp [created], fun c hc => ⟨hc, rfl⟩, by simp⟩

theorem Period.trans (h : s.Period driver es s') (h' : s'.Period driver es' s'') :
    s.Period driver (es ++ es') s'' := by
  refine ⟨by rw [h'.events, h.events, List.append_assoc], ?_, ?_, ?_⟩
  · rw [created_append]
    cases hc : s'.contextOf driver with
    | some c =>
      rw [(h'.kept c hc).2, List.append_nil]
      exact h.once
    | none =>
      have hnone : created es = [] := by
        apply created_of_devices
        intro e he
        cases hd : e.device? with
        | none => rfl
        | some c =>
          have := h.device e he c hd
          rw [hc] at this
          cases this
      rw [hnone, List.nil_append]
      exact h'.once
  · intro c hc
    obtain ⟨hc, hn⟩ := h.kept c hc
    obtain ⟨hc, hn'⟩ := h'.kept c hc
    exact ⟨hc, by rw [created_append, hn, hn']; rfl⟩
  · intro e he c hc
    rcases List.mem_append.mp he with he | he
    · exact (h'.kept c (h.device e he c hc)).1
    · exact h'.device e he c hc

theorem Abstains.period {closed : Option Nat} (h : s.Abstains closed s')
    (hk : closed ≠ some driver) : ∃ es, s.Period driver es s' := by
  obtain ⟨es, hevents, hes⟩ := h.releases
  have hnone : created es = [] := created_of_devices fun e he => (hes e he).device
  refine ⟨es, hevents, by simp [hnone], fun c hc => ⟨?_, hnone⟩, ?_⟩
  · rw [h.context driver hk, hc]
  · intro e he c hc
    rw [(hes e he).device] at hc
    cases hc

theorem Meets.period {mapOnly asks : Bool} {r : Session × Answer}
    (h : s.Meets driver mapOnly asks r) : ∃ es, s.Period driver es r.1 := by
  have hd := h.draws
  generalize hb : s.contextOf driver = before at hd
  generalize hc : r.1.contextOf driver = after at hd
  generalize hh : r.1.host = host at hd
  cases hd with
  | @shared c _ hu =>
    obtain ⟨es, hevents, hes⟩ := hu
    have hnone : created es = [] :=
      List.filterMap_eq_nil_iff.mpr fun e he => (hes e he).created
    refine ⟨es, by rw [hh, hevents], by simp [hnone], ?_, ?_⟩
    · intro d hd
      rw [hb] at hd
      rw [hc, hd]
      exact ⟨rfl, hnone⟩
    · intro e he d hd
      rw [hc, (hes e he).device d hd]
  | @created _ c h₁ _ ha hu =>
    obtain ⟨es, hevents, hes⟩ := ha.events
    obtain ⟨es', hevents', hes'⟩ := hu
    have hnone : created es' = [] :=
      List.filterMap_eq_nil_iff.mpr fun e he => (hes' e he).created
    refine ⟨es ++ es', by rw [hh, hevents', hevents, Host.copied_events, List.append_assoc],
      ?_, ?_, ?_⟩
    · rw [created_append, hes.created_eq, hnone]
      exact Nat.le_refl 1
    · intro d hd
      rw [hb] at hd
      cases hd
    · intro e he d hd
      rw [hc]
      rcases List.mem_append.mp he with he | he
      · exact hes.device e he d hd
      · rw [(hes' e he).device d hd]
  | @failed _ h₁ _ ha hl =>
    obtain ⟨es, hevents, hes⟩ := ha.events
    obtain ⟨es', hevents', hes'⟩ := hl
    have hnone : created es' = [] :=
      created_of_devices fun e he => (hes' e he).isRelease.device
    refine ⟨es ++ es', by rw [hh, hevents', hevents, Host.copied_events, List.append_assoc],
      ?_, ?_, ?_⟩
    · rw [created_append, hes.created_eq, hnone]
      exact Nat.zero_le 1
    · intro d hd
      rw [hb] at hd
      cases hd
    · intro e he d hd
      rw [hc]
      rcases List.mem_append.mp he with he | he
      · exact hes.device e he d hd
      · rw [(hes' e he).isRelease.device] at hd
        cases hd

theorem step_period (s : Session) (hk : op.closes? ≠ some driver)
    (hu : ∀ n ∈ op.user?, n = driver) : ∃ es, s.Period driver es (s.step op).1 := by
  cases hd : s.demand op with
  | none => exact (step_abstains op hd).period hk
  | some demanded =>
    obtain ⟨n, mapOnly⟩ := demanded
    obtain rfl := hu n (demand_user hd)
    exact (step_meets op hd).period

theorem run_period (s : Session) (driver : Nat) {ops : List Operation}
    (h : ∀ op ∈ ops, op.closes? ≠ some driver ∧ ∀ n ∈ op.user?, n = driver) :
    ∃ es, s.Period driver es (s.run ops) := by
  induction ops generalizing s with
  | nil => exact ⟨[], .refl s driver⟩
  | cons op ops ih =>
    obtain ⟨hk, hu⟩ := h op List.mem_cons_self
    obtain ⟨es, hes⟩ := step_period s hk hu
    obtain ⟨es', hes'⟩ := ih (s.step op).1 fun o ho => h o (List.mem_cons_of_mem _ ho)
    exact ⟨es ++ es', hes.trans hes'⟩

/-- What an operation creates is a driver's context after it. -/
theorem step_created (s : Session) (op : Operation) :
    ∃ es, (s.step op).1.host.events = s.host.events ++ es ∧
      ∀ c ∈ created es, ∃ driver, (s.step op).1.contextOf driver = some c := by
  cases hd : s.demand op with
  | none =>
    obtain ⟨es, hevents, hes⟩ := (step_abstains op hd).releases
    refine ⟨es, hevents, ?_⟩
    rw [created_of_devices fun e he => (hes e he).device]
    simp
  | some demanded =>
    obtain ⟨driver, mapOnly⟩ := demanded
    obtain ⟨es, hp⟩ := (step_meets op hd).period
    refine ⟨es, hp.events, fun c hc => ⟨driver, ?_⟩⟩
    obtain ⟨e, he, hc⟩ := List.mem_filterMap.mp hc
    exact hp.device e he c (Event.device_of_created hc)

theorem step_close (s : Session) (driver : Nat) :
    (s.step (.close driver)).1.contextOf driver = none := by
  simp only [step, onDriver]
  cases hd : s.drivers.get? driver with
  | none => simp [contextOf, hd]
  | some d => simp [contextOf, closeDriver, backend, Allocator.backend, Allocator.close_no_context]

/-- An operation that demands no context lets go of things at most. One that demands a context
shares the driver's, or searches, loads and creates in this order up to the first failure, which
leaves nothing behind. So from one close of a driver to the next, one context at most is created for
it, and everything is allocated and imported on that one. -/
theorem lazy_context (s : Session) :
    (∀ op, s.demand op = none → s.Abstains op.closes? (s.step op).1) ∧
    (∀ op driver mapOnly, s.demand op = some (driver, mapOnly) →
      s.Meets driver mapOnly op.asksForContext (s.step op)) ∧
    (∀ driver, (s.step (.close driver)).1.contextOf driver = none) ∧
    ∀ driver ops, (∀ op ∈ ops, op.closes? ≠ some driver ∧ ∀ n ∈ op.user?, n = driver) →
      ∃ es, s.Period driver es (s.run ops) :=
  ⟨fun op h => step_abstains op h, fun op _ _ h => step_meets op h, step_close s,
    fun driver _ h => run_period s driver h⟩

/-- One driver, whose library will refuse the first device. -/
def refusedOnce : Session :=
  (start ⟨.supplied, .linked⟩ { supported := [.r8], answers := { devices := [false] } }).1

def createTwice : List Operation :=
  [.create 0 0 ⟨64, 4, .r8, .softwareReadOften⟩, .create 0 0 ⟨64, 4, .r8, .softwareReadOften⟩,
    .map 0 0 0 ⟨0⟩]

theorem lazy_context_of_refused :
    (refusedOnce.step (.create 0 0 ⟨64, 4, .r8, .softwareReadOften⟩)).2.error? =
      some Allocator.contextFailed ∧
    ∃ es, refusedOnce.Period 0 es (refusedOnce.run createTwice) ∧
      (refusedOnce.run createTwice).contextOf 0 = some ⟨⟨.linked, 2⟩, 1⟩ := by
  obtain ⟨-, hmeets, -, hperiod⟩ := lazy_context refusedOnce
  constructor
  · have hm := hmeets (.create 0 0 ⟨64, 4, .r8, .softwareReadOften⟩) 0 false (by decide +kernel)
    obtain ⟨⟨e, he, hfailed⟩, -⟩ := hm.failed (by decide +kernel)
    rw [he, hfailed rfl]
  · obtain ⟨es, hes⟩ := hperiod 0 createTwice (by decide)
    exact ⟨es, hes, by decide +kernel⟩

end Session

end GraphicsBuffers
