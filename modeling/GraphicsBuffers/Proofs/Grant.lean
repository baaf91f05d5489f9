import GraphicsBuffers.Proofs.Effect
import GraphicsBuffers.Proofs.Trace

/-!
Which of the library's answers an allocation rests on. Every request for memory takes up one answer,
and nothing else does.
-/

namespace GraphicsBuffers

/-! ### Requests and their answers -/

/-- The buffer that is offered for import. -/
def Event.offered? : Event → Option ImportRequest
  | .call (.importBuffer _ _ request _) => some request
  | _ => none

/-- Nothing is offered for import, and no handle is mapped, unmapped or freed. -/
def Event.IsAside (e : Event) : Prop := e.offered? = none ∧ e.use? = none

/-- The requests for memory. -/
def asked (es : List Event) : List AllocRequest := es.filterMap Event.asked?

theorem asked_append (es es' : List Event) : asked (es ++ es') = asked es ++ asked es' :=
  List.filterMap_append

/-- The buffers that are offered for import. -/
def offered (es : List Event) : List ImportRequest := es.filterMap Event.offered?

/-- What was added to the events from one host to the other. -/
def added (h h' : Host) : List Event := h'.events.drop h.events.length

theorem added_eq {h h' : Host} {es : List Event} (he : h'.events = h.events ++ es) :
    added h h' = es := by
  rw [added, he, List.drop_left]

/-- From one host to the other, `xs` is what `g` finds in the added events. -/
def Finds {α : Type} (g : Event → Option α) (h h' : Host) (xs : List α) : Prop :=
  ∃ es, h'.events = h.events ++ es ∧ es.filterMap g = xs

namespace Finds

variable {α : Type} {g : Event → Option α} {h h' h'' : Host} {xs xs' : List α} {es : List Event}

theorem none (he : h'.events = h.events ++ es) (hn : ∀ e ∈ es, g e = .none) : Finds g h h' [] :=
  ⟨es, he, List.filterMap_eq_nil_iff.mpr hn⟩

theorem trans (h₁ : Finds g h h' xs) (h₂ : Finds g h' h'' xs') : Finds g h h'' (xs ++ xs') := by
  obtain ⟨es, he, rfl⟩ := h₁
  obtain ⟨es', he', rfl⟩ := h₂
  exact ⟨es ++ es', by rw [he', he, List.append_assoc], List.filterMap_append⟩

theorem eq (hf : Finds g h h' xs) : (added h h').filterMap g = xs := by
  obtain ⟨es, he, rfl⟩ := hf
  rw [added_eq he]

/-- Behind the first event nothing more is found. -/
theorem single {e : Event} {rest : List Event} (he : h'.events = h.events ++ e :: rest)
    (hn : ∀ d ∈ rest, g d = .none) : Finds g h h' (g e).toList := by
  have hnone : rest.filterMap g = [] := List.filterMap_eq_nil_iff.mpr hn
  refine ⟨e :: rest, he, ?_⟩
  rw [List.filterMap_cons, hnone]
  cases g e <;> rfl

end Finds

/-- Each request with the answer that it takes up. Past the last answer, requests are granted. -/
def answered : List AllocAnswer → List AllocRequest → List (AllocRequest × AllocAnswer)
  | _, [] => []
  | answers, request :: rest => (request, answers.headD {}) :: answered answers.tail rest

theorem answered_append (answers : List AllocAnswer) (rs rs' : List AllocRequest) :
    answered answers (rs ++ rs') = answered answers rs ++ answered (answers.drop rs.length) rs' := by
  induction rs generalizing answers with
  | nil => rfl
  | cons r rs ih =>
    simp only [List.cons_append, answered, ih, List.length_cons, List.cons.injEq, true_and]
    rw [List.drop_add_one_eq_tail_drop, List.tail_drop, List.drop_tail]

/-- The answer comes with memory. -/
def AllocAnswer.grants (answer : AllocAnswer) : Bool := answer.status = 0 && answer.descriptor

/-- The bytes of one row of the memory that the answer grants to a request. -/
def AllocAnswer.rowBytes (answer : AllocAnswer) (request : AllocRequest) : UInt32 :=
  answer.stride.getD (Vendor.defaultStride request.width)

/-- Among the events is the request that was answered with the allocation. -/
def Granted (answers : List AllocAnswer) (es : List Event) (request : AllocRequest)
    (al : Vendor.Allocation) : Prop :=
  ∃ answer d, (request, answer) ∈ answered answers (asked es) ∧ answer.grants = true ∧
    d.size = .ok answer.size ∧ al = Vendor.allocate request answer d

/-- From one host to the other, `es` were added, in which no handle comes up. Each request for
memory took up one answer, and files may have been duplicated or inspected. -/
structure Takes (h : Host) (es : List Event) (h' : Host) : Prop where
  events : h'.events = h.events ++ es
  supported : h'.supported = h.supported
  allocs : h'.answers.allocs = h.answers.allocs.drop (asked es).length
  system : h'.answers.Follows h.answers
  aside : ∀ e ∈ es, e.IsAside

/-- Width and height are signed 32-bit integers. -/
def AllocRequest.Fits (request : AllocRequest) : Prop :=
  request.width.toNat < 0x80000000 ∧ request.height.toNat < 0x80000000

instance (request : AllocRequest) : Decidable request.Fits :=
  inferInstanceAs (Decidable (_ ∧ _))

/-- A request for memory, and what came of it. -/
structure AllocCall where
  request : AllocRequest
  outcome : Except Error Vendor.Allocation

/-- What comes of a request that meets the answer. One that is too large does not get that far. -/
inductive AllocCall.Meets (answer : AllocAnswer) : AllocCall → Prop
  | large {request : AllocRequest} (h : ¬request.Fits) : Meets answer ⟨request, .error .conversion⟩
  | refused {request : AllocRequest} (h : request.Fits) (hs : answer.status ≠ 0) :
      Meets answer ⟨request, .error (.component answer.status)⟩
  | empty {request : AllocRequest} (h : request.Fits) (hs : answer.status = 0)
      (hd : answer.descriptor = false) : Meets answer ⟨request, .error (.component (-22))⟩
  | granted {request : AllocRequest} {d : Descriptor} (h : request.Fits)
      (hg : answer.grants = true) (hd : d.size = .ok answer.size) :
      Meets answer ⟨request, .ok (Vendor.allocate request answer d)⟩

/-- From one host to the other, the call was made. -/
structure AllocCall.Made (h : Host) (call : AllocCall) (h' : Host) : Prop where
  meets : call.Meets (h.answers.allocs.headD {})
  takes : ∃ es, Takes h es h' ∧ asked es = if call.request.Fits then [call.request] else []

/-- From one host to the other, `requests` were offered for import. -/
def Offers (h h' : Host) (requests : List ImportRequest) : Prop :=
  ∃ es, h'.events = h.events ++ es ∧ offered es = requests

/-- From one host to the other, neither handles nor memory come up. -/
def Idles (h h' : Host) : Prop := ∃ es, Takes h es h' ∧ asked es = []

section

variable {h h' h'' : Host} {es es' : List Event} {request : AllocRequest} {al : Vendor.Allocation}

theorem Takes.nil (h : Host) : Takes h [] h := ⟨by simp, rfl, rfl, .refl _, by simp⟩

theorem Takes.trans (h₁ : Takes h es h') (h₂ : Takes h' es' h'') : Takes h (es ++ es') h'' := by
  refine ⟨by rw [h₂.events, h₁.events, List.append_assoc], h₂.supported.trans h₁.supported, ?_,
    h₁.system.trans h₂.system, ?_⟩
  · rw [h₂.allocs, h₁.allocs, List.drop_drop, asked_append, List.length_append]
  · intro e he
    rcases List.mem_append.mp he with he | he
    · exact h₁.aside e he
    · exact h₂.aside e he

theorem Takes.log (ht : Takes h es h') (level : LogLevel) (text : String) :
    Takes h (es ++ [.log level text]) (h'.log level text) :=
  ht.trans ⟨rfl, rfl, rfl, .refl _, List.forall_mem_singleton.mpr ⟨rfl, rfl⟩⟩

theorem Takes.supports (ht : Takes h es h') (f : Format) : h'.supports f = h.supports f := by
  unfold Host.supports
  rw [ht.supported]

/-- An answer that a request took up is the same whatever follows. -/
theorem answered_left {answers : List AllocAnswer} {x : AllocRequest × AllocAnswer}
    (hx : x ∈ answered answers (asked es)) (es' : List Event) :
    x ∈ answered answers (asked (es ++ es')) := by
  rw [asked_append, answered_append]
  exact List.mem_append_left _ hx

theorem Takes.answered_right (ht : Takes h es h') {x : AllocRequest × AllocAnswer}
    (hx : x ∈ answered h'.answers.allocs (asked es')) :
    x ∈ answered h.answers.allocs (asked (es ++ es')) := by
  rw [asked_append, answered_append, ← ht.allocs]
  exact List.mem_append_right _ hx

theorem Granted.left (hg : Granted h.answers.allocs es request al) (es' : List Event) :
    Granted h.answers.allocs (es ++ es') request al := by
  obtain ⟨answer, d, hm, hrest⟩ := hg
  exact ⟨answer, d, answered_left hm es', hrest⟩

theorem Granted.right (ht : Takes h es h') (hg : Granted h'.answers.allocs es' request al) :
    Granted h.answers.allocs (es ++ es') request al := by
  obtain ⟨answer, d, hm, hrest⟩ := hg
  exact ⟨answer, d, ht.answered_right hm, hrest⟩

theorem Offers.none (he : h'.events = h.events ++ es) (hn : ∀ e ∈ es, e.offered? = none) :
    Offers h h' [] := Finds.none he hn

theorem Offers.trans {rs rs' : List ImportRequest} (h₁ : Offers h h' rs)
    (h₂ : Offers h' h'' rs') : Offers h h'' (rs ++ rs') := Finds.trans h₁ h₂

theorem Offers.eq {rs : List ImportRequest} (h₁ : Offers h h' rs) :
    offered (added h h') = rs := Finds.eq h₁

theorem Takes.offers (ht : Takes h es h') : Offers h h' [] :=
  .none ht.events fun e he => (ht.aside e he).1

theorem Idles.silent (he : h'.events = h.events) (hs : h'.supported = h.supported)
    (ha : h'.answers.allocs = h.answers.allocs) (hf : h'.answers.Follows h.answers) : Idles h h' :=
  ⟨[], ⟨by simp [he], hs, ha, hf, by simp⟩, rfl⟩

theorem Idles.asks (hi : Idles h h') : Finds Event.asked? h h' [] := by
  obtain ⟨es, ht, hn⟩ := hi
  exact ⟨es, ht.events, hn⟩

theorem Idles.offers (hi : Idles h h') : Offers h h' [] := by
  obtain ⟨es, ht, -⟩ := hi
  exact ht.offers

theorem Idles.allocs (hi : Idles h h') : h'.answers.allocs = h.answers.allocs := by
  obtain ⟨es, ht, hn⟩ := hi
  rw [ht.allocs, hn]
  rfl

theorem Idles.refl (h : Host) : Idles h h := .silent rfl rfl rfl (.refl _)

theorem Idles.system (hi : Idles h h') : h'.answers.Follows h.answers := by
  obtain ⟨es, ht, -⟩ := hi
  exact ht.system

theorem Idles.trans (h₁ : Idles h h') (h₂ : Idles h' h'') : Idles h h'' := by
  obtain ⟨es, ht, hn⟩ := h₁
  obtain ⟨es', ht', hn'⟩ := h₂
  exact ⟨es ++ es', ht.trans ht', by rw [asked_append, hn, hn']; rfl⟩

theorem Idles.of_appends {p : Event → Prop} (hp : ∀ e, p e → e.asked? = none ∧ e.IsAside)
    (hh : Appends p h h') : Idles h h' := by
  obtain ⟨es, hevents, hes⟩ := hh.events
  have hnone : asked es = [] := List.filterMap_eq_nil_iff.mpr fun e he => (hp e (hes e he)).1
  refine ⟨es, ⟨hevents, hh.supported, ?_, hh.system, fun e he => (hp e (hes e he)).2⟩, hnone⟩
  rw [hnone]
  exact hh.allocs fun e he => (hp e he).1

theorem Idles.record (h : Host) (c : Call) (hc : (Event.call c).asked? = none)
    (ha : (Event.call c).IsAside) : Idles h (h.record c) :=
  .of_appends (p := fun e => e.asked? = none ∧ e.IsAside) (fun _ he => he) (.record c ⟨hc, ha⟩)

theorem Idles.log (h : Host) (level : LogLevel) (text : String) : Idles h (h.log level text) :=
  .of_appends (p := fun e => e.asked? = none ∧ e.IsAside) (fun _ he => he)
    (.log level text ⟨rfl, rfl, rfl⟩)

end

theorem Event.IsProbe.aside {e : Event} (h : e.IsProbe) : e.asked? = none ∧ e.IsAside := by
  unfold IsProbe at h
  split at h
  all_goals first | exact h.elim | exact ⟨rfl, rfl, rfl⟩

theorem Event.IsLog.aside {e : Event} (h : e.IsLog) : e.asked? = none ∧ e.IsAside := by
  cases e with
  | log => exact ⟨rfl, rfl, rfl⟩
  | call => exact h.elim

/-! ### The context -/

namespace Vendor

theorem load_idles (source : LibrarySource) (h : Host) :
    Yields (load source) h (fun _ h' => Idles h h') (fun _ h' => Idles h h') := by
  have hreserve : Idles h (reserve h source).2 := by
    cases source <;> exact .silent rfl rfl rfl (.of_eq rfl rfl)
  simp only [Yields, load]
  cases hr : reserve h source with
  | mk outcome h₁ =>
    rw [hr] at hreserve
    cases outcome with
    | ok _ =>
      have hloads : Idles h₁ { h₁ with loads := h₁.loads + 1 } := .silent rfl rfl rfl (.refl _)
      exact (hreserve.trans hloads).trans (.record _ _ rfl ⟨rfl, rfl⟩)
    | error e =>
      have hload := hreserve.trans (.record h₁ (.load source none) rfl ⟨rfl, rfl⟩)
      cases source with
      | linked => exact hload
      | shared => exact hload.trans (.log _ _ _)

theorem createDevice_idles (library : Library) (node : Option FileName) (h : Host) :
    Idles h (createDevice library node h).2 := by
  unfold createDevice
  dsimp only
  split <;>
    exact ⟨[_], ⟨rfl, rfl, rfl, .of_eq rfl rfl, List.forall_mem_singleton.mpr ⟨rfl, rfl⟩⟩, rfl⟩

end Vendor

namespace Allocator

variable (a : Allocator)

theorem createContext_idles (mapOnly : Bool) (h : Host) :
    Yields (createContext a mapOnly) h (fun _ h' => Idles h h') (fun _ h' => Idles h h') := by
  have hprobes {h' : Host}
      (hp : Appends Event.IsProbe (h.record (.findNodes a.nodes mapOnly)) h') : Idles h h' :=
    (Idles.record h _ rfl ⟨rfl, rfl⟩).trans (.of_appends (fun _ he => he.aside) hp)
  unfold createContext
  rw [yields_bind]
  apply (Discovery.findNodes_adds a.nodes mapOnly h).imp
  · intro nodes h₁ hp
    rw [yields_bind]
    apply (Vendor.load_idles a.library h₁).imp
    · intro library h₂ hl
      simp only [yields_bind, yields_get]
      have hd := ((hprobes hp).trans hl).trans
        (Vendor.createDevice_idles library (some nodes.device) h₂)
      generalize Vendor.createDevice library (some nodes.device) h₂ = made at hd ⊢
      obtain ⟨device, h₃⟩ := made
      dsimp only at hd ⊢
      rw [yields_set]
      cases device with
      | some device => exact hd
      | none => exact (hd.trans (.log h₃ _ _)).trans (.record _ _ rfl ⟨rfl, rfl⟩)
    · exact fun _ h₂ hl => (hprobes hp).trans hl
  · exact fun _ h₁ hp => hprobes hp

theorem context_idles (mapOnly : Bool) (f : Focus) :
    Yields (context a mapOnly) f (fun _ f' => Idles f.host f'.host ∧ f'.buffer = f.buffer)
      (fun _ f' => Idles f.host f'.host ∧ f'.buffer = f.buffer) := by
  unfold context
  simp only [yields_bind, yields_get]
  cases hc : f.driver.context? with
  | some c => exact ⟨.refl _, rfl⟩
  | none =>
    simp only [yields_bind, yields_onHost]
    apply (createContext_idles a mapOnly f.host).imp
    · intro c h hi
      simp only [yields_modify, yields_log, yields_pure, publish, detach_no_context hc]
      have hhold : Idles h (h.hold c) := .silent rfl rfl rfl (.refl _)
      exact ⟨(hi.trans hhold).trans (.log _ _ _), trivial⟩
    · exact fun _ h hi => ⟨hi, trivial⟩

theorem requireContext_idles (mapOnly : Bool) (f : Focus) :
    Yields (requireContext a mapOnly) f (fun _ f' => Idles f.host f'.host ∧ f'.buffer = f.buffer)
      (fun _ f' => Idles f.host f'.host ∧ f'.buffer = f.buffer) := by
  unfold requireContext
  rw [yields_bind, yields_attempt]
  apply (context_idles a mapOnly f).imp
  · exact fun _ _ h => h
  · intro e f' h
    rw [yields_bind, yields_log, yields_throw]
    exact ⟨h.1.trans (.log _ _ _), h.2⟩

/-! ### Memory -/

/-- What comes of a request, and whether it gets through, is up to its size and the answer that it
meets. -/
theorem alloc_calls (library : Library) (device : Nat) (request : AllocRequest) (h : Host) :
    Yields (Vendor.alloc library device request) h
      (fun al h' => AllocCall.Made h ⟨request, .ok al⟩ h')
      (fun e h' => AllocCall.Made h ⟨request, .error e⟩ h') := by
  have hstopped {outcome : Except Error Vendor.Allocation} (hfits : ¬request.Fits)
      (ho : outcome = .error .conversion) : AllocCall.Made h ⟨request, outcome⟩ h := by
    subst ho
    exact ⟨.large hfits, [], .nil h, (if_neg hfits).symm⟩
  have htaken {h' : Host} (logs : List Event) (hl : ∀ e ∈ logs, e.IsLog) (hfits : request.Fits)
      (he : h'.events = h.events ++ .call (.alloc library device request) :: logs)
      (hs : h'.supported = h.supported) (ha : h'.answers.allocs = h.answers.allocs.tail)
      (hf : h'.answers.Follows h.answers) :
      ∃ es, Takes h es h' ∧ asked es = if request.Fits then [request] else [] := by
    have hnone : asked logs = [] := List.filterMap_eq_nil_iff.mpr fun e he => (hl e he).aside.1
    have hone : asked (.call (.alloc library device request) :: logs) = [request] := by
      rw [← List.singleton_append, asked_append, hnone]
      rfl
    refine ⟨_, ⟨he, hs, by rw [ha, hone]; simp, hf, fun e he => ?_⟩, by rw [hone, if_pos hfits]⟩
    rcases List.mem_cons.mp he with rfl | he
    · exact ⟨rfl, rfl⟩
    · exact (hl e he).aside.2
  unfold Vendor.alloc
  simp only [yields_bind, yields_ofExcept, HostM.record, yields_modify, yields_get]
  refine ⟨fun _ hwidth => ⟨fun _ hheight => ?_, fun e he => ?_⟩, fun e he => ?_⟩
  · have hfits : request.Fits := ⟨(signed_ok hwidth).2, (signed_ok hheight).2⟩
    generalize hanswer : (h.record (.alloc library device request)).answers.allocs.headD {} = answer
    have hmet {outcome : Except Error Vendor.Allocation}
        (hm : AllocCall.Meets answer ⟨request, outcome⟩) :
        AllocCall.Meets (h.answers.allocs.headD {}) ⟨request, outcome⟩ := by
      rw [← hanswer] at hm
      exact hm
    split
    · rename_i hstatus
      exact ⟨hmet (.refused hfits hstatus),
        htaken [] (by simp) hfits rfl rfl rfl (.of_eq rfl rfl)⟩
    rename_i hstatus
    have hstatus : answer.status = 0 := Decidable.not_not.mp hstatus
    split
    · rename_i hdescriptor
      have hgrants : answer.grants = true := by simp [AllocAnswer.grants, hstatus, hdescriptor]
      exact ⟨hmet (.granted hfits hgrants rfl),
        htaken [] (by simp) hfits rfl rfl rfl (.of_eq rfl rfl)⟩
    · rename_i hdescriptor
      refine ⟨hmet (.empty hfits hstatus (by simpa using hdescriptor)),
        htaken [.log .error _] ?_ hfits (List.append_assoc _ _ _) rfl rfl (.of_eq rfl rfl)⟩
      simp [Event.IsLog]
  · obtain ⟨rfl, hlarge⟩ := signed_error he
    exact hstopped (fun hfits => absurd hfits.2 (Nat.not_lt.mpr hlarge)) rfl
  · obtain ⟨rfl, hlarge⟩ := signed_error he
    exact hstopped (fun hfits => absurd hfits.1 (Nat.not_lt.mpr hlarge)) rfl

theorem alloc_takes (library : Library) (device : Nat) (request : AllocRequest) (h : Host) :
    Yields (Vendor.alloc library device request) h
      (fun al h' => ∃ es, Takes h es h' ∧ Granted h.answers.allocs es request al)
      (fun _ h' => ∃ es, Takes h es h') := by
  apply (alloc_calls library device request h).imp
  · intro al h' hmade
    obtain ⟨hmeets, es, ht, hasked⟩ := hmade
    refine ⟨es, ht, ?_⟩
    cases hmeets with
    | @granted _ d hfits hg hd =>
      rw [if_pos hfits] at hasked
      exact ⟨_, d, by rw [hasked]; exact List.mem_singleton.mpr rfl, hg, hd, rfl⟩
  · intro _ h' hmade
    obtain ⟨-, es, ht, -⟩ := hmade
    exact ⟨es, ht⟩

/-- The memory is what the plan asks for, though perhaps not to be scanned out. -/
theorem allocPlanned_takes (c : Context) (plan : Plan) (h : Host) :
    Yields (allocPlanned c plan) h
      (fun al h' => ∃ es scanout, Takes h es h' ∧
        Granted h.answers.allocs es { plan.request with scanout } al)
      (fun _ h' => ∃ es, Takes h es h') := by
  unfold allocPlanned allocOrFallBack
  rw [yields_explain, yields_bind, yields_attempt]
  apply (alloc_takes c.library c.device plan.request h).imp
  · intro al h₁ hg
    obtain ⟨es, ht, hg⟩ := hg
    exact ⟨es, plan.request.scanout, ht, hg⟩
  · intro e h₁ ht
    obtain ⟨es, ht⟩ := ht
    dsimp only
    split
    · exact ⟨_, ht.log _ _⟩
    rw [yields_bind]
    -- The second request takes up the answer after the one to the first.
    have ht := ht.log .error
      s!"Failed to allocate for scanout, trying non-scanout: {e.message}"
    apply (alloc_takes c.library c.device { plan.request with scanout := false } _).imp
    · intro al h₂ hg
      obtain ⟨es', ht', hg⟩ := hg
      exact ⟨_, false, ht.trans ht', hg.right ht⟩
    · intro e h₂ ht'
      obtain ⟨es', ht'⟩ := ht'
      exact ⟨_, (ht.trans ht').log _ _⟩

end Allocator

end GraphicsBuffers
