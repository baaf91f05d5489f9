import GraphicsBuffers.Proofs.Creation
import GraphicsBuffers.Proofs.Request

/-!
How often memory is asked for. Where there is none, it is asked for once more without the demand
that it can be scanned out, unless a camera needs that; what comes of the last call is what becomes
of the buffer.
-/

namespace GraphicsBuffers

open Metadata

/-! ### The calls for memory -/

/-- The same memory, without the demand that it can be scanned out. -/
def AllocRequest.withoutScanout (request : AllocRequest) : AllocRequest :=
  { request with scanout := false }

/-- A host, and the calls for memory that were made there. -/
structure Watched where
  host : Host
  calls : List AllocCall

/-- Asks for memory, and keeps what came of it. -/
def watch (ask : AllocRequest → HostM Vendor.Allocation) (request : AllocRequest) :
    EStateM Error Watched Vendor.Allocation
  | w =>
    match ask request w.host with
    | .ok al h => .ok al ⟨h, w.calls ++ [⟨request, .ok al⟩]⟩
    | .error e h => .error e ⟨h, w.calls ++ [⟨request, .error e⟩]⟩

namespace Allocator

def fallBackNote (e : Error) : String :=
  s!"Failed to allocate for scanout, trying non-scanout: {e.message}"

/-- `allocOrFallBack`, whichever way memory is asked for and complaints are made. -/
def fallBack {σ : Type} (ask : AllocRequest → EStateM Error σ Vendor.Allocation)
    (complain : String → σ → σ) (plan : Plan) : EStateM Error σ Vendor.Allocation := do
  match ← attempt (ask plan.request) with
  | .ok a => pure a
  | .error e =>
    if plan.scanoutRequired then throw e
    else
      modify (complain (fallBackNote e))
      ask plan.request.withoutScanout

theorem allocOrFallBack_eq (c : Context) (plan : Plan) :
    allocOrFallBack c plan =
      fallBack (Vendor.alloc c.library c.device) (fun text h => h.log .error text) plan := rfl

/-- The calls for memory that a plan leads to. -/
def allocCalls (c : Context) (plan : Plan) (h : Host) : List AllocCall :=
  match fallBack (watch (Vendor.alloc c.library c.device))
    (fun text w => { w with host := w.host.log .error text }) plan ⟨h, []⟩ with
  | .ok _ w | .error _ w => w.calls

end Allocator

/-- What is asked for by the plan, with the answers to come: `calls`, of which `last` is the last. A
second call is made where the first fails, but not for a camera. -/
inductive Retried (plan : Plan) (camera : Bool) (answers : List AllocAnswer) :
    List AllocCall → AllocCall → Prop
  | once {call : AllocCall} (hr : call.request = plan.request) (hm : call.Meets (answers.headD {}))
      (h : (∃ al, call.outcome = .ok al) ∨ camera = true) : Retried plan camera answers [call] call
  | twice {e : Error} {last : AllocCall} (hc : camera = false)
      (hm : AllocCall.Meets (answers.headD {}) ⟨plan.request, .error e⟩)
      (hr : last.request = plan.request.withoutScanout)
      (hm' : last.Meets (answers.tail.headD {})) :
      Retried plan camera answers [⟨plan.request, .error e⟩, last] last

/-- What of the calls gets through to the library. Either all do, or none. -/
def Plan.sent (plan : Plan) (calls : List AllocCall) : List AllocRequest :=
  if plan.request.Fits then calls.map AllocCall.request else []

/-- From one host to the other, the calls for memory were made, and `last` was the last. -/
structure Tried (c : Context) (plan : Plan) (h : Host) (last : AllocCall) (h' : Host) : Prop where
  retried : Retried plan plan.scanoutRequired h.answers.allocs (Allocator.allocCalls c plan h) last
  takes : ∃ es, Takes h es h' ∧ asked es = plan.sent (Allocator.allocCalls c plan h)

variable {c : Context} {plan : Plan} {h h' : Host} {call last : AllocCall} {answer : AllocAnswer}

theorem AllocCall.Meets.of_large (hm : call.Meets answer) (hl : ¬call.request.Fits)
    (answer' : AllocAnswer) : call.Meets answer' := by
  cases hm with
  | large => exact .large hl
  | refused h | empty h | granted h => exact absurd h hl

theorem AllocCall.Meets.conversion (hm : call.Meets answer) (hl : ¬call.request.Fits) :
    call.outcome = .error .conversion := by
  cases hm with
  | large => rfl
  | refused h | empty h | granted h => exact absurd h hl

theorem Retried.fits_iff {camera : Bool} {answers : List AllocAnswer} {calls : List AllocCall}
    (h : Retried plan camera answers calls last) : last.request.Fits ↔ plan.request.Fits := by
  cases h with
  | once hr => rw [hr]
  | twice _ _ hr =>
    rw [hr]
    rfl

theorem Retried.is_last {camera : Bool} {answers : List AllocAnswer} {calls : List AllocCall}
    (h : Retried plan camera answers calls last) : calls.getLast? = some last := by
  cases h <;> rfl

/-- A request that is too large never gets through. -/
theorem Retried.conversion {camera : Bool} {answers : List AllocAnswer} {calls : List AllocCall}
    (h : Retried plan camera answers calls last) (hl : ¬plan.request.Fits) :
    last.outcome = .error .conversion := by
  have hlast : ¬last.request.Fits := mt h.fits_iff.mp hl
  cases h with
  | once _ hm => exact hm.conversion hlast
  | twice _ _ _ hm => exact hm.conversion hlast

theorem Tried.log (ht : Tried c plan h last h') (level : LogLevel) (text : String) :
    Tried c plan h last (h'.log level text) := by
  obtain ⟨es, hes, hasked⟩ := ht.takes
  refine ⟨ht.retried, _, hes.log level text, ?_⟩
  rw [asked_append, hasked]
  exact List.append_nil _

namespace Allocator

/-- What came of asking. -/
def outcomeOf : EStateM.Result Error Host Vendor.Allocation → Except Error Vendor.Allocation
  | .ok al _ => .ok al
  | .error e _ => .error e

theorem allocCalls_eq (c : Context) (plan : Plan) (h : Host) :
    allocCalls c plan h =
      match Vendor.alloc c.library c.device plan.request h with
      | .ok al _ => [⟨plan.request, .ok al⟩]
      | .error e h₁ =>
        if plan.scanoutRequired then [⟨plan.request, .error e⟩]
        else [⟨plan.request, .error e⟩, ⟨plan.request.withoutScanout,
          outcomeOf (Vendor.alloc c.library c.device plan.request.withoutScanout
            (h₁.log .error (fallBackNote e)))⟩] := by
  cases hr : Vendor.alloc c.library c.device plan.request h with
  | ok al h₁ =>
    have hask : attempt (watch (Vendor.alloc c.library c.device) plan.request) ⟨h, []⟩ =
        .ok (.ok al) ⟨h₁, [⟨plan.request, .ok al⟩]⟩ := by simp [attempt, watch, hr]
    rw [allocCalls, fallBack, bind_of_ok hask]
    rfl
  | error e h₁ =>
    have hask : attempt (watch (Vendor.alloc c.library c.device) plan.request) ⟨h, []⟩ =
        .ok (.error e) ⟨h₁, [⟨plan.request, .error e⟩]⟩ := by simp [attempt, watch, hr]
    rw [allocCalls, fallBack, bind_of_ok hask]
    cases plan.scanoutRequired with
    | true => rfl
    | false =>
      change (match watch (Vendor.alloc c.library c.device) plan.request.withoutScanout
        ⟨h₁.log .error (fallBackNote e), [⟨plan.request, .error e⟩]⟩ with
        | .ok _ w | .error _ w => w.calls) = [⟨plan.request, .error e⟩, ⟨_, _⟩]
      rw [watch]
      cases Vendor.alloc c.library c.device plan.request.withoutScanout
        (h₁.log .error (fallBackNote e)) <;> rfl

end Allocator

open Allocator

/-- The second call meets the answer after the one that the first took up. -/
theorem Tried.again {e : Error} {h₁ h₂ : Host} {outcome : Except Error Vendor.Allocation}
    (hc : plan.scanoutRequired = false) (hfirst : AllocCall.Made h ⟨plan.request, .error e⟩ h₁)
    (hsecond : AllocCall.Made (h₁.log .error (fallBackNote e))
      ⟨plan.request.withoutScanout, outcome⟩ h₂)
    (hcalls : allocCalls c plan h =
      [⟨plan.request, .error e⟩, ⟨plan.request.withoutScanout, outcome⟩]) :
    Tried c plan h ⟨plan.request.withoutScanout, outcome⟩ h₂ := by
  obtain ⟨hm, es, ht, hasked⟩ := hfirst
  obtain ⟨hm', es', ht', hasked'⟩ := hsecond
  change asked es = if plan.request.Fits then [plan.request] else [] at hasked
  change asked es' = if plan.request.Fits then [plan.request.withoutScanout] else [] at hasked'
  refine ⟨?_, _, (ht.log _ _).trans ht', ?_⟩
  · rw [hcalls]
    refine .twice hc hm rfl ?_
    by_cases hfits : plan.request.Fits
    · have htail : h₁.answers.allocs = h.answers.allocs.tail := by
        rw [ht.allocs, hasked, if_pos hfits, List.length_singleton, List.drop_one]
      rw [← htail]
      exact hm'
    · exact hm'.of_large hfits _
  · rw [hcalls, asked_append, asked_append, hasked, hasked', Plan.sent]
    split <;> rfl

namespace Allocator

theorem allocOrFallBack_tries (c : Context) (plan : Plan) (h : Host) :
    Yields (allocOrFallBack c plan) h
      (fun al h' => ∃ request, Tried c plan h ⟨request, .ok al⟩ h')
      (fun e h' => ∃ request, Tried c plan h ⟨request, .error e⟩ h') := by
  have hcalls := allocCalls_eq c plan h
  rw [allocOrFallBack_eq]
  unfold fallBack
  rw [yields_bind, yields_attempt]
  apply (alloc_calls c.library c.device plan.request h).with_result.imp
  · intro al h₁ hmade
    obtain ⟨hr, hmeets, ht⟩ := hmade
    rw [hr] at hcalls
    refine ⟨plan.request, ?_, ?_⟩
    · rw [hcalls]
      exact .once rfl hmeets (Or.inl ⟨al, rfl⟩)
    · rw [hcalls]
      exact ht
  · intro e h₁ hmade
    obtain ⟨hr, hfirst⟩ := hmade
    rw [hr] at hcalls
    cases hc : plan.scanoutRequired with
    | true =>
      simp only [hc, if_true] at hcalls
      refine ⟨plan.request, ?_, ?_⟩
      · rw [hcalls]
        exact .once rfl hfirst.meets (Or.inr hc)
      · rw [hcalls]
        exact hfirst.takes
    | false =>
      simp only [hc, Bool.false_eq_true, if_false] at hcalls
      simp only [Bool.false_eq_true, if_false, yields_bind, yields_modify]
      apply (alloc_calls c.library c.device plan.request.withoutScanout _).with_result.imp
      · intro al h₂ hmade
        obtain ⟨hr', hsecond⟩ := hmade
        exact ⟨_, .again hc hfirst hsecond (by rw [hcalls, hr']; rfl)⟩
      · intro e' h₂ hmade
        obtain ⟨hr', hsecond⟩ := hmade
        exact ⟨_, .again hc hfirst hsecond (by rw [hcalls, hr']; rfl)⟩

theorem allocPlanned_tries (c : Context) (plan : Plan) (h : Host) :
    Yields (allocPlanned c plan) h
      (fun al h' => ∃ request, Tried c plan h ⟨request, .ok al⟩ h')
      (fun e h' => ∃ request, Tried c plan h ⟨request, .error e⟩ h') := by
  unfold allocPlanned
  rw [yields_explain]
  apply (allocOrFallBack_tries c plan h).imp
  · exact fun _ _ ht => ht
  · intro e h' htried
    obtain ⟨request, ht⟩ := htried
    exact ⟨request, ht.log _ _⟩

end Allocator

/-! ### The buffer -/

/-- From one focus to the other, memory was asked for as the plan says, with what came of the last
call. What was done before and behind is no part of it. -/
structure Asked (c : Context) (plan : Plan) (h : Host) (f : Focus) (last : AllocCall) (f' : Focus) :
    Prop where
  retried : Retried plan plan.scanoutRequired f.host.answers.allocs (allocCalls c plan h) last
  asks : Finds Event.asked? f.host f'.host (plan.sent (allocCalls c plan h))

/-- The buffer in focus was made of the memory. Rows that the plan leaves to the memory are as long
as they are there. -/
structure Built (flags : UseFlags) (plan : Plan) (al : Vendor.Allocation) (f f' : Focus) :
    Prop where
  placed : ∃ m, Plan.Placed f.buffer.metadata flags al.stride
      (f.host.supports f.buffer.metadata.format) plan m ∧
    (plan.blob = none → m.strides.entry 0 = al.stride) ∧
    f'.buffer.metadata = { m with modifier := al.modifier }
  backing : ∃ imported, imported.isSome = flags.intersects .software ∧
    f'.buffer.state = some (.backing
      ⟨List.replicate f'.buffer.metadata.numPlanes al.descriptor, imported, al.mapStride⟩)
  inodes : f'.buffer.inodes = Allocator.inodesFrom 0
    (List.replicate f'.buffer.metadata.numPlanes al.descriptor) f.buffer.inodes
  offers : ∀ request ∈ offered (added f.host f'.host), request.descriptor = al.descriptor ∧
    request.stride = f'.buffer.metadata.strides.entry 0 ∧ request.modifier = al.modifier

/-- There is memory, but the planes cannot be laid out in its rows, or it cannot be mapped, or the
system fails to duplicate or to inspect its descriptor. -/
inductive Unbuilt (flags : UseFlags) (plan : Plan) (m : Metadata) (answers : Answers) :
    AllocCall → Error → Prop
  | layout {request : AllocRequest} {al : Vendor.Allocation} {e : Error} {m' : Metadata}
      (hb : plan.blob = none)
      (hl : layOut m.format al.stride plan.request.height m = .error e m') :
      Unbuilt flags plan m answers ⟨request, .ok al⟩ e
  | refused {request : AllocRequest} {al : Vendor.Allocation}
      (hs : flags.intersects .software = true) :
      Unbuilt flags plan m answers ⟨request, .ok al⟩ .importRefused
  | system {request : AllocRequest} {al : Vendor.Allocation} {code : Int32}
      (hc : some code ∈ answers.duplicates ∨ some code ∈ answers.inspections) :
      Unbuilt flags plan m answers ⟨request, .ok al⟩ (.io (.numbered code))

/-- How the creation of a buffer ends, by what came of the last call for memory and the error that
it fails with. -/
inductive Ended (flags : UseFlags) (plan : Plan) (f : Focus) :
    AllocCall → Option Error → Focus → Prop
  | failed {request : AllocRequest} {e : Error} {f' : Focus} (ho : Offers f.host f'.host []) :
      Ended flags plan f ⟨request, .error e⟩ (some e) f'
  | unbuilt {last : AllocCall} {e : Error} {f' : Focus}
      (hu : Unbuilt flags plan f.buffer.metadata f.host.answers last e) :
      Ended flags plan f last (some e) f'
  | built {request : AllocRequest} {al : Vendor.Allocation} {f' : Focus}
      (hb : Built flags plan al f f') : Ended flags plan f ⟨request, .ok al⟩ none f'

theorem Tried.asked {f f' : Focus} (hi : Idles f.host h) (ht : Tried c plan h last f'.host) :
    Asked c plan h f last f' ∧ Offers f.host f'.host [] := by
  obtain ⟨es, hes, hasked⟩ := ht.takes
  refine ⟨⟨?_, ?_⟩, hi.offers.trans hes.offers⟩
  · rw [← hi.allocs]
    exact ht.retried
  · exact hi.asks.trans ⟨es, hes.events, hasked⟩

theorem Asked.later {f f' f'' : Focus} (ha : Asked c plan h f last f')
    (hl : Finds Event.asked? f'.host f''.host []) : Asked c plan h f last f'' := by
  refine ⟨ha.retried, ?_⟩
  have := ha.asks.trans hl
  rwa [List.append_nil] at this

namespace Allocator

variable {a : Allocator} {flags : UseFlags} {notes : List String} {f f₁ : Focus}

/-- The planes of the buffer in focus have their places in the memory. -/
def Situated (flags : UseFlags) (plan : Plan) (al : Vendor.Allocation) (f f' : Focus) : Prop :=
  ∃ m, Plan.Placed f.buffer.metadata flags al.stride (f.host.supports f.buffer.metadata.format)
      plan m ∧
    (plan.blob = none → m.strides.entry 0 = al.stride) ∧
    f'.buffer = { f.buffer with metadata := { m with modifier := al.modifier } }

theorem allocateMemory_tries (c : Context) (answers : Answers)
    (hdraw : Plan.draw f.buffer.metadata flags (f.host.supports f.buffer.metadata.format) =
      .ok (plan, notes)) :
    Yields (allocateMemory c flags) f
      (fun al f' => ∃ request, Tried c plan (f.host.noted notes) ⟨request, .ok al⟩ f'.host ∧
        Situated flags plan al f f')
      (fun e f' => ∃ last, Tried c plan (f.host.noted notes) last f'.host ∧
        (last.outcome = .error e ∨ Unbuilt flags plan f.buffer.metadata answers last e)) := by
  unfold allocateMemory
  simp only [yields_bind, yields_get, yields_ofExcept_ok hdraw, yields_of_ok (notes_noted notes f),
    yields_onHost]
  apply (allocPlanned_tries c plan (f.host.noted notes)).imp
  · intro al h₁ h
    obtain ⟨request, ht⟩ := h
    apply (recordLayout_records flags (f := { f with host := h₁ }) al
      (Plan.draw_drawn hdraw) rfl).imp
    · intro _ f' h
      obtain ⟨m, hp, hrow, rfl⟩ := h
      simp only [yields_log, yields_pure]
      exact ⟨request, ht.log _ _, m, hp, hrow, rfl⟩
    · intro e f' h
      obtain ⟨hb, m, hl, -, rfl⟩ := h
      exact ⟨_, ht, Or.inr (.layout hb hl)⟩
  · intro e h₁ h
    obtain ⟨request, ht⟩ := h
    exact ⟨_, ht, Or.inl rfl⟩

theorem importAllocated_passes (c : Context) (flags : UseFlags) (al : Vendor.Allocation)
    (f : Focus) :
    Yields (importAllocated c flags al) f
      (fun i f' => i.isSome = flags.intersects .software ∧ f'.buffer = f.buffer ∧
        f'.host.answers.Follows f.host.answers ∧ Finds Event.asked? f.host f'.host [] ∧
        ∃ requests, Offers f.host f'.host requests ∧
          ∀ request ∈ requests, request.descriptor = al.descriptor ∧
            request.stride = f.buffer.metadata.strides.entry 0 ∧ request.modifier = al.modifier)
      (fun e f' => flags.intersects .software = true ∧
        ((∃ e', f.known = .error e') ∨ e = .importRefused) ∧
        Finds Event.asked? f.host f'.host []) := by
  unfold importAllocated
  split
  · rename_i hsoftware
    simp only [yields_bind, yields_get, yields_map]
    apply (importOn_passes c f _ _ _ _).imp
    · intro i f' h
      obtain ⟨-, request, ⟨hd, hm⟩, ho⟩ := h
      refine ⟨hsoftware.symm, ho.buffer, ho.system, ho.asks, [request], ho.offers, ?_⟩
      intro _ hr
      obtain rfl := List.mem_singleton.mp hr
      exact ⟨hd, ho.stride, hm⟩
    · intro e f' h
      rcases h with ⟨hknown, rfl⟩ | ⟨rfl, request, -, ho⟩
      · exact ⟨hsoftware, Or.inl hknown, (Idles.refl _).asks⟩
      · exact ⟨hsoftware, Or.inr rfl, ho.asks⟩
  · rename_i hsoftware
    exact ⟨by simpa using hsoftware, rfl, .refl _, (Idles.refl _).asks, [], (Idles.refl _).offers,
      by simp⟩

theorem built_of_situated {al : Vendor.Allocation} {f₂ f₃ : Focus} {imported : Option Import}
    {requests : List ImportRequest} (hs : Situated flags plan al f f₂)
    (hb : f₃.buffer = f₂.buffer) (hi : imported.isSome = flags.intersects .software)
    (ho : Offers f.host f₃.host requests)
    (hr : ∀ request ∈ requests, request.descriptor = al.descriptor ∧
      request.stride = f₂.buffer.metadata.strides.entry 0 ∧ request.modifier = al.modifier) :
    Built flags plan al f (settled
      ⟨List.replicate f₃.buffer.metadata.numPlanes al.descriptor, imported, al.mapStride⟩ f₃) := by
  obtain ⟨m, hp, hrow, hf₂⟩ := hs
  refine ⟨⟨m, hp, hrow, ?_⟩, ⟨imported, hi, rfl⟩, ?_, ?_⟩
  · change f₃.buffer.metadata = _
    rw [hb, hf₂]
  · have hinodes : f₃.buffer.inodes = f.buffer.inodes := by rw [hb, hf₂]
    exact congrArg (inodesFrom 0 _) hinodes
  · intro request hm
    rw [(ho.trans (settled_extends _ f₃).offers).eq, List.append_nil] at hm
    change _ ∧ request.stride = f₃.buffer.metadata.strides.entry 0 ∧ _
    rw [hb]
    exact hr request hm

/-- Where its planes have their places in the memory, the buffer is built, unless the memory cannot
be mapped, or the system fails. -/
theorem attachAllocated_ended {al : Vendor.Allocation} {f₂ : Focus} {request : AllocRequest}
    {plan' : Plan} (hs : Situated flags plan al f f₂) (hk : Backed flags f₁ plan' al f₂)
    (ha : Asked c plan h f ⟨request, .ok al⟩ f₂) (ho : Offers f.host f₂.host [])
    (hf : f₂.host.answers.Follows f.host.answers) :
    Yields (attachAllocated c flags al) f₂
      (fun _ f' => ∃ last, Asked c plan h f last f' ∧ Ended flags plan f last none f')
      (fun e f' => ∃ last, Asked c plan h f last f' ∧ Ended flags plan f last (some e) f') := by
  have hquiet (n : Nat) : Idles f₂.host (f₂.host.copied n) :=
    .silent rfl rfl rfl (Appends.copied (p := Event.IsLog) _ n).system
  unfold attachAllocated
  rw [yields_bind]
  apply (copyPlanes_yields al.descriptor f₂).imp
  · rintro _ _ ⟨rfl, rfl, -⟩
    have hcopied := hquiet f₂.buffer.metadata.numPlanes
    rw [yields_bind]
    apply (importAllocated_passes c flags al _).imp
    · intro imported f₃ h
      obtain ⟨hi, hb₃, hsystem, hasks, requests, hoffers, hr⟩ := h
      have hasked := (ha.later hcopied.asks).later hasks
      have hplanes : f₂.buffer.metadata.numPlanes = f₃.buffer.metadata.numPlanes := by
        rw [hb₃]
        rfl
      rw [hplanes]
      apply (settle_yields _ f₃).imp
      · rintro _ _ ⟨rfl, -⟩
        refine ⟨_, hasked.later (settled_extends _ f₃).asks, .built ?_⟩
        exact built_of_situated hs hb₃ hi ((ho.trans hcopied.offers).trans hoffers) hr
      · rintro _ _ ⟨n, inodes, code, rfl, rfl, hcode⟩
        refine ⟨_, hasked.later (withdraw_extends _ _).asks, .unbuilt (.system (Or.inr ?_))⟩
        have hleft := (hf.trans hcopied.system).trans hsystem
        exact hleft.inspections.mem (mem_of_faultWithin hcode)
    · intro e f₃ h
      obtain ⟨hsoftware, hfailed, hasks⟩ := h
      refine ⟨_, (ha.later hcopied.asks).later hasks, .unbuilt ?_⟩
      rcases hfailed with ⟨e', hn⟩ | rfl
      · obtain ⟨known, hk⟩ := (hk.copied f₂.buffer.metadata.numPlanes).known
        cases hn.symm.trans hk
      · exact .refused hsoftware
  · rintro _ _ ⟨n, code, rfl, rfl, hcode⟩
    refine ⟨_, ha.later (hquiet n).asks, .unbuilt (.system (Or.inl ?_))⟩
    exact hf.duplicates.mem (mem_of_faultWithin hcode)

theorem create_ended (hc : requireContext a false f = .ok c f₁)
    (hdraw : Plan.draw f.buffer.metadata flags (f.host.supports f.buffer.metadata.format) =
      .ok (plan, notes)) :
    Yields (create a flags) f
      (fun _ f' => ∃ last, Asked c plan (f₁.host.noted notes) f last f' ∧
        Ended flags plan f last none f')
      (fun e f' => ∃ last, Asked c plan (f₁.host.noted notes) f last f' ∧
        Ended flags plan f last (some e) f') := by
  obtain ⟨hi, hb⟩ := (requireContext_idles a false f).of_ok hc
  have hsupports : f₁.host.supports f₁.buffer.metadata.format =
      f.host.supports f.buffer.metadata.format := by
    obtain ⟨es, ht, -⟩ := hi
    rw [hb, ht.supports]
  have hlogs : Appends Event.IsLog f₁.host (f₁.host.noted notes) := .noted (fun _ _ => trivial) _ _
  have hnoted := hi.trans (.of_appends (fun _ he => he.aside) hlogs)
  have hdraw₁ : Plan.draw f₁.buffer.metadata flags
      (f₁.host.supports f₁.buffer.metadata.format) = .ok (plan, notes) := by
    rw [hsupports, hb, hdraw]
  unfold create
  rw [yields_bind, yields_of_ok hc, allocateOn_eq, yields_bind]
  apply ((allocateMemory_tries c f.host.answers hdraw₁).and (allocateMemory_backs c flags f₁)).imp
  · intro al f₂ h
    obtain ⟨⟨request, ht, hs⟩, _, hbacked⟩ := h
    obtain ⟨ha, hoffers⟩ := ht.asked hnoted
    have hs : Situated flags plan al f f₂ := by
      unfold Situated at hs ⊢
      rwa [hsupports, hb] at hs
    exact attachAllocated_ended hs hbacked ha hoffers (hi.system.trans hbacked.system)
  · intro e f₂ h
    obtain ⟨⟨⟨request, outcome⟩, ht, hfailed⟩, -⟩ := h
    obtain ⟨ha, hoffers⟩ := ht.asked hnoted
    refine ⟨_, ha, ?_⟩
    rcases hfailed with rfl | hu
    · exact .failed hoffers
    · rw [hb] at hu
      exact .unbuilt hu

theorem scanoutRequired_eq {m : Metadata} {supported : Bool}
    (hdraw : Plan.draw m flags supported = .ok (plan, notes)) :
    plan.scanoutRequired = flags.intersects .camera := by
  have hplan : planAllocation m flags supported = .ok plan := by
    rw [planAllocation, hdraw]
    rfl
  obtain ⟨_, -, hasks⟩ := planAllocation_asks hplan
  exact hasks.scanoutRequired

theorem createBuffer_onNew {width height : UInt32} {format : Format} {m : Metadata} {g : Focus}
    (hm : unplaced width height format flags = .ok m) :
    (backend a).createBuffer width height format flags g = create a flags (onNew m g) := by
  unfold Backend.createBuffer
  rw [hm]
  rfl

/-- Memory for a buffer is asked for once, or once more without the demand that it can be scanned
out. The buffer is built from what comes of the last call, or fails with it, and a size that is too
large does not get through to the library. -/
theorem create_retries (hc : requireContext a false f = .ok c f₁)
    (hdraw : Plan.draw f.buffer.metadata flags (f.host.supports f.buffer.metadata.format) =
      .ok (plan, notes)) :
    let calls := allocCalls c plan (f₁.host.noted notes)
    ∃ last, Retried plan (flags.intersects .camera) f.host.answers.allocs calls last ∧
      (¬plan.request.Fits → last.outcome = .error .conversion) ∧
      Yields (create a flags) f
        (fun _ f' => asked (added f.host f'.host) = plan.sent calls ∧
          Ended flags plan f last none f')
        (fun e f' => asked (added f.host f'.host) = plan.sent calls ∧
          Ended flags plan f last (some e) f') ∧
      ∀ width height format g, unplaced width height format flags = .ok f.buffer.metadata →
        f = onNew f.buffer.metadata g →
          (backend a).createBuffer width height format flags g = create a flags f := by
  intro calls
  obtain ⟨last, hended⟩ := (create_ended hc hdraw).exists_both
  have hretried : Retried plan (flags.intersects .camera) f.host.answers.allocs calls last := by
    rw [← scanoutRequired_eq hdraw]
    exact (hended.imp (fun _ _ h => h.1.retried) fun _ _ h => h.1.retried).of_const
  refine ⟨last, hretried, hretried.conversion, ?_, ?_⟩
  · exact hended.imp (fun _ _ h => ⟨h.1.asks.eq, h.2⟩) fun _ _ h => ⟨h.1.asks.eq, h.2⟩
  · intro width height format g hm hf
    rw [createBuffer_onNew hm, ← hf]

/-- A buffer to be scanned out. The library refuses the memory, and grants it in longer rows when it
is asked again. -/
def scanoutRefused : Focus where
  host :=
    { supported := [.xrgb8888]
      answers.allocs :=
        [{ status := -12, stride := some 64, mapStride := some 64, modifier := some 1 },
          { stride := some 256, mapStride := some 512, modifier := some 7 }] }
  driver := { state := some (.context ⟨⟨.linked, 1⟩, 1⟩) }
  buffer := { metadata := { width := 16, height := 4, format := .xrgb8888 } }

theorem create_retries_scanout : ∃ plan f',
    Plan.draw scanoutRefused.buffer.metadata .scanout true = .ok (plan, []) ∧
    allocCalls ⟨⟨.linked, 1⟩, 1⟩ plan scanoutRefused.host =
      [⟨plan.request, .error (.component (-12))⟩,
        ⟨plan.request.withoutScanout, .ok ⟨.memory 1 65536, 256, 512, 7⟩⟩] ∧
    create ⟨.supplied, .linked⟩ .scanout scanoutRefused = .ok () f' ∧
    Built .scanout plan ⟨.memory 1 65536, 256, 512, 7⟩ scanoutRefused f' := by
  let plan : Plan := ⟨⟨16, 4, .xrgb8888, false, false, true⟩, false, 1, none⟩
  have hcalls : allocCalls ⟨⟨.linked, 1⟩, 1⟩ plan scanoutRefused.host =
      [⟨plan.request, .error (.component (-12))⟩,
        ⟨plan.request.withoutScanout, .ok ⟨.memory 1 65536, 256, 512, 7⟩⟩] := rfl
  have hc : requireContext ⟨.supplied, .linked⟩ false scanoutRefused =
      .ok ⟨⟨.linked, 1⟩, 1⟩ scanoutRefused := rfl
  have hdraw : Plan.draw scanoutRefused.buffer.metadata .scanout
      (scanoutRefused.host.supports .xrgb8888) = .ok (plan, []) := rfl
  obtain ⟨last, hretried, -, hends, -⟩ := create_retries hc hdraw
  have hlast := hretried.is_last
  change (allocCalls ⟨⟨.linked, 1⟩, 1⟩ plan scanoutRefused.host).getLast? = some last at hlast
  rw [hcalls] at hlast
  cases hlast
  obtain ⟨_, f', hr, -⟩ : ∃ u f', create ⟨.supplied, .linked⟩ .scanout scanoutRefused = .ok u f' ∧
      True := Yields.exists_ok (by decide +kernel)
  obtain ⟨-, hended⟩ := hends.of_ok hr
  cases hended with
  | built hb => exact ⟨plan, f', rfl, hcalls, hr, hb⟩

end Allocator

end GraphicsBuffers
