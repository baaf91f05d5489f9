import GraphicsBuffers.Proofs.HandleLifetime
import GraphicsBuffers.Proofs.Mapping

/-!
Where a handle comes from: the buffer as it was offered to the library, which a buffer with the
handle must still be known as when it is mapped.
-/

namespace GraphicsBuffers

/-! ### Origins -/

/-- The size at which a handle is mapped. -/
def Event.mapped? : Event → Option (Library × Nat × UInt32 × UInt32)
  | .call (.map library handle width height) => some (library, handle, width, height)
  | _ => none

/-- Neither is a handle given out, nor one mapped. -/
def Event.IsStill (e : Event) : Prop := e.imported? = none ∧ e.mapped? = none

def Event.origin (n : Nat) (before : Option ImportRequest) : Event → Option ImportRequest
  | .call (.importBuffer _ _ request (some handle)) => if handle = n then some request else before
  | _ => before

/-- As what the handle was imported that last came under the number. -/
def origin (es : List Event) (n : Nat) : Option ImportRequest := es.foldl (Event.origin n) none

/-- The handle came from importing a buffer with the library as this. If no number is given out
while a handle goes by it, there is no other import that it could have come from. -/
structure Came (es : List Event) (library : Library) (n : Nat) (request : ImportRequest) :
    Prop where
  imported : ∃ device, .call (.importBuffer library device request (some n)) ∈ es
  origin : DistinctHandles es → origin es n = some request

/-- If a handle is mapped, it is so at the size of what it came from. -/
def Event.Agrees (before : List Event) : Event → Prop
  | .call (.map library n width height) => ∃ request, Came before library n request ∧
      request.width = width ∧ request.height = height ∧
      width.toNat < 0x80000000 ∧ height.toNat < 0x80000000
  | _ => True

/-- Each handle is mapped only at the size of what it came from. -/
def Agrees (es : List Event) : Prop := ∀ pre e post, es = pre ++ e :: post → e.Agrees pre

section

variable {e : Event} {es es' : List Event} {library : Library} {n : Nat} {request : ImportRequest}

theorem Event.IsAside.imported (h : e.IsAside) : e.imported? = none := by
  obtain ⟨ho, -⟩ := h
  unfold imported?
  split
  · cases ho
  · rfl

theorem Event.IsAside.mapped (h : e.IsAside) : e.mapped? = none := by
  obtain ⟨-, hu⟩ := h
  unfold mapped?
  split
  · cases hu
  · rfl

theorem Event.IsAside.still (h : e.IsAside) : e.IsStill := ⟨h.imported, h.mapped⟩

theorem Event.IsRelease.still (h : e.IsRelease) : e.IsStill := by
  unfold IsRelease at h
  split at h
  all_goals first | exact ⟨rfl, rfl⟩ | exact h.elim

theorem Event.origin_of_none (h : e.imported? = none) (o : Option ImportRequest) :
    e.origin n o = o := by
  unfold origin
  split
  · cases h
  · rfl

theorem origin_append (h : ∀ e ∈ es', e.imported? = none) : origin (es ++ es') n = origin es n := by
  induction es' generalizing es with
  | nil => rw [List.append_nil]
  | cons e es' ih =>
    rw [List.append_cons, ih fun d hd => h d (List.mem_cons_of_mem _ hd)]
    simp [origin, Event.origin_of_none (h e List.mem_cons_self)]

theorem owner_append (h : ∀ e ∈ es', e.IsAside) : owner (es ++ es') n = owner es n := by
  induction es' generalizing es with
  | nil => rw [List.append_nil]
  | cons e es' ih =>
    obtain ⟨he, hes⟩ := List.forall_mem_cons.mp h
    rw [List.append_cons, ih hes, owner_snoc]
    simp [Event.owner, he.imported, Event.freed_of_use he.2]

theorem Came.append (h : Came es library n request) (hes : ∀ e ∈ es', e.imported? = none) :
    Came (es ++ es') library n request := by
  obtain ⟨⟨device, hm⟩, ho⟩ := h
  refine ⟨⟨device, List.mem_append_left _ hm⟩, fun hd => ?_⟩
  rw [origin_append hes, ho hd.of_append]

/-- A handle under another number comes from elsewhere. -/
theorem Came.imported_other (h : Came es library n request) {c : Context} {m : Nat}
    {other : ImportRequest} (hn : DistinctHandles es → owner es n ≠ none) :
    Came (es ++ [.call (.importBuffer c.library c.device other (some m))]) library n request := by
  obtain ⟨⟨device, hm⟩, ho⟩ := h
  refine ⟨⟨device, List.mem_append_left _ hm⟩, fun hd => ?_⟩
  obtain ⟨hd, hfree⟩ := hd.of_snoc
  -- The new number was free, while somebody still has the handle under the old one.
  have hne : m ≠ n := by
    rintro rfl
    exact hn hd (hfree _ rfl)
  rw [← ho hd]
  simp [GraphicsBuffers.origin, Event.origin, hne]

theorem Came.of_import (es : List Event) (c : Context) (n : Nat) (request : ImportRequest) :
    Came (es ++ [.call (.importBuffer c.library c.device request (some n))]) c.library n request :=
  ⟨⟨c.device, by simp⟩, fun _ => by simp [GraphicsBuffers.origin, Event.origin]⟩

theorem Agrees.snoc (h : Agrees es) (he : e.Agrees es) : Agrees (es ++ [e]) := by
  intro pre d post hes
  rcases split_snoc hes with ⟨rfl, rfl⟩ | ⟨post', hes⟩
  · exact he
  · exact h pre d post' hes

theorem Agrees.append (h : Agrees es) (hes : ∀ e ∈ es', e.mapped? = none) : Agrees (es ++ es') := by
  induction es' generalizing es with
  | nil => rwa [List.append_nil]
  | cons e es' ih =>
    obtain ⟨he, hes⟩ := List.forall_mem_cons.mp hes
    rw [List.append_cons]
    refine ih (h.snoc ?_) hes
    unfold Event.Agrees
    split
    · cases he
    · exact trivial

end

/-! ### Buffers with handles -/

/-- The buffers are known as what their handles came from, and these were never mapped otherwise. -/
structure Faithful (h : Host) (bs : List Buffer) : Prop where
  agrees : Agrees h.events
  known : ∀ b ∈ bs, ∀ i ∈ b.import?, ∃ request,
    Came h.events i.context.library i.handle request ∧
      h.known b = .ok (request.width, request.height, request.format)

/-- Nobody has freed the buffers' handles. -/
def Owned (h : Host) (bs : List Buffer) : Prop :=
  DistinctHandles h.events → ∀ b ∈ bs, ∀ i ∈ b.import?, owner h.events i.handle ≠ none

/-- From one host to the other, no handle was given out or mapped. -/
structure Still (h h' : Host) : Prop where
  events : Extends Event.IsStill h h'
  supports : ∀ f, h'.supports f = h.supports f

section

variable {h h' h'' : Host} {bs : List Buffer} {es : List Event}

theorem Host.supports_congr (hs : h'.supported = h.supported) (f : Format) :
    h'.supports f = h.supports f := by
  rw [supports, supports, hs]

theorem Still.silent (he : h'.events = h.events) (hs : ∀ f, h'.supports f = h.supports f) :
    Still h h' := ⟨⟨[], by simp [he], by simp⟩, hs⟩

theorem Still.refl (h : Host) : Still h h := .silent rfl fun _ => rfl

theorem Still.trans (h₁ : Still h h') (h₂ : Still h' h'') : Still h h'' :=
  ⟨h₁.events.trans h₂.events, fun f => (h₂.supports f).trans (h₁.supports f)⟩

theorem Still.of_releases (hx : Extends Event.IsRelease h h') (hs : h'.supported = h.supported) :
    Still h h' :=
  ⟨hx.mono fun _ he => he.still, Host.supports_congr hs⟩

/-- After a call there are only messages. -/
theorem Still.recorded {call : Call} {logs : List Event}
    (he : h'.events = h.events ++ .call call :: logs) (hlogs : ∀ e ∈ logs, e.IsLog)
    (hs : h'.supported = h.supported) : Still (h.record call) h' := by
  refine ⟨⟨logs, ?_, fun e hm => (hlogs e hm).isRelease.still⟩, Host.supports_congr hs⟩
  rw [he]
  simp [Host.record]

theorem Takes.still (ht : Takes h es h') : Still h h' :=
  ⟨⟨es, ht.events, fun e he => (ht.aside e he).still⟩, ht.supports⟩

theorem Idles.still (hi : Idles h h') : Still h h' := by
  obtain ⟨es, ht, -⟩ := hi
  exact ht.still

theorem Still.known (hs : Still h h') (b : Buffer) : h'.known b = h.known b := by
  rw [Host.known, Host.known, hs.supports]

theorem Still.came (hs : Still h h') {library : Library} {n : Nat} {request : ImportRequest}
    (hc : Came h.events library n request) : Came h'.events library n request := by
  obtain ⟨es, he, hes⟩ := hs.events
  rw [he]
  exact hc.append fun e hm => (hes e hm).1

theorem Owned.tail {b : Buffer} (ho : Owned h (b :: bs)) : Owned h bs :=
  fun hd b hb => ho hd b (List.mem_cons_of_mem _ hb)

/-- A buffer without a handle owns none. -/
theorem Owned.bare {b : Buffer} (ho : Owned h bs) (hn : b.import? = none) : Owned h (b :: bs) := by
  intro hd d hm i hi
  rcases List.mem_cons.mp hm with rfl | hm
  · rw [hn] at hi
    cases hi
  · exact ho hd d hm i hi

theorem Owned.cons {b : Buffer} (ho : Owned h bs) (hb : b ∈ bs) : Owned h (b :: bs) := by
  intro hd d hm
  rcases List.mem_cons.mp hm with rfl | hm
  · exact ho hd d hb
  · exact ho hd d hm

theorem Takes.owned (ht : Takes h es h') (ho : Owned h bs) : Owned h' bs := by
  intro hd b hb i hi
  rw [ht.events] at hd ⊢
  rw [owner_append ht.aside]
  exact ho hd.of_append b hb i hi

end

namespace Faithful

variable {h h' : Host} {b b' : Buffer} {bs bs' : List Buffer}

theorem sub (hf : Faithful h bs) (hsub : ∀ b ∈ bs', b ∈ bs) : Faithful h bs' :=
  ⟨hf.agrees, fun b hb => hf.known b (hsub b hb)⟩

theorem cons (hf : Faithful h bs) (hb : ∀ i ∈ b.import?, ∃ request,
      Came h.events i.context.library i.handle request ∧
        h.known b = .ok (request.width, request.height, request.format)) :
    Faithful h (b :: bs) := by
  refine ⟨hf.agrees, fun d hd => ?_⟩
  rcases List.mem_cons.mp hd with rfl | hd
  · exact hb
  · exact hf.known d hd

theorem tail (hf : Faithful h (b :: bs)) : Faithful h bs :=
  hf.sub fun _ hb => List.mem_cons_of_mem _ hb

theorem bare (hf : Faithful h bs) (hb : b.import? = none) : Faithful h (b :: bs) := by
  refine hf.cons fun i hi => ?_
  rw [hb] at hi
  cases hi

/-- What the buffer gives way to has its handle, and is known as it was. -/
theorem replace (hf : Faithful h (b :: bs)) (hi : b'.import? = b.import?)
    (hk : h.known b' = h.known b) : Faithful h (b' :: bs) := by
  refine hf.tail.cons fun i hi' => ?_
  rw [hk]
  exact hf.known b List.mem_cons_self i (hi ▸ hi')

theorem still (hf : Faithful h bs) (hs : Still h h') : Faithful h' bs := by
  refine ⟨?_, fun b hb i hi => ?_⟩
  · obtain ⟨es, he, hes⟩ := hs.events
    rw [he]
    exact hf.agrees.append fun e hm => (hes e hm).2
  · obtain ⟨request, hc, hk⟩ := hf.known b hb i hi
    exact ⟨request, hs.came hc, (hs.known b).trans hk⟩

theorem snoc (hf : Faithful h bs) {e : Event} (he : h'.events = h.events ++ [e])
    (hs : ∀ f, h'.supports f = h.supports f) (ha : e.Agrees h.events)
    (hcame : ∀ b ∈ bs, ∀ i ∈ b.import?, ∀ request,
      Came h.events i.context.library i.handle request →
        Came (h.events ++ [e]) i.context.library i.handle request) : Faithful h' bs := by
  refine ⟨?_, fun b hb i hi => ?_⟩
  · rw [he]
    exact hf.agrees.snoc ha
  · obtain ⟨request, hc, hk⟩ := hf.known b hb i hi
    rw [he, Host.known, hs]
    exact ⟨request, hcame b hb i hi request hc, hk⟩

/-- A new handle leaves the others, which nobody has freed, where they came from. -/
theorem imported (hf : Faithful h bs) (ho : Owned h bs) {c : Context} {request : ImportRequest}
    {n : Nat} (he : h'.events =
      h.events ++ [.call (.importBuffer c.library c.device request (some n))])
    (hs : ∀ f, h'.supports f = h.supports f) : Faithful h' bs :=
  hf.snoc he hs trivial fun b hb i hi _ hc => hc.imported_other fun hd => ho hd b hb i hi

theorem mapped (hf : Faithful h bs) (hb : b ∈ bs) {i : Import} (hi : b.import? = some i)
    {width height : UInt32} {format : Format} (hk : h.known b = .ok (width, height, format))
    (hw : width.toNat < 0x80000000) (hh : height.toNat < 0x80000000)
    (he : h'.events = h.events ++ [.call (.map i.context.library i.handle width height)])
    (hs : ∀ f, h'.supports f = h.supports f) : Faithful h' bs := by
  obtain ⟨request, hc, hrequest⟩ := hf.known b hb i hi
  have hsize := hrequest.symm.trans hk
  simp only [Except.ok.injEq, Prod.mk.injEq] at hsize
  obtain ⟨hwidth, hheight, -⟩ := hsize
  refine hf.snoc he hs ⟨request, hc, hwidth, hheight, hw, hh⟩ fun _ _ _ _ _ hc => ?_
  exact hc.append fun e hm => by rw [List.mem_singleton.mp hm]; rfl

end Faithful

/-! ### One operation -/

/-- The host is faithful to what is in focus and to the other buffers. -/
def Focus.Faithful (bs : List Buffer) (f : Focus) : Prop :=
  GraphicsBuffers.Faithful f.host (f.buffer :: bs)

section

variable {c : Context} {stride : UInt32} {f f₁ f' : Focus} {request : ImportRequest}
  {bs : List Buffer} {n : Nat} {flags : UseFlags}

theorem Offered.still (h : Offered c stride f request none f') : Still f.host f'.host := by
  obtain ⟨logs, hlogs, he⟩ := h.events
  refine ⟨⟨_, he, fun e hm => ?_⟩, Host.supports_congr h.supported⟩
  rcases List.mem_cons.mp hm with rfl | hm
  · exact ⟨rfl, rfl⟩
  · exact (hlogs e hm).isRelease.still

theorem Allocator.settled_still (k : Backing) (f : Focus) : Still f.host (settled k f).host :=
  .of_releases (settled_extends k f) (settled_supported k f)

theorem Host.copied_still (h : Host) (n : Nat) : Still h (h.copied n) := .silent rfl fun _ => rfl

theorem Host.inspected_still (h : Host) (n : Nat) : Still h (h.inspected n) :=
  .silent rfl fun _ => rfl

theorem Allocator.withdraw_still (k : Backing) (f : Focus) (n : Nat) (inodes : Planes UInt64) :
    Still f.host
      (withdraw k { f with host := f.host.inspected n, buffer.inodes := inodes }).host :=
  (f.host.inspected_still n).trans (.of_releases (withdraw_extends k _) (withdraw_supported k _))

/-- An offer leaves handles that nobody has freed where they came from. -/
theorem Offered.spares {handle : Option Nat} (h : Offered c stride f request handle f')
    (hf : GraphicsBuffers.Faithful f.host bs) (ho : Owned f.host bs) :
    GraphicsBuffers.Faithful f'.host bs := by
  cases handle with
  | none => exact hf.still h.still
  | some n =>
    obtain ⟨logs, hlogs, he⟩ := h.events
    let call := Call.importBuffer c.library c.device request (some n)
    have himported : GraphicsBuffers.Faithful (f.host.record call) bs :=
      hf.imported ho rfl fun _ => rfl
    exact himported.still (.recorded he hlogs h.supported)

/-- A buffer that was imported is known as what its handle came from. -/
theorem Offered.faithful (h : Offered c stride f request (some n) f')
    (hf : GraphicsBuffers.Faithful f.host bs) (ho : Owned f.host bs) {k : Backing}
    (hk : k.imported = some ⟨c, n⟩) : (Allocator.settled k f').Faithful bs := by
  obtain ⟨logs, hlogs, he⟩ := h.events
  let call := Call.importBuffer c.library c.device request (some n)
  have hrest : Still (f.host.record call) (Allocator.settled k f').host :=
    (Still.recorded he hlogs h.supported).trans (Allocator.settled_still k f')
  have hothers : GraphicsBuffers.Faithful (f.host.record call) bs :=
    hf.imported ho rfl fun _ => rfl
  refine (hothers.still hrest).cons fun i hi => ⟨request, ?_, ?_⟩
  · obtain rfl : i = ⟨c, n⟩ := by
      have hi : k.imported = some i := hi
      exact (Option.some.inj (hk.symm.trans hi)).symm
    exact hrest.came (.of_import f.host.events c n request)
  · rw [hrest.known, ← h.known, Focus.known, ← h.buffer]
    rfl

theorem Focus.Faithful.still (hf : f.Faithful bs) (hs : Still f.host f'.host)
    (hb : f'.buffer = f.buffer) : f'.Faithful bs := by
  unfold Focus.Faithful
  rw [hb]
  exact GraphicsBuffers.Faithful.still hf hs

/-- The buffer in focus has lost its handle, or has it still and is known as it was. -/
theorem Focus.Faithful.keep (hf : f.Faithful bs) (hs : Still f.host f'.host)
    (hb : f'.buffer.import? = none ∨
      f'.buffer.import? = f.buffer.import? ∧ f'.known = f.known) : f'.Faithful bs := by
  rcases hb with hn | ⟨hi, hk⟩
  · exact (hf.tail.still hs).bare hn
  · refine (GraphicsBuffers.Faithful.still hf hs).replace hi ?_
    rw [hs.known f.buffer]
    exact hk

theorem Mapped.faithful {i : Import} (hm : Mapped f i f') (hf : f.Faithful bs) :
    f'.Faithful bs := by
  obtain ⟨hi, ⟨width, height, format, h, logs, hk, hw, hh, hidle, he, hlogs⟩, hs, hb⟩ := hm
  let call := Call.map i.context.library i.handle width height
  have hrest : Still (h.record call) f'.host := by
    obtain ⟨es, ht, -⟩ := id hidle
    exact Still.recorded he hlogs (hs.trans ht.supported.symm)
  have hmapped : GraphicsBuffers.Faithful (h.record call) (f.buffer :: bs) :=
    (GraphicsBuffers.Faithful.still hf hidle.still).mapped List.mem_cons_self hi
      ((hidle.still.known _).trans hk) hw hh rfl fun _ => rfl
  unfold Focus.Faithful
  rw [hb]
  exact hmapped.still hrest

theorem Buffer.import_congr {b b' : Buffer} (hs : b'.state = b.state) :
    b'.import? = b.import? := by
  rw [import?, import?, backing?, backing?, hs]

/-- Where memory is allocated in vain, the buffer keeps its handle, and is known as before if its
format is native or its bytes are as many. -/
theorem Backed.faithful {plan : Plan} {al : Vendor.Allocation} (hb : Backed flags f plan al f₁)
    (hf : GraphicsBuffers.Faithful f'.host (f.buffer :: bs))
    (hs : f'.host.supported = f₁.host.supported) (hstate : f'.buffer.state = f₁.buffer.state)
    (hm : f'.buffer.metadata = f₁.buffer.metadata)
    (hr : f.buffer.import? = none ∨ f.host.supports f.buffer.metadata.format = true ∨
      f'.buffer.metadata.totalSize = f.buffer.metadata.totalSize) : f'.Faithful bs := by
  have hi : f'.buffer.import? = f.buffer.import? := Buffer.import_congr (hstate.trans hb.state)
  rcases hr with hn | hk
  · exact hf.tail.bare (hi.trans hn)
  · rw [hm] at hk
    obtain ⟨es, scanout, ht, -⟩ := hb.takes
    have hsupports := Host.supports_congr (hs.trans ht.supported)
    refine hf.replace hi ?_
    calc f'.known
      _ = f₁.known := Focus.known_congr hs hm
      _ = f.known := hb.known_kept hk
      _ = f'.host.known f.buffer := by rw [Focus.known, Host.known, Host.known, hsupports]

/-- However the creation of a buffer fails, the buffer keeps its handle, which is still what it came
from if the buffer is known as before. -/
theorem Made.faithful {failure : Option Error} (hm : Made flags f failure f') (hf : f.Faithful bs)
    (ho : Owned f.host (f.buffer :: bs)) (hr : failure ≠ none → f.buffer.import? = none ∨
      f.host.supports f.buffer.metadata.format = true ∨
      f'.buffer.metadata.totalSize = f.buffer.metadata.totalSize) : f'.Faithful bs := by
  have hspared {c : Context} {stride : UInt32} {request : ImportRequest} {handle : Option Nat}
      {plan : Plan} {al : Vendor.Allocation} {f₁ f₂ : Focus} (hb : Backed flags f plan al f₁)
      (hoffered : Offered c stride f₁ request handle f₂) :
      GraphicsBuffers.Faithful f₂.host (f.buffer :: bs) := by
    obtain ⟨es, scanout, ht, -⟩ := hb.takes
    exact hoffered.spares (GraphicsBuffers.Faithful.still hf ht.still) (ht.owned ho)
  cases hm with
  | early ht hs hk => exact hf.keep ht.still (Or.inr ⟨Buffer.import_congr hs, hk⟩)
  | uncopied hb =>
    obtain ⟨es, scanout, ht, -⟩ := id hb.takes
    exact hb.faithful (GraphicsBuffers.Faithful.still hf ht.still) rfl rfl rfl (hr nofun)
  | refused hb hoffered =>
    have hbuffer := hoffered.buffer
    exact hb.faithful (hspared hb hoffered) hoffered.supported (by rw [hbuffer]) (by rw [hbuffer])
      (hr nofun)
  | @unseen _ _ n _ _ f₁ hb =>
    obtain ⟨es, scanout, ht, -⟩ := id hb.takes
    have hquiet := ht.still.trans (f₁.host.inspected_still n)
    exact hb.faithful (GraphicsBuffers.Faithful.still hf hquiet) rfl rfl rfl (hr nofun)
  | freed hb hoffered =>
    -- The new handle is not the one that the buffer has, which nobody has freed.
    have hstate := congrArg Buffer.state hoffered.buffer
    have hmetadata := congrArg Buffer.metadata hoffered.buffer
    exact hb.faithful ((hspared hb hoffered).still (Allocator.withdraw_still _ _ _ _))
      ((Allocator.withdraw_supported _ _).trans hoffered.supported)
      hstate hmetadata (hr nofun)
  | bare hb =>
    obtain ⟨es, scanout, ht, -⟩ := hb.takes
    exact (hf.tail.still (ht.still.trans (Allocator.settled_still _ _))).bare rfl
  | held hb hoffered =>
    obtain ⟨es, scanout, ht, -⟩ := hb.takes
    exact hoffered.faithful (hf.tail.still ht.still) (ht.owned ho.tail) rfl

end

end GraphicsBuffers
