import GraphicsBuffers.Proofs.Grant
import GraphicsBuffers.Proofs.Planning
import GraphicsBuffers.Proofs.Release

/-!
How far the creation of a buffer gets: whether there is memory for it, how its planes are placed
there, and whether it is imported so that it can be mapped.
-/

namespace GraphicsBuffers

open Metadata

/-! ### Planes in allocated memory -/

namespace Plan

/-- The planes of a buffer with the metadata `m`, placed in memory that was asked for by the plan and
has rows of `stride` bytes. The bytes of a format that is not native lie as they were planned, with
no regard to these rows. -/
inductive Placed (m : Metadata) (flags : UseFlags) (stride : UInt32) : Bool → Plan → Metadata → Prop
  | own {plan : Plan} {shapes : List PlaneShape} {m' : Metadata} (h : Own m flags plan)
      (hrow : ¬(m.format = .r8 ∧ m.height = 1)) (hs : m.format.planes? = some shapes)
      (hl : Linear stride m.height shapes m m') : Placed m flags stride true plan m'
  | row {plan : Plan} {m' : Metadata} (h : Own m flags plan)
      (hrow : m.format = .r8 ∧ m.height = 1)
      (hl : Linear stride plan.fold.request.height [⟨1, 1, 1⟩] m m') :
      Placed m flags stride true plan.fold m'
  | bytes {first plan : Plan} {shape : PlaneShape} {rest : List PlaneShape} {row : UInt32}
      {laid : Metadata} {total : UInt64} (h : Bytes m flags first shape rest row laid total)
      (hw : plan.request.width.toNat = total.toNat) (hf : plan.request.format = .r8) :
      Placed m flags stride false plan.fold { laid with totalSize := total }

variable {m m' : Metadata} {flags : UseFlags} {stride : UInt32} {native : Bool} {plan : Plan}

/-- What a plan knows of the layout is how the planes are placed. -/
theorem Drawn.blob (h : Drawn m flags native plan) {layout : Metadata}
    (hl : plan.blob = some layout) (stride : UInt32) : Placed m flags stride native plan layout := by
  cases h with
  | own h => cases h.blob.symm.trans hl
  | row h => cases h.blob.symm.trans hl
  | bytes h hb =>
    obtain ⟨shape, rest, row, laid, total, hbytes, hw, -, hf, hblob⟩ := asBytes_ok h hb
    rw [fold_blob, hblob] at hl
    cases hl
    exact .bytes hbytes hw hf

theorem Drawn.lay (h : Drawn m flags native plan) (hn : plan.blob = none) {shapes : List PlaneShape}
    (hs : m.format.planes? = some shapes)
    (hl : Linear stride plan.request.height shapes m m') : Placed m flags stride native plan m' := by
  cases h with
  | own h hrow =>
    rw [h.height] at hl
    exact .own h hrow hs hl
  | row h hrow =>
    rw [hrow.1] at hs
    cases hs
    exact .row h hrow hl
  | bytes h hb =>
    obtain ⟨_, _, _, _, _, _, _, _, _, hblob⟩ := asBytes_ok h hb
    rw [fold_blob, hblob] at hn
    cases hn

theorem Placed.laid (h : Placed m flags stride native plan m') : m'.Laid := by
  cases h with
  | own h hrow hs hl => exact (hl.laid hs).1
  | row h hrow hl => exact (hl.laid (by rw [hrow.1]; rfl)).1
  | bytes h =>
    obtain ⟨hl, -⟩ := h.linear.laid h.shapes
    exact hl.pad h.total_le _

theorem Placed.format (h : Placed m flags stride native plan m') : m'.format = m.format := by
  cases h with
  | own _ _ _ hl => rw [hl.others]
  | row _ _ hl => rw [hl.others]
  | bytes h =>
    have := h.linear.others
    dsimp only
    rw [this]

/-- A buffer in a native format is known by its own size. -/
theorem Placed.geometry_native (h : Placed m flags stride true plan m') (modifier : UInt64) :
    Allocator.geometry true { m' with modifier } = .ok (m.width, m.height, m.format) := by
  cases h with
  | own _ _ _ hl =>
    rw [hl.others]
    rfl
  | row _ _ hl =>
    rw [hl.others]
    rfl

/-- A buffer in another format is known as one row of all its bytes. -/
theorem Placed.geometry_bytes (h : Placed m flags stride false plan m') (modifier : UInt64) :
    m'.totalSize.toNat < 0x100000000 ∧
      Allocator.geometry false { m' with modifier } = .ok (m'.totalSize.toUInt32, 1, .r8) := by
  cases h with
  | @bytes _ plan' _ _ _ _ total h hw hf =>
    have hlt : total.toNat < 0x100000000 := by
      have := plan'.request.width.toNat_lt
      omega
    refine ⟨hlt, ?_⟩
    simp [Allocator.geometry, narrow_of_lt hlt, bind, Except.bind, pure, Except.pure]

end Plan

/-- The geometry does not depend on how the planes lie. -/
theorem Metadata.Framed.geometry {m m' : Metadata} (h : Framed m m') (native : Bool) :
    m'.format = m.format ∧ Allocator.geometry native m' = Allocator.geometry native m := by
  rw [Framed] at h
  rw [h]
  exact ⟨rfl, rfl⟩

/-! ### The buffer in focus -/

/-- Under what the vendor library knows a buffer. -/
def Host.known (h : Host) (b : Buffer) : Except Error (UInt32 × UInt32 × Format) :=
  Allocator.geometry (h.supports b.metadata.format) b.metadata

/-- Under what the vendor library knows the buffer in focus. -/
def Focus.known (f : Focus) : Except Error (UInt32 × UInt32 × Format) := f.host.known f.buffer

/-- Memory was allocated for the buffer in focus, and its planes are placed there. -/
structure Backed (flags : UseFlags) (f : Focus) (plan : Plan) (al : Vendor.Allocation)
    (f' : Focus) : Prop where
  takes : ∃ es scanout, Takes f.host es f'.host ∧
    Granted f.host.answers.allocs es { plan.request with scanout } al
  placed : ∃ m, Plan.Placed f.buffer.metadata flags al.stride
      (f.host.supports f.buffer.metadata.format) plan m ∧
    f'.buffer = { f.buffer with metadata := { m with modifier := al.modifier } }

/-- The buffer in focus was offered for import as it is known, and the library answered with a
handle or none. -/
structure Offered (c : Context) (stride : UInt32) (f : Focus) (request : ImportRequest)
    (handle : Option Nat) (f' : Focus) : Prop where
  known : f.known = .ok (request.width, request.height, request.format)
  stride : request.stride = stride
  events : ∃ logs, (∀ e ∈ logs, e.IsLog) ∧ f'.host.events =
    f.host.events ++ .call (.importBuffer c.library c.device request handle) :: logs
  supported : f'.host.supported = f.host.supported
  system : f'.host.answers.Follows f.host.answers
  buffer : f'.buffer = f.buffer

theorem Focus.known_congr {f f' : Focus} (hs : f'.host.supported = f.host.supported)
    (hm : f'.buffer.metadata = f.buffer.metadata) : f'.known = f.known := by
  simp only [known, Host.known, Host.supports, hs, hm]

theorem Backed.after {flags : UseFlags} {f f₁ f' : Focus} {plan : Plan} {al : Vendor.Allocation}
    (hi : Idles f.host f₁.host) (hb : f₁.buffer = f.buffer) (h : Backed flags f₁ plan al f') :
    Backed flags f plan al f' := by
  obtain ⟨es, ht, -⟩ := hi
  obtain ⟨⟨es', scanout, ht', hg⟩, hp⟩ := h
  rw [hb, ht.supports] at hp
  exact ⟨⟨es ++ es', scanout, ht.trans ht', hg.right ht⟩, hp⟩

theorem Takes.copied {h h' : Host} {es : List Event} (ht : Takes h es h') (n : Nat) :
    Takes h es (h'.copied n) :=
  ⟨ht.events, ht.supported, ht.allocs,
    ht.system.trans (Appends.copied (p := Event.IsLog) h' n).system,
    ht.aside⟩

/-- The memory is there still once its descriptor has been duplicated. -/
theorem Backed.copied {flags : UseFlags} {f f' : Focus} {plan : Plan} {al : Vendor.Allocation}
    (h : Backed flags f plan al f') (n : Nat) : Backed flags f plan al (f'.copied n) := by
  obtain ⟨⟨es, scanout, ht, hg⟩, hp⟩ := h
  exact ⟨⟨es, scanout, ht.copied n, hg⟩, hp⟩

theorem Backed.system {flags : UseFlags} {f f' : Focus} {plan : Plan} {al : Vendor.Allocation}
    (h : Backed flags f plan al f') : f'.host.answers.Follows f.host.answers := by
  obtain ⟨es, scanout, ht, -⟩ := h.takes
  exact ht.system

theorem Backed.state {flags : UseFlags} {f f' : Focus} {plan : Plan} {al : Vendor.Allocation}
    (h : Backed flags f plan al f') : f'.buffer.state = f.buffer.state := by
  obtain ⟨m, -, hb⟩ := h.placed
  rw [hb]

/-- The answer that the allocation rests on is among those to the requests since. -/
theorem Backed.granted {flags : UseFlags} {f f₁ f' : Focus} {plan : Plan} {al : Vendor.Allocation}
    (h : Backed flags f plan al f₁) {es : List Event}
    (he : f'.host.events = f₁.host.events ++ es) :
    ∃ scanout, Granted f.host.answers.allocs (added f.host f'.host)
      { plan.request with scanout } al := by
  obtain ⟨es₁, scanout, ht, hg⟩ := h.takes
  rw [ht.events, List.append_assoc] at he
  rw [added_eq he]
  exact ⟨scanout, hg.left es⟩

theorem Backed.known_eq {flags : UseFlags} {f f' : Focus} {plan : Plan} {al : Vendor.Allocation}
    (h : Backed flags f plan al f') :
    f'.known = Allocator.geometry (f.host.supports f.buffer.metadata.format) f'.buffer.metadata := by
  obtain ⟨⟨es, scanout, ht, -⟩, m, hp, hb⟩ := h
  unfold Focus.known Host.known
  rw [ht.supports, hb]
  exact congrArg (Allocator.geometry · _) (congrArg f.host.supports hp.format)

theorem Backed.known_native {flags : UseFlags} {f f' : Focus} {plan : Plan} {al : Vendor.Allocation}
    (h : Backed flags f plan al f') (hn : f.host.supports f.buffer.metadata.format = true) :
    f'.known = f.known := by
  rw [h.known_eq, Focus.known, Host.known, hn]
  obtain ⟨m, hp, hb⟩ := h.placed
  rw [hn] at hp
  rw [hb]
  exact hp.geometry_native _

/-- The size of a native buffer does not depend on how it lies, and that of another only on how many
bytes it has. -/
theorem Backed.known_kept {flags : UseFlags} {f f' : Focus} {plan : Plan} {al : Vendor.Allocation}
    (h : Backed flags f plan al f') (hk : f.host.supports f.buffer.metadata.format = true ∨
      f'.buffer.metadata.totalSize = f.buffer.metadata.totalSize) : f'.known = f.known := by
  cases hn : f.host.supports f.buffer.metadata.format with
  | true => exact h.known_native hn
  | false =>
    have htotal := hk.resolve_left (by rw [hn]; exact Bool.false_ne_true)
    rw [h.known_eq, Focus.known, Host.known, hn]
    simp only [Allocator.geometry, Bool.false_eq_true, ↓reduceIte, htotal]

theorem Backed.known {flags : UseFlags} {f f' : Focus} {plan : Plan} {al : Vendor.Allocation}
    (h : Backed flags f plan al f') : ∃ known, f'.known = .ok known := by
  rw [h.known_eq]
  obtain ⟨m, hp, hb⟩ := h.placed
  rw [hb]
  generalize f.host.supports f.buffer.metadata.format = native at hp
  cases native with
  | true => exact ⟨_, hp.geometry_native _⟩
  | false => exact ⟨_, (hp.geometry_bytes _).2⟩

/-- How the creation of a buffer goes, by the error that it fails with. -/
inductive Made (flags : UseFlags) (f : Focus) : Option Error → Focus → Prop
  /-- There is no memory, or the planes cannot be placed in it. -/
  | early {e : Error} {es : List Event} {f' : Focus} (ht : Takes f.host es f'.host)
      (hs : f'.buffer.state = f.buffer.state) (hk : f'.known = f.known) : Made flags f (some e) f'
  /-- The memory's descriptor cannot be duplicated for every plane. -/
  | uncopied {plan : Plan} {al : Vendor.Allocation} {code : Int32} {f' : Focus}
      (hb : Backed flags f plan al f') (hc : some code ∈ f.host.answers.duplicates) :
      Made flags f (some (.io (.numbered code))) f'
  | refused {plan : Plan} {al : Vendor.Allocation} {c : Context} {request : ImportRequest}
      {f₁ f' : Focus} (hb : Backed flags f plan al f₁)
      (ho : Offered c (f₁.buffer.metadata.strides.entry 0) f₁ request none f') :
      Made flags f (some .importRefused) f'
  /-- The inode of a plane cannot be found out; a handle is freed again. -/
  | unseen {plan : Plan} {al : Vendor.Allocation} {n : Nat} {inodes : Planes UInt64} {code : Int32}
      {f₁ : Focus} (hb : Backed flags f plan al f₁) (hc : some code ∈ f.host.answers.inspections) :
      Made flags f (some (.io (.numbered code)))
        { f₁ with host := f₁.host.inspected n, buffer.inodes := inodes }
  | freed {plan : Plan} {al : Vendor.Allocation} {c : Context} {request : ImportRequest}
      {handle n : Nat} {inodes : Planes UInt64} {code : Int32} {f₁ f₂ : Focus}
      (hb : Backed flags f plan al f₁)
      (ho : Offered c (f₁.buffer.metadata.strides.entry 0) f₁ request (some handle) f₂)
      (hc : some code ∈ f.host.answers.inspections) :
      Made flags f (some (.io (.numbered code))) (Allocator.withdraw
        ⟨List.replicate f₂.buffer.metadata.numPlanes al.descriptor, some ⟨c, handle⟩, al.mapStride⟩
        { f₂ with host := f₂.host.inspected n, buffer.inodes := inodes })
  | bare {plan : Plan} {al : Vendor.Allocation} {f₁ : Focus} (hb : Backed flags f plan al f₁) :
      Made flags f none (Allocator.settled
        ⟨List.replicate f₁.buffer.metadata.numPlanes al.descriptor, none, al.mapStride⟩ f₁)
  | held {plan : Plan} {al : Vendor.Allocation} {c : Context} {request : ImportRequest} {n : Nat}
      {f₁ f₂ : Focus} (hb : Backed flags f plan al f₁)
      (ho : Offered c (f₁.buffer.metadata.strides.entry 0) f₁ request (some n) f₂) :
      Made flags f none (Allocator.settled
        ⟨List.replicate f₂.buffer.metadata.numPlanes al.descriptor, some ⟨c, n⟩, al.mapStride⟩ f₂)

theorem Made.attached {flags : UseFlags} {f f' : Focus} (h : Made flags f none f') :
    ∃ plan al imported f₁ f₂, Backed flags f plan al f₁ ∧ f₂.buffer = f₁.buffer ∧
      (∃ es, f₂.host.events = f₁.host.events ++ es) ∧
      f' = Allocator.settled
        ⟨List.replicate f₂.buffer.metadata.numPlanes al.descriptor, imported, al.mapStride⟩ f₂ := by
  generalize hr : none = r at h
  cases h with
  | early | uncopied | refused | unseen | freed => cases hr
  | bare hb => exact ⟨_, _, _, _, _, hb, rfl, ⟨[], by simp⟩, rfl⟩
  | held hb ho =>
    obtain ⟨logs, -, hevents⟩ := ho.events
    exact ⟨_, _, _, _, _, hb, ho.buffer, ⟨_, hevents⟩, rfl⟩

theorem Offered.offers {c : Context} {stride : UInt32} {f f' : Focus} {request : ImportRequest}
    {handle : Option Nat} (h : Offered c stride f request handle f') :
    Offers f.host f'.host [request] := by
  obtain ⟨logs, hlogs, he⟩ := h.events
  exact Finds.single he fun e hm => (hlogs e hm).aside.2.1

theorem Extends.offers {h h' : Host} (hr : Extends Event.IsRelease h h') : Offers h h' [] := by
  obtain ⟨es, he, hes⟩ := hr
  exact .none he fun e hm => (hes e hm).offered

theorem Extends.asks {h h' : Host} (hr : Extends Event.IsRelease h h') :
    Finds Event.asked? h h' [] := by
  obtain ⟨es, he, hes⟩ := hr
  exact .none he fun e hm => (hes e hm).asked

theorem Offered.asks {c : Context} {stride : UInt32} {f f' : Focus} {request : ImportRequest}
    {handle : Option Nat} (h : Offered c stride f request handle f') :
    Finds Event.asked? f.host f'.host [] := by
  obtain ⟨logs, hlogs, he⟩ := h.events
  refine .none he fun e hm => ?_
  rcases List.mem_cons.mp hm with rfl | hm
  · rfl
  · exact (hlogs e hm).aside.1

/-- Only allocated memory is offered for import, and the buffer stays as it was offered. -/
theorem Made.offers {flags : UseFlags} {f f' : Focus} {failure : Option Error}
    {request : ImportRequest} (h : Made flags f failure f')
    (hr : request ∈ offered (added f.host f'.host)) :
    ∃ plan al c handle f₁ f₂, Backed flags f plan al f₁ ∧
      Offered c (f₁.buffer.metadata.strides.entry 0) f₁ request handle f₂ ∧
      f'.buffer.metadata = f₁.buffer.metadata ∧ ∃ es, f'.host.events = f₁.host.events ++ es := by
  have hnone {plan : Plan} {al : Vendor.Allocation} {f₁ : Focus} {h' : Host}
      (hb : Backed flags f plan al f₁) (hx : Extends Event.IsRelease f₁.host h') :
      offered (added f.host h') = [] := by
    obtain ⟨es, scanout, ht, -⟩ := hb.takes
    exact (ht.offers.trans hx.offers).eq
  have hone {plan : Plan} {al : Vendor.Allocation} {c : Context} {handle : Option Nat}
      {request' : ImportRequest} {f₁ f₂ : Focus} (hb : Backed flags f plan al f₁)
      (ho : Offered c (f₁.buffer.metadata.strides.entry 0) f₁ request' handle f₂)
      (hx : Extends Event.IsRelease f₂.host f'.host)
      (hm : f'.buffer.metadata = f₂.buffer.metadata) :
      ∃ plan al c handle f₁ f₂, Backed flags f plan al f₁ ∧
        Offered c (f₁.buffer.metadata.strides.entry 0) f₁ request handle f₂ ∧
        f'.buffer.metadata = f₁.buffer.metadata ∧
        ∃ es, f'.host.events = f₁.host.events ++ es := by
    obtain ⟨es, scanout, ht, -⟩ := hb.takes
    have hrest := ho.offers.trans hx.offers
    obtain ⟨es', he', -⟩ := id hrest
    rw [(ht.offers.trans hrest).eq] at hr
    obtain rfl := List.mem_singleton.mp hr
    exact ⟨_, _, _, _, _, _, hb, ho, by rw [hm, ho.buffer], _, he'⟩
  cases h with
  | early ht =>
    rw [ht.offers.eq] at hr
    cases hr
  | uncopied hb =>
    rw [hnone hb (.refl _)] at hr
    cases hr
  | refused hb ho => exact hone hb ho (.refl _) rfl
  | @unseen _ _ n _ _ f₁ hb =>
    have hquiet : Extends Event.IsRelease f₁.host (f₁.host.inspected n) := .refl _
    have hr : request ∈ offered (added f.host (f₁.host.inspected n)) := hr
    rw [hnone hb hquiet] at hr
    cases hr
  | freed hb ho => exact hone hb ho (Allocator.withdraw_extends _ _) rfl
  | bare hb =>
    rw [hnone hb (Allocator.settled_extends _ _)] at hr
    cases hr
  | held hb ho => exact hone hb ho (Allocator.settled_extends _ _) rfl

namespace Allocator

variable (a : Allocator) (c : Context) (flags : UseFlags) (f : Focus)

/-- Rows are as long as the memory has them, unless the layout was planned beforehand. -/
theorem recordLayout_records {m : Metadata} {native : Bool} {plan : Plan} {f : Focus}
    (al : Vendor.Allocation) (hd : plan.Drawn m flags native) (hm : f.buffer.metadata = m) :
    Yields (recordLayout plan al m.format) f
      (fun _ f' => ∃ m', Plan.Placed m flags al.stride native plan m' ∧
        (plan.blob = none → m'.strides.entry 0 = al.stride) ∧
        f' = { f with buffer.metadata := { m' with modifier := al.modifier } })
      (fun e f' => plan.blob = none ∧
        ∃ m', layOut m.format al.stride plan.request.height m = .error e m' ∧ Framed m m' ∧
          f' = { f with buffer.metadata := m' }) := by
  unfold recordLayout
  cases hb : plan.blob with
  | some layout => exact ⟨layout, hd.blob hb _, nofun, rfl⟩
  | none =>
    simp only [yields_bind, yields_onMetadata, yields_modify]
    rw [hm]
    apply (layOut_linear m.format al.stride plan.request.height m rfl).with_result.imp
    · rintro _ m' ⟨-, shapes, hs, hl⟩
      obtain ⟨first, rest, rfl⟩ := List.exists_cons_of_length_pos (Format.planes_length hs).1
      exact ⟨m', hd.lay hb hs hl, fun _ => hl.first_stride, rfl⟩
    · rintro e m' ⟨hr, h⟩
      exact ⟨trivial, m', hr, h, rfl⟩

theorem recordLayout_places {m : Metadata} {native : Bool} {plan : Plan} {f : Focus}
    (al : Vendor.Allocation) (hd : plan.Drawn m flags native) (hm : f.buffer.metadata = m) :
    Yields (recordLayout plan al m.format) f
      (fun _ f' => ∃ m', Plan.Placed m flags al.stride native plan m' ∧
        f' = { f with buffer.metadata := { m' with modifier := al.modifier } })
      (fun _ f' => ∃ m', Framed m m' ∧ f' = { f with buffer.metadata := m' }) := by
  apply (recordLayout_records flags al hd hm).imp
  · rintro _ f' ⟨m', hp, -, hf⟩
    exact ⟨m', hp, hf⟩
  · rintro _ f' ⟨-, m', -, hframed, hf⟩
    exact ⟨m', hframed, hf⟩

theorem allocateMemory_backs :
    Yields (allocateMemory c flags) f (fun al f' => ∃ plan, Backed flags f plan al f')
      (fun _ f' => (∃ es, Takes f.host es f'.host) ∧ f'.buffer.state = f.buffer.state ∧
        f'.known = f.known) := by
  unfold allocateMemory
  simp only [yields_bind, yields_get, yields_ofExcept]
  refine ⟨?_, fun _ _ => ⟨⟨[], .nil _⟩, trivial, trivial⟩⟩
  rintro ⟨plan, notes⟩ hplan
  apply (notes_append (p := Event.IsLog) (fun _ _ => trivial) notes f).imp
  · rintro _ _ ⟨h, rfl, hh⟩
    obtain ⟨es, ht, -⟩ := Idles.of_appends (fun _ he => he.aside) hh
    simp only [yields_onHost]
    apply (allocPlanned_takes c plan h).imp
    · intro al h₁ hg
      obtain ⟨es₁, scanout, ht₁, hg⟩ := hg
      have ht₁ := ht.trans ht₁
      apply (recordLayout_places flags (f := { f with host := h₁ }) al
        (Plan.draw_drawn hplan) rfl).imp
      · intro _ f₂ hp
        obtain ⟨m, hp, rfl⟩ := hp
        simp only [yields_log, yields_pure]
        exact ⟨plan, ⟨_, scanout, ht₁.log _ _, (hg.right ht).left _⟩, m, hp, rfl⟩
      · intro _ f₂ hm
        obtain ⟨m, hm, rfl⟩ := hm
        refine ⟨⟨_, ht₁⟩, rfl, ?_⟩
        have hgeometry := hm.geometry (f.host.supports f.buffer.metadata.format)
        change geometry (h₁.supports m.format) m = _
        rw [ht₁.supports, hgeometry.1, hgeometry.2]
        rfl
    · intro _ h₁ ht₁
      obtain ⟨es₁, ht₁⟩ := ht₁
      have ht₁ := ht.trans ht₁
      exact ⟨⟨_, ht₁⟩, trivial, Focus.known_congr ht₁.supported rfl⟩
  · exact fun _ _ h => h.elim

theorem importOn_passes (d : Descriptor) (stride : UInt32) (modifier : UInt64) (refused : String) :
    Yields (importOn c d stride modifier refused) f
      (fun i f' => i.context = c ∧ ∃ request,
        (request.descriptor = d ∧ request.modifier = modifier) ∧
          Offered c stride f request (some i.handle) f')
      (fun e f' => ((∃ e', f.known = .error e') ∧ f' = f) ∨
        e = .importRefused ∧ ∃ request, (request.descriptor = d ∧ request.modifier = modifier) ∧
          Offered c stride f request none f') := by
  unfold importOn
  simp only [yields_bind, yields_get, yields_ofExcept]
  refine ⟨?_, fun e he => Or.inl ⟨⟨e, he⟩, trivial⟩⟩
  rintro ⟨width, height, format⟩ hknown
  generalize hr : (⟨d, width, height, stride, modifier, format⟩ : ImportRequest) = request
  have hknown : f.known = .ok (request.width, request.height, request.format) := by
    rw [← hr]
    exact hknown
  have hstride : request.stride = stride := by rw [← hr]
  have hmemory : request.descriptor = d ∧ request.modifier = modifier := by
    rw [← hr]
    exact ⟨rfl, rfl⟩
  obtain ⟨-, -, hsupported, -, hsystem, hevents⟩ :=
    Vendor.importBuffer_keeps c.library c.device request f.host
  generalize Vendor.importBuffer c.library c.device request f.host = made
    at hsupported hsystem hevents ⊢
  obtain ⟨handle, h⟩ := made
  cases handle with
  | some n =>
    exact ⟨rfl, request, hmemory, hknown, hstride, ⟨[], by simp, hevents⟩, hsupported, hsystem, rfl⟩
  | none =>
    refine Or.inr ⟨rfl, request, hmemory, hknown, hstride, ⟨[.log .error refused], ?_, ?_⟩,
      hsupported, hsystem, rfl⟩
    · simp [Event.IsLog]
    · dsimp only at hevents
      simp [Host.log, hevents]

theorem importOn_offers (d : Descriptor) (stride : UInt32) (modifier : UInt64) (refused : String) :
    Yields (importOn c d stride modifier refused) f
      (fun i f' => i.context = c ∧ ∃ request, Offered c stride f request (some i.handle) f')
      (fun e f' => ((∃ e', f.known = .error e') ∧ f' = f) ∨
        e = .importRefused ∧ ∃ request, Offered c stride f request none f') := by
  apply (importOn_passes c f d stride modifier refused).imp
  · rintro i f' ⟨hi, request, -, ho⟩
    exact ⟨hi, request, ho⟩
  · rintro e f' (h | ⟨he, request, -, ho⟩)
    · exact Or.inl h
    · exact Or.inr ⟨he, request, ho⟩

/-- Memory that its planes lie in is imported if it is to be mapped, and attached to the buffer. -/
theorem attachAllocated_made {plan : Plan} {al : Vendor.Allocation} {f₂ : Focus}
    (hm : Backed flags f plan al f₂) :
    Yields (attachAllocated c flags al) f₂ (fun _ f' => Made flags f none f')
      (fun e f' => Made flags f (some e) f') := by
  unfold attachAllocated importAllocated
  rw [yields_bind]
  apply (copyPlanes_yields al.descriptor f₂).imp
  · rintro _ _ ⟨rfl, rfl, -⟩
    have hm := hm.copied f₂.buffer.metadata.numPlanes
    rw [yields_bind]
    split
    · simp only [yields_bind, yields_get, yields_map]
      apply (importOn_offers c _ _ _ _ _).imp
      · intro i f₃ ho
        obtain ⟨rfl, request, ho⟩ := ho
        have hplanes : f₂.buffer.metadata.numPlanes = f₃.buffer.metadata.numPlanes := by
          rw [ho.buffer]
          rfl
        rw [hplanes]
        apply (settle_yields _ f₃).imp
        · rintro _ _ ⟨rfl, -⟩
          exact .held hm ho
        · rintro _ _ ⟨n, inodes, code, rfl, rfl, hcode⟩
          exact .freed hm ho
            ((hm.system.trans ho.system).inspections.mem (mem_of_faultWithin hcode))
      · intro e f₃ ho
        rcases ho with ⟨⟨e', hn⟩, -⟩ | ⟨rfl, request, ho⟩
        · obtain ⟨known, hk⟩ := hm.known
          cases hn.symm.trans hk
        · exact .refused hm ho
    · rw [yields_pure]
      apply (settle_yields _ _).imp
      · rintro _ _ ⟨rfl, -⟩
        exact .bare hm
      · rintro _ _ ⟨n, inodes, code, rfl, rfl, hcode⟩
        exact .unseen hm (hm.system.inspections.mem (mem_of_faultWithin hcode))
  · rintro _ _ ⟨n, code, rfl, rfl, hcode⟩
    exact .uncopied (hm.copied n) (hm.system.duplicates.mem (mem_of_faultWithin hcode))

theorem create_made :
    Yields (create a flags) f (fun _ f' => Made flags f none f')
      (fun e f' => Made flags f (some e) f') := by
  unfold create
  rw [yields_bind]
  apply (requireContext_idles a false f).imp
  · intro c f₁ h
    obtain ⟨hi, hb⟩ := h
    rw [allocateOn_eq, yields_bind]
    apply (allocateMemory_backs c flags f₁).imp
    · intro al f₂ hm
      obtain ⟨plan, hm⟩ := hm
      exact attachAllocated_made c flags f (hm.after hi hb)
    · intro e f₂ hf
      obtain ⟨⟨es, ht⟩, hs, hk⟩ := hf
      obtain ⟨es₁, ht₁, -⟩ := hi
      exact .early (ht₁.trans ht) (by rw [hs, hb])
        (hk.trans (Focus.known_congr ht₁.supported (by rw [hb])))
  · intro e f₁ h
    obtain ⟨⟨es, ht, -⟩, hb⟩ := h
    exact .early ht (by rw [hb]) (Focus.known_congr ht.supported (by rw [hb]))

variable {a flags f}

theorem create_leaves {f' : Focus} (h : Leaves (create a flags) f f') :
    ∃ failure, Made flags f failure f' := by
  have hmade : Yields (create a flags) f (fun _ f' => ∃ failure, Made flags f failure f')
      (fun _ f' => ∃ failure, Made flags f failure f') :=
    (create_made a flags f).imp (fun _ _ h => ⟨_, h⟩) (fun _ _ h => ⟨_, h⟩)
  exact hmade.of_leaves h

variable (a flags f)

theorem unplaced_ok {width height : UInt32} {format : Format} {flags : UseFlags} {m : Metadata}
    (h : unplaced width height format flags = .ok m) :
    m.width = width ∧ m.height = height ∧ m.format = format := by
  obtain ⟨shapes, -, h⟩ := bind_eq_ok.mp h
  cases h
  exact ⟨rfl, rfl, rfl⟩

theorem createBuffer_made (width height : UInt32) (format : Format) :
    Yields ((backend a).createBuffer width height format flags) f
      (fun _ f' => ∃ m, unplaced width height format flags = .ok m ∧ Made flags (onNew m f) none f')
      (fun e f' => f' = f ∨ ∃ m, unplaced width height format flags = .ok m ∧
        Made flags (onNew m f) (some e) f') := by
  unfold Backend.createBuffer
  simp only [yields_bind, yields_ofExcept, yields_modify]
  constructor
  · intro m hm
    apply (create_made a flags (onNew m f)).imp
    · exact fun _ f' h => ⟨m, hm, h⟩
    · exact fun e f' h => Or.inr ⟨m, hm, h⟩
  · exact fun _ _ => Or.inl trivial

end Allocator

end GraphicsBuffers
