import GraphicsBuffers.Allocator
import GraphicsBuffers.Proofs.Search

/-!
An attempt to create a device context: the nodes are searched, then the library is loaded, then the
device is created, and the first of these that fails is the last that is tried.
-/

namespace GraphicsBuffers

def Event.IsLog : Event → Prop
  | .log .. => True
  | .call _ => False

namespace Discovery

theorem searchDirectory_adds (names : List String) (mapOnly : Bool) :
    Adds Event.IsProbe (searchDirectory names mapOnly) := fun h =>
  (searchDirectory_walks names mapOnly h).imp
    (fun _ _ hs => (Appends.copied h _).trans hs.2.appends)
    fun _ _ hs => (Appends.copied h _).trans hs.2.appends

theorem searchSupplied_adds : Adds Event.IsProbe searchSupplied := by
  refine Adds.get.bind fun h => Adds.bind (Adds.modify ?_) fun _ => ?_
  · exact fun h => ⟨rfl, rfl, rfl, fun _ => rfl, .of_eq rfl rfl, [], by simp, by simp⟩
  cases h.answers.searches.headD none with
  | some e => exact .throw e
  | none => exact .pure _

/-- The search itself is recorded, and then only calls on nodes are made. -/
theorem findNodes_adds (source : NodeSource) (mapOnly : Bool) (h : Host) :
    Yields (findNodes source mapOnly) h
      (fun _ h' => Appends Event.IsProbe (h.record (.findNodes source mapOnly)) h')
      (fun _ h' => Appends Event.IsProbe (h.record (.findNodes source mapOnly)) h') := by
  unfold findNodes
  rw [yields_bind]
  cases source with
  | supplied => exact searchSupplied_adds _
  | directory displayless => exact searchDirectory_adds displayless mapOnly _

end Discovery

namespace Vendor

theorem reserve_keeps (h : Host) (source : LibrarySource) :
    (reserve h source).2.held = h.held ∧ (reserve h source).2.loads = h.loads ∧
      (reserve h source).2.answers.Follows h.answers ∧
      (reserve h source).2.events = h.events := by
  cases source <;> exact ⟨rfl, rfl, .of_eq rfl rfl, rfl⟩

/-- A loaded library has a number of its own; one that is not loaded leaves only messages. -/
theorem load_yields (source : LibrarySource) (h : Host) :
    Yields (load source) h
      (fun library h' => library = ⟨source, h.loads + 1⟩ ∧ h'.held = h.held ∧
        h'.loads = h.loads + 1 ∧ h'.answers.Follows h.answers ∧
        h'.events = h.events ++ [.call (.load source (some (h.loads + 1)))])
      (fun _ h' => h'.held = h.held ∧ h'.loads = h.loads ∧ h'.answers.Follows h.answers ∧
        ∃ logs, (∀ e ∈ logs, e.IsLog) ∧
          h'.events = h.events ++ .call (.load source none) :: logs) := by
  obtain ⟨hheld, hloads, hsystem, hevents⟩ := reserve_keeps h source
  simp only [Yields, load]
  cases hr : reserve h source with
  | mk outcome h₁ =>
    rw [hr] at hheld hloads hsystem hevents
    dsimp only at hheld hloads hsystem hevents
    cases outcome with
    | ok _ =>
      dsimp only
      refine ⟨by rw [hloads], hheld, by rw [← hloads]; rfl, hsystem, ?_⟩
      simp [Host.record, hevents, hloads]
    | error e =>
      dsimp only
      cases source with
      | linked =>
        exact ⟨hheld, hloads, hsystem, [], by simp, by simp [loadFailure, Host.record, hevents]⟩
      | shared name symbol =>
        refine ⟨hheld, hloads, hsystem, [.log .error s!"Failed to load {name}: {e.message}"], ?_, ?_⟩
        · simp [Event.IsLog]
        · simp [loadFailure, Host.record, Host.log, hevents]

theorem createDevice_keeps (library : Library) (node : Option FileName) (h : Host) :
    (createDevice library node h).2.held = h.held ∧
      (createDevice library node h).2.loads = h.loads ∧
      (createDevice library node h).2.answers.Follows h.answers ∧
      (createDevice library node h).2.events =
        h.events ++ [.call (.createDevice library node (createDevice library node h).1)] := by
  unfold createDevice
  dsimp only
  split <;> exact ⟨rfl, rfl, .of_eq rfl rfl, rfl⟩

end Vendor

/-- What an attempt to create a context adds to the events of the host, by how far it gets, with the
number of loads behind it and the context that it comes to. -/
inductive Attempt (a : Allocator) (mapOnly : Bool) (h : Host) :
    List Event → Nat → Option Context → Prop
  | noNodes {probes : List Event} (hp : ∀ e ∈ probes, e.IsProbe) {e : Error} {h' : Host}
      (hn : Discovery.findNodes a.nodes mapOnly h = .error e h') :
      Attempt a mapOnly h (.call (.findNodes a.nodes mapOnly) :: probes) h.loads none
  | noLibrary {probes logs : List Event} (hp : ∀ e ∈ probes, e.IsProbe)
      (hl : ∀ e ∈ logs, e.IsLog) {nodes : Discovery.Nodes} {h' : Host}
      (hn : Discovery.findNodes a.nodes mapOnly h = .ok nodes h') :
      Attempt a mapOnly h (.call (.findNodes a.nodes mapOnly) :: probes ++
        .call (.load a.library none) :: logs) h.loads none
  | noDevice {probes : List Event} (hp : ∀ e ∈ probes, e.IsProbe) {nodes : Discovery.Nodes}
      {h' : Host} (hn : Discovery.findNodes a.nodes mapOnly h = .ok nodes h')
      (level : LogLevel) (text : String) :
      Attempt a mapOnly h (.call (.findNodes a.nodes mapOnly) :: probes ++
        [.call (.load a.library (some (h.loads + 1))),
          .call (.createDevice ⟨a.library, h.loads + 1⟩ (some nodes.device) none),
          .log level text, .call (.unload ⟨a.library, h.loads + 1⟩)]) (h.loads + 1) none
  | created {probes : List Event} (hp : ∀ e ∈ probes, e.IsProbe) {nodes : Discovery.Nodes}
      {h' : Host} (hn : Discovery.findNodes a.nodes mapOnly h = .ok nodes h') (device : Nat) :
      Attempt a mapOnly h (.call (.findNodes a.nodes mapOnly) :: probes ++
        [.call (.load a.library (some (h.loads + 1))),
          .call (.createDevice ⟨a.library, h.loads + 1⟩ (some nodes.device) (some device))])
        (h.loads + 1) (some ⟨⟨a.library, h.loads + 1⟩, device⟩)

/-- An event of an attempt that comes to `found`. -/
inductive Event.Attempts (a : Allocator) (mapOnly : Bool) (found : Option Context) : Event → Prop
  | search : Attempts a mapOnly found (.call (.findNodes a.nodes mapOnly))
  | probe {e : Event} (he : e.IsProbe) : Attempts a mapOnly found e
  | load (number : Option Nat) : Attempts a mapOnly found (.call (.load a.library number))
  | create {library : Library} {node : Option FileName} {device : Option Nat}
      (hd : found = device.map (Context.mk library)) :
      Attempts a mapOnly found (.call (.createDevice library node device))
  | unload (library : Library) : Attempts a mapOnly found (.call (.unload library))

theorem Event.IsLog.isProbe {e : Event} (h : e.IsLog) : e.IsProbe := by
  cases e with
  | log => exact trivial
  | call => exact h.elim

theorem Attempt.each {a : Allocator} {mapOnly : Bool} {h : Host} {es : List Event} {n : Nat}
    {found : Option Context} (ha : Attempt a mapOnly h es n found) :
    ∀ e ∈ es, e.Attempts a mapOnly found := by
  have hsearch {probes : List Event} (hp : ∀ e ∈ probes, e.IsProbe) :
      ∀ e ∈ .call (.findNodes a.nodes mapOnly) :: probes, e.Attempts a mapOnly found :=
    List.forall_mem_cons.mpr ⟨.search, fun e he => .probe (hp e he)⟩
  cases ha with
  | noNodes hp => exact hsearch hp
  | noLibrary hp hl =>
    refine List.forall_mem_append.mpr ⟨hsearch hp, List.forall_mem_cons.mpr ⟨.load _, ?_⟩⟩
    exact fun e he => .probe (hl e he).isProbe
  | noDevice hp =>
    refine List.forall_mem_append.mpr ⟨hsearch hp, ?_⟩
    simp only [List.forall_mem_cons]
    exact ⟨.load _, .create rfl, .probe trivial, .unload _, nofun⟩
  | created hp =>
    refine List.forall_mem_append.mpr ⟨hsearch hp, ?_⟩
    simp only [List.forall_mem_cons]
    exact ⟨.load _, .create rfl, nofun⟩

/-- Between the two hosts lies an attempt to create a context; nothing is held or released. -/
structure Attempted (a : Allocator) (mapOnly : Bool) (h h' : Host) (found : Option Context) :
    Prop where
  held : h'.held = h.held
  system : h'.answers.Follows h.answers
  events : ∃ es, h'.events = h.events ++ es ∧ Attempt a mapOnly h es h'.loads found

namespace Allocator

theorem createContext_attempted (a : Allocator) (mapOnly : Bool) (h : Host) :
    Yields (createContext a mapOnly) h (fun c h' => Attempted a mapOnly h h' (some c))
      (fun _ h' => Attempted a mapOnly h h' none) := by
  unfold createContext
  rw [yields_bind]
  apply (Discovery.findNodes_adds a.nodes mapOnly h).with_result.imp
  · intro nodes h₁ hfind
    obtain ⟨hr, hheld₁, hloads₁, -, -, hsystem₁, probes, hevents₁, hp⟩ := hfind
    have hfound : h₁.events = h.events ++ .call (.findNodes a.nodes mapOnly) :: probes := by
      rw [hevents₁]
      simp [Host.record]
    rw [yields_bind]
    apply (Vendor.load_yields a.library h₁).imp
    · intro _ h₂ h
      obtain ⟨rfl, hheld₂, hloads₂, hsystem₂, hevents₂⟩ := h
      simp only [yields_bind, yields_get]
      have hn : h₁.loads = h.loads := hloads₁
      obtain ⟨hheld₃, hloads₃, hsystem₃, hevents₃⟩ :=
        Vendor.createDevice_keeps ⟨a.library, h₁.loads + 1⟩ (some nodes.device) h₂
      rw [hheld₂, hheld₁] at hheld₃
      rw [hloads₂] at hloads₃
      rw [hevents₂, hfound] at hevents₃
      have hsystem₃ := (hsystem₁.trans hsystem₂).trans hsystem₃
      generalize Vendor.createDevice ⟨a.library, h₁.loads + 1⟩ (some nodes.device) h₂ = made
        at hheld₃ hloads₃ hsystem₃ hevents₃ ⊢
      obtain ⟨device, h₃⟩ := made
      rw [hn] at hloads₃ hevents₃ ⊢
      dsimp only at hheld₃ hloads₃ hsystem₃ hevents₃ ⊢
      rw [yields_set]
      cases device with
      | some device =>
        refine ⟨hheld₃, hsystem₃, ?_⟩
        rw [hloads₃]
        exact ⟨_, by rw [hevents₃]; simp, .created hp hr device⟩
      | none =>
        refine ⟨hheld₃, hsystem₃, ?_⟩
        change ∃ es, _ ∧ Attempt a mapOnly h es h₃.loads none
        rw [hloads₃]
        refine ⟨_, ?_, .noDevice hp hr .error "Unable to create gbm_mesa driver"⟩
        simp [Host.record, Host.log, hevents₃]
    · intro _ h₂ h
      obtain ⟨hheld₂, hloads₂, hsystem₂, logs, hl, hevents₂⟩ := h
      refine ⟨hheld₂.trans hheld₁, hsystem₁.trans hsystem₂, ?_⟩
      rw [hloads₂, hloads₁]
      exact ⟨_, by rw [hevents₂, hfound, List.append_assoc], .noLibrary hp hl hr⟩
  · intro _ h₁ hfind
    obtain ⟨hr, hheld₁, hloads₁, -, -, hsystem₁, probes, hevents₁, hp⟩ := hfind
    refine ⟨hheld₁, hsystem₁, ?_⟩
    rw [hloads₁]
    exact ⟨_, by simp [hevents₁, Host.record], .noNodes hp hr⟩

end Allocator

end GraphicsBuffers
