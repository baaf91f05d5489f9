import GraphicsBuffers.Backend

/-!
What holds after an action, whether it comes to a result or fails. Every rule follows the way in
which actions are put together, so that a statement about an action splits into statements about
its parts.
-/

namespace GraphicsBuffers

variable {ε σ α β : Type}

/-- After the action, `post` holds of its result, or `fail` of its failure. -/
def Yields (act : EStateM ε σ α) (s : σ) (post : α → σ → Prop) (fail : ε → σ → Prop) : Prop :=
  match act s with
  | .ok a t => post a t
  | .error e t => fail e t

variable {s : σ} {post : α → σ → Prop} {fail : ε → σ → Prop}

instance {act : EStateM ε σ α} [∀ a t, Decidable (post a t)] [∀ e t, Decidable (fail e t)] :
    Decidable (Yields act s post fail) :=
  match hs : act s with
  | .ok a t => decidable_of_iff (post a t) (by simp only [Yields, hs])
  | .error e t => decidable_of_iff (fail e t) (by simp only [Yields, hs])

theorem Yields.imp {act : EStateM ε σ α} {post' : α → σ → Prop} {fail' : ε → σ → Prop}
    (h : Yields act s post fail) (hpost : ∀ a t, post a t → post' a t)
    (hfail : ∀ e t, fail e t → fail' e t) : Yields act s post' fail' := by
  unfold Yields at h ⊢
  cases hs : act s with
  | ok a t =>
    rw [hs] at h
    exact hpost a t h
  | error e t =>
    rw [hs] at h
    exact hfail e t h

/-- What is said of results alone. -/
theorem Yields.imp_ok {act : EStateM ε σ α} {post' : α → σ → Prop}
    (h : Yields act s post fail) (hpost : ∀ a t, post a t → post' a t) :
    Yields act s post' (fun _ _ => True) := h.imp hpost fun _ _ _ => trivial

/-- What is said of failures alone. -/
theorem Yields.imp_error {act : EStateM ε σ α} {fail' : ε → σ → Prop}
    (h : Yields act s post fail) (hfail : ∀ e t, fail e t → fail' e t) :
    Yields act s (fun _ _ => True) fail' := h.imp (fun _ _ _ => trivial) hfail

theorem Yields.of_ok {act : EStateM ε σ α} {a : α} {t : σ}
    (h : Yields act s post fail) (hs : act s = .ok a t) : post a t := by
  unfold Yields at h
  rwa [hs] at h

theorem Yields.of_error {act : EStateM ε σ α} {e : ε} {t : σ}
    (h : Yields act s post fail) (hs : act s = .error e t) : fail e t := by
  unfold Yields at h
  rwa [hs] at h

theorem Yields.exists_ok {act : EStateM ε σ α} (h : Yields act s post (fun _ _ => False)) :
    ∃ a t, act s = .ok a t ∧ post a t := by
  unfold Yields at h
  cases hs : act s with
  | ok a t =>
    rw [hs] at h
    exact ⟨a, t, rfl, h⟩
  | error e t =>
    rw [hs] at h
    exact h.elim

/-- The action leaves the state as `t`, whether it came to a result or failed. -/
def Leaves (act : EStateM ε σ α) (s t : σ) : Prop :=
  (∃ a, act s = .ok a t) ∨ ∃ e, act s = .error e t

theorem Yields.of_leaves {act : EStateM ε σ α} {p : σ → Prop} {t : σ}
    (h : Yields act s (fun _ t => p t) (fun _ t => p t)) (hl : Leaves act s t) : p t := by
  rcases hl with ⟨a, hs⟩ | ⟨e, hs⟩
  · exact h.of_ok hs
  · exact h.of_error hs

theorem yields_of_ok {act : EStateM ε σ α} {a : α} {t : σ} (hs : act s = .ok a t) :
    Yields act s post fail ↔ post a t := by
  unfold Yields
  rw [hs]

theorem yields_of_error {act : EStateM ε σ α} {e : ε} {t : σ} (hs : act s = .error e t) :
    Yields act s post fail ↔ fail e t := by
  unfold Yields
  rw [hs]

/-- What holds anyway holds of any result. -/
theorem Yields.const {p : Prop} (hp : p) (act : EStateM ε σ α) :
    Yields act s (fun _ _ => p) (fun _ _ => True) := by
  unfold Yields
  cases act s with
  | ok a t => exact hp
  | error e t => exact trivial

theorem Yields.and {act : EStateM ε σ α} {post' : α → σ → Prop} {fail' : ε → σ → Prop}
    (h : Yields act s post fail) (h' : Yields act s post' fail') :
    Yields act s (fun a t => post a t ∧ post' a t) (fun e t => fail e t ∧ fail' e t) := by
  unfold Yields at h h' ⊢
  cases hs : act s with
  | ok a t =>
    rw [hs] at h h'
    exact ⟨h, h'⟩
  | error e t =>
    rw [hs] at h h'
    exact ⟨h, h'⟩

theorem Yields.exists_both {κ : Type} {act : EStateM ε σ α} {post' : κ → α → σ → Prop}
    {fail' : κ → ε → σ → Prop}
    (h : Yields act s (fun a t => ∃ k, post' k a t) (fun e t => ∃ k, fail' k e t)) :
    ∃ k, Yields act s (post' k) (fail' k) := by
  unfold Yields at h ⊢
  cases hs : act s with
  | ok a t =>
    rw [hs] at h
    exact h
  | error e t =>
    rw [hs] at h
    exact h

/-- What holds however the action goes holds anyway. -/
theorem Yields.of_const {p : Prop} {act : EStateM ε σ α}
    (h : Yields act s (fun _ _ => p) (fun _ _ => p)) : p := by
  unfold Yields at h
  cases hs : act s with
  | ok a t =>
    rw [hs] at h
    exact h
  | error e t =>
    rw [hs] at h
    exact h

/-- What the action comes to can be kept in mind. -/
theorem Yields.with_result {act : EStateM ε σ α} (h : Yields act s post fail) :
    Yields act s (fun a t => act s = .ok a t ∧ post a t)
      (fun e t => act s = .error e t ∧ fail e t) := by
  unfold Yields at h ⊢
  cases hs : act s with
  | ok a t =>
    rw [hs] at h
    exact ⟨rfl, h⟩
  | error e t =>
    rw [hs] at h
    exact ⟨rfl, h⟩

/-! ### Sequences -/

@[simp] theorem yields_pure (a : α) : Yields (pure a : EStateM ε σ α) s post fail ↔ post a s :=
  Iff.rfl

@[simp] theorem yields_throw (e : ε) :
    Yields (throw e : EStateM ε σ α) s post fail ↔ fail e s := Iff.rfl

@[simp] theorem yields_bind (act : EStateM ε σ β) (next : β → EStateM ε σ α) :
    Yields (act >>= next) s post fail ↔
      Yields act s (fun b t => Yields (next b) t post fail) fail := by
  change Yields (EStateM.bind act next) s post fail ↔ _
  unfold Yields EStateM.bind
  cases act s <;> exact Iff.rfl

theorem bind_get (next : σ → EStateM ε σ α) : (get >>= next) s = next s s := rfl

theorem bind_of_ok {act : EStateM ε σ β} {next : β → EStateM ε σ α} {b : β} {t : σ}
    (h : act s = .ok b t) : (act >>= next) s = next b t := by
  change EStateM.bind act next s = _
  rw [EStateM.bind, h]

@[simp] theorem yields_map (f : β → α) (act : EStateM ε σ β) :
    Yields (f <$> act) s post fail ↔ Yields act s (fun b t => post (f b) t) fail := by
  change Yields (EStateM.map f act) s post fail ↔ _
  unfold Yields EStateM.map
  cases act s <;> exact Iff.rfl

@[simp] theorem yields_get {post : σ → σ → Prop} :
    Yields (get : EStateM ε σ σ) s post fail ↔ post s s := Iff.rfl

@[simp] theorem yields_set {post : PUnit → σ → Prop} (t : σ) :
    Yields (set t : EStateM ε σ PUnit) s post fail ↔ post ⟨⟩ t := Iff.rfl

@[simp] theorem yields_modify {post : PUnit → σ → Prop} (f : σ → σ) :
    Yields (modify f : EStateM ε σ PUnit) s post fail ↔ post ⟨⟩ (f s) := Iff.rfl

theorem yields_ofExcept (x : Except ε α) :
    Yields (ofExcept x : EStateM ε σ α) s post fail ↔
      (∀ a, x = .ok a → post a s) ∧ (∀ e, x = .error e → fail e s) := by
  cases x with
  | ok a => simp [ofExcept]
  | error e => simp [ofExcept]

theorem yields_ofExcept_ok {x : Except ε α} {a : α} (h : x = .ok a) :
    Yields (ofExcept x : EStateM ε σ α) s post fail ↔ post a s := by
  simp [h, ofExcept]

theorem yields_ofExcept_error {x : Except ε α} {e : ε} (h : x = .error e) :
    Yields (ofExcept x : EStateM ε σ α) s post fail ↔ fail e s := by
  simp [h, ofExcept]

/-! ### Failures as values, and actions on a part of the state -/

@[simp] theorem yields_attempt {act : EStateM Error σ α} {post : Except Error α → σ → Prop}
    {fail : Error → σ → Prop} :
    Yields (attempt act) s post fail ↔
      Yields act s (fun a t => post (.ok a) t) (fun e t => post (.error e) t) := by
  simp only [Yields, attempt]
  cases act s <;> exact Iff.rfl

@[simp] theorem yields_explain {act : HostM α} {text : Error → String} {h : Host}
    {post : α → Host → Prop} {fail : Error → Host → Prop} :
    Yields (HostM.explain act text) h post fail ↔
      Yields act h post (fun e h => fail e (h.log .error (text e))) := by
  simp only [Yields, HostM.explain]
  cases act h <;> exact Iff.rfl

@[simp] theorem yields_onHost {act : HostM α} {f : Focus} {post : α → Focus → Prop}
    {fail : Error → Focus → Prop} :
    Yields (FocusM.onHost act) f post fail ↔
      Yields act f.host (fun a h => post a { f with host := h })
        (fun e h => fail e { f with host := h }) := by
  simp only [Yields, FocusM.onHost]
  cases act f.host <;> exact Iff.rfl

@[simp] theorem yields_onMetadata {act : EStateM Error Metadata α} {f : Focus}
    {post : α → Focus → Prop} {fail : Error → Focus → Prop} :
    Yields (FocusM.onMetadata act) f post fail ↔
      Yields act f.buffer.metadata (fun a m => post a { f with buffer.metadata := m })
        (fun e m => fail e { f with buffer.metadata := m }) := by
  simp only [Yields, FocusM.onMetadata]
  cases act f.buffer.metadata <;> exact Iff.rfl

@[simp] theorem yields_log {f : Focus} {post : PUnit → Focus → Prop}
    {fail : Error → Focus → Prop} (level : LogLevel) (text : String) :
    Yields (FocusM.log level text) f post fail ↔
      post ⟨⟩ { f with host := f.host.log level text } := Iff.rfl

/-! ### Actions that only add events -/

/-- The memory that is asked for. -/
def Event.asked? : Event → Option AllocRequest
  | .call (.alloc _ _ request) => some request
  | _ => none

/-- The answers of the system that are left: some of the first were taken up. -/
structure Answers.Follows (later earlier : Answers) : Prop where
  duplicates : later.duplicates <:+ earlier.duplicates
  inspections : later.inspections <:+ earlier.inspections

namespace Answers.Follows

variable {a b c : Answers}

theorem refl (a : Answers) : a.Follows a := ⟨List.suffix_rfl, List.suffix_rfl⟩

theorem of_eq (hd : b.duplicates = a.duplicates) (hi : b.inspections = a.inspections) :
    b.Follows a := ⟨hd ▸ List.suffix_rfl, hi ▸ List.suffix_rfl⟩

theorem trans (h₁ : b.Follows a) (h₂ : c.Follows b) : c.Follows a :=
  ⟨h₂.duplicates.trans h₁.duplicates, h₂.inspections.trans h₁.inspections⟩

end Answers.Follows

/-- From one host to the other, events with `p` were added, and nothing was loaded, held or
released. The same formats are native, and no answer was taken up for memory, unless `p` admits
that some was asked for. -/
structure Appends (p : Event → Prop) (h h' : Host) : Prop where
  held : h'.held = h.held
  loads : h'.loads = h.loads
  supported : h'.supported = h.supported
  allocs : (∀ e, p e → e.asked? = none) → h'.answers.allocs = h.answers.allocs
  system : h'.answers.Follows h.answers
  events : ∃ es, h'.events = h.events ++ es ∧ ∀ e ∈ es, p e

namespace Appends

variable {p q : Event → Prop} {h h' h'' : Host}

theorem refl (h : Host) : Appends p h h :=
  ⟨rfl, rfl, rfl, fun _ => rfl, .refl _, [], by simp, by simp⟩

theorem trans (h₁ : Appends p h h') (h₂ : Appends p h' h'') : Appends p h h'' := by
  obtain ⟨es, he, hp⟩ := h₁.events
  obtain ⟨es', he', hp'⟩ := h₂.events
  refine ⟨h₂.held.trans h₁.held, h₂.loads.trans h₁.loads, h₂.supported.trans h₁.supported,
    fun hn => (h₂.allocs hn).trans (h₁.allocs hn), h₁.system.trans h₂.system, es ++ es', ?_, ?_⟩
  · rw [he', he, List.append_assoc]
  · intro e hm
    rcases List.mem_append.mp hm with hm | hm
    · exact hp e hm
    · exact hp' e hm

theorem mono (hpq : ∀ e, p e → q e) (h₁ : Appends p h h') : Appends q h h' := by
  obtain ⟨es, he, hp⟩ := h₁.events
  exact ⟨h₁.held, h₁.loads, h₁.supported, fun hn => h₁.allocs fun e he => hn e (hpq e he),
    h₁.system, es, he, fun e hm => hpq e (hp e hm)⟩

theorem record (c : Call) (hc : p (.call c)) : Appends p h (h.record c) :=
  ⟨rfl, rfl, rfl, fun _ => rfl, .refl _, [.call c], rfl, by simpa using hc⟩

theorem log (level : LogLevel) (text : String) (hl : p (.log level text)) :
    Appends p h (h.log level text) :=
  ⟨rfl, rfl, rfl, fun _ => rfl, .refl _, [.log level text], rfl, by simpa using hl⟩

end Appends

/-- The host after some notes were taken. -/
def Host.noted (h : Host) (notes : List String) : Host :=
  { h with events := h.events ++ notes.map (.log .debug) }

theorem Appends.noted {p : Event → Prop} (hp : ∀ level text, p (.log level text)) (h : Host)
    (notes : List String) : Appends p h (h.noted notes) :=
  ⟨rfl, rfl, rfl, fun _ => rfl, .refl _, _, rfl, by simp [hp]⟩

/-- Whatever comes of it, the action only adds events with `p`. -/
def Adds (p : Event → Prop) (act : HostM α) : Prop :=
  ∀ h, Yields act h (fun _ h' => Appends p h h') (fun _ h' => Appends p h h')

namespace Adds

variable {p : Event → Prop} {act : HostM β} {next : β → HostM α}

theorem pure (a : α) : Adds p (pure a) := fun h => Appends.refl h

theorem throw (e : Error) : Adds p (throw e : HostM α) := fun h => Appends.refl h

theorem get : Adds p (get : HostM Host) := fun h => Appends.refl h

theorem ofExcept (x : Except Error α) : Adds p (ofExcept x : HostM α) :=
  fun h => (yields_ofExcept x).mpr ⟨fun _ _ => .refl h, fun _ _ => .refl h⟩

theorem record {c : Call} (hc : p (.call c)) : Adds p (HostM.record c) := fun _ => .record c hc

theorem log {level : LogLevel} {text : String} (hl : p (.log level text)) :
    Adds p (HostM.log level text) := fun _ => .log level text hl

theorem modify {f : Host → Host} (hf : ∀ h, Appends p h (f h)) : Adds p (modify f) :=
  fun h => hf h

theorem bind (hact : Adds p act) (hnext : ∀ b, Adds p (next b)) : Adds p (act >>= next) := by
  intro h
  rw [yields_bind]
  apply (hact h).imp
  · intro b h' hb
    exact (hnext b h').imp (fun _ _ => hb.trans) (fun _ _ => hb.trans)
  · intro _ _ he
    exact he

theorem attempt (hact : Adds p act) : Adds p (attempt act) := by
  intro h
  rw [yields_attempt]
  exact hact h

theorem explain {text : Error → String} (hl : ∀ e, p (.log .error (text e)))
    (hact : Adds p act) : Adds p (HostM.explain act text) := by
  intro h
  rw [yields_explain]
  exact (hact h).imp (fun _ _ h => h) (fun e _ h => h.trans (.log .error _ (hl e)))

end Adds

/-! ### What the system may refuse -/

/-- The first failure among the next `n` answers. -/
def faultWithin (n : Nat) (answers : List (Option Int32)) : Option Int32 :=
  (answers.take n).findSome? id

theorem faultWithin_succ (n : Nat) (answers : List (Option Int32)) :
    faultWithin (n + 1) answers = (answers.headD none).or (faultWithin n answers.tail) := by
  cases answers with
  | nil => simp [faultWithin]
  | cons x rest => cases x <;> simp [faultWithin]

theorem faultWithin_of_none {n : Nat} {answers : List (Option Int32)}
    (h : answers.headD none = none) :
    faultWithin (n + 1) answers = faultWithin n (answers.drop 1) := by
  rw [faultWithin_succ, h, Option.none_or, List.drop_one]

theorem faultWithin_of_some {n : Nat} {answers : List (Option Int32)} {code : Int32}
    (h : answers.headD none = some code) : faultWithin (n + 1) answers = some code := by
  rw [faultWithin_succ, h, Option.some_or]

theorem mem_of_faultWithin {n : Nat} {answers : List (Option Int32)} {code : Int32}
    (h : faultWithin n answers = some code) : some code ∈ answers := by
  obtain ⟨x, hx, hcode⟩ := List.exists_of_findSome?_eq_some h
  obtain rfl : x = some code := hcode
  exact List.mem_of_mem_take hx

/-- No failure is among the answers. -/
def Unfailing (answers : List (Option Int32)) : Prop := ∀ x ∈ answers, x = none

instance : DecidablePred Unfailing := fun answers =>
  decidable_of_iff (answers.all Option.isNone) (by simp [Unfailing])

theorem Unfailing.of_suffix {later earlier : List (Option Int32)} (h : Unfailing earlier)
    (hs : later <:+ earlier) : Unfailing later := fun x hx => h x (hs.mem hx)

theorem Unfailing.not_fault {answers : List (Option Int32)} (h : Unfailing answers) {n : Nat}
    {code : Int32} (hf : faultWithin n answers = some code) : False :=
  Option.some_ne_none code (h _ (mem_of_faultWithin hf))

/-- The host once `n` duplicates have been asked for. -/
def Host.copied (h : Host) (n : Nat) : Host :=
  { h with answers.duplicates := h.answers.duplicates.drop n }

/-- The host once `n` descriptors have been inspected. -/
def Host.inspected (h : Host) (n : Nat) : Host :=
  { h with answers.inspections := h.answers.inspections.drop n }

@[simp] theorem Host.copied_zero (h : Host) : h.copied 0 = h := rfl

@[simp] theorem Host.copied_events (h : Host) (n : Nat) : (h.copied n).events = h.events := rfl

theorem Host.copied_copied (h : Host) (m n : Nat) : (h.copied m).copied n = h.copied (m + n) := by
  simp [copied]

theorem Host.inspected_inspected (h : Host) (m n : Nat) :
    (h.inspected m).inspected n = h.inspected (m + n) := by
  simp [inspected]

theorem Appends.copied {p : Event → Prop} (h : Host) (n : Nat) : Appends p h (h.copied n) :=
  ⟨rfl, rfl, rfl, fun _ => rfl, ⟨List.drop_suffix _ _, List.suffix_rfl⟩, [], by simp [Host.copied],
    by simp⟩

theorem Appends.inspected {p : Event → Prop} (h : Host) (n : Nat) : Appends p h (h.inspected n) :=
  ⟨rfl, rfl, rfl, fun _ => rfl, ⟨List.suffix_rfl, List.drop_suffix _ _⟩, [],
    by simp [Host.inspected], by simp⟩

theorem duplicate_yields (file : α) (h : Host) :
    Yields (HostM.duplicate file) h
      (fun copy h' => copy = file ∧ h' = h.copied 1 ∧ h.answers.duplicates.headD none = none)
      (fun e h' => ∃ code, e = .io (.numbered code) ∧ h' = h.copied 1 ∧
        h.answers.duplicates.headD none = some code) := by
  unfold HostM.duplicate Host.copied
  simp only [yields_bind, yields_get, yields_modify, List.drop_one]
  cases h.answers.duplicates.headD none with
  | none => exact ⟨rfl, rfl, rfl⟩
  | some code => exact ⟨code, rfl, rfl, rfl⟩

/-- Files are duplicated one by one, up to the first failure. -/
theorem duplicates_yields (files : List α) (h : Host) :
    Yields (files.mapM HostM.duplicate) h
      (fun copies h' => copies = files ∧ h' = h.copied files.length ∧
        faultWithin files.length h.answers.duplicates = none)
      (fun e h' => ∃ n code, e = .io (.numbered code) ∧ h' = h.copied n ∧
        faultWithin files.length h.answers.duplicates = some code) := by
  induction files generalizing h with
  | nil => exact ⟨rfl, rfl, rfl⟩
  | cons file rest ih =>
    rw [List.mapM_cons, yields_bind]
    apply (duplicate_yields file h).imp
    · rintro _ _ ⟨rfl, rfl, hhead⟩
      have hrest : faultWithin (rest.length + 1) h.answers.duplicates =
          faultWithin rest.length (h.copied 1).answers.duplicates := faultWithin_of_none hhead
      rw [yields_bind, List.length_cons, hrest]
      apply (ih (h.copied 1)).imp
      · rintro _ _ ⟨rfl, rfl, hnone⟩
        exact ⟨rfl, by rw [Host.copied_copied, Nat.add_comm], hnone⟩
      · rintro _ _ ⟨n, code, rfl, rfl, hsome⟩
        exact ⟨1 + n, code, rfl, h.copied_copied 1 n, hsome⟩
    · rintro _ _ ⟨code, rfl, rfl, hhead⟩
      exact ⟨1, code, rfl, rfl, faultWithin_of_some hhead⟩

theorem inspect_yields (d : Descriptor) (h : Host) :
    Yields (HostM.inspect d) h
      (fun inode h' => inode = d.inode ∧ h' = h.inspected 1 ∧
        h.answers.inspections.headD none = none)
      (fun e h' => ∃ code, e = .io (.numbered code) ∧ h' = h.inspected 1 ∧
        h.answers.inspections.headD none = some code) := by
  unfold HostM.inspect Host.inspected
  simp only [yields_bind, yields_get, yields_modify, List.drop_one]
  cases h.answers.inspections.headD none with
  | none => exact ⟨rfl, rfl, rfl⟩
  | some code => exact ⟨code, rfl, rfl, rfl⟩

end GraphicsBuffers
