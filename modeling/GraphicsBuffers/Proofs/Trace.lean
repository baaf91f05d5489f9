import GraphicsBuffers.Buffer

/-!
The bookkeeping that a sequence of calls allows: which libraries are loaded, which devices are
alive and which handles are imported. Every library that was loaded, every device that was created
and every handle that was imported is either still in the books or was given back once.
-/

namespace GraphicsBuffers

namespace Event

def loaded? : Event → Option Library
  | .call (.load source (some number)) => some ⟨source, number⟩
  | _ => none

def created? : Event → Option Context
  | .call (.createDevice library _ (some device)) => some ⟨library, device⟩
  | _ => none

/-- The library that was asked for a device and refused. -/
def refused? : Event → Option Library
  | .call (.createDevice library _ none) => some library
  | _ => none

def destroyed? : Event → Option Context
  | .call (.destroyDevice library device) => some ⟨library, device⟩
  | _ => none

def unloaded? : Event → Option Library
  | .call (.unload library) => some library
  | _ => none

def imported? : Event → Option Import
  | .call (.importBuffer library device _ (some handle)) => some ⟨⟨library, device⟩, handle⟩
  | _ => none

def freed? : Event → Option Nat
  | .call (.free _ handle) => some handle
  | _ => none

/-- The library and the handle of a call that works on a handle. -/
def use? : Event → Option (Library × Nat)
  | .call (.map library handle _ _) => some (library, handle)
  | .call (.unmap library handle _) => some (library, handle)
  | .call (.free library handle) => some (library, handle)
  | _ => none

/-- Nothing is loaded, created, imported or used, and nothing is given back. -/
def IsQuiet (e : Event) : Prop :=
  e.loaded? = none ∧ e.created? = none ∧ e.refused? = none ∧ e.destroyed? = none ∧
    e.unloaded? = none ∧ e.imported? = none ∧ e.use? = none

end Event

/-- What has not been given back. -/
structure Ledger where
  loads : Nat
  /-- The libraries that were not asked for a device yet. -/
  loaded : List Library := []
  alive : List Context := []
  /-- The libraries whose device was refused or destroyed. -/
  spent : List Library := []
  imports : List Import := []

/-- What one event does to the books. A device ends only when none of its handles is left, and a
handle is used only while it is in the books. -/
inductive Ledger.Step (l : Ledger) : Event → Ledger → Prop
  | quiet {e : Event} (he : e.IsQuiet) : Step l e l
  | load (source : LibrarySource) :
      Step l (.call (.load source (some (l.loads + 1))))
        { l with loads := l.loads + 1, loaded := ⟨source, l.loads + 1⟩ :: l.loaded }
  | create {library : Library} (hl : library ∈ l.loaded) (node : Option FileName) (device : Nat) :
      Step l (.call (.createDevice library node (some device)))
        { l with loaded := l.loaded.erase library, alive := ⟨library, device⟩ :: l.alive }
  | refuse {library : Library} (hl : library ∈ l.loaded) (node : Option FileName) :
      Step l (.call (.createDevice library node none))
        { l with loaded := l.loaded.erase library, spent := library :: l.spent }
  | destroy {c : Context} (hc : c ∈ l.alive) (hi : ∀ i ∈ l.imports, i.context ≠ c) :
      Step l (.call (.destroyDevice c.library c.device))
        { l with alive := l.alive.erase c, spent := c.library :: l.spent }
  | unload {library : Library} (hl : library ∈ l.spent) :
      Step l (.call (.unload library)) { l with spent := l.spent.erase library }
  | importBuffer {c : Context} (hc : c ∈ l.alive) (request : ImportRequest) (handle : Nat) :
      Step l (.call (.importBuffer c.library c.device request (some handle)))
        { l with imports := ⟨c, handle⟩ :: l.imports }
  | free {i : Import} (hi : i ∈ l.imports) :
      Step l (.call (.free i.context.library i.handle)) { l with imports := l.imports.erase i }
  | map {i : Import} (hi : i ∈ l.imports) (width height : UInt32) :
      Step l (.call (.map i.context.library i.handle width height)) l
  | unmap {i : Import} (hi : i ∈ l.imports) (token : Nat) :
      Step l (.call (.unmap i.context.library i.handle token)) l

/-- The events lead from empty books to the ledger. -/
inductive Trace : List Event → Ledger → Prop
  | nil (loads : Nat) : Trace [] { loads }
  | snoc {es : List Event} {l l' : Ledger} {e : Event} (h : Trace es l) (hs : l.Step e l') :
      Trace (es ++ [e]) l'

/-! ### What the events say by themselves -/

def loaded (es : List Event) : List Library := es.filterMap Event.loaded?

def created (es : List Event) : List Context := es.filterMap Event.created?

def refused (es : List Event) : List Library := es.filterMap Event.refused?

def destroyed (es : List Event) : List Context := es.filterMap Event.destroyed?

def unloaded (es : List Event) : List Library := es.filterMap Event.unloaded?

theorem loaded_snoc (es : List Event) (e : Event) :
    loaded (es ++ [e]) = loaded es ++ e.loaded?.toList := by
  cases h : e.loaded? <;> simp [loaded, h]

theorem created_snoc (es : List Event) (e : Event) :
    created (es ++ [e]) = created es ++ e.created?.toList := by
  cases h : e.created? <;> simp [created, h]

theorem refused_snoc (es : List Event) (e : Event) :
    refused (es ++ [e]) = refused es ++ e.refused?.toList := by
  cases h : e.refused? <;> simp [refused, h]

theorem destroyed_snoc (es : List Event) (e : Event) :
    destroyed (es ++ [e]) = destroyed es ++ e.destroyed?.toList := by
  cases h : e.destroyed? <;> simp [destroyed, h]

theorem unloaded_snoc (es : List Event) (e : Event) :
    unloaded (es ++ [e]) = unloaded es ++ e.unloaded?.toList := by
  cases h : e.unloaded? <;> simp [unloaded, h]

/-- What stands in events with one more is that one, or stood there before. -/
theorem split_snoc {es pre post : List Event} {d e : Event} (h : es ++ [d] = pre ++ e :: post) :
    pre = es ∧ e = d ∨ ∃ post', es = pre ++ e :: post' := by
  rcases List.eq_nil_or_concat post with rfl | ⟨post', x, rfl⟩
  · obtain ⟨hpre, hlast⟩ := List.append_inj' h rfl
    exact Or.inl ⟨hpre.symm, (List.singleton_inj.mp hlast).symm⟩
  · have hsnoc : es ++ [d] = (pre ++ e :: post') ++ [x] := by simpa using h
    exact Or.inr ⟨post', (List.append_inj' hsnoc rfl).1⟩

namespace Trace

variable {es : List Event} {l : Ledger}

/-- Events that leave the books as they are can follow. -/
theorem idle {es' : List Event} (h : Trace es l) (hi : ∀ e ∈ es', l.Step e l) :
    Trace (es ++ es') l := by
  induction es' generalizing es with
  | nil => simpa using h
  | cons e es' ih =>
    rw [List.append_cons]
    exact ih (h.snoc (hi e (by simp))) fun d hd => hi d (by simp [hd])

/-- Every prefix of a trace is a trace, and the event behind it is one step. -/
theorem split {pre post : List Event} {e : Event} (h : Trace es l)
    (he : es = pre ++ e :: post) : ∃ m m', Trace pre m ∧ m.Step e m' := by
  induction h generalizing post with
  | nil => simp at he
  | @snoc es l l' d h hs ih =>
    rcases split_snoc he with ⟨rfl, rfl⟩ | ⟨post', he⟩
    · exact ⟨l, l', h, hs⟩
    · exact ih he

theorem imports_alive (h : Trace es l) : ∀ i ∈ l.imports, i.context ∈ l.alive := by
  induction h with
  | nil => simp
  | snoc h hs ih =>
    intro i hi
    cases hs with
    | quiet | load | refuse | unload | map | unmap => exact ih i hi
    | create => exact List.mem_cons_of_mem _ (ih i hi)
    | destroy hc hne => exact (List.mem_erase_of_ne (hne i hi)).mpr (ih i hi)
    | importBuffer hc request handle =>
      rcases List.mem_cons.mp hi with rfl | hi
      · exact hc
      · exact ih i hi
    | free => exact ih i (List.mem_of_mem_erase hi)

/-! ### Nothing gets lost, and nothing is given back twice -/

/-- Every device that was created is alive or was destroyed. -/
theorem created_perm (h : Trace es l) : (created es).Perm (destroyed es ++ l.alive) := by
  induction h with
  | nil => exact .refl _
  | snoc h hs ih =>
    rw [created_snoc, destroyed_snoc]
    rw [List.perm_iff_count] at ih ⊢
    intro c
    have ih := ih c
    cases hs with
    | quiet he =>
      obtain ⟨-, hc, -, hd, -⟩ := he
      simpa [hc, hd] using ih
    | load | refuse | unload | importBuffer | free | map | unmap =>
      simpa [Event.created?, Event.destroyed?] using ih
    | create hl node device =>
      simp only [Event.created?, Event.destroyed?, Option.toList_some, Option.toList_none,
        List.append_nil, List.count_append, List.count_cons, List.count_nil] at ih ⊢
      omega
    | @destroy d hd =>
      have hkeep := (List.perm_cons_erase hd).count_eq c
      obtain ⟨library, device⟩ := d
      simp only [Event.created?, Event.destroyed?, Option.toList_some, Option.toList_none,
        List.append_nil, List.count_append, List.count_cons, List.count_nil] at ih hkeep ⊢
      omega

/-- Every library that was loaded was given a device, was refused one, or was not asked yet. -/
theorem loaded_perm (h : Trace es l) :
    (loaded es).Perm ((created es).map Context.library ++ refused es ++ l.loaded) := by
  induction h with
  | nil => exact .refl _
  | snoc h hs ih =>
    rw [created_snoc, loaded_snoc, refused_snoc]
    rw [List.perm_iff_count] at ih ⊢
    intro x
    have ih := ih x
    cases hs with
    | quiet he =>
      obtain ⟨hl, hc, hr, -⟩ := he
      simpa [hl, hc, hr] using ih
    | destroy | unload | importBuffer | free | map | unmap =>
      simpa [Event.created?, Event.loaded?, Event.refused?] using ih
    | load =>
      simp only [Event.created?, Event.loaded?, Event.refused?, Option.toList_some,
        Option.toList_none, List.append_nil, List.count_append, List.count_cons,
        List.count_nil] at ih ⊢
      omega
    | create hl | refuse hl =>
      have hkeep := (List.perm_cons_erase hl).count_eq x
      simp only [Event.created?, Event.loaded?, Event.refused?, Option.toList_some,
        Option.toList_none, List.append_nil, List.map_append, List.map_cons, List.map_nil,
        List.count_append, List.count_cons, List.count_nil] at ih hkeep ⊢
      omega

/-- Every library whose device was destroyed or refused was unloaded or is spent. -/
theorem unloaded_perm (h : Trace es l) :
    ((destroyed es).map Context.library ++ refused es).Perm (unloaded es ++ l.spent) := by
  induction h with
  | nil => exact .refl _
  | snoc h hs ih =>
    rw [destroyed_snoc, refused_snoc, unloaded_snoc]
    rw [List.perm_iff_count] at ih ⊢
    intro x
    have ih := ih x
    cases hs with
    | quiet he =>
      obtain ⟨-, -, hr, hd, hu, -⟩ := he
      simpa [hr, hd, hu] using ih
    | load | create | importBuffer | free | map | unmap =>
      simpa [Event.destroyed?, Event.refused?, Event.unloaded?] using ih
    | destroy | refuse =>
      simp only [Event.destroyed?, Event.refused?, Event.unloaded?, Option.toList_some,
        Option.toList_none, List.append_nil, List.map_append, List.map_cons, List.map_nil,
        List.count_append, List.count_cons, List.count_nil] at ih ⊢
      omega
    | unload hl =>
      have hkeep := (List.perm_cons_erase hl).count_eq x
      simp only [Event.destroyed?, Event.refused?, Event.unloaded?, Option.toList_some,
        Option.toList_none, List.append_nil, List.count_append, List.count_cons,
        List.count_nil] at ih hkeep ⊢
      omega

theorem loaded_le (h : Trace es l) : ∀ x ∈ loaded es, x.number ≤ l.loads := by
  induction h with
  | nil => simp [loaded]
  | snoc h hs ih =>
    rw [loaded_snoc]
    cases hs with
    | quiet he => simpa [he.1] using ih
    | load source =>
      intro x hx
      rcases List.mem_append.mp hx with hx | hx
      · exact Nat.le_succ_of_le (ih x hx)
      · obtain rfl : x = ⟨source, _⟩ := by simpa [Event.loaded?] using hx
        exact Nat.le_refl _
    | create | refuse | destroy | unload | importBuffer | free | map | unmap =>
      simpa [Event.loaded?] using ih

/-- No library is loaded twice: each load has its own number. -/
theorem loaded_nodup (h : Trace es l) : (loaded es).Nodup := by
  induction h with
  | nil => exact List.nodup_nil
  | snoc h hs ih =>
    rw [loaded_snoc]
    cases hs with
    | quiet he => simpa [he.1] using ih
    | load source =>
      refine List.nodup_append.mpr ⟨ih, by simp [Event.loaded?], ?_⟩
      intro x hx y hy he
      obtain rfl : y = ⟨source, _⟩ := by simpa [Event.loaded?] using hy
      have := h.loaded_le x hx
      rw [he] at this
      exact Nat.not_succ_le_self _ this
    | create | refuse | destroy | unload | importBuffer | free | map | unmap =>
      simpa [Event.loaded?] using ih

/-- A library is given at most one device, and only if it is not refused. -/
theorem users_nodup (h : Trace es l) :
    ((created es).map Context.library ++ refused es ++ l.loaded).Nodup :=
  h.loaded_perm.nodup_iff.mp h.loaded_nodup

theorem created_nodup (h : Trace es l) : (created es).Nodup := by
  have hn := (List.nodup_append.mp (List.nodup_append.mp h.users_nodup).1).1
  exact List.Pairwise.of_map Context.library (fun _ _ hne he => hne (congrArg _ he)) hn

theorem alive_nodup (h : Trace es l) : l.alive.Nodup :=
  (List.nodup_append.mp (h.created_perm.nodup_iff.mp h.created_nodup)).2.1

/-- A living device was created and is not destroyed. -/
theorem mem_alive_iff (h : Trace es l) (c : Context) :
    c ∈ l.alive ↔ c ∈ created es ∧ c ∉ destroyed es := by
  have hd := List.nodup_append.mp (h.created_perm.nodup_iff.mp h.created_nodup)
  rw [h.created_perm.mem_iff, List.mem_append]
  constructor
  · exact fun hc => ⟨Or.inr hc, fun hc' => hd.2.2 c hc' c hc rfl⟩
  · intro h
    rcases h with ⟨hc | hc, hn⟩
    · exact absurd hc hn
    · exact hc

end Trace

end GraphicsBuffers
