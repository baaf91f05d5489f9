import GraphicsBuffers.Proofs.Balanced

/-!
The life of a handle, from its import until it is freed. The library may give out a number again
once it is free, so that one number can stand for many handles in a run, one after the other.
-/

namespace GraphicsBuffers

/-! ### Whose handle a number is -/

def Event.owner (n : Nat) (before : Option Context) (e : Event) : Option Context :=
  match e.imported? with
  | some i => if i.handle = n then some i.context else before
  | none => if e.freed? = some n then none else before

/-- The context on whose device the handle was imported, unless it was freed since. -/
def owner (es : List Event) (n : Nat) : Option Context := es.foldl (Event.owner n) none

/-- No number is given out while a handle goes by it. -/
def DistinctHandles (es : List Event) : Prop :=
  ∀ k < es.length, ∀ i ∈ es[k]?.bind Event.imported?, owner (es.take k) i.handle = none

instance : DecidablePred DistinctHandles := fun es =>
  inferInstanceAs (Decidable (∀ k < es.length, _))

/-- How often the handle is freed before its number is given out again. -/
def frees (n : Nat) (es : List Event) : Nat :=
  ((es.takeWhile fun e => e.imported?.all fun i => i.handle ≠ n).filterMap Event.freed?).count n

theorem owner_snoc (es : List Event) (e : Event) (n : Nat) :
    owner (es ++ [e]) n = e.owner n (owner es n) := by
  simp [owner]

theorem Event.freed_of_use {e : Event} (h : e.use? = none) : e.freed? = none := by
  unfold use? at h
  split at h
  · cases h
  · cases h
  · cases h
  · rename_i hfree
    unfold freed?
    split
    · exact absurd rfl (hfree _ _)
    · rfl

theorem Event.use_of_freed {e : Event} {n : Nat} (h : e.freed? = some n) :
    ∃ library, e.use? = some (library, n) := by
  unfold freed? at h
  split at h
  · exact ⟨_, by rw [← Option.some.inj h]; rfl⟩
  · cases h

theorem Event.owner_of_quiet {e : Event} (h : e.IsQuiet) (n : Nat) (o : Option Context) :
    e.owner n o = o := by
  obtain ⟨-, -, -, -, -, hi, hu⟩ := h
  simp [owner, hi, freed_of_use hu]

theorem DistinctHandles.of_snoc {es : List Event} {e : Event} (h : DistinctHandles (es ++ [e])) :
    DistinctHandles es ∧ ∀ i ∈ e.imported?, owner es i.handle = none := by
  constructor
  · intro k hk i hi
    have := h k (by simp; omega) i (by rwa [List.getElem?_append_left hk])
    rwa [List.take_append_of_le_length (Nat.le_of_lt hk)] at this
  · intro i hi
    have := h es.length (by simp) i (by simpa using hi)
    simpa using this

theorem DistinctHandles.of_append {es es' : List Event} (h : DistinctHandles (es ++ es')) :
    DistinctHandles es := by
  intro k hk i hi
  have := h k (by simp; omega) i (by rwa [List.getElem?_append_left hk])
  rwa [List.take_append_of_le_length (Nat.le_of_lt hk)] at this

namespace Trace

variable {es pre post : List Event} {l : Ledger} {e : Event} {n : Nat}

/-- The books show who owns a handle, and show each handle once. -/
theorem handles (h : Trace es l) (hd : DistinctHandles es) :
    (∀ n c, owner es n = some c ↔ ⟨c, n⟩ ∈ l.imports) ∧ l.imports.Nodup := by
  induction h with
  | nil => simp [owner]
  | @snoc es l l' e h hs ih =>
    obtain ⟨hd, hnew⟩ := hd.of_snoc
    obtain ⟨hown, hnodup⟩ := ih hd
    simp only [owner_snoc]
    cases hs with
    | quiet he =>
      simp only [Event.owner_of_quiet he]
      exact ⟨hown, hnodup⟩
    | load | create | refuse | destroy | unload | map | unmap =>
      simpa [Event.owner, Event.imported?, Event.freed?] using ⟨hown, hnodup⟩
    | @importBuffer c hc request handle =>
      have hfree : owner es handle = none := hnew ⟨c, handle⟩ rfl
      have hfresh (d : Context) : ⟨d, handle⟩ ∉ l.imports := by
        intro hm
        rw [(hown handle d).mpr hm] at hfree
        cases hfree
      refine ⟨?_, List.nodup_cons.mpr ⟨hfresh c, hnodup⟩⟩
      intro n d
      change (if handle = n then some c else owner es n) = some d ↔ _
      rw [List.mem_cons]
      split
      · rename_i hn
        subst hn
        simp [hfresh, eq_comm]
      · rename_i hn
        rw [hown]
        simp [Ne.symm hn]
    | @free i hi =>
      refine ⟨?_, hnodup.erase i⟩
      intro n d
      rw [hnodup.mem_erase_iff]
      change (if some i.handle = some n then none else owner es n) = some d ↔ _
      split
      · rename_i hn
        obtain rfl : i.handle = n := by simpa using hn
        constructor
        · exact nofun
        · intro h
          obtain ⟨hne, hm⟩ := h
          have hsame := (hown _ _).mpr hm
          rw [(hown i.handle i.context).mpr hi] at hsame
          cases hsame
          exact absurd rfl hne
      · rename_i hn
        rw [hown]
        constructor
        · intro hm
          refine ⟨?_, hm⟩
          rintro rfl
          exact hn rfl
        · exact fun hm => hm.2

/-- A handle is used only while somebody owns it, through the library of the owner's device, which
is not destroyed yet. -/
theorem use (h : Trace es l) (hd : DistinctHandles es) (hes : es = pre ++ e :: post)
    {library : Library} (hu : e.use? = some (library, n)) :
    ∃ c, owner pre n = some c ∧ c.library = library ∧ c ∈ created pre ∧ c ∉ destroyed pre := by
  obtain ⟨m, m', hm, hs⟩ := h.split hes
  have hdist : DistinctHandles pre := by
    rw [hes] at hd
    exact hd.of_append
  have howned {i : Import} (hi : i ∈ m.imports) :
      owner pre i.handle = some i.context ∧ i.context ∈ created pre ∧ i.context ∉ destroyed pre :=
    ⟨((hm.handles hdist).1 _ _).mpr hi, (hm.mem_alive_iff _).mp (hm.imports_alive i hi)⟩
  cases hs with
  | quiet he =>
    obtain ⟨-, -, -, -, -, -, hn⟩ := he
    rw [hn] at hu
    cases hu
  | load | create | refuse | destroy | unload | importBuffer => cases hu
  | @free i hi | @map i hi | @unmap i hi =>
    cases hu
    obtain ⟨ho, hc⟩ := howned hi
    exact ⟨i.context, ho, rfl, hc⟩

/-- What `frees` counts ends with the events, or where the number is given out again. -/
theorem frees_split (n : Nat) (es : List Event) : ∃ life rest, es = life ++ rest ∧
    frees n es = (life.filterMap Event.freed?).count n ∧
    (∀ e ∈ life, ∀ i ∈ e.imported?, i.handle ≠ n) ∧
    (rest = [] ∨ ∃ d rest' i, rest = d :: rest' ∧ d.imported? = some i ∧ i.handle = n) := by
  let p : Event → Bool := fun e => e.imported?.all fun i => i.handle ≠ n
  refine ⟨es.takeWhile p, es.dropWhile p, List.takeWhile_append_dropWhile.symm, rfl, ?_, ?_⟩
  · intro e he i hi
    have hp := List.all_eq_true.mp List.all_takeWhile e he
    simpa [p, Option.mem_def.mp hi] using hp
  · have hp := List.head?_dropWhile_not p es
    cases hr : es.dropWhile p with
    | nil => exact Or.inl rfl
    | cons d rest =>
      rw [hr] at hp
      cases hi : d.imported? with
      | none => simp [p, hi] at hp
      | some i => exact Or.inr ⟨d, rest, i, rfl, hi, by simpa [p, hi] using hp⟩

/-- Between two imports under one number, a free is what takes the owner away. -/
theorem frees_balance (pre : List Event) {life : List Event}
    (hfree : ∀ pre' e post', life = pre' ++ e :: post' → e.freed? = some n →
      owner (pre ++ pre') n ≠ none)
    (hlife : ∀ e ∈ life, ∀ i ∈ e.imported?, i.handle ≠ n) :
    (life.filterMap Event.freed?).count n + (if owner pre n = none then 1 else 0) =
      if owner (pre ++ life) n = none then 1 else 0 := by
  induction life generalizing pre with
  | nil => simp
  | cons e life ih =>
    have hstep : owner (pre ++ [e]) n = if e.freed? = some n then none else owner pre n := by
      rw [owner_snoc, Event.owner]
      cases hi : e.imported? with
      | none => rfl
      | some i =>
        have hf : e.freed? ≠ some n := by
          unfold Event.imported? at hi
          split at hi
          · exact nofun
          · cases hi
        simp [hlife e (by simp) i hi, hf]
    have hrest := ih (pre ++ [e])
      (fun pre' d post' hl hd => by
        have := hfree (e :: pre') d post' (by rw [hl]; rfl) hd
        rwa [List.append_cons] at this)
      (fun d hd => hlife d (List.mem_cons_of_mem _ hd))
    rw [hstep, List.append_assoc, List.singleton_append] at hrest
    by_cases hf : e.freed? = some n
    · have howned : owner pre n ≠ none := by simpa using hfree [] e life rfl hf
      simp only [hf, ↓reduceIte] at hrest
      rw [List.filterMap_cons_some hf, List.count_cons_self, ← hrest]
      simp [howned]
    · simp only [hf, ↓reduceIte] at hrest
      rw [← hrest]
      congr 1
      cases hd : e.freed? with
      | none => rw [List.filterMap_cons_none hd]
      | some m =>
        rw [List.filterMap_cons_some hd, List.count_cons_of_ne]
        rintro rfl
        exact hf hd

/-- What was imported is freed at most once, and once if the books show no handles in the end. -/
theorem freed_once (h : Trace es l) (hd : DistinctHandles es) (hes : es = pre ++ e :: post)
    {i : Import} (hi : e.imported? = some i) :
    frees i.handle post ≤ 1 ∧ (l.imports = [] → frees i.handle post = 1) := by
  obtain ⟨life, rest, rfl, hcount, hlife, hrest⟩ := frees_split i.handle post
  have howned : owner (pre ++ [e]) i.handle = some i.context := by
    simp [owner_snoc, Event.owner, hi]
  have hbalance := frees_balance (pre ++ [e]) ?_ hlife
  · rw [howned, ← hcount, if_neg (Option.some_ne_none _)] at hbalance
    refine ⟨by split at hbalance <;> omega, fun hnone => ?_⟩
    have hgone : owner (pre ++ [e] ++ life) i.handle = none := by
      rcases hrest with rfl | ⟨d, rest', j, rfl, hj, hji⟩
      · have hown := (h.handles hd).1 i.handle
        simp only [List.append_nil, hes, List.append_assoc, List.singleton_append] at hown ⊢
        cases ho : owner (pre ++ e :: life) i.handle with
        | none => rfl
        | some c => simpa [hnone] using (hown c).mp ho
      · have hall : es = pre ++ [e] ++ life ++ [d] ++ rest' := by simp [hes]
        rw [hall] at hd
        exact hji ▸ hd.of_append.of_snoc.2 j hj
    rwa [hgone, if_pos rfl] at hbalance
  · intro pre' d post' hl hf
    obtain ⟨library, hu⟩ := d.use_of_freed hf
    have hall : es = (pre ++ [e] ++ pre') ++ d :: (post' ++ rest) := by simp [hes, hl]
    obtain ⟨c, ho, -⟩ := h.use hd hall hu
    rw [ho]
    exact Option.some_ne_none c

end Trace

namespace Session

variable {s : Session}

/-- A handle is freed once at most, and has been once no buffer has one. Until then it is mapped,
unmapped and freed through the library of the context that it was imported with, whose device is
there for as long. -/
theorem Reachable.handle_lifetime (h : Reachable s) (hd : DistinctHandles s.host.events) :
    (∀ pre e post i, s.host.events = pre ++ e :: post → e.imported? = some i →
      frees i.handle post ≤ 1 ∧
        ((∀ b ∈ s.buffers.values, b.import? = none) → frees i.handle post = 1)) ∧
    ∀ pre e post library n, s.host.events = pre ++ e :: post → e.use? = some (library, n) →
      ∃ c, owner pre n = some c ∧ c.library = library ∧ c ∈ created pre ∧ c ∉ destroyed pre := by
  obtain ⟨l, ht, hl⟩ := h.balanced.traced
  constructor
  · intro pre e post i he hi
    obtain ⟨hle, hone⟩ := ht.freed_once hd he hi
    refine ⟨hle, fun hnone => hone ?_⟩
    have hempty : s.imports = [] := List.filterMap_eq_nil_iff.mpr hnone
    exact List.perm_nil.mp (hempty ▸ hl.imports)
  · exact fun pre e post library n he hu => ht.use hd he hu

/-- A library that gives out its first handle again. -/
def reusingHost : Host := { supported := [.abgr8888], answers := { handleNumbers := [1, 1] } }

def mappedRequest : BufferRequest := ⟨64, 4, .abgr8888, .softwareReadOften⟩

/-- A buffer that outlives the context of its driver, and another one with a handle under the same
number. -/
def reused : Session :=
  (start ⟨.supplied, .linked⟩ reusingHost).1.run [.create 0 0 mappedRequest, .map 0 0 0 ⟨0⟩,
    .close 0, .dropBuffer 0, .create 0 1 mappedRequest, .dropDriver 0, .dropBuffer 1]

theorem handle_lifetime_of_reused :
    (reused.host.events.filterMap Event.imported?).map Import.handle = [1, 1] ∧
    ∀ pre e post i, reused.host.events = pre ++ e :: post → e.imported? = some i →
      frees i.handle post = 1 := by
  have h : Reachable reused := (Reachable.start ⟨.supplied, .linked⟩ rfl rfl).run _
  refine ⟨by decide +kernel, fun pre e post i he hi => ?_⟩
  exact ((h.handle_lifetime (by decide +kernel)).1 pre e post i he hi).2 (by decide +kernel)

end Session

end GraphicsBuffers
