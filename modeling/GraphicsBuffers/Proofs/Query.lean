import GraphicsBuffers.Proofs.Registration
import Mathlib.Data.List.Induction

/-!
Queries of a capability table. Of the entries that serve a use, a query takes one of the greatest
priority, among equals the one registered last; and to ask for less is never answered worse.
-/

namespace GraphicsBuffers.Combination

variable {table : List Combination} {format : Format} {flags fewer : UseFlags} {b c d : Combination}
  {i j : Nat}

/-- The entry is of the format and has every flag of the use. -/
def Serves (format : Format) (flags : UseFlags) (c : Combination) : Prop :=
  c.format = format ∧ ∀ n, flags.Has n → c.useFlags.Has n

theorem answers_iff : answers format flags c = true ↔ Serves format flags c := by
  rw [answers, Bool.and_eq_true, decide_eq_true_iff, UseFlags.contains_iff]
  rfl

theorem Serves.of_fewer (h : Serves format flags c) (hfewer : ∀ n, fewer.Has n → flags.Has n) :
    Serves format fewer c :=
  ⟨h.1, fun n hn => h.2 n (hfewer n hn)⟩

theorem best?_eq_none_iff :
    best? table format flags = none ↔ ∀ c ∈ table, ¬Serves format flags c := by
  rw [← Option.not_isSome_iff_eq_none, best?_isSome_iff, not_exists]
  simp only [not_and, answers_iff]

/-- The entry at place `i` serves the use. None that does has a greater priority, and none behind it
has the same. -/
structure Foremost (table : List Combination) (format : Format) (flags : UseFlags) (i : Nat)
    (c : Combination) : Prop where
  entry : table[i]? = some c
  serves : Serves format flags c
  greatest : ∀ d ∈ table, Serves format flags d → d.arrangement.priority ≤ c.arrangement.priority
  last : ∀ j d, table[j]? = some d → Serves format flags d →
    d.arrangement.priority = c.arrangement.priority → j ≤ i

theorem Foremost.mem (h : Foremost table format flags i c) : c ∈ table :=
  List.mem_of_getElem? h.entry

/-- Only one entry is foremost, at one place. -/
theorem Foremost.unique (h : Foremost table format flags i b)
    (h' : Foremost table format flags j c) : i = j ∧ b = c := by
  have hpriority : b.arrangement.priority = c.arrangement.priority :=
    UInt32.le_antisymm (h'.greatest b h.mem h.serves) (h.greatest c h'.mem h'.serves)
  have hplace : i = j := Nat.le_antisymm (h'.last i b h.entry h.serves hpriority)
    (h.last j c h'.entry h'.serves hpriority.symm)
  subst hplace
  exact ⟨rfl, Option.some.inj (h.entry.symm.trans h'.entry)⟩

/-! ### One more entry -/

theorem getElem?_concat (h : (table ++ [d])[j]? = some c) : table[j]? = some c ∨ c = d := by
  rw [List.getElem?_append] at h
  split at h
  · exact Or.inl h
  · exact Or.inr (List.mem_singleton.mp (List.mem_of_getElem? h))

/-- The foremost entry stays so if the new one does not serve the use, or has less priority. -/
theorem Foremost.keeps (h : Foremost table format flags i c)
    (hd : Serves format flags d → d.arrangement.priority < c.arrangement.priority) :
    Foremost (table ++ [d]) format flags i c where
  entry := by
    have hi := (List.getElem?_eq_some_iff.mp h.entry).1
    rw [List.getElem?_append_left hi, h.entry]
  serves := h.serves
  greatest := by
    intro e he hserves
    rcases List.mem_append.mp he with he | he
    · exact h.greatest e he hserves
    · cases List.mem_singleton.mp he
      exact UInt32.le_of_lt (hd hserves)
  last := by
    intro j e he hserves heq
    rcases getElem?_concat he with he | rfl
    · exact h.last j e he hserves heq
    · exact absurd heq (UInt32.ne_of_lt (hd hserves))

/-- The new entry becomes the foremost if it serves the use and none before has more priority. -/
theorem Foremost.of_concat (hd : Serves format flags d)
    (hle : ∀ c ∈ table, Serves format flags c → c.arrangement.priority ≤ d.arrangement.priority) :
    Foremost (table ++ [d]) format flags table.length d where
  entry := List.getElem?_concat_length
  serves := hd
  greatest := by
    intro e he hserves
    rcases List.mem_append.mp he with he | he
    · exact hle e he hserves
    · cases List.mem_singleton.mp he
      exact UInt32.le_refl _
  last := by
    intro j e he _ _
    have hlt := (List.getElem?_eq_some_iff.mp he).1
    rw [List.length_append, List.length_singleton] at hlt
    exact Nat.le_of_lt_succ hlt

/-- A new entry that serves the use is weighed against the foremost one. -/
theorem Foremost.weigh (hb : Foremost table format flags i b) (hd : Serves format flags d)
    (h : prefer (some b) d = some c) : ∃ j, Foremost (table ++ [d]) format flags j c := by
  rw [prefer] at h
  split at h
  · rename_i hle
    cases h
    exact ⟨_, .of_concat hd fun e he hserves => UInt32.le_trans (hb.greatest e he hserves) hle⟩
  · rename_i hlt
    cases h
    exact ⟨i, hb.keeps fun _ => UInt32.not_le.mp hlt⟩

/-- The entry that was registered last is looked at last. -/
theorem best?_concat (table : List Combination) (format : Format) (flags : UseFlags)
    (d : Combination) : best? (table ++ [d]) format flags =
      if answers format flags d then prefer (best? table format flags) d
      else best? table format flags := by
  unfold best?
  rw [List.filter_append, List.foldl_append]
  split
  · rename_i hd
    rw [List.filter_cons_of_pos hd]
    rfl
  · rename_i hd
    rw [List.filter_cons_of_neg hd]
    rfl

/-- What a query takes is the foremost entry. -/
theorem foremost_of_best? (h : best? table format flags = some c) :
    ∃ i, Foremost table format flags i c := by
  -- The table is taken up in the order of registration, so the induction is from its end.
  induction table using List.reverseRecOn generalizing c with
  | nil => cases h
  | append_singleton table d ih =>
    rw [best?_concat] at h
    split at h
    · rename_i hd
      have hserves := answers_iff.mp hd
      cases hbefore : best? table format flags with
      | none =>
        rw [hbefore] at h
        cases h
        have hnone := best?_eq_none_iff.mp hbefore
        exact ⟨_, .of_concat hserves fun e he hserves => absurd hserves (hnone e he)⟩
      | some b =>
        rw [hbefore] at h
        obtain ⟨i, hb⟩ := ih hbefore
        exact hb.weigh hserves h
    · rename_i hd
      obtain ⟨i, hc⟩ := ih h
      exact ⟨i, hc.keeps fun hserves => absurd (answers_iff.mpr hserves) hd⟩

theorem best?_eq_some_iff :
    best? table format flags = some c ↔ ∃ i, Foremost table format flags i c := by
  constructor
  · exact foremost_of_best?
  · intro h
    obtain ⟨i, hc⟩ := h
    cases hbest : best? table format flags with
    | none => exact absurd hc.serves (best?_eq_none_iff.mp hbest c hc.mem)
    | some b =>
      obtain ⟨j, hb⟩ := foremost_of_best? hbest
      rw [(hb.unique hc).2]

/-- Fewer flags are answered where more are, and with no less a priority. -/
theorem best?_fewer (hfewer : ∀ n, fewer.Has n → flags.Has n)
    (h : best? table format flags = some c) :
    ∃ c', best? table format fewer = some c' ∧
      c.arrangement.priority ≤ c'.arrangement.priority := by
  obtain ⟨i, hc⟩ := foremost_of_best? h
  have hserves := hc.serves.of_fewer hfewer
  cases hbest : best? table format fewer with
  | none => exact absurd hserves (best?_eq_none_iff.mp hbest c hc.mem)
  | some c' =>
    obtain ⟨j, hc'⟩ := foremost_of_best? hbest
    exact ⟨c', rfl, hc'.greatest c hc.mem hserves⟩

/-- A query answers nothing where no entry serves the use, and else the foremost that does. To ask
for fewer flags is never answered worse. -/
theorem best_selects (table : List Combination) (format : Format) (flags : UseFlags) :
    (best? table format flags = none ↔ ∀ c ∈ table, ¬Serves format flags c) ∧
    (∀ c, best? table format flags = some c ↔ ∃ i, Foremost table format flags i c) ∧
    ∀ fewer c, (∀ n, fewer.Has n → flags.Has n) → best? table format flags = some c →
      ∃ c', best? table format fewer = some c' ∧
        c.arrangement.priority ≤ c'.arrangement.priority :=
  ⟨best?_eq_none_iff, fun _ => best?_eq_some_iff, fun _ _ => best?_fewer⟩

/-- The greatest priority does not cover the scanout, and two entries tie for the next. -/
theorem best_selects_tied :
    let table : List Combination := [
      ⟨.xrgb8888, ⟨5, 0, 0⟩, .texture⟩,
      ⟨.xrgb8888, ⟨2, 0, 0⟩, .texture ∪ .scanout⟩,
      ⟨.xrgb8888, ⟨2, 1, 7⟩, .texture ∪ .scanout⟩,
      ⟨.xrgb8888, ⟨1, 0, 0⟩, .texture ∪ .scanout⟩,
      ⟨.argb8888, ⟨9, 0, 0⟩, .texture ∪ .scanout⟩]
    let c : Combination := ⟨.xrgb8888, ⟨2, 1, 7⟩, .texture ∪ .scanout⟩
    best? table .xrgb8888 (.texture ∪ .scanout) = some c ∧
      (∀ n, UseFlags.texture.Has n → (UseFlags.texture ∪ .scanout).Has n) ∧
      (∃ i, Foremost table .xrgb8888 (.texture ∪ .scanout) i c) ∧
      ∃ c', best? table .xrgb8888 .texture = some c' ∧ 2 ≤ c'.arrangement.priority := by
  intro table c
  have hbest : best? table .xrgb8888 (.texture ∪ .scanout) = some c := by decide
  have hfewer : ∀ n, UseFlags.texture.Has n → (UseFlags.texture ∪ .scanout).Has n :=
    fun n hn => UseFlags.has_union.mpr (Or.inl hn)
  obtain ⟨-, hsome, hless⟩ := best_selects table .xrgb8888 (.texture ∪ .scanout)
  exact ⟨hbest, hfewer, (hsome c).mp hbest, hless .texture c hfewer hbest⟩

end GraphicsBuffers.Combination
