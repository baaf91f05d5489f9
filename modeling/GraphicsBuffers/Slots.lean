/-!
Numbered slots, each of which holds at most one value. The occupied slots are kept in ascending
order of their numbers.
-/

namespace GraphicsBuffers

structure Slots (α : Type) where
  entries : List (Nat × α) := []
  ascending : entries.Pairwise (fun a b => a.1 < b.1) := by exact .nil
deriving Repr

namespace Slots

variable {α : Type}

def get? (s : Slots α) (n : Nat) : Option α := s.entries.lookup n

def insert (n : Nat) (a : α) : List (Nat × α) → List (Nat × α)
  | [] => [(n, a)]
  | (k, b) :: rest =>
    if n < k then (n, a) :: (k, b) :: rest
    else if n = k then (n, a) :: rest
    else (k, b) :: insert n a rest

theorem mem_insert {n : Nat} {a : α} {es : List (Nat × α)} {e : Nat × α}
    (h : e ∈ insert n a es) : e = (n, a) ∨ e ∈ es := by
  induction es with
  | nil => simpa [insert] using h
  | cons e es ih =>
    simp only [insert] at h
    split at h
    · simpa using h
    · split at h
      · rcases List.mem_cons.mp h with h | h
        · exact Or.inl h
        · exact Or.inr (List.mem_cons_of_mem _ h)
      · rcases List.mem_cons.mp h with h | h
        · exact Or.inr (h ▸ List.mem_cons_self)
        · exact (ih h).imp_right (List.mem_cons_of_mem _)

theorem insert_ascending (n : Nat) (a : α) {es : List (Nat × α)}
    (h : es.Pairwise (fun a b => a.1 < b.1)) :
    (insert n a es).Pairwise (fun a b => a.1 < b.1) := by
  induction es with
  | nil => exact List.pairwise_singleton _ _
  | cons e es ih =>
    obtain ⟨hfirst, hrest⟩ := List.pairwise_cons.mp h
    simp only [insert]
    split
    · rename_i hn
      refine List.pairwise_cons.mpr ⟨?_, h⟩
      intro d hd
      rcases List.mem_cons.mp hd with rfl | hd
      · exact hn
      · exact Nat.lt_trans hn (hfirst d hd)
    · split
      · rename_i hn
        exact List.pairwise_cons.mpr ⟨fun d hd => hn ▸ hfirst d hd, hrest⟩
      · refine List.pairwise_cons.mpr ⟨?_, ih hrest⟩
        intro d hd
        rcases mem_insert hd with rfl | hd
        · omega
        · exact hfirst d hd

def put (s : Slots α) (n : Nat) (a : α) : Slots α :=
  ⟨insert n a s.entries, insert_ascending n a s.ascending⟩

def erase (s : Slots α) (n : Nat) : Slots α :=
  ⟨s.entries.filter fun e => e.1 ≠ n, s.ascending.filter _⟩

def values (s : Slots α) : List α := s.entries.map Prod.snd

/-! ### What a slot holds afterwards -/

theorem lookup_cons (m : Nat) (e : Nat × α) (es : List (Nat × α)) :
    (e :: es).lookup m = if m = e.1 then some e.2 else es.lookup m := by
  obtain ⟨k, b⟩ := e
  rw [List.lookup_cons]
  split <;> simp_all

theorem lookup_insert (n m : Nat) (a : α) (es : List (Nat × α)) :
    (insert n a es).lookup m = if m = n then some a else es.lookup m := by
  induction es with
  | nil => simp [insert, lookup_cons]
  | cons e es ih =>
    simp only [insert]
    split
    · simp only [lookup_cons]
    · split
      · rename_i h
        simp only [lookup_cons, h]
        split <;> rfl
      · simp only [lookup_cons, ih]
        split <;> split <;> first | rfl | omega

@[simp] theorem get?_put_self (s : Slots α) (n : Nat) (a : α) : (s.put n a).get? n = some a := by
  simp [get?, put, lookup_insert]

theorem get?_put_other (s : Slots α) {n m : Nat} (a : α) (h : m ≠ n) :
    (s.put n a).get? m = s.get? m := by
  simp [get?, put, lookup_insert, h]

theorem lookup_filter (n m : Nat) (es : List (Nat × α)) :
    (es.filter fun e => e.1 ≠ n).lookup m = if m = n then none else es.lookup m := by
  induction es with
  | nil => simp
  | cons e es ih =>
    rw [List.filter_cons, lookup_cons]
    by_cases he : e.1 = n
    · simp only [he, ne_eq, not_true_eq_false, decide_false, Bool.false_eq_true, ↓reduceIte]
      rw [ih]
      split <;> rfl
    · simp only [he, ne_eq, not_false_eq_true, decide_true, ↓reduceIte, lookup_cons]
      rw [ih]
      split <;> split <;> first | rfl | omega

theorem get?_erase_other (s : Slots α) {n m : Nat} (h : m ≠ n) :
    (s.erase n).get? m = s.get? m := by
  simp only [get?, erase, lookup_filter, h, ↓reduceIte]

/-! ### All that the slots hold -/

theorem filter_above {n : Nat} {es : List (Nat × α)} (h : ∀ e ∈ es, n < e.1) :
    es.filter (fun e => e.1 ≠ n) = es := by
  apply List.filter_eq_self.mpr
  intro e he
  have := h e he
  simpa using (by omega : e.1 ≠ n)

theorem insert_perm (n : Nat) (a : α) {es : List (Nat × α)}
    (h : es.Pairwise (fun a b => a.1 < b.1)) :
    (insert n a es).Perm ((n, a) :: es.filter fun e => e.1 ≠ n) := by
  induction es with
  | nil => exact .refl _
  | cons e es ih =>
    obtain ⟨hfirst, hrest⟩ := List.pairwise_cons.mp h
    simp only [insert]
    split
    · rename_i hn
      have habove : ∀ d ∈ e :: es, n < d.1 := by
        intro d hd
        rcases List.mem_cons.mp hd with rfl | hd
        · exact hn
        · exact Nat.lt_trans hn (hfirst d hd)
      rw [filter_above habove]
    · split
      · rename_i hn
        subst hn
        have hdrop : (e :: es).filter (fun d => d.1 ≠ e.1) = es := by
          simpa using filter_above hfirst
        rw [hdrop]
      · rename_i hn
        have hkeep : (e :: es).filter (fun d => d.1 ≠ n) = e :: es.filter (fun d => d.1 ≠ n) := by
          simp [Ne.symm hn]
        rw [hkeep]
        exact ((ih hrest).cons e).trans (.swap _ _ _)

theorem perm_of_lookup {n : Nat} {a : α} {es : List (Nat × α)}
    (h : es.Pairwise (fun a b => a.1 < b.1)) (hl : es.lookup n = some a) :
    es.Perm ((n, a) :: es.filter fun e => e.1 ≠ n) := by
  induction es with
  | nil => cases hl
  | cons e es ih =>
    obtain ⟨hfirst, hrest⟩ := List.pairwise_cons.mp h
    by_cases he : n = e.1
    · subst he
      obtain rfl : e.2 = a := by simpa [lookup_cons] using hl
      have hdrop : (e :: es).filter (fun d => d.1 ≠ e.1) = es := by
        simpa using filter_above hfirst
      rw [hdrop]
    · have hkeep : (e :: es).filter (fun d => d.1 ≠ n) = e :: es.filter (fun d => d.1 ≠ n) := by
        simp [Ne.symm he]
      rw [hkeep]
      have hl : es.lookup n = some a := by simpa [lookup_cons, he] using hl
      exact ((ih hrest hl).cons e).trans (.swap _ _ _)

theorem values_put (s : Slots α) (n : Nat) (a : α) :
    (s.put n a).values.Perm (a :: (s.erase n).values) :=
  (insert_perm n a s.ascending).map Prod.snd

theorem erase_vacant {s : Slots α} {n : Nat} (h : s.get? n = none) : s.erase n = s := by
  have hkeep : s.entries.filter (fun e => e.1 ≠ n) = s.entries := by
    apply List.filter_eq_self.mpr
    intro e he
    have hne := List.lookup_eq_none_iff.mp h e he
    have hne : n ≠ e.1 := by simpa using hne
    simpa using Ne.symm hne
  simp only [erase, hkeep]

/-- A slot's content, if there is any, and the contents of the others. -/
theorem values_split (s : Slots α) (n : Nat) :
    s.values.Perm ((s.get? n).toList ++ (s.erase n).values) := by
  cases h : s.get? n with
  | some a => exact (perm_of_lookup s.ascending h).map Prod.snd
  | none =>
    rw [erase_vacant h]
    exact .refl _

theorem mem_values {s : Slots α} {n : Nat} {a : α} (h : s.get? n = some a) : a ∈ s.values := by
  have hsplit := s.values_split n
  rw [h] at hsplit
  exact hsplit.mem_iff.mpr List.mem_cons_self

theorem mem_values_of_erase {s : Slots α} {n : Nat} {a : α} (h : a ∈ (s.erase n).values) :
    a ∈ s.values :=
  (s.values_split n).mem_iff.mpr (List.mem_append_right _ h)

theorem mem_cons_of_put {s : Slots α} {n : Nat} {a b : α} (h : b ∈ (s.put n a).values) :
    b ∈ a :: s.values := by
  rcases List.mem_cons.mp ((s.values_put n a).mem_iff.mp h) with rfl | h
  · exact List.mem_cons_self
  · exact List.mem_cons_of_mem _ (mem_values_of_erase h)

theorem entries_foldl_erase (ns : List Nat) (s : Slots α) :
    (ns.foldl erase s).entries = s.entries.filter fun e => e.1 ∉ ns := by
  induction ns generalizing s with
  | nil => exact (List.filter_eq_self.mpr (by simp)).symm
  | cons n ns ih =>
    rw [List.foldl_cons, ih, erase, List.filter_filter]
    apply List.filter_congr
    intro e _
    simp [Bool.and_comm]

theorem values_erase_all (s : Slots α) :
    ((s.entries.map Prod.fst).foldl erase s).values = [] := by
  rw [values, entries_foldl_erase, List.map_eq_nil_iff, List.filter_eq_nil_iff]
  intro e he
  simpa using ⟨e.2, he⟩

/-- What the contents of the slots have to show for themselves. -/
def collect {β : Type} (g : α → Option β) (s : Slots α) : List β := s.values.filterMap g

theorem collect_put {β : Type} (g : α → Option β) (s : Slots α) (n : Nat) (a : α) :
    ((s.put n a).collect g).Perm ((g a).toList ++ (s.erase n).collect g) := by
  have h := (s.values_put n a).filterMap g
  cases hg : g a with
  | none => simpa [collect, hg] using h
  | some b => simpa [collect, hg] using h

theorem collect_split {β : Type} (g : α → Option β) (s : Slots α) (n : Nat) :
    (s.collect g).Perm (((s.get? n).bind g).toList ++ (s.erase n).collect g) := by
  have h := (s.values_split n).filterMap g
  cases ha : s.get? n with
  | none => simpa [collect, ha] using h
  | some a =>
    cases hg : g a with
    | none => simpa [collect, ha, hg] using h
    | some b => simpa [collect, ha, hg] using h

theorem count_collect_put {β : Type} [DecidableEq β] (g : α → Option β) (s : Slots α) (n : Nat)
    (a : α) (b : β) :
    ((s.put n a).collect g).count b + ((s.get? n).bind g).toList.count b =
      (s.collect g).count b + (g a).toList.count b := by
  rw [(s.collect_put g n a).count_eq, (s.collect_split g n).count_eq, List.count_append,
    List.count_append]
  omega

end Slots

end GraphicsBuffers
