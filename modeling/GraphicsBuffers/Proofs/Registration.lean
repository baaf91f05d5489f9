import GraphicsBuffers.Session.Run

/-!
What a sequence of registrations leaves in a capability table. Every added entry keeps its place,
its format and its arrangement, and gains the flags of each later widening that meets it.
-/

namespace GraphicsBuffers

namespace UseFlags

variable {a b : UseFlags} {n : Nat}

/-- The flag of bit `n` is set. -/
def Has (a : UseFlags) (n : Nat) : Prop := a.bits.toNat.testBit n = true

theorem has_union : (a ∪ b).Has n ↔ a.Has n ∨ b.Has n := by
  change (a.bits ||| b.bits).toNat.testBit n = true ↔ _
  rw [UInt64.toNat_or, Nat.testBit_or, Bool.or_eq_true]
  rfl

theorem ext_has (h : ∀ n, a.Has n ↔ b.Has n) : a = b := by
  have hbits : a.bits = b.bits := by
    apply UInt64.toNat_inj.mp
    exact Nat.eq_of_testBit_eq fun n => Bool.eq_iff_iff.mpr (h n)
  cases a
  cases b
  exact congrArg UseFlags.mk hbits

theorem contains_iff : a.contains b = true ↔ ∀ n, b.Has n → a.Has n := by
  have hinter : ∀ n, (UseFlags.mk (a.bits &&& b.bits)).Has n ↔ a.Has n ∧ b.Has n := by
    intro n
    change (a.bits &&& b.bits).toNat.testBit n = true ↔ _
    rw [UInt64.toNat_and, Nat.testBit_and, Bool.and_eq_true]
    rfl
  unfold contains
  rw [decide_eq_true_iff]
  constructor
  · intro h n hn
    have hn : (UseFlags.mk (a.bits &&& b.bits)).Has n := by
      rw [h]
      exact hn
    exact ((hinter n).mp hn).1
  · intro h
    have heq : UseFlags.mk (a.bits &&& b.bits) = b :=
      ext_has fun n => (hinter n).trans ⟨And.right, fun hn => ⟨h n hn, hn⟩⟩
    exact congrArg UseFlags.bits heq

end UseFlags

/-! ### Widening -/

/-- Flags for the entries of a format that have a modifier. -/
structure Widening where
  format : Format
  modifier : UInt64
  flags : UseFlags
deriving DecidableEq, Repr

/-- The entry has the format and the modifier, whatever its priority and tiling. -/
def Widening.Meets (w : Widening) (c : Combination) : Prop :=
  c.format = w.format ∧ c.arrangement.modifier = w.modifier

instance (w : Widening) (c : Combination) : Decidable (w.Meets c) :=
  inferInstanceAs (Decidable (_ ∧ _))

namespace Combination

variable {c : Combination} {ws ws' : List Widening} {table : List Combination} {format : Format}
  {flags : UseFlags}

/-- The entry with the flags of just those widenings that meet it. -/
def widenedBy (c : Combination) (ws : List Widening) : Combination :=
  { c with
    useFlags := (ws.filter fun w => w.Meets c).foldl (fun flags w => flags ∪ w.flags) c.useFlags }

theorem widenedBy_nil (c : Combination) : c.widenedBy [] = c := rfl

theorem widenedBy_append (c : Combination) (ws ws' : List Widening) :
    (c.widenedBy ws).widenedBy ws' = c.widenedBy (ws ++ ws') := by
  simp only [widenedBy, List.filter_append, List.foldl_append]
  rfl

theorem has_widenedBy (c : Combination) (ws : List Widening) (n : Nat) :
    (c.widenedBy ws).useFlags.Has n ↔
      c.useFlags.Has n ∨ ∃ w ∈ ws, w.Meets c ∧ w.flags.Has n := by
  have hfold : ∀ (ws : List Widening) (flags : UseFlags),
      (ws.foldl (fun flags w => flags ∪ w.flags) flags).Has n ↔
        flags.Has n ∨ ∃ w ∈ ws, w.flags.Has n := by
    intro ws
    induction ws with
    | nil => simp
    | cons w ws ih =>
      intro flags
      rw [List.foldl_cons, ih, UseFlags.has_union]
      simp [or_assoc]
  unfold widenedBy
  simp only [hfold, List.mem_filter, decide_eq_true_eq, and_assoc]

/-- Neither the order of the widenings nor how often each is made matters. -/
theorem widenedBy_congr (h : ∀ w, w ∈ ws ↔ w ∈ ws') (c : Combination) :
    c.widenedBy ws = c.widenedBy ws' := by
  have hflags : (c.widenedBy ws).useFlags = (c.widenedBy ws').useFlags :=
    UseFlags.ext_has fun n => by simp only [has_widenedBy, h]
  exact congrArg (fun flags => { c with useFlags := flags }) hflags

theorem widen_eq (table : List Combination) (format : Format) (arrangement : Arrangement)
    (flags : UseFlags) : widen table format arrangement flags =
      table.map (·.widenedBy [⟨format, arrangement.modifier, flags⟩]) := by
  apply List.map_congr_left
  intro c _
  unfold widenedBy
  by_cases hc : c.format = format ∧ c.arrangement.modifier = arrangement.modifier
  · rw [if_pos hc, List.filter_cons_of_pos (by rw [decide_eq_true_iff]; exact hc)]
    rfl
  · rw [if_neg hc, List.filter_cons_of_neg (by rw [decide_eq_true_iff]; exact hc)]
    rfl

theorem addAll_eq (table : List Combination) (formats : List Format) (arrangement : Arrangement)
    (flags : UseFlags) :
    addAll table formats arrangement flags = table ++ formats.map (⟨·, arrangement, flags⟩) := by
  unfold addAll
  induction formats generalizing table with
  | nil => simp
  | cons format formats ih =>
    rw [List.foldl_cons, ih, add, List.append_assoc]
    rfl

/-! ### Queries -/

theorem isSome_foldl_prefer (cs : List Combination) (b : Option Combination) :
    (cs.foldl prefer b).isSome = (b.isSome || !cs.isEmpty) := by
  induction cs generalizing b with
  | nil => simp
  | cons c cs ih =>
    have hsome : (prefer b c).isSome = true := by
      cases b with
      | none => rfl
      | some b =>
        dsimp only [prefer]
        split <;> rfl
    simp [ih, hsome]

/-- A query is answered where some entry has the format and covers the use. -/
theorem best?_isSome_iff :
    (best? table format flags).isSome = true ↔ ∃ c ∈ table, answers format flags c = true := by
  rw [best?, isSome_foldl_prefer]
  simp [List.filter_eq_nil_iff]

theorem answers_widenedBy (h : answers format flags c = true) (ws : List Widening) :
    answers format flags (c.widenedBy ws) = true := by
  unfold answers at h ⊢
  rw [Bool.and_eq_true] at h ⊢
  obtain ⟨hformat, hflags⟩ := h
  refine ⟨hformat, UseFlags.contains_iff.mpr fun n hn => ?_⟩
  exact (has_widenedBy c ws n).mpr (Or.inl (UseFlags.contains_iff.mp hflags n hn))

end Combination

/-! ### Sequences of registrations -/

/-- A change of a capability table. -/
inductive Registration
  | add (format : Format) (arrangement : Arrangement) (flags : UseFlags)
  | addAll (formats : List Format) (arrangement : Arrangement) (flags : UseFlags)
  | widen (format : Format) (arrangement : Arrangement) (flags : UseFlags)
  | widenLinear
deriving DecidableEq, Repr

namespace Registration

variable {r : Registration} {rs before later ws ws' : List Registration}
  {table : List Combination} {c : Combination}

def apply (table : List Combination) : Registration → List Combination
  | add format arrangement flags => Combination.add table format arrangement flags
  | addAll formats arrangement flags => Combination.addAll table formats arrangement flags
  | widen format arrangement flags => Combination.widen table format arrangement flags
  | widenLinear => Combination.widenLinear table

/-- The operation of a client that changes the table of a driver so. -/
def toOperation (driver : Nat) : Registration → Operation
  | add format arrangement flags => .addCombination driver format arrangement flags
  | addAll formats arrangement flags => .addCombinations driver formats arrangement flags
  | widen format arrangement flags => .widen driver format arrangement flags
  | widenLinear => .widenLinear driver

/-- The entries that are added. -/
def entries : Registration → List Combination
  | add format arrangement flags => [⟨format, arrangement, flags⟩]
  | addAll formats arrangement flags => formats.map (⟨·, arrangement, flags⟩)
  | _ => []

/-- What is widened of the entries that are there. -/
def widenings : Registration → List Widening
  | widen format arrangement flags => [⟨format, arrangement.modifier, flags⟩]
  | widenLinear =>
    [⟨.xrgb8888, Arrangement.linear.modifier, .cursor ∪ .scanout⟩,
      ⟨.argb8888, Arrangement.linear.modifier, .cursor ∪ .scanout⟩]
  | _ => []

def Widens : Registration → Prop
  | widen .. | widenLinear => True
  | _ => False

def applyAll (rs : List Registration) (table : List Combination) : List Combination :=
  rs.foldl apply table

/-- The entries that are added, with what later registrations widen of them. -/
def additions : List Registration → List Combination
  | [] => []
  | r :: rest => r.entries.map (·.widenedBy (rest.flatMap widenings)) ++ additions rest

/-- One registration widens what is there, and adds behind it. -/
theorem apply_eq (table : List Combination) (r : Registration) :
    r.apply table = table.map (·.widenedBy r.widenings) ++ r.entries := by
  cases r with
  | add format arrangement flags =>
    simp [apply, widenings, entries, Combination.add, Combination.widenedBy_nil]
  | addAll formats arrangement flags =>
    simp [apply, widenings, entries, Combination.addAll_eq, Combination.widenedBy_nil]
  | widen format arrangement flags =>
    simp [apply, widenings, entries, Combination.widen_eq]
  | widenLinear =>
    simp [apply, widenings, entries, Combination.widenLinear, Combination.widen_eq,
      Combination.widenedBy_append]

theorem applyAll_append (rs rs' : List Registration) (table : List Combination) :
    applyAll (rs ++ rs') table = applyAll rs' (applyAll rs table) := List.foldl_append

theorem applyAll_eq (rs : List Registration) (table : List Combination) :
    applyAll rs table = table.map (·.widenedBy (rs.flatMap widenings)) ++ additions rs := by
  induction rs generalizing table with
  | nil => simp [applyAll, additions, Combination.widenedBy_nil]
  | cons r rest ih =>
    change applyAll rest (r.apply table) = _
    rw [ih, apply_eq]
    simp [additions, Combination.widenedBy_append]

theorem additions_of_widens (h : ∀ r ∈ rs, r.Widens) : additions rs = [] := by
  induction rs with
  | nil => rfl
  | cons r rest ih =>
    have hnone : r.entries = [] := by
      have hr := h r List.mem_cons_self
      cases r with
      | add | addAll => exact hr.elim
      | widen | widenLinear => rfl
    rw [additions, hnone, ih fun r hr => h r (List.mem_cons_of_mem _ hr)]
    rfl

/-- Widenings in a row come to the same in any order, and however often each is made. -/
theorem applyAll_widens (hws : ∀ r ∈ ws, r.Widens) (hws' : ∀ r ∈ ws', r.Widens)
    (h : ∀ r, r ∈ ws ↔ r ∈ ws') (table : List Combination) :
    applyAll ws table = applyAll ws' table := by
  have hmem : ∀ w, w ∈ ws.flatMap widenings ↔ w ∈ ws'.flatMap widenings := by
    intro w
    simp only [List.mem_flatMap, h]
  rw [applyAll_eq, applyAll_eq, additions_of_widens hws, additions_of_widens hws']
  congr 1
  exact List.map_congr_left fun c _ => Combination.widenedBy_congr hmem c

/-- The table has kept its entries, and has those that were added behind them, each where it was
put. Every entry has the flags that it came with and those of just the later widenings that
meet it. -/
structure Kept (table : List Combination) (rs : List Registration) (table' : List Combination) :
    Prop where
  order : table'.map (fun c => (c.format, c.arrangement)) =
    (table ++ rs.flatMap entries).map fun c => (c.format, c.arrangement)
  old : ∀ (i : Nat) (c : Combination), table[i]? = some c →
    table'[i]? = some (c.widenedBy (rs.flatMap widenings))
  new : ∀ before r later, rs = before ++ r :: later → ∀ (j : Nat) (c : Combination),
    r.entries[j]? = some c → table'[(table ++ before.flatMap entries).length + j]? =
      some (c.widenedBy (later.flatMap widenings))

theorem additions_order (rs : List Registration) :
    (additions rs).map (fun c => (c.format, c.arrangement)) =
      (rs.flatMap entries).map fun c => (c.format, c.arrangement) := by
  induction rs with
  | nil => rfl
  | cons r rest ih =>
    rw [additions, List.map_append, ih, List.flatMap_cons, List.map_append, List.map_map]
    rfl

theorem additions_getElem? (before later : List Registration) (r : Registration) {j : Nat}
    (hj : r.entries[j]? = some c) :
    (additions (before ++ r :: later))[(before.flatMap entries).length + j]? =
      some (c.widenedBy (later.flatMap widenings)) := by
  induction before with
  | nil =>
    have hlt : j < (r.entries.map (·.widenedBy (later.flatMap widenings))).length := by
      rw [List.length_map]
      exact (List.getElem?_eq_some_iff.mp hj).1
    rw [List.flatMap_nil, List.length_nil, Nat.zero_add]
    change (_ ++ additions later)[j]? = _
    rw [List.getElem?_append_left hlt, List.getElem?_map, hj]
    rfl
  | cons b before ih =>
    rw [List.cons_append, additions, List.flatMap_cons, List.length_append, Nat.add_assoc,
      List.getElem?_append_right (by rw [List.length_map]; exact Nat.le_add_right _ _),
      List.length_map, Nat.add_sub_cancel_left, ih]

theorem applyAll_kept (rs : List Registration) (table : List Combination) :
    Kept table rs (applyAll rs table) := by
  rw [applyAll_eq]
  refine ⟨?_, ?_, ?_⟩
  · rw [List.map_append, List.map_append, additions_order, List.map_map]
    rfl
  · intro i c hc
    have hlt : i < (table.map (·.widenedBy (rs.flatMap widenings))).length := by
      rw [List.length_map]
      exact (List.getElem?_eq_some_iff.mp hc).1
    rw [List.getElem?_append_left hlt, List.getElem?_map, hc]
    rfl
  · intro before r later hrs j c hj
    subst hrs
    rw [List.length_append, Nat.add_assoc,
      List.getElem?_append_right (by rw [List.length_map]; exact Nat.le_add_right _ _),
      List.length_map, Nat.add_sub_cancel_left]
    exact additions_getElem? before later r hj

/-- Whatever is registered, a query that is answered stays so. -/
theorem best?_applyAll {format : Format} {flags : UseFlags} (rs : List Registration)
    (h : (Combination.best? table format flags).isSome = true) :
    (Combination.best? (applyAll rs table) format flags).isSome = true := by
  obtain ⟨c, hc, hanswers⟩ := Combination.best?_isSome_iff.mp h
  refine Combination.best?_isSome_iff.mpr ⟨c.widenedBy (rs.flatMap widenings), ?_, ?_⟩
  · rw [applyAll_eq]
    exact List.mem_append_left _ (List.mem_map_of_mem hc)
  · exact Combination.answers_widenedBy hanswers _

end Registration

namespace Policy

/-- What is registered for a driver, one after the other. -/
def registrations : List Registration := [
  .addAll renderable .linear (.renderUse ∪ .scanout),
  .addAll textureOnly .linear (.textureUse ∪ .scanout),
  .add .r8 .linear (.software ∪ .linear),
  .add .bgr888 .linear .software,
  .widen .nv12 .linear (.videoEncoder ∪ .videoDecoder ∪ .cameraRead ∪ .cameraWrite),
  .widen .nv21 .linear .videoEncoder,
  .widen .r8 .linear (.camera ∪ .videoDecoder ∪ .videoEncoder),
  .widen .yvu420Android .linear .camera,
  .widenLinear]

theorem register_kept (table : List Combination) :
    Registration.Kept table registrations (register table) := by
  have hregister : register table = Registration.applyAll registrations table := by
    simp only [register, registrations, Registration.applyAll, List.foldl_cons, List.foldl_nil,
      Registration.apply]
  rw [hregister]
  exact Registration.applyAll_kept registrations table

end Policy

namespace Session

open Registration

variable {s : Session} {driver : Nat} {d : Driver}

/-- The session after registrations for a driver. -/
def registered (s : Session) (driver : Nat) (rs : List Registration) : Session :=
  s.run (rs.map (toOperation driver))

theorem step_registers (hd : s.drivers.get? driver = some d) (r : Registration) :
    (s.step (r.toOperation driver)).1 = s.setCombinations driver d (r.apply d.combinations) := by
  cases r <;> simp only [toOperation, step, onDriver, hd] <;> rfl

theorem registered_get? (hd : s.drivers.get? driver = some d) (rs : List Registration) :
    (s.registered driver rs).drivers.get? driver =
      some { d with combinations := applyAll rs d.combinations } := by
  induction rs generalizing s d with
  | nil => exact hd
  | cons r rest ih =>
    change ((s.step (r.toOperation driver)).1.registered driver rest).drivers.get? driver = _
    rw [step_registers hd]
    have hd' : (s.setCombinations driver d (r.apply d.combinations)).drivers.get? driver =
        some { d with combinations := r.apply d.combinations } := Slots.get?_put_self _ _ _
    exact ih hd'

theorem best_answer (hd : s.drivers.get? driver = some d) (format : Format) (flags : UseFlags) :
    (s.step (.best driver format flags)).2 =
      .best (Combination.best? d.combinations format flags) := by
  simp only [step, onDriver, hd]

/-- Registrations add their entries one behind the other, and widen those that were added before
them. Widenings in a row commute, to repeat one changes nothing, and queries that are answered stay
answered. -/
theorem registered_keeps (hd : s.drivers.get? driver = some d) (rs : List Registration) :
    (∃ table, (s.registered driver rs).drivers.get? driver = some { d with combinations := table } ∧
      Kept d.combinations rs table) ∧
    (∀ (c : Combination) ws n, (c.widenedBy ws).useFlags.Has n ↔
      c.useFlags.Has n ∨ ∃ w ∈ ws, w.Meets c ∧ w.flags.Has n) ∧
    (∀ ws ws' later, (∀ r ∈ ws, r.Widens) → (∀ r ∈ ws', r.Widens) → (∀ r, r ∈ ws ↔ r ∈ ws') →
      (s.registered driver (rs ++ ws ++ later)).drivers.get? driver =
        (s.registered driver (rs ++ ws' ++ later)).drivers.get? driver) ∧
    ∀ format flags c, (s.step (.best driver format flags)).2 = .best (some c) →
      ∃ c', ((s.registered driver rs).step (.best driver format flags)).2 = .best (some c') := by
  refine ⟨⟨_, registered_get? hd rs, applyAll_kept rs _⟩, Combination.has_widenedBy, ?_, ?_⟩
  · intro ws ws' later hws hws' h
    rw [registered_get? hd, registered_get? hd, applyAll_append, applyAll_append, applyAll_append,
      applyAll_append, applyAll_widens hws hws' h]
  · intro format flags c hc
    rw [best_answer hd, Answer.best.injEq] at hc
    have hbest := best?_applyAll rs (by rw [hc]; rfl)
    obtain ⟨c', hc'⟩ := Option.isSome_iff_exists.mp hbest
    exact ⟨c', by rw [best_answer (registered_get? hd rs), hc']⟩

/-- One format under two modifiers, and twice under one, with a widening in between that has another
priority and tiling. -/
theorem registered_keeps_duplicates :
    let s : Session :=
      { allocator := ⟨.supplied, .linked⟩, host := {}, drivers := Slots.put {} 0 {} }
    let rs : List Registration := [
      .add .xrgb8888 ⟨1, 0, 0⟩ .texture,
      .add .xrgb8888 ⟨2, 1, 7⟩ .texture,
      .widen .xrgb8888 ⟨9, 5, 0⟩ .rendering,
      .addAll [.argb8888, .xrgb8888] .linear .texture,
      .widenLinear]
    let table : List Combination := [
      ⟨.xrgb8888, ⟨1, 0, 0⟩, .texture ∪ .rendering ∪ (.cursor ∪ .scanout)⟩,
      ⟨.xrgb8888, ⟨2, 1, 7⟩, .texture⟩,
      ⟨.argb8888, .linear, .texture ∪ (.cursor ∪ .scanout)⟩,
      ⟨.xrgb8888, .linear, .texture ∪ (.cursor ∪ .scanout)⟩]
    s.drivers.get? 0 = some {} ∧
      (s.registered 0 rs).drivers.get? 0 = some { combinations := table } ∧ Kept [] rs table := by
  intro s rs table
  have hd : s.drivers.get? 0 = some {} := rfl
  have hrun : (s.registered 0 rs).drivers.get? 0 = some { combinations := table } := by
    decide +kernel
  obtain ⟨⟨table', hget, hkept⟩, -, -, -⟩ := registered_keeps hd rs
  cases hget.symm.trans hrun
  exact ⟨hd, hrun, hkept⟩

end Session

end GraphicsBuffers
