import GraphicsBuffers.Proofs.Encoding
import GraphicsBuffers.Proofs.Selection

/-!
Which nodes of a class are passed on by a search, in which order, and how far. The order in which
the directory lists its nodes makes no difference, since no two have the same name.
-/

namespace GraphicsBuffers

/-! ### The nodes of a class -/

namespace Node

/-- The node can be opened, and answers with the name of its driver: text without NUL. -/
structure Answers (n : Node) (driver : String) : Prop where
  opens : n.openError? = none
  version : ∃ d, n.kind = .device d ∧ d.lengthError = none ∧ d.driverError = none ∧
    0 ∉ d.driver ∧ Utf8.encode driver = d.driver

theorem nameOfBytes_ok {bytes : List UInt8} {name : String} :
    nameOfBytes bytes = .ok name ↔ 0 ∉ bytes ∧ Utf8.encode name = bytes := by
  unfold nameOfBytes
  cases hz : bytes.findIdx? (· = 0) with
  | some position =>
    obtain ⟨h, hzero, -⟩ := List.findIdx?_eq_some_iff_getElem.mp hz
    have hmem : (0 : UInt8) ∈ bytes := of_decide_eq_true hzero ▸ List.getElem_mem h
    exact iff_of_false nofun fun h => h.1 hmem
  | none =>
    have hfree : 0 ∉ bytes := fun h => by
      have := List.findIdx?_eq_none_iff.mp hz 0 h
      simp at this
    rw [← Utf8.decode_eq_ok, and_iff_right hfree]
    cases Utf8.decode bytes <;> simp

theorem driverName_ok {n : Node} {driver : String} : n.driverName = .ok driver ↔
    ∃ d, n.kind = .device d ∧ d.lengthError = none ∧ d.driverError = none ∧
      0 ∉ d.driver ∧ Utf8.encode driver = d.driver := by
  unfold driverName
  cases n.kind with
  | device d =>
    have hname : nameOfBytes d.driver = .ok driver ↔
        0 ∉ d.driver ∧ Utf8.encode driver = d.driver := nameOfBytes_ok
    cases hl : d.lengthError <;> cases he : d.driverError <;> simp [hl, he, hname]
  | _ => simp

theorem candidate?_answers {n : Node} {x : Candidate} : n.candidate? = some x ↔
    n.Answers x.driver ∧ x.node = n ∧ x.drivesDisplay = n.drivesDisplay := by
  rw [candidate?_eq_some, driverName_ok]
  constructor
  · rintro ⟨ho, hd, hx⟩
    exact ⟨⟨ho, hd⟩, by rw [hx], by rw [hx]⟩
  · rintro ⟨⟨ho, hd⟩, rfl, hk⟩
    exact ⟨ho, hd, by rw [← hk]⟩

end Node

namespace Directory

variable {d d' : Directory} {c : NodeClass}

/-- No two nodes have the same name. -/
def Distinct (d : Directory) : Prop := ((d.nodes.getD []).map Node.name).Nodup

/-- The directory lists the same nodes, maybe in another order. -/
structure Relisted (d d' : Directory) : Prop where
  path : d'.path = d.path
  nodes : (d'.nodes.getD []).Perm (d.nodes.getD [])

theorem Relisted.refl (d : Directory) : d.Relisted d := ⟨rfl, .refl _⟩

/-- These are the nodes of the class that can be used, in the order of the bytes of their names. -/
structure Lists (d : Directory) (c : NodeClass) (all : List Candidate) : Prop where
  mem_iff : ∀ x, x ∈ all ↔ x.node ∈ d.nodes.getD [] ∧ c.accepts x.node.name ∧
    x.node.Answers x.driver ∧ x.drivesDisplay = x.node.drivesDisplay
  ascending : all.Pairwise fun x y => x.node.name < y.node.name

theorem Distinct.ordered_lt (h : d.Distinct) (c : NodeClass) :
    (d.ordered c).Pairwise fun a b => a.name < b.name := by
  have hnames : (d.ordered c).Pairwise fun a b => a.name ≠ b.name := by
    refine List.Pairwise.perm ?_ (List.mergeSort_perm _ _).symm fun h => h.symm
    exact (List.pairwise_map.mp h).filter _
  exact ((ordered_pairwise d c).and hnames).imp fun ⟨hle, hne⟩ =>
    (List.le_iff_lt_or_eq.mp hle).resolve_right hne

/-- The order of distinct names does not depend on that of the listing. -/
theorem Relisted.ordered (h : d.Relisted d') (hd : d.Distinct) (c : NodeClass) :
    d'.ordered c = d.ordered c := by
  have hd' : d'.Distinct := (h.nodes.map Node.name).nodup_iff.mpr hd
  have hperm : (d'.ordered c).Perm (d.ordered c) :=
    (List.mergeSort_perm _ _).trans ((h.nodes.filter _).trans (List.mergeSort_perm _ _).symm)
  exact hperm.eq_of_pairwise (fun a b _ _ hab hba => absurd hab (List.lt_asymm hba))
    (hd'.ordered_lt c) (hd.ordered_lt c)

theorem Distinct.lists (h : d.Distinct) (c : NodeClass) :
    d.Lists c ((d.ordered c).filterMap Node.candidate?) := by
  constructor
  · intro x
    rw [List.mem_filterMap]
    simp only [mem_ordered, Node.candidate?_answers]
    constructor
    · rintro ⟨n, ⟨hn, hc⟩, ha, rfl, hk⟩
      exact ⟨hn, hc, ha, hk⟩
    · rintro ⟨hn, hc, ha, hk⟩
      exact ⟨x.node, ⟨hn, hc⟩, ha, rfl, hk⟩
  · apply List.Pairwise.filterMap _ _ (h.ordered_lt c)
    intro a b hab x hx y hy
    obtain ⟨-, rfl, -⟩ := Node.candidate?_answers.mp hx
    obtain ⟨-, rfl, -⟩ := Node.candidate?_answers.mp hy
    exact hab

theorem ordered_eq_nil : d.ordered c = [] ↔ ∀ n ∈ d.nodes.getD [], ¬c.accepts n.name := by
  rw [List.eq_nil_iff_forall_not_mem]
  simp only [mem_ordered, not_and]

end Directory

/-! ### The search -/

namespace Discovery

/-- What is seen of `all` up to the first point at which it is enough. -/
structure UpTo (stop : List Candidate → Bool) (all seen : List Candidate) : Prop where
  initial : seen <+: all
  goes : ∀ s, s <+: seen → s ≠ [] → s ≠ seen → stop s = false
  ends : seen = all ∨ seen ≠ [] ∧ stop seen = true

namespace UpTo

variable {stop : List Candidate → Bool} {all seen : List Candidate} {x : Candidate}

theorem nil : UpTo stop [] [] :=
  ⟨List.prefix_rfl, fun _ h hne => absurd (List.prefix_nil.mp h) hne, Or.inl rfl⟩

theorem enough (h : stop [x] = true) (all : List Candidate) : UpTo stop (x :: all) [x] := by
  refine ⟨⟨all, rfl⟩, fun s hs hne hx => ?_, Or.inr ⟨List.cons_ne_nil _ _, h⟩⟩
  rcases List.prefix_cons_iff.mp hs with rfl | ⟨t, rfl, ht⟩
  · exact absurd rfl hne
  · exact absurd (congrArg (x :: ·) (List.prefix_nil.mp ht)) hx

theorem cons (hx : stop [x] = false) (h : UpTo (fun s => stop (x :: s)) all seen) :
    UpTo stop (x :: all) (x :: seen) := by
  refine ⟨List.cons_prefix_cons.mpr ⟨rfl, h.initial⟩, fun s hs hne hseen => ?_, ?_⟩
  · rcases List.prefix_cons_iff.mp hs with rfl | ⟨t, rfl, ht⟩
    · exact absurd rfl hne
    · cases t with
      | nil => exact hx
      | cons y t => exact h.goes _ ht (List.cons_ne_nil _ _) fun he => hseen (by rw [he])
  · exact h.ends.imp (congrArg (x :: ·)) fun h => ⟨List.cons_ne_nil _ _, h.2⟩

end UpTo

/-- The candidates among the nodes are passed on until it is enough. -/
theorem probed_upTo (stop : List Candidate → Bool) (nodes : List Node) (seen : List Candidate) :
    UpTo (fun s => stop (seen ++ s)) (nodes.filterMap Node.candidate?)
      ((probed stop seen nodes).filterMap Node.candidate?) := by
  induction nodes generalizing seen with
  | nil => exact .nil
  | cons n rest ih =>
    unfold probed
    cases hc : n.candidate? with
    | none =>
      rw [List.filterMap_cons_none hc, List.filterMap_cons_none hc]
      exact ih seen
    | some x =>
      rw [List.filterMap_cons_some hc, List.filterMap_cons_some hc]
      by_cases hstop : stop (seen ++ [x])
      · simp only [if_pos hstop]
        exact .enough hstop _
      · simp only [if_neg hstop]
        refine .cons (by simpa using hstop) ?_
        simpa only [List.append_assoc, List.singleton_append] using ih (seen ++ [x])

/-- What the program comes to, and what it adds to the events. -/
def outcome {α : Type} (act : HostM α) (h : Host) : Except Error α × List Event :=
  match act h with
  | .ok a h' => (.ok a, added h h')
  | .error e h' => (.error e, added h h')

theorem outcome_ok {α : Type} {act : HostM α} {h : Host} {a : α} {es : List Event}
    (ha : act h = .ok a { h with events := h.events ++ es }) : outcome act h = (.ok a, es) := by
  rw [outcome, ha]
  exact congrArg _ (added_eq rfl)

theorem outcome_error {α : Type} {act : HostM α} {h : Host} {e : Error} (ha : act h = .error e h) :
    outcome act h = (.error e, []) := by
  rw [outcome, ha]
  exact congrArg _ List.drop_length

/-- A search passes on the nodes of the class that can be opened and name their driver in text, in
the order of the bytes of their names, until it is enough. It fails only where no name belongs to
the class. What it comes to, and what it opens, queries and logs, does not depend on the order in
which the directory lists its nodes, nor on the rest of the host. -/
theorem findDevices_enumerates (c : NodeClass) (stop : List Candidate → Bool) (h : Host)
    (hd : h.directory.Distinct) :
    (∃ all, h.directory.Lists c all ∧
      Yields (findDevices c stop) h
        (fun seen h' => (∃ n ∈ h.directory.nodes.getD [], c.accepts n.name) ∧
          UpTo stop all seen ∧ h' = { h with events := h'.events })
        (fun e h' => (∀ n ∈ h.directory.nodes.getD [], ¬c.accepts n.name) ∧
          e = .noMatchingNode s!"{Utf8.lossy h.directory.path}/{c.stem}*" ∧ h' = h)) ∧
    ∀ h' : Host, h.directory.Relisted h'.directory →
      outcome (findDevices c stop) h' = outcome (findDevices c stop) h := by
  obtain ⟨es, -, hfind⟩ := findDevices_apply c stop h.directory.path (h.directory.ordered c)
  have hfind : ∀ h' : Host, h.directory.Relisted h'.directory → findDevices c stop h' = _ :=
    fun h' hr => hfind h' hr.path (hr.ordered hd c)
  have hself := hfind h (.refl _)
  by_cases hn : h.directory.ordered c = []
  · simp only [if_pos hn] at hfind hself
    refine ⟨⟨_, hd.lists c, ?_⟩, fun h' hr => ?_⟩
    · rw [yields_of_error hself]
      exact ⟨Directory.ordered_eq_nil.mp hn, rfl, rfl⟩
    · rw [outcome_error (hfind h' hr), outcome_error hself]
  · simp only [if_neg hn] at hfind hself
    refine ⟨⟨_, hd.lists c, ?_⟩, fun h' hr => ?_⟩
    · rw [yields_of_ok hself]
      refine ⟨?_, probed_upTo stop _ [], rfl⟩
      simpa using mt Directory.ordered_eq_nil.mpr hn
    · rw [outcome_ok (hfind h' hr), outcome_ok hself]

/-- A card that drives a display is among those that a search goes through, however the directory
lists it. -/
theorem findDevices_enumerates_cards :
    let h : Host := { directory := ⟨Directory.standardPath, some [displayCard, idleCard]⟩ }
    let h' : Host := { directory := ⟨Directory.standardPath, some [idleCard, displayCard]⟩ }
    h.directory.Distinct ∧
      (∃ all, h.directory.Lists .card all ∧ ⟨displayCard, "", true⟩ ∈ all ∧
        Yields (findDevices .card lastDrivesDisplay) h
          (fun seen _ => UpTo lastDrivesDisplay all seen) (fun _ _ => False)) ∧
      outcome (findDevices .card lastDrivesDisplay) h' =
        outcome (findDevices .card lastDrivesDisplay) h := by
  intro h h'
  have hd : h.directory.Distinct :=
    (by decide : [Utf8.encode "card1", Utf8.encode "card0"].Nodup)
  obtain ⟨⟨all, hlists, hyields⟩, hsame⟩ := findDevices_enumerates .card lastDrivesDisplay h hd
  refine ⟨hd, ⟨all, hlists, ?_, hyields.imp ?_ ?_⟩, hsame h' ⟨rfl, List.Perm.swap _ _ _⟩⟩
  · have hanswers : displayCard.Answers "" := ⟨rfl, _, rfl, rfl, rfl, List.not_mem_nil, rfl⟩
    exact (hlists.mem_iff _).mpr ⟨List.mem_cons_self, by decide, hanswers, rfl⟩
  · exact fun _ _ hs => hs.2.1
  · exact fun _ _ hf => hf.1 displayCard List.mem_cons_self (by decide)

end Discovery

end GraphicsBuffers
