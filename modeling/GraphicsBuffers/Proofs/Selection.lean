import GraphicsBuffers.Proofs.Grant

/-!
Which nodes a search of the node directory comes up with. Of each class the first node counts, in
the order of their names, that can be used as it is wanted; nothing behind it is looked at.
-/

namespace GraphicsBuffers

namespace Node

/-- The node can be opened and names its driver. -/
def Usable (n : Node) : Prop := n.openError? = none ∧ ∃ name, n.driverName = .ok name

/-- The node can be used, and drives a display. -/
def Shows (n : Node) : Prop := n.Usable ∧ n.drivesDisplay = true

theorem offers_usable {n : Node} : (n.offers fun _ => true) = true ↔ n.Usable := by
  rw [offers_iff]
  constructor
  · rintro ⟨c, hc, -⟩
    obtain ⟨ho, hd, -⟩ := candidate?_eq_some.mp hc
    exact ⟨ho, c.driver, hd⟩
  · rintro ⟨ho, name, hd⟩
    exact ⟨⟨n, name, n.drivesDisplay⟩, candidate?_eq_some.mpr ⟨ho, hd, rfl⟩, rfl⟩

theorem offers_shows {n : Node} : n.offers Candidate.drivesDisplay = true ↔ n.Shows := by
  rw [offers_iff]
  constructor
  · rintro ⟨c, hc, hshows⟩
    obtain ⟨ho, hd, he⟩ := candidate?_eq_some.mp hc
    rw [he] at hshows
    exact ⟨⟨ho, c.driver, hd⟩, hshows⟩
  · rintro ⟨⟨ho, name, hd⟩, hshows⟩
    exact ⟨⟨n, name, n.drivesDisplay⟩, candidate?_eq_some.mpr ⟨ho, hd, rfl⟩, hshows⟩

end Node

namespace Directory

/-- A node of class `c` with property `p`, the first in the order of their names; or none, if there
is no such node. -/
inductive Picks (d : Directory) (c : NodeClass) (p : Node → Prop) : Option Node → Prop
  | first {n : Node} (hm : n ∈ d.nodes.getD []) (hc : c.accepts n.name) (hp : p n)
      (hle : ∀ m ∈ d.nodes.getD [], c.accepts m.name → p m → n.name ≤ m.name) :
      Picks d c p (some n)
  | none (h : ∀ m ∈ d.nodes.getD [], c.accepts m.name → ¬p m) : Picks d c p none

theorem mem_ordered {d : Directory} {c : NodeClass} {n : Node} :
    n ∈ d.ordered c ↔ n ∈ d.nodes.getD [] ∧ c.accepts n.name := by
  rw [ordered, sorted, List.mem_mergeSort, List.mem_filter]

theorem ordered_pairwise (d : Directory) (c : NodeClass) :
    (d.ordered c).Pairwise fun a b => a.name ≤ b.name := by
  have h : (d.ordered c).Pairwise fun a b => decide (a.name ≤ b.name) = true :=
    List.pairwise_mergeSort
      (fun a b c hab hbc => by
        simpa using List.le_trans (by simpa using hab) (by simpa using hbc))
      (fun a b => by simpa using List.le_total a.name b.name) _
  exact h.imp fun h => by simpa using h

/-- In the order of their names, the first node that passes the test is picked. -/
theorem picks_find {d : Directory} {c : NodeClass} {p : Node → Prop} {q : Node → Bool}
    (hq : ∀ n, q n = true ↔ p n) : Picks d c p ((d.ordered c).find? q) := by
  cases hf : (d.ordered c).find? q with
  | none =>
    refine .none fun m hm hc hp => ?_
    exact List.find?_eq_none.mp hf m (mem_ordered.mpr ⟨hm, hc⟩) ((hq m).mpr hp)
  | some n =>
    obtain ⟨hn, before, after, he, hbefore⟩ := List.find?_eq_some_iff_append.mp hf
    have hmem : n ∈ d.ordered c := by simp [he]
    obtain ⟨hm, hc⟩ := mem_ordered.mp hmem
    refine .first hm hc ((hq n).mp hn) fun m hm hc hp => ?_
    have hpair := ordered_pairwise d c
    rw [he] at hpair
    have hm := mem_ordered.mpr ⟨hm, hc⟩
    rw [he, List.mem_append, List.mem_cons] at hm
    rcases hm with hm | rfl | hm
    · have := hbefore m hm
      rw [(hq m).mpr hp] at this
      cases this
    · exact List.le_refl _
    · exact (List.pairwise_cons.mp (List.pairwise_append.mp hpair).2.1).1 m hm

/-- In the order of their names, the cards are the same, and the render nodes are up to `g`. -/
structure SameUpTo (g : Option Node) (d d' : Directory) : Prop where
  cards : d'.ordered .card = d.ordered .card
  renders : d'.ordered .render = d.ordered .render ∨ ∃ n before after after', g = some n ∧
    d.ordered .render = before ++ n :: after ∧ d'.ordered .render = before ++ n :: after'

theorem SameUpTo.refl (g : Option Node) (d : Directory) : d.SameUpTo g d := ⟨rfl, Or.inl rfl⟩

/-- The name that the driver of the GPU `g` goes by: an empty one, if there are render nodes but
none can be used, and none without render nodes. -/
def gpuName? (d : Directory) : Option Node → Option String
  | some n => n.driverName.toOption
  | none =>
    if (d.nodes.getD []).any fun n => NodeClass.render.accepts n.name then some "" else none

end Directory

/-! ### What is opened -/

namespace Discovery

variable {h : Host} {p : Candidate → Bool}

/-- Nothing behind the first node with the property is visited. -/
theorem visited_congr {n : Node} (hn : n.offers p) (before after after' : List Node) :
    visited p (before ++ n :: after) = visited p (before ++ n :: after') := by
  induction before with
  | nil => simp [visited, hn]
  | cons m before ih => simp [visited, ih]

theorem visited_le {nodes : List Node} (hs : nodes.Pairwise fun a b => a.name ≤ b.name)
    {m : Node} (hm : m ∈ visited p nodes) :
    m ∈ nodes ∧ ∀ n ∈ first? p nodes, m.name ≤ n.name := by
  induction nodes with
  | nil => cases hm
  | cons n rest ih =>
    obtain ⟨hle, hrest⟩ := List.pairwise_cons.mp hs
    unfold visited at hm
    unfold first?
    by_cases hp : n.offers p
    · rw [if_pos hp, List.mem_singleton] at hm
      rw [List.find?_cons_of_pos hp, hm]
      refine ⟨List.mem_cons_self, fun k hk => ?_⟩
      cases hk
      exact List.le_refl _
    · rw [if_neg hp, List.mem_cons] at hm
      rw [List.find?_cons_of_neg hp]
      rcases hm with rfl | hm
      · exact ⟨List.mem_cons_self, fun k hk => hle k (List.mem_of_find?_eq_some hk)⟩
      · obtain ⟨hmem, hfound⟩ := ih hrest hm
        exact ⟨List.mem_cons_of_mem _ hmem, hfound⟩

theorem visited_names {d : Directory} {c : NodeClass} {name : FileName}
    (h : name ∈ (visited p (d.ordered c)).map Node.name) :
    c.accepts name ∧ ∀ n ∈ first? p (d.ordered c), name ≤ n.name := by
  obtain ⟨m, hm, rfl⟩ := List.mem_map.mp h
  obtain ⟨hmem, hle⟩ := visited_le (d.ordered_pairwise c) hm
  exact ⟨(Directory.mem_ordered.mp hmem).2, hle⟩

/-! ### The search -/

theorem gpu?_offers {d : Directory} {n : Node} (h : gpu? d = some n) : n.offers fun _ => true :=
  List.find?_some h

/-- What lies behind the GPU's node makes no difference to the search. -/
theorem search_congr {d d' : Directory} (h : d.SameUpTo (gpu? d) d') :
    gpu? d' = gpu? d ∧ renderVisits d' = renderVisits d ∧ displayCard? d' = displayCard? d ∧
      cardVisits d' = cardVisits d ∧ ∀ names, displayless d' names = displayless d names := by
  have hcards : displayCard? d' = displayCard? d ∧ cardVisits d' = cardVisits d := by
    simp [displayCard?, cardVisits, h.cards]
  obtain ⟨hcard, hvisits⟩ := hcards
  rcases h.renders with hr | ⟨n, before, after, after', hg, hr, hr'⟩
  · have hgpu : gpu? d' = gpu? d := by simp [gpu?, hr]
    exact ⟨hgpu, by simp [renderVisits, hr], hcard, hvisits, by simp [displayless, hr, hgpu]⟩
  · have hn := gpu?_offers hg
    have hgpu : gpu? d' = gpu? d := by
      simp [gpu?, first?, hr, hr', hn]
    have hsome : (d'.ordered .render).isEmpty = (d.ordered .render).isEmpty := by
      rw [hr, hr']
      cases before <;> rfl
    refine ⟨hgpu, ?_, hcard, hvisits, fun names => by rw [displayless, displayless, hsome, hgpu]⟩
    rw [renderVisits, renderVisits, hr, hr', visited_congr hn before after' after]

theorem displayless_iff (d : Directory) (names : List String) :
    displayless d names = true ↔ ∃ name ∈ d.gpuName? (gpu? d), name ∈ names := by
  cases hg : gpu? d with
  | none =>
    have hsome : (d.ordered .render).isEmpty = false ↔
        (d.nodes.getD []).any fun n => NodeClass.render.accepts n.name := by
      rw [List.isEmpty_eq_false_iff_exists_mem, List.any_eq_true]
      simp only [Directory.mem_ordered]
    by_cases hany : (d.nodes.getD []).any fun n => NodeClass.render.accepts n.name
    · have hname : d.gpuName? none = some "" := if_pos hany
      simp [displayless, hg, hname, hsome.mpr hany]
    · have hname : d.gpuName? none = none := if_neg hany
      have hempty : (d.ordered .render).isEmpty = true := by simpa using mt hsome.mp hany
      simp [displayless, hname, hempty]
  | some n =>
    obtain ⟨c, hc, -⟩ := Node.offers_iff.mp (gpu?_offers hg)
    obtain ⟨-, hname, -⟩ := Node.candidate?_eq_some.mp hc
    have hne : d.ordered .render ≠ [] := List.ne_nil_of_mem (List.mem_of_find?_eq_some hg)
    simp [displayless, Directory.gpuName?, hg, hc, hname, hne, Except.toOption]

/-- Only render nodes up to `g` are opened, and cards up to `card` if buffers are allocated
elsewhere than on the GPU. Mode setting is given up on that card alone, and a duplicate is asked for
of `g` alone. -/
structure Opens (g card : Option Node) (elsewhere : Prop) (h h' : Host) : Prop where
  others : h' =
    { h with events := h'.events, answers.duplicates := h'.answers.duplicates }
  opened : ∀ name ∈ (added h h').filterMap Event.opened?,
    NodeClass.render.accepts name ∧ (∀ n ∈ g, name ≤ n.name) ∨
      elsewhere ∧ NodeClass.card.accepts name ∧ ∀ n ∈ card, name ≤ n.name
  dropped : elsewhere →
    (added h h').filterMap Event.dropped? = (card.map Node.name).toList
  kept : ¬elsewhere → (added h h').filterMap Event.dropped? = []
  spared : elsewhere → h'.answers.duplicates = h.answers.duplicates
  copied : ¬elsewhere → h'.answers.duplicates = h.answers.duplicates.drop g.toList.length

theorem opens_of_walked {d : Directory} {elsewhere : Bool} {h h' : Host} {source : NodeSource}
    {mapOnly : Bool}
    (hw : Walked ((h.record (.findNodes source mapOnly)).copied (copies elsewhere (gpu? d))) h'
      (renderVisits d ++ if elsewhere then cardVisits d else [])
      (if elsewhere then ((displayCard? d).map Node.name).toList else [])) :
    Opens (gpu? d) (displayCard? d) elsewhere h h' := by
  obtain ⟨es, he, -, hopened, hdropped⟩ := hw.events
  have hadded : added h h' = .call (.findNodes source mapOnly) :: es :=
    added_eq (by rw [he]; exact List.append_assoc _ _ _)
  have hrest {g : Event → Option FileName} (hg : g (.call (.findNodes source mapOnly)) = none) :
      (added h h').filterMap g = es.filterMap g := by
    rw [hadded, List.filterMap_cons_none hg]
  have hopened := (hrest (g := Event.opened?) rfl).trans hopened
  have hdropped := (hrest (g := Event.dropped?) rfl).trans hdropped
  have hduplicates := hw.duplicates
  refine ⟨by rw [hw.others]; rfl, ?_, ?_, ?_, ?_, ?_⟩
  · rw [hopened]
    intro name hm
    rcases List.mem_append.mp hm with hm | hm
    · exact Or.inl (visited_names hm)
    · split at hm
      · rename_i he
        exact Or.inr ⟨he, visited_names hm⟩
      · cases hm
  · intro he
    rw [hdropped, if_pos he]
  · intro he
    rw [hdropped, if_neg he]
  · intro he
    rw [hduplicates, copies, if_pos he]
    rfl
  · intro he
    rw [hduplicates, copies, if_neg he]
    rfl

/-- The search of a node directory settles on a duplicate of the GPU's own node, or on the card that
drives the display where the GPU's driver is known to have no display hardware and buffers are not
only to be mapped. Either is the first in the order of names that will do, and what lies behind the
GPU's node makes no difference. -/
theorem findNodes_selects (d : Directory) (names : List String) (mapOnly : Bool) :
    ∃ g card, d.Picks .render Node.Usable g ∧ d.Picks .card Node.Shows card ∧ d.SameUpTo g d ∧
      ∀ h : Host, d.SameUpTo g h.directory →
        let elsewhere := mapOnly = false ∧ ∃ name ∈ d.gpuName? g, name ∈ names
        let fault := h.answers.duplicates.headD none
        Yields (findNodes (.directory names) mapOnly) h
          (fun nodes h' =>
            Selects g card elsewhere fault (.ok nodes) ∧ Opens g card elsewhere h h')
          (fun e h' =>
            Selects g card elsewhere fault (.error e) ∧ Opens g card elsewhere h h') := by
  refine ⟨gpu? d, displayCard? d, Directory.picks_find fun _ => Node.offers_usable,
    Directory.picks_find fun _ => Node.offers_shows, .refl _ _, ?_⟩
  intro h hd
  obtain ⟨hgpu, hrenders, hcard, hcards, hnames⟩ := search_congr hd
  have hiff : (displayless d names && !mapOnly) = true ↔
      mapOnly = false ∧ ∃ name ∈ d.gpuName? (gpu? d), name ∈ names := by
    rw [Bool.and_eq_true, displayless_iff, Bool.not_eq_true', and_comm]
  dsimp only
  rw [← propext hiff]
  unfold findNodes
  simp only [yields_bind, HostM.record, yields_modify]
  have hsearch := searchDirectory_walks names mapOnly
    (h.record (.findNodes (.directory names) mapOnly))
  have hdirectory : (h.record (.findNodes (.directory names) mapOnly)).directory = h.directory :=
    rfl
  dsimp only at hsearch
  rw [hdirectory, hgpu, hrenders, hcard, hcards, hnames] at hsearch
  exact hsearch.imp (fun _ _ hs => ⟨hs.1, opens_of_walked hs.2⟩)
    fun _ _ hs => ⟨hs.1, opens_of_walked hs.2⟩

def headlessGpu : Node := ⟨Utf8.encode "renderD128", .device { driver := [0x67, 0x70, 0x75] }⟩

def idleCard : Node := ⟨Utf8.encode "card0", .device {}⟩

def displayCard : Node :=
  ⟨Utf8.encode "card1", .device { crtcs := 1, connectors := 1, encoders := 1 }⟩

theorem findNodes_selects_display :
    let d : Directory := ⟨Directory.standardPath, some [headlessGpu, idleCard, displayCard]⟩
    d.SameUpTo (some headlessGpu) d ∧
      Yields (findNodes (.directory ["gpu"]) false) { directory := d }
        (fun nodes _ => nodes = ⟨Utf8.encode "card1", some (Utf8.encode "renderD128")⟩)
        (fun _ _ => False) := by
  intro d
  obtain ⟨g, card, hg, hcard, hsame, hsearch⟩ := findNodes_selects d ["gpu"] false
  have hmem (n : Node) :
      n ∈ d.nodes.getD [] ↔ n = headlessGpu ∨ n = idleCard ∨ n = displayCard := by
    simp [d]
  obtain rfl : g = some headlessGpu := by
    cases hg with
    | first hm hc hp hle =>
      rcases (hmem _).mp hm with rfl | rfl | rfl
      · rfl
      · exact absurd hc (by decide)
      · exact absurd hc (by decide)
    | none h => exact absurd ⟨rfl, "gpu", rfl⟩ (h headlessGpu ((hmem _).mpr (by simp)) (by decide))
  obtain rfl : card = some displayCard := by
    cases hcard with
    | first hm hc hp hle =>
      rcases (hmem _).mp hm with rfl | rfl | rfl
      · exact absurd hc (by decide)
      · exact absurd hp.2 (by decide)
      · rfl
    | none h =>
      exact absurd ⟨⟨rfl, "", rfl⟩, rfl⟩ (h displayCard ((hmem _).mpr (by simp)) (by decide))
  refine ⟨hsame, (hsearch { directory := d } hsame).imp ?_ ?_⟩
  · rintro nodes _ ⟨hs, -⟩
    cases hs with
    | display he hc =>
      cases hc
      rfl
    | gpu he hg hf => exact absurd ⟨rfl, "gpu", rfl, by decide⟩ he
  · rintro e _ ⟨hs, -⟩
    cases hs with
    | noDisplay he hc => cases hc
    | noDuplicate he hg hf => cases hf
    | noGpu he hg => cases hg

end Discovery

end GraphicsBuffers
