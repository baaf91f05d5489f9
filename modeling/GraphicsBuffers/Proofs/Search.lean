import GraphicsBuffers.Discovery
import GraphicsBuffers.Proofs.Yields

/-!
What the search for nodes does, one program at a time: which nodes it opens, what it comes to, and
what it leaves of the host. Whatever else is shown of a search follows from what is shown here.
-/

namespace GraphicsBuffers

/-! ### Nodes and directories -/

namespace Node

/-- What probing the node comes to. -/
def candidate? (n : Node) : Option Candidate :=
  match n.openError?, n.driverName with
  | none, .ok driver => some ⟨n, driver, n.drivesDisplay⟩
  | _, _ => none

/-- Probing the node comes to a candidate with the property. -/
def offers (p : Candidate → Bool) (n : Node) : Bool := n.candidate?.any p

theorem offers_iff {n : Node} {p : Candidate → Bool} :
    n.offers p = true ↔ ∃ c, n.candidate? = some c ∧ p c = true := by
  unfold offers
  cases n.candidate? <;> simp

theorem candidate?_eq_some {n : Node} {c : Candidate} :
    n.candidate? = some c ↔
      n.openError? = none ∧ n.driverName = .ok c.driver ∧ c = ⟨n, c.driver, n.drivesDisplay⟩ := by
  unfold candidate?
  split
  · rename_i driver ho hd
    rw [ho, hd]
    constructor
    · intro h
      cases h
      exact ⟨rfl, rfl, rfl⟩
    · rintro ⟨-, h, hc⟩
      rw [hc, Except.ok.inj h]
  · rename_i hno
    exact iff_of_false (by simp) fun h => hno c.driver h.1 h.2.1

end Node

namespace Directory

/-- The nodes of a class in the order of their names. -/
def ordered (d : Directory) (c : NodeClass) : List Node :=
  sorted ((d.nodes.getD []).filter fun n => c.accepts n.name)

def noMatch (path : FileName) (c : NodeClass) : Error :=
  .noMatchingNode s!"{Utf8.lossy path}/{c.stem}*"

theorem matching_eq (d : Directory) (c : NodeClass) :
    d.matching c = if d.ordered c = [] then .error (noMatch d.path c) else .ok (d.ordered c) := by
  unfold matching ordered
  cases hf : (d.nodes.getD []).filter fun n => c.accepts n.name with
  | nil => simp [sorted, noMatch]
  | cons n rest =>
    have hne : sorted (n :: rest) ≠ [] := by
      intro h
      have := congrArg List.length h
      simp [sorted, List.length_mergeSort] at this
    rw [if_neg hne]

end Directory

/-! ### The events of a search -/

/-- A message, or a call that the search for nodes makes on a node. -/
def Event.IsProbe : Event → Prop
  | .log .. => True
  | .call (.openNode _) | .call (.queryVersion _) => True
  | .call (.queryResources _) | .call (.dropMaster _) => True
  | .call _ => False

def Event.opened? : Event → Option FileName
  | .call (.openNode name) => some name
  | _ => none

def Event.dropped? : Event → Option FileName
  | .call (.dropMaster name) => some name
  | _ => none

/-- By these events of a search nodes are opened, and mode setting is given up on nodes, in this
order. -/
structure Probes (opened dropped : List FileName) (es : List Event) : Prop where
  each : ∀ e ∈ es, e.IsProbe
  opened : es.filterMap Event.opened? = opened
  dropped : es.filterMap Event.dropped? = dropped

namespace Probes

variable {opened dropped opened' dropped' : List FileName} {es es' : List Event}

theorem nil : Probes [] [] [] := ⟨nofun, rfl, rfl⟩

theorem append (h : Probes opened dropped es) (h' : Probes opened' dropped' es') :
    Probes (opened ++ opened') (dropped ++ dropped') (es ++ es') :=
  ⟨List.forall_mem_append.mpr ⟨h.each, h'.each⟩,
    by rw [List.filterMap_append, h.opened, h'.opened],
    by rw [List.filterMap_append, h.dropped, h'.dropped]⟩

theorem event {e : Event} (he : e.IsProbe) : Probes e.opened?.toList e.dropped?.toList [e] := by
  refine ⟨List.forall_mem_singleton.mpr he, ?_, ?_⟩
  · cases h : e.opened? <;> simp [h]
  · cases h : e.dropped? <;> simp [h]

theorem log (level : LogLevel) (text : String) : Probes [] [] [.log level text] :=
  event (e := .log level text) trivial

theorem opens (name : FileName) (h : Probes opened dropped es) :
    Probes (name :: opened) dropped (.call (.openNode name) :: es) :=
  (event (e := .call (.openNode name)) trivial).append h

theorem version (name : FileName) (h : Probes opened dropped es) :
    Probes opened dropped (.call (.queryVersion name) :: es) :=
  (event (e := .call (.queryVersion name)) trivial).append h

theorem resources (name : FileName) (h : Probes opened dropped es) :
    Probes opened dropped (.call (.queryResources name) :: es) :=
  (event (e := .call (.queryResources name)) trivial).append h

end Probes

/-! ### Probing -/

namespace Discovery

/-- On a host whose directory has this path, the program comes to `a`, and adds just `es`. -/
def Settled {α : Type} (path : FileName) (act : HostM α) (a : α) (es : List Event) : Prop :=
  ∀ h : Host, h.directory.path = path → act h = .ok a { h with events := h.events ++ es }

namespace Settled

variable {α β : Type} {path : FileName} {act : HostM α} {a : α} {b : β} {es es' : List Event}

theorem pure (a : α) : Settled path (pure a) a [] := by
  intro h _
  rw [List.append_nil]
  rfl

theorem bind {next : α → HostM β} (h₁ : Settled path act a es) (h₂ : Settled path (next a) b es') :
    Settled path (act >>= next) b (es ++ es') := by
  intro h hp
  rw [bind_of_ok (h₁ h hp), ← List.append_assoc]
  exact h₂ _ hp

theorem record {c : Call} {next : HostM β} (h : Settled path next b es) :
    Settled path (HostM.record c >>= fun _ => next) b (.call c :: es) := by
  have hrecord : Settled path (HostM.record c) () [.call c] := fun _ _ => rfl
  exact hrecord.bind h

theorem log {level : LogLevel} {text : String} {next : HostM β} (h : Settled path next b es) :
    Settled path (HostM.log level text >>= fun _ => next) b (.log level text :: es) := by
  have hlog : Settled path (HostM.log level text) () [.log level text] := fun _ _ => rfl
  exact hlog.bind h

theorem get {next : Host → HostM β}
    (hn : ∀ h : Host, h.directory.path = path → Settled path (next h) b es) :
    Settled path (MonadState.get >>= next) b es := fun h hp => hn h hp h hp

end Settled

/-- Probing a node opens that one, and reads no more of the host than the directory's path. -/
theorem probe_settled (path : FileName) (n : Node) :
    ∃ es, Settled path (probe n) n.candidate? es ∧ Probes [n.name] [] es := by
  have hpath : ∀ h : Host, h.directory.path = path →
      h.directory.pathOf n = (Directory.mk path none).pathOf n := fun h hp => by
    rw [Directory.pathOf, hp]
    rfl
  unfold probe Node.candidate?
  cases n.openError? with
  | some cause =>
    apply Exists.intro
    constructor
    · apply Settled.get
      intro h hp
      rw [hpath h hp]
      exact .record (.log (.pure none))
    · exact .opens _ (.log _ _)
  | none =>
    cases n.driverName with
    | error e =>
      apply Exists.intro
      constructor
      · apply Settled.get
        intro h hp
        rw [hpath h hp]
        exact .record (.record (.log (.pure none)))
      · exact .opens _ (.version _ (.log _ _))
    | ok driver =>
      apply Exists.intro
      constructor
      · apply Settled.get
        intro h hp
        rw [hpath h hp]
        exact .record (.record (.record (.log (.pure _))))
      · exact .opens _ (.version _ (.resources _ (.log _ _)))

/-- The nodes that are probed: all up to the first at which `stop` holds of the candidates so far,
which come behind those in `seen`. -/
def probed (stop : List Candidate → Bool) : List Candidate → List Node → List Node
  | _, [] => []
  | seen, n :: rest =>
    n :: match n.candidate? with
    | none => probed stop seen rest
    | some c => if stop (seen ++ [c]) then [] else probed stop (seen ++ [c]) rest

theorem visit_settled (path : FileName) (stop : List Candidate → Bool) (nodes : List Node)
    (seen : List Candidate) : ∃ es,
      Settled path (visit stop seen nodes)
        (seen ++ (probed stop seen nodes).filterMap Node.candidate?) es ∧
      Probes ((probed stop seen nodes).map Node.name) [] es := by
  induction nodes generalizing seen with
  | nil =>
    refine ⟨[], ?_, .nil⟩
    rw [probed, List.filterMap_nil, List.append_nil]
    exact .pure seen
  | cons n rest ih =>
    obtain ⟨es, hprobe, hes⟩ := probe_settled path n
    unfold visit probed
    cases hc : n.candidate? with
    | none =>
      rw [hc] at hprobe
      obtain ⟨es', hvisit, hes'⟩ := ih seen
      refine ⟨es ++ es', ?_, hes.append hes'⟩
      rw [List.filterMap_cons_none hc]
      exact hprobe.bind hvisit
    | some c =>
      rw [hc] at hprobe
      rw [List.filterMap_cons_some hc]
      by_cases hstop : stop (seen ++ [c])
      · refine ⟨es ++ [], hprobe.bind ?_, ?_⟩
        · simp only [if_pos hstop]
          exact .pure _
        · simp only [if_pos hstop]
          exact hes.append .nil
      · obtain ⟨es', hvisit, hes'⟩ := ih (seen ++ [c])
        refine ⟨es ++ es', hprobe.bind ?_, ?_⟩
        · simp only [if_neg hstop]
          simpa only [List.append_assoc, List.singleton_append] using hvisit
        · simp only [if_neg hstop]
          exact hes.append hes'

/-- A search of a class comes to the candidates among the nodes that are probed. It fails, and does
nothing, only where no name belongs to the class. -/
theorem findDevices_apply (c : NodeClass) (stop : List Candidate → Bool) (path : FileName)
    (nodes : List Node) : ∃ es, Probes ((probed stop [] nodes).map Node.name) [] es ∧
      ∀ h : Host, h.directory.path = path → h.directory.ordered c = nodes →
        findDevices c stop h =
          if nodes = [] then .error (Directory.noMatch path c) h
          else .ok ((probed stop [] nodes).filterMap Node.candidate?)
            { h with events := h.events ++ es } := by
  obtain ⟨es, hvisit, hes⟩ := visit_settled path stop nodes []
  refine ⟨es, hes, fun h hp hn => ?_⟩
  change (ofExcept (h.directory.matching c) >>= visit stop []) h = _
  rw [h.directory.matching_eq c, hn, hp]
  split
  · rfl
  · exact hvisit h hp

/-! ### What a search leaves of the host -/

/-- From one host to the other only events of a search were added, and by them nodes were opened,
and mode setting was given up on nodes, in this order. -/
structure Walked (h h' : Host) (opened dropped : List FileName) : Prop where
  others : h' = { h with events := h'.events }
  events : ∃ es, h'.events = h.events ++ es ∧ Probes opened dropped es

namespace Walked

variable {h h' h'' : Host} {opened dropped opened' dropped' : List FileName}

theorem refl (h : Host) : Walked h h [] [] := ⟨rfl, [], by simp, .nil⟩

theorem trans (h₁ : Walked h h' opened dropped) (h₂ : Walked h' h'' opened' dropped') :
    Walked h h'' (opened ++ opened') (dropped ++ dropped') := by
  obtain ⟨es, he, hes⟩ := h₁.events
  obtain ⟨es', he', hes'⟩ := h₂.events
  refine ⟨?_, es ++ es', ?_, hes.append hes'⟩
  · rw [h₂.others, h₁.others]
  · rw [he', he, List.append_assoc]

theorem of_events {es : List Event} (hes : Probes opened dropped es) :
    Walked h { h with events := h.events ++ es } opened dropped := ⟨rfl, es, rfl, hes⟩

theorem drops (hw : Walked h h' opened []) (name : FileName) :
    Walked h (h'.record (.dropMaster name)) opened [name] := by
  have hdrop : Walked h (h'.record (.dropMaster name)) (opened ++ []) [name] :=
    hw.trans (of_events (.event (e := .call (.dropMaster name)) trivial))
  rwa [List.append_nil] at hdrop

theorem log (hw : Walked h h' opened dropped) (level : LogLevel) (text : String) :
    Walked h (h'.log level text) opened dropped := by
  have hlog : Walked h (h'.log level text) (opened ++ []) (dropped ++ []) :=
    hw.trans (of_events (.log level text))
  rwa [List.append_nil, List.append_nil] at hlog

theorem directory (hw : Walked h h' opened dropped) : h'.directory = h.directory := by
  rw [hw.others]

theorem duplicates (hw : Walked h h' opened dropped) :
    h'.answers.duplicates = h.answers.duplicates := by
  rw [hw.others]

/-- A duplicate that is asked for behind a walk could have been asked for ahead of it. -/
theorem copied (hw : Walked h h' opened dropped) (n : Nat) :
    Walked (h.copied n) (h'.copied n) opened dropped := by
  obtain ⟨ho, he⟩ := hw
  generalize h'.events = es at ho he
  subst ho
  exact ⟨rfl, he⟩

theorem appends (hw : Walked h h' opened dropped) : Appends Event.IsProbe h h' := by
  obtain ⟨es, he, hes⟩ := hw.events
  have ho := hw.others
  exact ⟨by rw [ho], by rw [ho], by rw [ho], fun _ => by rw [ho],
    .of_eq (by rw [ho]) (by rw [ho]), es, he, hes.each⟩

end Walked

/-! ### Where nothing but the last candidate counts -/

variable {p : Candidate → Bool}

/-- The nodes that are probed until one has the property. -/
def visited (p : Candidate → Bool) : List Node → List Node
  | [] => []
  | n :: rest => if n.offers p then [n] else n :: visited p rest

theorem probed_eq {stop : List Candidate → Bool} (hstop : ∀ seen c, stop (seen ++ [c]) = p c)
    (nodes : List Node) (seen : List Candidate) : probed stop seen nodes = visited p nodes := by
  induction nodes generalizing seen with
  | nil => rfl
  | cons n rest ih =>
    unfold probed visited Node.offers
    cases n.candidate? with
    | none => simp [ih]
    | some c => cases hp : p c <;> simp [hstop, hp, ih]

theorem findDevices_walks {stop : List Candidate → Bool}
    (hstop : ∀ seen c, stop (seen ++ [c]) = p c) (c : NodeClass) (h : Host) :
    let nodes := h.directory.ordered c
    Yields (findDevices c stop) h
      (fun found h' => nodes ≠ [] ∧ found = (visited p nodes).filterMap Node.candidate? ∧
        Walked h h' ((visited p nodes).map Node.name) [])
      (fun e h' => nodes = [] ∧ e = Directory.noMatch h.directory.path c ∧ h' = h) := by
  intro nodes
  obtain ⟨es, hes, hfind⟩ := findDevices_apply c stop h.directory.path nodes
  have hfind := hfind h rfl rfl
  rw [probed_eq hstop] at hes hfind
  by_cases hn : nodes = []
  · rw [if_pos hn] at hfind
    rw [yields_of_error hfind]
    exact ⟨hn, rfl, rfl⟩
  · rw [if_neg hn] at hfind
    rw [yields_of_ok hfind]
    exact ⟨hn, rfl, .of_events hes⟩

/-- The first node with the property. -/
def first? (p : Candidate → Bool) (nodes : List Node) : Option Node :=
  nodes.find? (Node.offers p)

theorem first?_candidate (nodes : List Node) :
    ((first? p nodes).bind Node.candidate?).map Candidate.node = first? p nodes := by
  cases hf : first? p nodes with
  | none => rfl
  | some n =>
    have hn : n.offers p := List.find?_some hf
    obtain ⟨c, hc, -⟩ := Node.offers_iff.mp hn
    obtain ⟨-, -, he⟩ := Node.candidate?_eq_some.mp hc
    rw [Option.bind_some, hc, he]
    rfl

/-- The last candidate is the only one that can have the property. -/
theorem visited_getLast? (nodes : List Node) :
    ((visited p nodes).filterMap Node.candidate?).getLast?.filter p =
      (first? p nodes).bind Node.candidate? := by
  induction nodes with
  | nil => rfl
  | cons n rest ih =>
    unfold visited first?
    by_cases hn : n.offers p
    · rw [List.find?_cons_of_pos hn, if_pos hn]
      obtain ⟨c, hc, hp⟩ := Node.offers_iff.mp hn
      simp [hc, hp]
    · rw [List.find?_cons_of_neg hn, if_neg hn]
      cases hc : n.candidate? with
      | none =>
        rw [List.filterMap_cons_none hc]
        exact ih
      | some c =>
        have hp : ¬p c := by simpa [Node.offers, hc] using hn
        rw [List.filterMap_cons_some hc]
        cases hr : (visited p rest).filterMap Node.candidate? with
        | nil =>
          rw [hr] at ih
          rw [List.getLast?_singleton, Option.filter_some_neg (by simpa using hp)]
          exact ih
        | cons d ds =>
          rw [hr] at ih
          exact ih

/-- Where any candidate will do, there is at most one. -/
theorem visited_head? (nodes : List Node) :
    ((visited (fun _ => true) nodes).filterMap Node.candidate?).head? =
      (first? (fun _ => true) nodes).bind Node.candidate? := by
  induction nodes with
  | nil => rfl
  | cons n rest ih =>
    unfold visited first?
    cases hc : n.candidate? with
    | none =>
      have hn : ¬n.offers fun _ => true := by simp [Node.offers, hc]
      rw [List.find?_cons_of_neg hn, if_neg hn, List.filterMap_cons_none hc]
      exact ih
    | some c =>
      have hn : n.offers fun _ => true := by simp [Node.offers, hc]
      rw [List.find?_cons_of_pos hn, if_pos hn]
      simp [hc]

/-! ### The GPU and the card -/

/-- The first render node that can be used. -/
def gpu? (d : Directory) : Option Node := first? (fun _ => true) (d.ordered .render)

/-- The first card that drives a display. -/
def displayCard? (d : Directory) : Option Node :=
  first? Candidate.drivesDisplay (d.ordered .card)

/-- The names of the nodes that are opened in search of these. -/
def renderVisits (d : Directory) : List FileName :=
  (visited (fun _ => true) (d.ordered .render)).map Node.name

def cardVisits (d : Directory) : List FileName :=
  (visited Candidate.drivesDisplay (d.ordered .card)).map Node.name

/-- The GPU's driver is among those without display hardware. -/
def displayless (d : Directory) (names : List String) : Bool :=
  !(d.ordered .render).isEmpty && names.contains
    ((((gpu? d).bind Node.candidate?).map Candidate.driver).getD "")

theorem findGpu_walks (names : List String) (h : Host) :
    let d := h.directory
    Yields (findGpu names) h
      (fun found h' => found = (displayless d names, gpu? d) ∧ Walked h h' (renderVisits d) [])
      (fun e h' => d.ordered .render = [] ∧ e = Directory.noMatch d.path .render ∧ h' = h) := by
  unfold findGpu
  rw [yields_bind]
  apply (findDevices_walks (p := fun _ => true) (fun _ _ => rfl) .render h).imp
  · rintro _ h' ⟨hne, rfl, hw⟩
    rw [visited_head?]
    simp only [yields_bind, HostM.log, yields_modify, yields_pure, first?_candidate]
    have hsome : (h.directory.ordered .render).isEmpty = false := by simpa using hne
    refine ⟨?_, hw.log _ _⟩
    rw [displayless, hsome]
    rfl
  · exact fun _ _ hf => hf

theorem findDisplayCard_walks (h : Host) :
    let d := h.directory
    Yields findDisplayCard h
      (fun found h' => found = displayCard? d ∧ Walked h h' (cardVisits d) [])
      (fun e h' => d.ordered .card = [] ∧ e = Directory.noMatch d.path .card ∧ h' = h) := by
  unfold findDisplayCard
  rw [yields_bind]
  have hstop : ∀ seen c, lastDrivesDisplay (seen ++ [c]) = c.drivesDisplay := by
    intro seen c
    simp [lastDrivesDisplay]
  apply (findDevices_walks hstop .card h).imp
  · rintro _ h' ⟨hne, rfl, hw⟩
    have hnode := first?_candidate (p := Candidate.drivesDisplay) (h.directory.ordered .card)
    rw [← visited_getLast?] at hnode
    cases hl : ((visited Candidate.drivesDisplay (h.directory.ordered .card)).filterMap
        Node.candidate?).getLast? with
    | none =>
      rw [hl] at hnode
      exact ⟨hnode, hw⟩
    | some c =>
      rw [hl] at hnode
      by_cases hd : c.drivesDisplay
      · rw [Option.filter_some_pos hd] at hnode
        simp only [hd, if_true, yields_bind, HostM.log, yields_modify, yields_pure]
        exact ⟨hnode, hw.log _ _⟩
      · rw [Option.filter_some_neg (by simpa using hd)] at hnode
        simp only [hd, Bool.false_eq_true, if_false, yields_pure]
        exact ⟨hnode, hw⟩
  · exact fun _ _ hf => hf

/-- Mode setting is given up on the card that is found, and on no other. -/
theorem openDisplayCard_walks (h : Host) :
    Yields openDisplayCard h
      (fun found h' => found = displayCard? h.directory ∧ Walked h h' (cardVisits h.directory)
        ((displayCard? h.directory).map Node.name).toList)
      (fun _ _ => False) := by
  unfold openDisplayCard
  rw [yields_bind, yields_attempt]
  apply (findDisplayCard_walks h).imp
  · rintro _ h' ⟨rfl, hw⟩
    cases hc : displayCard? h.directory with
    | none => exact ⟨rfl, hw⟩
    | some n =>
      have hdrop := hw.drops n.name
      simp only [yields_bind, HostM.record, yields_modify]
      cases n.masterError? with
      | none => exact ⟨rfl, hdrop⟩
      | some e => exact ⟨rfl, hdrop.log _ _⟩
  · rintro _ h' ⟨hnone, rfl, hsame⟩
    rw [hsame]
    have hvisits : cardVisits h.directory = [] := by rw [cardVisits, hnone, visited, List.map_nil]
    have hcard : displayCard? h.directory = none := by
      rw [displayCard?, first?, hnone, List.find?_nil]
    rw [hvisits, hcard]
    exact ⟨rfl, (Walked.refl h).log _ _⟩

/-! ### The choice between them -/

/-- What a search comes to, where `g` is the GPU's node and `card` the one that drives a display:
buffers are allocated through the card if that is to be `elsewhere` than on the GPU, and otherwise
through a duplicate of the GPU's node, which the system may refuse with a `fault`. -/
inductive Selects (g card : Option Node) (elsewhere : Prop) (fault : Option Int32) :
    Except Error Nodes → Prop
  | display {n : Node} (he : elsewhere) (hc : card = some n) :
      Selects g card elsewhere fault (.ok ⟨n.name, g.map Node.name⟩)
  | noDisplay (he : elsewhere) (hc : card = none) :
      Selects g card elsewhere fault (.error .noDisplayCard)
  | gpu {n : Node} (he : ¬elsewhere) (hg : g = some n) (hf : fault = none) :
      Selects g card elsewhere fault (.ok ⟨n.name, g.map Node.name⟩)
  | noDuplicate {n : Node} {code : Int32} (he : ¬elsewhere) (hg : g = some n)
      (hf : fault = some code) :
      Selects g card elsewhere fault (.error (.io (.numbered code)))
  | noGpu (he : ¬elsewhere) (hg : g = none) : Selects g card elsewhere fault (.error .noUsableNode)

/-- The duplicates that are asked for: one of the GPU's node, if that is chosen. -/
def copies (elsewhere : Bool) (g : Option Node) : Nat := if elsewhere then 0 else g.toList.length

theorem selectDevice_walks (separate mapOnly : Bool) (gpu : Option Node) (h : Host) :
    let card := displayCard? h.directory
    let elsewhere := separate && !mapOnly
    let fault := h.answers.duplicates.headD none
    let opened := if elsewhere then cardVisits h.directory else []
    let dropped := if elsewhere then (card.map Node.name).toList else []
    Yields (selectDevice separate mapOnly gpu) h
      (fun n h' => Selects gpu card elsewhere fault (.ok ⟨n.name, gpu.map Node.name⟩) ∧
        Walked (h.copied (copies elsewhere gpu)) h' opened dropped)
      (fun e h' => Selects gpu card elsewhere fault (.error e) ∧
        Walked (h.copied (copies elsewhere gpu)) h' opened dropped) := by
  unfold selectDevice copies
  dsimp only
  split
  · rename_i he
    simp only [yields_bind, HostM.log, yields_modify, Host.copied_zero]
    apply (openDisplayCard_walks _).imp
    · rintro found h' ⟨hfound, hw⟩
      have hfound : found = displayCard? h.directory := hfound
      have hw : Walked h h' (cardVisits h.directory)
          ((displayCard? h.directory).map Node.name).toList := ((Walked.refl h).log _ _).trans hw
      cases found with
      | some n =>
        exact ⟨.display he hfound.symm, hw⟩
      | none =>
        simp only [yields_bind, yields_modify, yields_throw]
        exact ⟨.noDisplay he hfound.symm, hw.log _ _⟩
    · exact fun _ _ hf => hf.elim
  · rename_i he
    cases gpu with
    | some n =>
      apply (duplicate_yields n h).imp
      · rintro _ _ ⟨rfl, rfl, hf⟩
        exact ⟨.gpu he rfl hf, .refl _⟩
      · rintro _ _ ⟨code, rfl, rfl, hf⟩
        exact ⟨.noDuplicate he rfl hf, .refl _⟩
    | none => exact ⟨.noGpu he rfl, (Walked.refl h).log _ _⟩

theorem searchDirectory_walks (names : List String) (mapOnly : Bool) (h : Host) :
    let d := h.directory
    let elsewhere := displayless d names && !mapOnly
    let fault := h.answers.duplicates.headD none
    let opened := renderVisits d ++ if elsewhere then cardVisits d else []
    let dropped := if elsewhere then ((displayCard? d).map Node.name).toList else []
    Yields (searchDirectory names mapOnly) h
      (fun nodes h' => Selects (gpu? d) (displayCard? d) elsewhere fault (.ok nodes) ∧
        Walked (h.copied (copies elsewhere (gpu? d))) h' opened dropped)
      (fun e h' => Selects (gpu? d) (displayCard? d) elsewhere fault (.error e) ∧
        Walked (h.copied (copies elsewhere (gpu? d))) h' opened dropped) := by
  unfold searchDirectory
  dsimp only
  rw [yields_bind, yields_attempt]
  apply (findGpu_walks names h).imp
  · rintro _ h₁ ⟨rfl, hw⟩
    simp only [yields_bind, yields_pure]
    have hselect := selectDevice_walks (displayless h.directory names) mapOnly (gpu? h.directory) h₁
    rw [hw.directory, hw.duplicates] at hselect
    exact hselect.imp (fun _ _ hs => ⟨hs.1, (hw.copied _).trans hs.2⟩)
      fun _ _ hs => ⟨hs.1, (hw.copied _).trans hs.2⟩
  · rintro _ h' ⟨hnone, rfl, hsame⟩
    rw [hsame]
    have hvisits : renderVisits h.directory = [] := by
      rw [renderVisits, hnone, visited, List.map_nil]
    have hgpu : gpu? h.directory = none := by rw [gpu?, first?, hnone, List.find?_nil]
    have hnames : displayless h.directory names = false := by simp [displayless, hnone]
    rw [hvisits, hgpu, hnames]
    simp only [yields_bind, HostM.log, yields_modify, yields_pure]
    have hw := fun text => (Walked.refl h).log .error text
    exact (selectDevice_walks false mapOnly none _).imp
      (fun _ _ hs => ⟨hs.1, ((hw _).copied _).trans hs.2⟩)
      fun _ _ hs => ⟨hs.1, ((hw _).copied _).trans hs.2⟩

end Discovery

end GraphicsBuffers
