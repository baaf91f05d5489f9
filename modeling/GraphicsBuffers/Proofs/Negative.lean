import GraphicsBuffers.Allocator
import GraphicsBuffers.Proofs.Search

/-!
Actions whose failures all have negative statuses. Only a number from elsewhere, which an error
passes on, can have another; those of the system are taken to be positive, and are negated.
-/

namespace GraphicsBuffers

/-! ### Statuses of errors -/

namespace Error

def IsNegative (e : Error) : Prop := e.status < 0

instance (e : Error) : Decidable e.IsNegative := inferInstanceAs (Decidable (e.status < 0))

/-- The status does not depend on a number from elsewhere. -/
def isOwn : Error → Bool
  | component _ | io _ | system _ => false
  | _ => true

theorem negative_of_own {e : Error} (h : e.isOwn = true) : e.IsNegative := by
  cases e with
  | component | io | system => cases h
  | arithmetic | conversion => exact (by decide : (-75 : Int32) < 0)
  | notMapped => exact (by decide : (-12 : Int32) < 0)
  | _ => exact (by decide : (-22 : Int32) < 0)

end Error

/-! ### Numbers of the system -/

theorem Error.negative_of_positive {code : Int32} (h : 0 < code) :
    (Error.io (.numbered code)).IsNegative := by
  change -code < 0
  have hlt := code.toInt_lt
  rw [Int32.lt_iff_toInt_lt, Int32.toInt_zero] at h ⊢
  rw [Int32.toInt_neg, Int.bmod_eq_of_le] <;> omega

theorem head?_of_headD {α : Type} {answers : List (Option α)} {a : α}
    (h : answers.headD none = some a) : answers.head? = some (some a) := by
  cases answers with
  | nil => cases h
  | cons first rest => exact congrArg some h

theorem mem_of_headD {α : Type} {answers : List (Option α)} {a : α}
    (h : answers.headD none = some a) : some a ∈ answers :=
  List.mem_of_mem_head? (head?_of_headD h)

/-- The system fails under positive numbers only. -/
structure Answers.Positive (a : Answers) : Prop where
  duplicates : ∀ code, some code ∈ a.duplicates → 0 < code
  inspections : ∀ code, some code ∈ a.inspections → 0 < code

theorem Answers.Positive.duplicate_negative {a : Answers} (h : a.Positive) {code : Int32}
    (hc : some code ∈ a.duplicates) : (Error.io (.numbered code)).IsNegative :=
  Error.negative_of_positive (h.duplicates code hc)

theorem Answers.Positive.inspection_negative {a : Answers} (h : a.Positive) {code : Int32}
    (hc : some code ∈ a.inspections) : (Error.io (.numbered code)).IsNegative :=
  Error.negative_of_positive (h.inspections code hc)

theorem Answers.Positive.of_follows {a b : Answers} (h : a.Positive) (hf : b.Follows a) :
    b.Positive :=
  ⟨fun code hc => h.duplicates code (hf.duplicates.mem hc),
    fun code hc => h.inspections code (hf.inspections.mem hc)⟩

/-- A seek that fails does so under a positive number. -/
def Descriptor.Positive : Descriptor → Prop
  | memory .. => True
  | stream code => 0 < code

/-! ### Actions that fail with negative statuses -/

/-- Whatever it fails with has a negative status. -/
def OnlyNegative {α : Type} (x : Except Error α) : Prop := ∀ e, x = .error e → e.IsNegative

/-- Whatever the action fails with has a negative status. -/
def FailsNegative {σ α : Type} (act : EStateM Error σ α) : Prop :=
  ∀ s, Yields act s (fun _ _ => True) (fun e _ => e.IsNegative)

namespace OnlyNegative

variable {α β : Type} {x : Except Error α}

theorem ok (a : α) : OnlyNegative (.ok a) := nofun

theorem own {e : Error} (h : e.isOwn = true) : OnlyNegative (.error e : Except Error α) := by
  intro _ he
  cases he
  exact Error.negative_of_own h

theorem bind {f : α → Except Error β} (hx : OnlyNegative x) (hf : ∀ a, OnlyNegative (f a)) :
    OnlyNegative (x >>= f) := by
  intro e he
  cases x with
  | ok a => exact hf a e he
  | error e' => exact hx e (by cases he; rfl)

theorem map (f : α → β) (hx : OnlyNegative x) : OnlyNegative (x.map f) := by
  intro e he
  cases x with
  | ok a => cases he
  | error e' => exact hx e (by cases he; rfl)

end OnlyNegative

namespace FailsNegative

variable {σ α β : Type} {act : EStateM Error σ β} {next : β → EStateM Error σ α}

theorem pure (a : α) : FailsNegative (pure a : EStateM Error σ α) := fun _ => trivial

theorem throw {e : Error} (h : e.isOwn = true) : FailsNegative (throw e : EStateM Error σ α) :=
  fun _ => Error.negative_of_own h

theorem get : FailsNegative (get : EStateM Error σ σ) := fun _ => trivial

theorem set (s : σ) : FailsNegative (set s : EStateM Error σ PUnit) := fun _ => trivial

theorem modify (f : σ → σ) : FailsNegative (modify f : EStateM Error σ PUnit) := fun _ => trivial

theorem ofExcept {x : Except Error α} (hx : OnlyNegative x) :
    FailsNegative (ofExcept x : EStateM Error σ α) :=
  fun _ => (yields_ofExcept x).mpr ⟨fun _ _ => trivial, hx⟩

theorem bind (hact : FailsNegative act) (hnext : ∀ b, FailsNegative (next b)) :
    FailsNegative (act >>= next) := by
  intro s
  rw [yields_bind]
  exact (hact s).imp (fun b t _ => hnext b t) fun _ _ h => h

theorem map (f : β → α) (hact : FailsNegative act) : FailsNegative (f <$> act) := by
  intro s
  rw [yields_map]
  exact hact s

theorem attempt (act : EStateM Error σ β) : FailsNegative (attempt act) := by
  intro s
  rw [yields_attempt]
  unfold Yields
  split <;> trivial

theorem onHost {act : HostM α} (hact : FailsNegative act) : FailsNegative (FocusM.onHost act) := by
  intro f
  rw [yields_onHost]
  exact hact f.host

theorem onMetadata {act : EStateM Error Metadata α} (hact : FailsNegative act) :
    FailsNegative (FocusM.onMetadata act) := by
  intro f
  rw [yields_onMetadata]
  exact hact f.buffer.metadata

theorem record (c : Call) : FailsNegative (HostM.record c) := modify _

theorem log (level : LogLevel) (text : String) : FailsNegative (HostM.log level text) := modify _

theorem logged (level : LogLevel) (text : String) : FailsNegative (FocusM.log level text) :=
  onHost (log level text)

end FailsNegative

/-! ### Arithmetic and layouts -/

theorem checked_negative (range : IntRange) (sign : Sign) (x y : Named) :
    OnlyNegative (checked range sign x y) := by
  unfold checked
  split
  · exact .own rfl
  · split
    · exact .ok _
    · exact .own rfl

theorem checkedWord_negative {α : Type} [Word α] (sign : Sign) (x y : Named) :
    OnlyNegative (checkedWord sign x y : Except Error α) :=
  (checked_negative _ sign x y).map _

theorem narrow_negative (n : UInt64) : OnlyNegative (narrow n) := by
  unfold narrow
  split
  · exact .ok _
  · exact .own rfl

theorem signed_negative (n : UInt32) : OnlyNegative (signed n) := by
  unfold signed
  split
  · exact .ok _
  · exact .own rfl

theorem roundUp_negative {α : Type} [Word α] (value align : α) :
    OnlyNegative (roundUp value align) :=
  (checkedWord_negative _ _ _).bind fun _ => .ok _

theorem Format.planes_negative (f : Format) : OnlyNegative f.planes := by
  unfold planes
  split
  · exact .ok _
  · exact .own rfl

namespace Metadata

theorem strideFromWidth_negative (format : Format) (width : UInt32) :
    OnlyNegative (strideFromWidth format width) := by
  refine format.planes_negative.bind fun shapes => ?_
  cases shapes with
  | nil => exact .own rfl
  | cons first rest => exact checkedWord_negative _ _ _

theorem chromaStride_negative (format : Format) (first shape : PlaneShape) (stride : UInt32) :
    OnlyNegative (chromaStride format first shape stride) := by
  refine (checkedWord_negative _ _ _).bind fun scaled => ?_
  dsimp only
  split
  · exact roundUp_negative _ _
  · exact .ok _

theorem layPlanes_negative (format : Format) (first : PlaneShape) (stride height : UInt32)
    (shapes : List PlaneShape) (p : Nat) (offset : UInt64) :
    FailsNegative (layPlanes format first stride height p offset shapes) := by
  induction shapes generalizing p offset with
  | nil => exact .pure offset
  | cons shape rest ih =>
    have hrow : OnlyNegative
        (if p = 0 then .ok stride else chromaStride format first shape stride) := by
      split
      · exact .ok stride
      · exact chromaStride_negative format first shape stride
    refine (FailsNegative.ofExcept hrow).bind fun row => ?_
    refine (FailsNegative.ofExcept (checkedWord_negative _ _ _)).bind fun size => ?_
    refine (FailsNegative.modify _).bind fun _ => ?_
    refine (FailsNegative.ofExcept (narrow_negative _)).bind fun start => ?_
    refine (FailsNegative.modify _).bind fun _ => ?_
    exact (FailsNegative.ofExcept (checkedWord_negative _ _ _)).bind fun next => ih _ _

theorem layOut_negative (format : Format) (stride height : UInt32) :
    FailsNegative (layOut format stride height) :=
  (FailsNegative.ofExcept format.planes_negative).bind fun shapes =>
    (layPlanes_negative format _ stride height shapes 0 0).bind fun _ => .modify _

theorem laidOut_negative (m : Metadata) (format : Format) (stride height : UInt32) :
    OnlyNegative (m.laidOut format stride height) := by
  intro e he
  unfold laidOut at he
  split at he
  · cases he
  · rename_i hlay
    cases he
    exact (layOut_negative format stride height m).of_error hlay

theorem unplaced_negative (width height : UInt32) (format : Format) (flags : UseFlags) :
    OnlyNegative (unplaced width height format flags) :=
  format.planes_negative.bind fun _ => .ok _

end Metadata

namespace Plan

theorem native_negative (m : Metadata) (flags : UseFlags) : OnlyNegative (native m flags) := by
  unfold native
  dsimp only
  split
  · exact (roundUp_negative _ _).bind fun _ => .ok _
  · exact .ok _

theorem asBytes_negative (plan : Plan) (m : Metadata) : OnlyNegative (plan.asBytes m) :=
  (Metadata.strideFromWidth_negative _ _).bind fun _ =>
    (m.laidOut_negative _ _ _).bind fun _ =>
      (roundUp_negative _ _).bind fun _ => (narrow_negative _).bind fun _ => .ok _

theorem draw_negative (m : Metadata) (flags : UseFlags) (supported : Bool) :
    OnlyNegative (draw m flags supported) := by
  have hrest (notes : List String) (plan : Plan) : OnlyNegative
      (if plan.isRow then .ok (plan.fold, notes ++ [foldNote plan.fold])
        else .ok (plan, notes)) := by
    split <;> exact .ok _
  refine (native_negative m flags).bind fun first => ?_
  dsimp only
  split
  · exact (OnlyNegative.ok first).bind (hrest [])
  · exact (asBytes_negative first m).bind (hrest [unsupportedNote m])

end Plan

theorem planAllocation_negative (m : Metadata) (flags : UseFlags) (supported : Bool) :
    OnlyNegative (planAllocation m flags supported) :=
  (Plan.draw_negative m flags supported).map _

theorem Allocator.geometry_negative (native : Bool) (m : Metadata) :
    OnlyNegative (geometry native m) := by
  unfold geometry
  split
  · exact .ok _
  · exact (narrow_negative _).bind fun _ => .ok _

/-! ### Imported memory -/

theorem Descriptor.Positive.size_negative {d : Descriptor} (h : d.Positive) :
    OnlyNegative d.size := by
  cases d with
  | memory _ n => exact .ok n
  | stream code =>
    intro e he
    cases he
    exact Error.negative_of_positive h

namespace ImportData

variable {data : ImportData} {described : Except Error Metadata}

theorem placePlanes_negative {count : Nat} {ds : List Descriptor} {p : Nat} {m : Metadata}
    (hds : ∀ d ∈ ds, d.Positive) (h : placePlanes data count p ds m = some described) :
    OnlyNegative described := by
  induction ds generalizing p m with
  | nil =>
    cases h
    exact .ok m
  | cons d rest ih =>
    obtain ⟨hd, hrest⟩ := List.forall_mem_cons.mp hds
    have hsize := hd.size_negative
    unfold placePlanes at h
    cases hs : d.size with
    | error e =>
      rw [hs] at h
      cases h
      intro _ he
      cases he
      exact hsize e hs
    | ok size =>
      simp only [hs] at h
      split at h
      · cases h
        exact .own rfl
      · obtain ⟨m', -, h⟩ := Option.bind_eq_some_iff.mp h
        exact ih hrest h

theorem metadata_negative (hds : ∀ d ∈ data.descriptors, d.Positive)
    (h : data.metadata = some described) : OnlyNegative described := by
  unfold metadata at h
  split at h
  · rename_i e he
    cases h
    intro _ h
    cases h
    exact Metadata.unplaced_negative _ _ _ _ e he
  · split at h
    · cases h
      exact .own rfl
    · exact placePlanes_negative (fun d hd => hds d (List.mem_of_mem_take hd)) h

end ImportData

/-! ### The search for nodes -/

namespace Discovery

theorem noMatch_negative (path : FileName) (c : NodeClass) :
    (Directory.noMatch path c).IsNegative := Error.negative_of_own rfl

/-- A search fails only where no name belongs to the class. -/
theorem findDevices_negative (c : NodeClass) (stop : List Candidate → Bool) :
    FailsNegative (findDevices c stop) := by
  intro h
  obtain ⟨es, -, hfind⟩ :=
    findDevices_apply c stop h.directory.path (h.directory.ordered c)
  have hfind := hfind h rfl rfl
  unfold Yields
  rw [hfind]
  split
  · trivial
  · rename_i he
    split at he
    · cases he
      exact noMatch_negative _ c
    · cases he

theorem findGpu_negative (displayless : List String) : FailsNegative (findGpu displayless) :=
  fun h => (findGpu_walks displayless h).imp_error fun _ _ ⟨_, he, _⟩ =>
    he ▸ noMatch_negative _ _

theorem findDisplayCard_negative : FailsNegative findDisplayCard :=
  fun h => (findDisplayCard_walks h).imp_error fun _ _ ⟨_, he, _⟩ =>
    he ▸ noMatch_negative _ _

theorem Selects.negative {g card : Option Node} {elsewhere : Prop} {fault : Option Int32}
    {e : Error} (h : Selects g card elsewhere fault (.error e))
    (hf : ∀ code, fault = some code → 0 < code) : e.IsNegative := by
  cases h with
  | noDisplay | noGpu => exact Error.negative_of_own rfl
  | @noDuplicate n code _ _ hcode => exact Error.negative_of_positive (hf code hcode)

/-- The failure is that of a search which was supplied from outside. -/
def Relays (source : NodeSource) (h : Host) (e : Error) : Prop :=
  source = .supplied ∧ h.answers.searches.head? = some (some e)

theorem findNodes_relays (source : NodeSource) (mapOnly : Bool) {h : Host}
    (hp : h.answers.Positive) :
    Yields (findNodes source mapOnly) h (fun _ _ => True)
      (fun e _ => e.IsNegative ∨ Relays source h e) := by
  unfold findNodes
  simp only [HostM.record, yields_bind, yields_modify]
  cases source with
  | directory displayless =>
    apply (searchDirectory_walks displayless mapOnly _).imp_error
    rintro e _ ⟨hselects, -⟩
    exact Or.inl (hselects.negative fun code hcode =>
      hp.duplicates code (mem_of_headD hcode))
  | supplied =>
    simp only [searchSupplied, yields_bind, yields_modify, yields_get]
    cases hs : (h.record (.findNodes .supplied mapOnly)).answers.searches.headD none with
    | none => exact trivial
    | some e => exact Or.inr ⟨rfl, head?_of_headD hs⟩

theorem findNodes_negative (displayless : List String) (mapOnly : Bool) {h : Host}
    (hp : h.answers.Positive) :
    Yields (findNodes (.directory displayless) mapOnly) h (fun _ _ => True)
      (fun e _ => e.IsNegative) :=
  (findNodes_relays (.directory displayless) mapOnly hp).imp_error fun _ _ he =>
    he.resolve_right nofun

end Discovery

/-! ### The vendor library -/

namespace Vendor

theorem checkTable_negative (missing : List String) : OnlyNegative (checkTable missing) := by
  unfold checkTable
  split
  · exact .own rfl
  · exact .ok ()

theorem reserve_negative (h : Host) (source : LibrarySource) :
    OnlyNegative (reserve h source).1 := by
  cases source with
  | linked =>
    change OnlyNegative (if _ then _ else _)
    split
    · exact checkTable_negative _
    · exact .own rfl
  | shared name symbol =>
    change OnlyNegative (openShared h name symbol)
    unfold openShared
    split
    · exact .own rfl
    · split
      · exact .own rfl
      · exact .own rfl
      · exact checkTable_negative _

theorem load_negative (source : LibrarySource) : FailsNegative (load source) := by
  intro h
  have hr := reserve_negative h source
  simp only [Yields, load]
  cases hs : reserve h source with
  | mk outcome h' =>
    rw [hs] at hr
    cases outcome with
    | ok _ => exact trivial
    | error e => exact hr e rfl

theorem map_negative (library : Library) (handle : Nat) (width height : UInt32) :
    FailsNegative (map library handle width height) := by
  have hplace (n : Nat) (answer : MapAnswer) : OnlyNegative (placement n answer) := by
    unfold placement
    dsimp only
    split
    · exact .own rfl
    · split
      · exact .ok _
      · exact .own rfl
  refine (FailsNegative.ofExcept (signed_negative width)).bind fun _ => ?_
  refine (FailsNegative.ofExcept (signed_negative height)).bind fun _ => ?_
  refine FailsNegative.get.bind fun _ => FailsNegative.get.bind fun _ => ?_
  refine (FailsNegative.modify _).bind fun _ => (FailsNegative.record _).bind fun _ => ?_
  exact .ofExcept (hplace _ _)

end Vendor

end GraphicsBuffers
