import UrlSigning.Proofs.Pipeline.LastEdit

/-!
# Edits of copies

A layer does not hold a configuration but refers to it, and the configuration refers to its options;
both can be changed where they are, in the sight of all that refer to them. So presigning copies the
two and changes the options of the copy. Here the calls of presigning are made on objects in this
way (`Memory.run`). The objects that were there are never changed, there are only more of them, so
that whatever was referred to stays; and what is in sight is, call after call, what the calls leave
when configurations are values (`Memory.Shows.after_run`).
-/

namespace UrlSigning.Pipeline.Objects

/-- A configuration that refers to its options. -/
structure ConfigObject where
  region : Json
  service : String
  options : Nat

/-- Objects under their addresses, which are their places in the lists. -/
structure Heap where
  configs : List ConfigObject
  options : List Signing.Options

namespace Heap

/-- The configuration that an object stands for. -/
def config? (h : Heap) (a : Nat) : Option Signing.Config :=
  h.configs[a]?.bind fun o =>
    h.options[o.options]?.map fun options => ⟨o.region, o.service, options⟩

/-- A new configuration with options of its own, which are the last objects then. -/
def add (c : Signing.Config) (h : Heap) : Heap :=
  { configs := h.configs ++ [⟨c.region, c.service, h.options.length⟩]
    options := h.options ++ [c.options] }

/-- A copy of a configuration and of its options. -/
def copy (a : Nat) (h : Heap) : Heap :=
  match h.config? a with
  | some c => h.add c
  | none => h

/-- Changes the options that a configuration refers to, where they are. -/
def setOptions (a : Nat) (f : Signing.Options → Signing.Options) (h : Heap) : Heap :=
  match h.configs[a]? with
  | some o => { h with options := h.options.modify o.options f }
  | none => h

/-- Copies a configuration and changes the options of the copy one by one. -/
def editCopy (window : Signing.Window) (payload : Signing.Payload) (a : Nat) (h : Heap) : Heap :=
  h.copy a
    |>.setOptions h.configs.length (fun o => { o with expires := some window.length })
    |>.setOptions h.configs.length (fun o => { o with location := .query })
    |>.setOptions h.configs.length (fun o => { o with payload := some payload })

/-- All objects of the first heap are in the second, and there may be more. -/
structure Extends (h k : Heap) : Prop where
  configs : h.configs <+: k.configs
  options : h.options <+: k.options

theorem Extends.refl (h : Heap) : h.Extends h := ⟨List.prefix_rfl, List.prefix_rfl⟩

theorem Extends.trans {h k l : Heap} (hk : h.Extends k) (kl : k.Extends l) : h.Extends l :=
  ⟨hk.configs.trans kl.configs, hk.options.trans kl.options⟩

theorem extends_add (c : Signing.Config) (h : Heap) : h.Extends (h.add c) :=
  ⟨List.prefix_append _ _, List.prefix_append _ _⟩

theorem config?_add (c : Signing.Config) (h : Heap) :
    (h.add c).config? h.configs.length = some c := by
  simp [add, config?]

theorem getElem?_of_prefix {α : Type} {l k : List α} (h : l <+: k) {i : Nat} {x : α}
    (hx : l[i]? = some x) : k[i]? = some x := by
  obtain ⟨hi, rfl⟩ := List.getElem?_eq_some_iff.mp hx
  exact List.prefix_iff_getElem?.mp h i hi

/-- What stood in the smaller heap stands in the larger one. -/
theorem Extends.config? {h k : Heap} (hk : h.Extends k) {a : Nat} {c : Signing.Config}
    (hc : h.config? a = some c) : k.config? a = some c := by
  obtain ⟨o, ho, hoptions⟩ := Option.bind_eq_some_iff.mp hc
  obtain ⟨options, hoptions, hval⟩ := Option.map_eq_some_iff.mp hoptions
  refine Option.bind_eq_some_iff.mpr ⟨o, ?_, Option.map_eq_some_iff.mpr ⟨options, ?_, hval⟩⟩
  · exact getElem?_of_prefix hk.configs ho
  · exact getElem?_of_prefix hk.options hoptions

/-- Where a configuration was just added, changing its options changes nothing else. -/
theorem setOptions_add (c : Signing.Config) (f : Signing.Options → Signing.Options) (h : Heap) :
    (h.add c).setOptions h.configs.length f = h.add { c with options := f c.options } := by
  simp [add, setOptions, List.modify_eq_take_drop]

/-- To edit a copy is to add the edited configuration. -/
theorem editCopy_eq (window : Signing.Window) (payload : Signing.Payload) {a : Nat} {h : Heap}
    {c : Signing.Config} (hc : h.config? a = some c) :
    h.editCopy window payload a = h.add (presigned window payload c) := by
  rw [editCopy, copy, hc]
  dsimp only
  rw [setOptions_add, setOptions_add, setOptions_add]
  rfl

end Heap

/-! ## Bags of references -/

/-- What a layer holds: a configuration by its address, any other setting itself. -/
inductive Ref where
  | config (a : Nat)
  | value (s : Setting)

namespace Ref

def view (h : Heap) : Ref → Setting
  | .config a => (h.config? a).elim .nothing .signing
  | .value s => s

/-- The reference leads to a configuration, or to something that is none. -/
def Sound (h : Heap) : Ref → Prop
  | .config a => ∃ c, h.config? a = some c
  | .value s => ∀ c, s ≠ .signing c

variable {h k : Heap} {r : Ref}

theorem Sound.extends (hr : r.Sound h) (hk : h.Extends k) : r.Sound k ∧ r.view k = r.view h := by
  cases r with
  | config a =>
      obtain ⟨c, hc⟩ := hr
      refine ⟨⟨c, hk.config? hc⟩, ?_⟩
      rw [view, view, hc, hk.config? hc]
  | value s => exact ⟨hr, rfl⟩

end Ref

/-- A layer as it stands in memory. -/
structure RefLayer where
  name : String
  values : Entries SettingKey Ref

/-- What the layer holds. -/
def RefLayer.view (h : Heap) (l : RefLayer) : Layer :=
  { name := l.name, values := l.values.mapValues (·.view h) }

/-- Objects, and a bag whose layers refer to them. -/
structure Memory where
  heap : Heap
  layers : List RefLayer
  state : RefLayer

namespace Memory

def load? (key : SettingKey) (m : Memory) : Option Ref :=
  (m.state :: m.layers.reverse).findSome? (·.values.get? key)

def put (key : SettingKey) (r : Ref) (m : Memory) : Memory :=
  { m with state := { m.state with values := m.state.values.put key r } }

/-- The bag that stands in the memory. -/
def view (m : Memory) : Bag :=
  { layers := m.layers.map (·.view m.heap), state := m.state.view m.heap }

/-- All references lead somewhere, and configurations are referred to. -/
def Sound (m : Memory) : Prop :=
  ∀ l ∈ m.state :: m.layers, ∀ e ∈ l.values, e.2.Sound m.heap

/-- Calls an interceptor of presigning on the objects. -/
def call (c : PresigningCall) (m : Memory) : Except Failure Unit × Memory :=
  match c.hook with
  | .beforeSerialization => (.ok (), m.put .headerDefaults (.value (.headerDefaults ⟨true, true⟩)))
  | .beforeSigning =>
    match m.load? .signing with
    | some (.config a) =>
      (.ok (), { m with heap := m.heap.editCopy c.window c.payload a }.put .signing
        (.config m.heap.configs.length))
    | _ => (.error .missingSetup, m)
  | _ => (.ok (), m)

def run (calls : List PresigningCall) (m : Memory) : Memory :=
  calls.foldl (fun m c => (call c m).2) m

end Memory

/-! ## What is in sight -/

namespace Memory

variable {m : Memory}

theorem load?_view (key : SettingKey) (m : Memory) :
    m.view.load? key = (m.load? key).map (·.view m.heap) := by
  have hstack : m.view.state :: m.view.layers.reverse =
      (m.state :: m.layers.reverse).map (·.view m.heap) := by
    simp [view]
  rw [Bag.load?, hstack, load?, List.findSome?_map, List.map_findSome?]
  congr 1
  funext l
  exact Entries.get?_mapValues _ key l.values

theorem view_put (m : Memory) {r : Ref} {s : Setting} (hr : r.view m.heap = s) :
    (m.put s.key r).view = m.view.put s := by
  have hvalues : (m.state.values.put s.key r).mapValues (·.view m.heap) =
      (m.state.values.mapValues (·.view m.heap)).put s.key s := by
    rw [Entries.mapValues_put, hr]
  show Bag.mk _ ⟨_, (m.state.values.put s.key r).mapValues (·.view m.heap)⟩ = _
  rw [hvalues]
  rfl

theorem Sound.put (hm : m.Sound) (key : SettingKey) {r : Ref} (hr : r.Sound m.heap) :
    (m.put key r).Sound := by
  obtain ⟨hstate, hlayers⟩ := List.forall_mem_cons.mp hm
  refine List.forall_mem_cons.mpr ⟨?_, hlayers⟩
  intro e he
  rcases Entries.mem_put he with rfl | he
  · exact hr
  · exact hstate e he

/-- When there are more objects, all that could be seen is still seen, and as it was. -/
theorem Sound.grow (hm : m.Sound) {k : Heap} (hk : m.heap.Extends k) :
    Sound { m with heap := k } ∧ view { m with heap := k } = m.view := by
  have hview : ∀ l ∈ m.state :: m.layers, l.view k = l.view m.heap := by
    intro l hl
    unfold RefLayer.view
    rw [Entries.mapValues_congr fun e he => ((hm l hl e he).extends hk).2]
  obtain ⟨hstate, hlayers⟩ := List.forall_mem_cons.mp hview
  constructor
  · exact fun l hl e he => ((hm l hl e he).extends hk).1
  · show Bag.mk _ _ = Bag.mk _ _
    rw [hstate, List.map_congr_left hlayers]

theorem Sound.of_load? (hm : m.Sound) {key : SettingKey} {r : Ref} (hr : m.load? key = some r) :
    r.Sound m.heap := by
  obtain ⟨l, hl, hget⟩ := List.exists_of_findSome?_eq_some hr
  have hmem : l ∈ m.state :: m.layers := by simpa using hl
  exact hm l hmem _ (Entries.mem_of_get? hget)

/-- The configuration that holds is one that is referred to. -/
theorem Sound.signing?_eq (hm : m.Sound) :
    m.view.signing? =
      match m.load? .signing with
      | some (.config a) => m.heap.config? a
      | _ => none := by
  unfold Bag.signing?
  rw [load?_view]
  rcases hr : m.load? .signing with _ | ⟨a | s⟩
  · rfl
  · obtain ⟨c, hc⟩ := hm.of_load? hr
    simp [Ref.view, hc]
  · have hs := hm.of_load? hr
    cases s <;> first | rfl | exact absurd rfl (hs _)

theorem Sound.signing?_eq_some (hm : m.Sound) {c : Signing.Config}
    (hc : m.view.signing? = some c) :
    ∃ a, m.load? .signing = some (.config a) ∧ m.heap.config? a = some c := by
  rw [hm.signing?_eq] at hc
  split at hc
  · next a ha => exact ⟨a, ha, hc⟩
  · cases hc

theorem Sound.signing?_eq_none (hm : m.Sound) (hc : m.view.signing? = none) (a : Nat) :
    m.load? .signing ≠ some (.config a) := by
  intro ha
  obtain ⟨c, hc'⟩ := hm.of_load? ha
  rw [hm.signing?_eq, ha] at hc
  simp [hc'] at hc

/-! ## Calls on objects -/

/-- All references lead somewhere, and what is in sight is the bag of the pass. -/
structure Shows (m : Memory) (p : Pass) : Prop where
  sound : m.Sound
  view : m.view = p.bag

/-- The memory with more objects and other entries in the top layer. -/
structure GrowsTo (m n : Memory) : Prop where
  heap : m.heap.Extends n.heap
  layers : n.layers = m.layers

theorem GrowsTo.refl (m : Memory) : m.GrowsTo m := ⟨.refl m.heap, rfl⟩

theorem GrowsTo.trans {m n o : Memory} (h : m.GrowsTo n) (k : n.GrowsTo o) : m.GrowsTo o :=
  ⟨h.heap.trans k.heap, k.layers.trans h.layers⟩

/-- A call on the objects comes to what it comes to on values. -/
theorem Shows.after_call {p : Pass} (h : m.Shows p) {c : PresigningCall}
    {r : Except Failure Unit × Pass} (hr : c.Outcome p r) :
    (call c m).1 = r.1 ∧ (call c m).2.Shows r.2 ∧ m.GrowsTo (call c m).2 := by
  cases hr with
  | defaults hd =>
      rw [call, hd]
      refine ⟨rfl, ⟨?_, ?_⟩, ⟨.refl _, rfl⟩⟩
      · exact h.sound.put _ fun c => by simp
      · rw [← h.view]
        exact view_put m (s := .headerDefaults ⟨true, true⟩) rfl
  | edited hs hc =>
      rename_i cfg
      rw [← h.view] at hc
      obtain ⟨a, hload, hconfig⟩ := h.sound.signing?_eq_some hc
      rw [call, hs, hload]
      dsimp only
      rw [Heap.editCopy_eq _ _ hconfig]
      have hext := Heap.extends_add (presigned c.window c.payload cfg) m.heap
      have hnew := Heap.config?_add (presigned c.window c.payload cfg) m.heap
      obtain ⟨hsound, hview⟩ := h.sound.grow hext
      refine ⟨rfl, ⟨?_, ?_⟩, ⟨hext, rfl⟩⟩
      · exact hsound.put _ ⟨_, hnew⟩
      · rw [← h.view, ← hview]
        refine view_put _ (s := .signing (presigned c.window c.payload cfg)) ?_
        rw [Ref.view, hnew]
        rfl
  | missing hs hc =>
      rw [← h.view] at hc
      have hnone := h.sound.signing?_eq_none hc
      rw [call, hs]
      dsimp only
      split
      · next a ha => exact absurd ha (hnone a)
      · exact ⟨rfl, h, .refl m⟩
  | idle hs hd =>
      rw [call]
      split
      · next hd' => exact absurd hd' hd
      · next hs' => exact absurd hs' hs
      · exact ⟨rfl, h, .refl m⟩

variable (w : Surroundings) (maxAttempts : Nat)

/-- Objects and values stay in step, call after call, and no object is ever changed. -/
theorem Shows.after_run {p : Pass} (h : m.Shows p) (calls : List PresigningCall) :
    (m.run calls).Shows (PresigningCall.run w maxAttempts calls p) ∧
      m.GrowsTo (m.run calls) := by
  induction calls generalizing m p with
  | nil => exact ⟨h, .refl m⟩
  | cons c rest ih =>
      obtain ⟨-, hshows, hgrows⟩ := h.after_call (c.outcome w maxAttempts p)
      obtain ⟨hrest, hgrows'⟩ := ih hshows
      exact ⟨hrest, hgrows.trans hgrows'⟩

/-! ## Every bag can be laid out -/

theorem exists_ref (h : Heap) (s : Setting) :
    ∃ k r, h.Extends k ∧ Ref.Sound k r ∧ r.view k = s := by
  by_cases hs : ∃ c, s = .signing c
  · obtain ⟨c, rfl⟩ := hs
    have hnew := Heap.config?_add c h
    refine ⟨h.add c, .config h.configs.length, Heap.extends_add c h, ⟨c, hnew⟩, ?_⟩
    rw [Ref.view, hnew]
    rfl
  · exact ⟨h, .value s, .refl h, fun c hc => hs ⟨c, hc⟩, rfl⟩

theorem exists_refs (h : Heap) (values : Entries SettingKey Setting) :
    ∃ k refs, h.Extends k ∧ (∀ e ∈ refs, Ref.Sound k e.2) ∧
      Entries.mapValues (·.view k) refs = values := by
  induction values generalizing h with
  | nil => exact ⟨h, [], .refl h, fun _ he => absurd he List.not_mem_nil, rfl⟩
  | cons e rest ih =>
      obtain ⟨key, s⟩ := e
      obtain ⟨k, r, hk, hr, rfl⟩ := exists_ref h s
      obtain ⟨l, refs, hl, hrefs, rfl⟩ := ih k
      obtain ⟨hr, hview⟩ := hr.extends hl
      refine ⟨l, (key, r) :: refs, hk.trans hl, List.forall_mem_cons.mpr ⟨hr, hrefs⟩, ?_⟩
      rw [← hview]
      rfl

theorem exists_layers (h : Heap) (layers : List Layer) :
    ∃ (k : Heap) (ls : List RefLayer), h.Extends k ∧
      (∀ l ∈ ls, ∀ e ∈ l.values, Ref.Sound k e.2) ∧ ls.map (·.view k) = layers := by
  induction layers generalizing h with
  | nil => exact ⟨h, [], .refl h, fun _ hl => absurd hl List.not_mem_nil, rfl⟩
  | cons l rest ih =>
      obtain ⟨name, values⟩ := l
      obtain ⟨k, refs, hk, hrefs, rfl⟩ := exists_refs h values
      obtain ⟨k', ls, hk', hls, rfl⟩ := ih k
      have hsame := fun e he => (hrefs e he).extends hk'
      refine ⟨k', ⟨name, refs⟩ :: ls, hk.trans hk', ?_, ?_⟩
      · exact List.forall_mem_cons.mpr ⟨fun e he => (hsame e he).1, hls⟩
      · rw [List.map_cons, RefLayer.view, Entries.mapValues_congr fun e he => (hsame e he).2]

theorem exists_shows (p : Pass) : ∃ m : Memory, m.Shows p := by
  obtain ⟨k, ls, -, hsound, hview⟩ := exists_layers ⟨[], []⟩ (p.bag.state :: p.bag.layers)
  rcases ls with _ | ⟨state, layers⟩
  · cases hview
  · obtain ⟨hstate, hlayers⟩ := List.cons.inj hview
    change state.view k = p.bag.state at hstate
    refine ⟨⟨k, layers, state⟩, hsound, ?_⟩
    show Bag.mk (layers.map (·.view k)) (state.view k) = p.bag
    rw [hstate, hlayers]

end Memory

section Last

open PresigningCall

variable (w : Surroundings) (maxAttempts : Nat)

/-- Whatever calls of presigning are made on a pass, the last edit of the configuration is left, the
default headers are left out if any call before serialization asked for it, and all else is as it
was. Where there is no configuration, each call that is to edit one fails and leaves the pass as it
found it. With the bag laid out in memory in any way, where a configuration may be referred to from
many places, the calls on the objects come to the same and show the same, and every object and every
lower layer is as it was. -/
theorem last_presigning_edit_holds (calls : List PresigningCall) (p : Pass) :
    p.SameBeside (run w maxAttempts calls p) ∧
    ((∃ call ∈ calls, call.hook = .beforeSerialization) →
      (run w maxAttempts calls p).bag.headerDefaults? = some ⟨true, true⟩) ∧
    ((∀ call ∈ calls, call.hook ≠ .beforeSerialization) →
      (run w maxAttempts calls p).bag.load? .headerDefaults = p.bag.load? .headerDefaults) ∧
    (((∀ call ∈ calls, call.hook ≠ .beforeSigning) ∨ p.bag.signing? = none) →
      (run w maxAttempts calls p).bag.load? .signing = p.bag.load? .signing) ∧
    (∀ before call after, calls = before ++ call :: after →
      (∀ c, p.bag.signing? = some c →
        ((call.stage w maxAttempts).exec (run w maxAttempts before p)).1 = .ok () ∧
          (call.hook = .beforeSigning → (∀ later ∈ after, later.hook ≠ .beforeSigning) →
            ∃ c', (run w maxAttempts calls p).bag.signing? = some c' ∧
              EditedFor call.window call.payload c c')) ∧
      (p.bag.signing? = none → call.hook = .beforeSigning →
        (call.stage w maxAttempts).exec (run w maxAttempts before p) =
          (.error .missingSetup, run w maxAttempts before p))) ∧
    (∃ m : Memory, m.Shows p) ∧
    ∀ m : Memory, m.Shows p →
      (∀ before call after, calls = before ++ call :: after →
        (Memory.call call (m.run before)).1 =
          ((call.stage w maxAttempts).exec (run w maxAttempts before p)).1) ∧
      (m.run calls).Shows (run w maxAttempts calls p) ∧ (m.run calls).layers = m.layers ∧
      ∀ a c, m.heap.config? a = some c → (m.run calls).heap.config? a = some c := by
  refine ⟨sameBeside_run w maxAttempts calls p, headerDefaults?_run w maxAttempts p,
    load?_headerDefaults_run w maxAttempts p, load?_signing_run w maxAttempts p, ?_,
    Memory.exists_shows p, ?_⟩
  · rintro before call after rfl
    have hout := call.outcome w maxAttempts (run w maxAttempts before p)
    have hbefore := signing?_run w maxAttempts before p
    constructor
    · intro c hc
      rw [hc] at hbefore
      refine ⟨hout.ok hbefore, ?_⟩
      intro hcall hafter
      refine ⟨_, ?_, editedFor_presigned call.window call.payload c⟩
      rw [signing?_run, hc, Option.map_some, edits_of_last before hcall hafter]
    · intro hnone hcall
      rw [hnone] at hbefore
      exact hout.eq_missing hcall hbefore
  · intro m hm
    obtain ⟨hshows, hgrows⟩ := hm.after_run w maxAttempts calls
    refine ⟨?_, hshows, hgrows.layers, fun _ _ hc => hgrows.heap.config? hc⟩
    rintro before call after rfl
    have hbefore := (hm.after_run w maxAttempts before).1
    exact (hbefore.after_call (call.outcome w maxAttempts _)).1

end Last

end UrlSigning.Pipeline.Objects
