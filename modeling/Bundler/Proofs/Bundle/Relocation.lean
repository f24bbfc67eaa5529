import Bundler.Proofs.Bundle.Refusal
import Bundler.Proofs.Discovery.Lockstep
import Bundler.Proofs.Path

/-!
# Bundler.Proofs.Bundle.Relocation

A project may lie anywhere. Where all that is declared stays below the root, the paths of two discoveries
differ in their roots and in nothing else, and no fragment holds a path.

* `Path.SamePlace root root'`: one place below either root.
* `Component.Moved`, `Store.Moved`, `Discovery.Moved`: what differs in such paths only.
* `Declaration.exists_scan_moved`: a source declares the same places from either root.
* `Discovery.Moved.step`: one component of each discovery.
* `Builder.parse_moved_of_same_content`: the same project at two roots gives the same components and the
  same bytes.
-/

namespace Bundler

/-- One place below two roots. -/
def Path.SamePlace (root root' p p' : Path) : Prop :=
  ∃ q : Path, q.IsInner ∧ p = root / q ∧ p' = root' / q

/-- One component below two roots: it has the same label, sections and fragment. -/
structure Component.Moved (root root' : Path) (c c' : Component) : Prop where
  place : Path.SamePlace root root' c.path c'.path
  same : c' = { c with path := c'.path }

theorem Component.Moved.label_eq {root root' : Path} {c c' : Component} (h : c.Moved root root' c') :
    c.label = c'.label := by
  rw [h.same]

theorem Component.Moved.fragment_eq {root root' : Path} {c c' : Component}
    (h : c.Moved root root' c') : c.fragment = c'.fragment := by
  rw [h.same]

structure Store.Moved (root root' : Path) (s s' : Store) : Prop where
  entries : List.Forall₂ (fun p p' => p.1 = p'.1 ∧ p.2.Moved root root' p'.2) s.entries s'.entries
  rootComponent : Option.Rel (Component.Moved root root') s.root s'.root
  size : s.size = s'.size
  context : s'.context = { s.context with projectRoot := root' }
  projectRoot : s.context.projectRoot = root

namespace Store.Moved

variable {root root' : Path} {s s' : Store}

theorem records (h : Store.Moved root root' s s') :
    List.Forall₂ (Component.Moved root root') s.records s'.records := by
  rw [Store.records, Store.records, List.forall₂_map_left_iff, List.forall₂_map_right_iff]
  exact h.entries.imp fun _ _ hp => hp.2

theorem labels_eq (h : Store.Moved root root' s s') : s.labels = s'.labels := by
  have hkeys : List.Forall₂ Eq s.labels s'.labels := by
    rw [Store.labels, Store.labels, Keyed.keys, Keyed.keys, List.forall₂_map_left_iff,
      List.forall₂_map_right_iff]
    exact h.entries.imp fun _ _ hp => hp.1
  rwa [List.forall₂_eq_eq_eq] at hkeys

theorem put (h : Store.Moved root root' s s') (label : String) {c c' : Component}
    (hc : c.Moved root root' c') : Store.Moved root root' (s.put label c) (s'.put label c') where
  entries := Keyed.forall₂_put h.entries label hc
  rootComponent := h.rootComponent
  size := congrArg (· + 1) h.size
  context := h.context
  projectRoot := h.projectRoot

/-- A bundle holds no path. -/
theorem fragments_eq (h : Store.Moved root root' s s') {fs fs' : List String}
    (hs : Bundle.fragments s = .ok fs) (hs' : Bundle.fragments s' = .ok fs') : fs = fs' := by
  have hrecords : List.Forall₂ Eq (s.records.reverse.map fun c => c.fragment.getD "")
      (s'.records.reverse.map fun c => c.fragment.getD "") := by
    rw [List.forall₂_map_left_iff, List.forall₂_map_right_iff]
    refine (List.forall₂_reverse_iff.2 h.records).imp fun c c' hc => ?_
    rw [hc.fragment_eq]
  rw [Bundle.fragmentsOf_eq_ok hs, Bundle.fragmentsOf_eq_ok hs']
  rwa [List.forall₂_eq_eq_eq] at hrecords

end Store.Moved

/-! ## Declarations -/

namespace Declaration

/-- The specifier of a declaration is relative and does not lead out of the root. -/
def Contained (d : Declaration) : Prop :=
  (Path.ofString d.specifier).isAbsolute = false ∧ (Path.ofString d.specifier).leadsOut = false

instance (d : Declaration) : Decidable d.Contained :=
  inferInstanceAs (Decidable (_ ∧ _))

/-- One declaration read from two roots. -/
structure Moved (root root' : Path) (d d' : Declaration) : Prop where
  label : d.label = d'.label
  place : Path.SamePlace root root' d.path d'.path

variable {root root' : Path}

/-- A specifier that does not lead out names the same place below either root. -/
theorem Contained.samePlace {d : Declaration} (h : d.Contained) (habs : root.isAbsolute = true)
    (hnormal : root.normalize = root) (habs' : root'.isAbsolute = true)
    (hnormal' : root'.normalize = root') :
    Path.SamePlace root root' (root.locate d.specifier) (root'.locate d.specifier) :=
  ⟨_, Path.isInner_normalize h.1 h.2, Path.normalize_append_of_not_leadsOut h.1 h.2 habs hnormal,
    Path.normalize_append_of_not_leadsOut h.1 h.2 habs' hnormal'⟩

/-- A source declares the same places from either root. -/
theorem exists_scan_moved {source : String} {ds : List Declaration} (h : scan root source = .ok ds)
    (hds : ∀ d ∈ ds, d.Contained) (habs : root.isAbsolute = true) (hnormal : root.normalize = root)
    (habs' : root'.isAbsolute = true) (hnormal' : root'.normalize = root') :
    ∃ ds', scan root' source = .ok ds' ∧ List.Forall₂ (Moved root root') ds ds' := by
  refine ⟨ds.map fun d => { d with path := root'.locate d.specifier }, ?_, ?_⟩
  · have hscan := scanLines_map_locate root root' (Text.lines source.toList) 1
    rw [← scan, ← scan, h] at hscan
    exact hscan
  · rw [List.forall₂_map_right_iff, List.forall₂_same]
    intro d hd
    refine ⟨rfl, ?_⟩
    rw [path_of_mem_scanLines h d hd]
    exact (hds d hd).samePlace habs hnormal habs' hnormal'

end Declaration

/-! ## Discoveries -/

namespace Discovery

variable {W V : Type} {env : Env W} {env' : Env V} {root root' : Path} {s : State W} {t : State V}

/-- Two discoveries that differ in their roots and in what they read. -/
structure Displaced (root root' : Path) (env : Env W) (env' : Env V) : Prop where
  optional : env.optional = env'.optional
  context : env'.context = { env.context with projectRoot := root' }
  projectRoot : env.context.projectRoot = root
  isAbsolute : root.isAbsolute = true
  normal : root.normalize = root
  isAbsolute' : root'.isAbsolute = true
  normal' : root'.normalize = root'

/-- Two states with the same components below either root. -/
structure Moved (root root' : Path) (s : State W) (t : State V) : Prop where
  pending : List.Forall₂ (Component.Moved root root') s.queue.pending t.queue.pending
  store : Store.Moved root root' s.store t.store

theorem Displaced.start (h : Displaced root root' env env') {w : W} {v : V} {c c' : Component}
    (hc : c.Moved root root' c') :
    Moved root root' (Discovery.start env w c) (Discovery.start env' v c') where
  pending := .cons hc .nil
  store := ⟨.nil, .some hc, rfl, h.context, h.projectRoot⟩

/-- Compiling gives the same at both places when both have the same source. -/
theorem Displaced.compile_ok (h : Displaced root root' env env') {w : W} {v : V} {c c' : Component}
    (hc : c.Moved root root' c')
    (hread : ∀ source, env.read w c.path = .ok source ↔ env'.read v c'.path = .ok source)
    (hds : ∀ source ds, env.read w c.path = .ok source → Declaration.scan root source = .ok ds →
      ∀ d ∈ ds, d.Contained) {r : Compiled} (hr : compile env w c = .ok r) :
    ∃ r', compile env' v c' = .ok r' ∧ r.component.Moved root root' r'.component ∧
      List.Forall₂ (Declaration.Moved root root') r.declarations r'.declarations := by
  obtain ⟨source, sections, hsource, hsections, hscan, hcomponent⟩ := compile_eq_ok_iff.1 hr
  rw [h.projectRoot] at hscan
  obtain ⟨ds', hscan', hmoved⟩ := Declaration.exists_scan_moved hscan (hds _ _ hsource hscan)
    h.isAbsolute h.normal h.isAbsolute' h.normal'
  refine ⟨⟨complete env.context.runtime sections c', ds'⟩, compile_eq_ok_iff.2 ?_, ?_, hmoved⟩
  · rw [h.context, ← h.optional]
    exact ⟨source, sections, (hread source).1 hsource, hsections, hscan', rfl⟩
  · rw [hcomponent]
    refine ⟨hc.place, ?_⟩
    rw [hc.same]
    rfl

theorem Displaced.compile_error (h : Displaced root root' env env') {w : W} {v : V}
    {c c' : Component}
    (hread : ∀ source, env.read w c.path = .ok source ↔ env'.read v c'.path = .ok source)
    {e : BuildError} (he : compile env w c = .error e) : ∃ e', compile env' v c' = .error e' := by
  cases hc' : compile env' v c' with
  | error e' => exact ⟨e', rfl⟩
  | ok r' =>
    -- no stage looks at a path, so the first place would succeed too
    obtain ⟨source, hsource, hstages⟩ := exists_compile_eq_ok_iff.1 ⟨r', hc'⟩
    rw [← h.optional] at hstages
    obtain ⟨r, hr⟩ := exists_compile_eq_ok_iff.2 ⟨source, (hread source).2 hsource, hstages⟩
    rw [he] at hr
    cases hr

namespace Moved

theorem labels_eq (h : Moved root root' s t) : s.queue.labels = t.queue.labels := by
  have hlabels : List.Forall₂ Eq s.queue.labels t.queue.labels := by
    rw [Queue.labels, Queue.labels, List.forall₂_map_left_iff, List.forall₂_map_right_iff]
    exact h.pending.imp fun _ _ hc => hc.label_eq
  rwa [List.forall₂_eq_eq_eq] at hlabels

theorem absorb (h : Moved root root' s t) {r r' : Compiled}
    (hr : r.component.Moved root root' r'.component)
    (hds : List.Forall₂ (Declaration.Moved root root') r.declarations r'.declarations) :
    Moved root root' (Discovery.absorb env s r) (Discovery.absorb env' t r') := by
  have hnew : List.Forall₂ (Declaration.Moved root root') (newDeclarations s r)
      (newDeclarations t r') := by
    refine Declaration.forall₂_resolve (fun _ _ hd => hd.label) hds fun l => ?_
    rw [mem_keys_known, mem_keys_known, h.labels_eq, h.store.labels_eq, hr.label_eq]
  constructor
  · rw [absorb_queue, absorb_queue]
    refine List.rel_append h.pending ?_
    rw [List.forall₂_map_left_iff, List.forall₂_map_right_iff]
    refine hnew.imp fun d d' hd => ⟨hd.place, ?_⟩
    rw [ofDeclaration, ofDeclaration, hd.label]
  · rw [absorb_store, absorb_store, hr.label_eq]
    exact h.store.put _ hr

/-- One component of each discovery. When both read the same, and all that is declared stays below the
root, both fail, or both go on in the same way. -/
theorem step (henv : Displaced root root' env env') (h : Moved root root' s t)
    (hread : ∀ c c' rest rest', s.queue.pop? = some (c, rest) → t.queue.pop? = some (c', rest') →
      c.Moved root root' c' → ∀ source, env.read (take env s c rest).world c.path = .ok source ↔
        env'.read (take env' t c' rest').world c'.path = .ok source)
    (hds : ∀ c rest, s.queue.pop? = some (c, rest) → ∀ source ds,
      env.read (take env s c rest).world c.path = .ok source →
      Declaration.scan root source = .ok ds → ∀ d ∈ ds, d.Contained) :
    Progress.Match (fun _ _ => True) (Moved root root') (Discovery.step env s)
      (Discovery.step env' t) := by
  have hpending := h.pending
  rcases hq : s.queue.pop? with _ | ⟨c, rest⟩
  · rw [pop?_eq_none_iff.1 hq, List.forall₂_nil_left_iff] at hpending
    simp only [Discovery.step, hq, pop?_eq_none_iff.2 hpending]
    exact .finished
  · rw [pop?_eq_some_iff.1 hq, List.forall₂_cons_left_iff] at hpending
    obtain ⟨c', rest', hc, hrest, hpending'⟩ := hpending
    have hq' : t.queue.pop? = some (c', ⟨rest'⟩) := pop?_eq_some_iff.2 hpending'
    have htake : Moved root root' (take env s c rest) (take env' t c' ⟨rest'⟩) := ⟨hrest, h.store⟩
    have hsame := hread c c' rest ⟨rest'⟩ hq hq' hc
    cases hr : compile env (take env s c rest).world c with
    | error e =>
      obtain ⟨e', he'⟩ := henv.compile_error hsame hr
      rw [step_of_compile_error hq hr, step_of_compile_error hq' he']
      exact .failed trivial htake
    | ok r =>
      obtain ⟨r', hr', hcomponent, hdeclarations⟩ := henv.compile_ok hc hsame (hds c rest hq) hr
      rw [step_of_compile_ok hq hr, step_of_compile_ok hq' hr']
      exact .advanced (htake.absorb hcomponent hdeclarations)

end Moved

end Discovery

/-! ## Builds -/

namespace Builder

open Discovery

variable {b b' : Builder} {label : Option String} {path outputDir : Option Path} {s s' : Session}

theorem displaced_rootEnv (hsettings : b.settings = b'.settings) (habs : b.root.isAbsolute = true)
    (hnormal : b.root.normalize = b.root) (habs' : b'.root.isAbsolute = true)
    (hnormal' : b'.root.normalize = b'.root) (label : Option String) (path : Option Path) :
    Displaced b.root b'.root (b.rootEnv label path) (b'.rootEnv label path) where
  optional := by simp only [rootEnv, env, hsettings]
  context := by simp only [rootEnv, env, context, rootComponent, hsettings]
  projectRoot := rfl
  isAbsolute := habs
  normal := hnormal
  isAbsolute' := habs'
  normal' := hnormal'

theorem moved_rootComponent (hsettings : b.settings = b'.settings)
    (hentry : (path.getD (Path.ofString b.settings.entry)).IsInner) (label : Option String) :
    (b.rootComponent label path).Moved b.root b'.root (b'.rootComponent label path) := by
  refine ⟨⟨_, hentry, rfl, ?_⟩, ?_⟩
  · rw [rootComponent, hsettings]
  · simp only [rootComponent, hsettings]

/-- A compilation has added these bytes to the file of its bundle. -/
def Emits (b : Builder) (label : Option String) (path outputDir : Option Path) (s : Session)
    (bytes : List UInt8) : Prop :=
  ∃ d l old, (b.outputBundle outputDir).append bytes (b.parse label path s).session.disk = .ok () d ∧
    d.get? l = some (.file (old ++ bytes)) ∧
    (s.journal.file = none → (b.compile label path outputDir s).session.disk = d)

theorem emits_of_compile {store : Store} {fs : List String} {r : BuildResult}
    (hparse : (b.parse label path s).result = .ok store) (hfs : Bundle.fragments store = .ok fs)
    (h : (b.compile label path outputDir s).result = .ok r) :
    r.store = store ∧ b.Emits label path outputDir s (Bundle.bytesOf fs) := by
  obtain ⟨hresult, d, happend, hdisk⟩ := compile_eq_ok h
  have hstore : r.store = store := by
    rw [hparse] at hresult
    cases hresult
    rfl
  rw [hstore, ← Bundle.bytesOf_fragmentsOf hfs] at happend
  obtain ⟨l, old, hget⟩ := Bundle.append_eq_ok happend
  exact ⟨hstore, d, l, old, happend, hget, hdisk⟩

theorem exists_fragments_of_parse {store : Store} (h : (b.parse label path s).result = .ok store) :
    ∃ fs, Bundle.fragments store = .ok fs :=
  Bundle.fragmentsOf_ok fun c hc => isSome_fragment_of_parse h c (List.mem_reverse.1 hc)

/-- What a build makes does not depend on where the project lies. The roots are absolute paths in normal
form, the entry is a path below them, every component that is taken at the first root has the same content
at the second, and every specifier that it declares is relative and does not lead out of the root. Then a
parse succeeds at both roots or at neither; the stores have the same labels, and in the same order
components that differ in the root of their paths only; and the same bytes go to both bundles. What is read
at a place depends on how many components came before, since the journal may be a source; without a file of
the journal it is what the disk has there. -/
theorem parse_moved_of_same_content (b b' : Builder) (label : Option String) (path : Option Path)
    (s s' : Session) (hsettings : b.settings = b'.settings)
    (habs : b.root.isAbsolute = true) (hnormal : b.root.normalize = b.root)
    (habs' : b'.root.isAbsolute = true) (hnormal' : b'.root.normalize = b'.root)
    (hentry : (path.getD (Path.ofString b.settings.entry)).IsInner)
    (hcontent : ∀ n c q, (b.dequeued label path s)[n]? = some c → q.IsInner → c.path = b.root / q →
      ∀ source, b.sourceAt label path s n (b.root / q) = .ok source ↔
        b'.sourceAt label path s' n (b'.root / q) = .ok source)
    (hdeclared : ∀ n c source ds, (b.dequeued label path s)[n]? = some c →
      b.sourceAt label path s n c.path = .ok source → Declaration.scan b.root source = .ok ds →
      ∀ d ∈ ds, d.Contained) :
    ((∃ store, (b.parse label path s).result = .ok store) ↔
      ∃ store', (b'.parse label path s').result = .ok store') ∧
    (∀ store store', (b.parse label path s).result = .ok store →
      (b'.parse label path s').result = .ok store' →
      store.labels = store'.labels ∧ Store.Moved b.root b'.root store store' ∧
      ∃ fs, Bundle.fragments store = .ok fs ∧ Bundle.fragments store' = .ok fs ∧
        (∀ outputDir r, (b.compile label path outputDir s).result = .ok r →
          r.store = store ∧ b.Emits label path outputDir s (Bundle.bytesOf fs)) ∧
        ∀ outputDir r', (b'.compile label path outputDir s').result = .ok r' →
          r'.store = store' ∧ b'.Emits label path outputDir s' (Bundle.bytesOf fs)) ∧
    (s.journal.file = none → ∀ n p, b.sourceAt label path s n p = Source.read s.disk p) ∧
    (s'.journal.file = none → ∀ n p, b'.sourceAt label path s' n p = Source.read s'.disk p) := by
  have henv := displaced_rootEnv hsettings habs hnormal habs' hnormal' label path
  have hstart : Moved b.root b'.root
      (start (b.rootEnv label path) s (b.rootComponent label path))
      (start (b'.rootEnv label path) s' (b'.rootComponent label path)) :=
    henv.start (moved_rootComponent hsettings hentry label)
  have hstep : ∀ rs rs' t t', b.Reaches label path s rs t → b'.Reaches label path s' rs' t' →
      rs.length = rs'.length → Moved b.root b'.root t t' →
      Progress.Match (fun _ _ => True) (Moved b.root b'.root) (step (b.rootEnv label path) t)
        (step (b'.rootEnv label path) t') := by
    intro rs rs' t t' hruns hruns' hlen hmoved
    -- equally many components have been taken, so both read at the same moment
    refine hmoved.step henv ?_ ?_
    · intro c c' rest rest' hq hq' hc
      obtain ⟨q, hinner, hplace, hplace'⟩ := hc.place
      rw [← hruns.sourceAt_eq hq, ← hruns'.sourceAt_eq hq', ← hlen, hplace, hplace']
      exact hcontent rs.length c q (hruns.dequeued_getElem? hq) hinner hplace
    · intro c rest hq source ds hsource
      rw [← hruns.sourceAt_eq hq] at hsource
      exact hdeclared rs.length c source ds (hruns.dequeued_getElem? hq) hsource
  obtain ⟨⟨t, error⟩, ⟨t', error'⟩, hrun, hrun', herror, hmoved⟩ := lockstep hstep hstart
  have hresult := parse_result_of_run hrun
  have hresult' := parse_result_of_run hrun'
  refine ⟨?_, ?_, sourceAt_eq, sourceAt_eq⟩
  · rw [hresult, hresult']
    cases herror <;> simp
  · intro store store' hstore hstore'
    have hstores : Store.Moved b.root b'.root store store' := by
      rw [hresult] at hstore
      rw [hresult'] at hstore'
      cases herror with
      | some _ => cases hstore
      | none =>
        cases hstore
        cases hstore'
        exact hmoved.store
    obtain ⟨fs, hfs⟩ := exists_fragments_of_parse hstore
    obtain ⟨fs', hfs'⟩ := exists_fragments_of_parse hstore'
    obtain rfl := hstores.fragments_eq hfs hfs'
    exact ⟨hstores.labels_eq, hstores, fs, hfs, hfs', fun _ _ => emits_of_compile hstore hfs,
      fun _ _ => emits_of_compile hstore' hfs'⟩

/-- A project of two components in a directory. The second one is declared by a detour. -/
def detourDisk (dir : List String) : Disk :=
  { entries :=
      (List.range dir.length).map (fun n => (dir.take (n + 1), .directory)) ++
      [(dir ++ ["lib"], .directory),
        (dir ++ ["App.vue"],
          .file (Text.Utf8.encode "<template><script>\x7b\x7d\nimport A from './x/..//lib/./A'")),
        (dir ++ ["lib", "A"], .file (Text.Utf8.encode "<template><script>\x7b\x7d"))] }

def detourSession (dir : List String) : Session :=
  { disk := detourDisk dir, home := ⟨none, []⟩ }

def detourBuilder (dir : List String) : Builder :=
  { settings := { optionalSections := [.style] }, root := .ofParts dir, logger := {} }

def detourPlaces : List Path :=
  [.ofString "App.vue", .ofString "lib/A"]

theorem dequeued_detour :
    ((detourBuilder ["p"]).dequeued none none (detourSession ["p"])).map Component.path =
      detourPlaces.map ((detourBuilder ["p"]).root / ·) := by
  decide +kernel

theorem compile_detour : ∀ dir ∈ [["p"], ["q", "r"]],
    ∃ r, ((detourBuilder dir).compile none none none (detourSession dir)).result = .ok r ∧
      r.store.labels = ["App", "A"] := by
  have hlabels : ∀ dir ∈ [["p"], ["q", "r"]],
      ((detourBuilder dir).compile none none none (detourSession dir)).result.toOption.map
        (fun r => r.store.labels) = some ["App", "A"] := by decide +kernel
  intro dir hdir
  have hsome := hlabels dir hdir
  cases h : ((detourBuilder dir).compile none none none (detourSession dir)).result with
  | error e =>
    rw [h] at hsome
    cases hsome
  | ok r =>
    rw [h] at hsome
    exact ⟨r, rfl, Option.some.inj hsome⟩

theorem parse_moved_of_same_content_detour :
    ∃ r r' bytes,
      ((detourBuilder ["p"]).compile none none none (detourSession ["p"])).result = .ok r ∧
      ((detourBuilder ["q", "r"]).compile none none none (detourSession ["q", "r"])).result = .ok r' ∧
      r.store.labels = ["App", "A"] ∧ r'.store.labels = ["App", "A"] ∧
      Store.Moved (.ofParts ["p"]) (.ofParts ["q", "r"]) r.store r'.store ∧
      (detourBuilder ["p"]).Emits none none none (detourSession ["p"]) bytes ∧
      (detourBuilder ["q", "r"]).Emits none none none (detourSession ["q", "r"]) bytes := by
  have hfile : (detourSession ["p"]).journal.file = none := rfl
  have hfile' : (detourSession ["q", "r"]).journal.file = none := rfl
  have hplace : ∀ (n : Nat) (c : Component),
      ((detourBuilder ["p"]).dequeued none none (detourSession ["p"]))[n]? = some c →
      ∃ q ∈ detourPlaces, (detourBuilder ["p"]).root / q = c.path := by
    intro n c hc
    have hmem := List.mem_map_of_mem (f := Component.path) (List.mem_of_getElem? hc)
    rwa [dequeued_detour, List.mem_map] at hmem
  have hinner : ∀ q ∈ detourPlaces, q.isAbsolute = false := by decide +kernel
  have hsame : ∀ q ∈ detourPlaces,
      Source.read (detourSession ["p"]).disk ((detourBuilder ["p"]).root / q) =
        Source.read (detourSession ["q", "r"]).disk ((detourBuilder ["q", "r"]).root / q) := by
    decide +kernel
  have hcontained : ∀ q ∈ detourPlaces,
      ∀ source ∈ (Source.read (detourSession ["p"]).disk ((detourBuilder ["p"]).root / q)).toOption,
      ∀ ds ∈ (Declaration.scan (detourBuilder ["p"]).root source).toOption, ∀ d ∈ ds, d.Contained := by
    decide +kernel
  have hmoved := parse_moved_of_same_content (detourBuilder ["p"]) (detourBuilder ["q", "r"]) none none
    (detourSession ["p"]) (detourSession ["q", "r"]) rfl rfl (by decide +kernel) rfl
    (by decide +kernel) ⟨by decide +kernel, by decide +kernel⟩
    (by
      intro n c q hc hq hpath source
      obtain ⟨q', hq', hpath'⟩ := hplace n c hc
      obtain rfl := Path.div_left_cancel (hinner q' hq') hq.relative (hpath'.trans hpath)
      rw [sourceAt_eq hfile, sourceAt_eq hfile', hsame q' hq'])
    (by
      intro n c source ds hc hsource hscan
      obtain ⟨q, hq, hpath⟩ := hplace n c hc
      rw [sourceAt_eq hfile, ← hpath] at hsource
      exact hcontained q hq source (by rw [hsource]; rfl) ds (by rw [hscan]; rfl))
  obtain ⟨r, hr, hlabels⟩ := compile_detour ["p"] (by simp)
  obtain ⟨r', hr', _⟩ := compile_detour ["q", "r"] (by simp)
  have hstore := (compile_eq_ok hr).1
  have hstore' := (compile_eq_ok hr').1
  obtain ⟨heq, hstores, fs, _, _, hemits, hemits'⟩ := hmoved.2.1 r.store r'.store hstore hstore'
  exact ⟨r, r', Bundle.bytesOf fs, hr, hr', hlabels, heq ▸ hlabels, hstores, (hemits none r hr).2,
    (hemits' none r' hr').2⟩

end Builder

end Bundler
