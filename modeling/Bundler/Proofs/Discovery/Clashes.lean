import Bundler.Proofs.Discovery.Order

/-!
# Bundler.Proofs.Discovery.Clashes

Which declarations a discovery warns about. While it runs, the path that a label has may stand in the
store, in the queue, in the component in work or in an earlier line of the same source. All of them
agree with the store in the end, so the warnings can be read off it.

* `Store.clash? store d`: the clash of a declaration with the component that is stored under its label.
* `Shape.lookup_known`: the labels in use have the first path that has been read for them.
* `Runs.clashes_eq`: the warnings of a run.
* `Builder.parse_warns_exactly`: a parse warns about the declarations that clash with its store, and
  about no others.
-/

namespace Bundler

/-- The clash of a declaration with the component that is stored under its label, if the two have
different paths. -/
def Store.clash? (store : Store) : Declaration → Option Declaration.Clash :=
  Declaration.clash? fun l => (store.get? l).map Component.path

theorem Store.lookup_paths (store : Store) (l : String) :
    store.paths.lookup l = (store.get? l).map Component.path :=
  Keyed.lookup_map_snd Component.path l store.entries

def Journal.Entry.isClash (e : Journal.Entry) : Bool :=
  e.event == "duplicate-label"

namespace Discovery

variable {W : Type} {env : Env W}

/-! ## The labels in use -/

theorem Shape.lookup_known {root : Component} {rs : List Compiled} {t : State W}
    (h : Shape env root rs t) {c c' : Component} {rest : Queue}
    (hq : t.queue.pop? = some (c, rest)) (hc : c'.pair = c.pair) (l : String) :
    (c'.pair :: ((take env t c rest).queue.paths ++ (take env t c rest).store.paths)).lookup l =
      (readPairs root rs).lookup l := by
  have hpairs := h.pairs_eq
  have hnodup := Keyed.nodup_keys_firsts (readPairs root rs)
  rw [pop?_eq_some_iff.1 hq, List.map_append, List.map_cons] at hpairs
  rw [← hpairs] at hnodup
  -- what waits has no label twice, so its paths are those of the components one by one
  have hwaiting : rest.paths = [] ++ rest.pending.map Component.pair := by
    refine Keyed.putAll_of_nodup ?_
    rw [Keyed.keys_append, Keyed.keys_cons] at hnodup
    exact (List.nodup_cons.1 hnodup.of_append_right).2
  have hperm : List.Perm
      ((rs.map Compiled.component).map Component.pair ++ c.pair :: rest.pending.map Component.pair)
      (c.pair :: (rest.pending.map Component.pair ++ (rs.map Compiled.component).map Component.pair)) :=
    List.perm_append_comm
  rw [take_queue, take_store, h.store_paths, hwaiting, List.nil_append, hc,
    ← Keyed.lookup_perm hnodup hperm, hpairs, Keyed.lookup_firsts]

def clashes (s : State W) (r : Compiled) : List Declaration.Clash :=
  (Declaration.resolve (known s r.component) r.declarations).2

/-- They are clashes with the first path that has been read for a label, the component's own
declarations included. -/
theorem Shape.clashes_eq {root : Component} {rs : List Compiled} {t : State W}
    (h : Shape env root rs t) {c : Component} {rest : Queue} {r : Compiled}
    (hq : t.queue.pop? = some (c, rest)) (hc : r.component.pair = c.pair) :
    clashes (take env t c rest) r =
      r.declarations.filterMap (Declaration.clash? fun l => (readPairs root (rs ++ [r])).lookup l) := by
  have hlookup : (fun l => (r.component.pair :: ((take env t c rest).queue.paths ++
        (take env t c rest).store.paths) ++ r.declarations.map Declaration.pair).lookup l) =
      fun l => (readPairs root (rs ++ [r])).lookup l := by
    funext l
    rw [readPairs_snoc, List.lookup_append, List.lookup_append, h.lookup_known hq hc]
  rw [clashes, known, ← hlookup]
  exact Declaration.resolve_snd _ _

/-- What a run reads later does not change the first path of a label. -/
theorem lookup_readPairs_snoc {root : Component} {rs : List Compiled} {r' : Compiled}
    {d : Declaration} (hr : r' ∈ rs) (hd : d ∈ r'.declarations) (r : Compiled) :
    (readPairs root (rs ++ [r])).lookup d.label = (readPairs root rs).lookup d.label := by
  have hmem : d.label ∈ Keyed.keys (readPairs root rs) :=
    mem_keys_readPairs.2 (.inr ⟨r', hr, List.mem_map_of_mem hd⟩)
  rw [readPairs_snoc, List.lookup_append]
  cases hlookup : (readPairs root rs).lookup d.label with
  | none => exact absurd hmem ((Keyed.lookup_eq_none _ _).1 hlookup)
  | some p => rfl

/-! ## The journal -/

theorem log_world {w : W} {s : State W} (h : s.world = s.journal.foldl env.record w)
    (es : List Journal.Entry) :
    (s.log env es).world = (s.log env es).journal.foldl env.record w := by
  rw [State.log, h, List.foldl_append]

theorem Runs.world_eq_journal {w : W} {root : Component} {rs : List Compiled} {t : State W}
    (h : Runs env (start env w root) rs t) : t.world = t.journal.foldl env.record w := by
  induction h with
  | nil => rfl
  | snoc _ hturn ih =>
    obtain ⟨_, _⟩ := hturn
    exact log_world (log_world ih _) _

/-- Of the entries of a turn only those of its clashes are warnings of clashes. -/
theorem filter_isClash_absorb (s : State W) (c : Component) (rest : Queue) (r : Compiled) :
    (absorb env (take env s c rest) r).journal.filter Journal.Entry.isClash =
      s.journal.filter Journal.Entry.isClash ++
        (clashes (take env s c rest) r).map (Declaration.Clash.entry (some r.component.path)) := by
  have hjournal : (absorb env (take env s c rest) r).journal =
      s.journal ++ [dequeuedEntry c rest.length] ++
        ((clashes (take env s c rest) r).map (Declaration.Clash.entry (some r.component.path)) ++
          [importsEntry r.component (newDeclarations (take env s c rest) r),
            compiledEntry r.component]) := rfl
  have hclashes : ((clashes (take env s c rest) r).map
      (Declaration.Clash.entry (some r.component.path))).filter Journal.Entry.isClash =
        (clashes (take env s c rest) r).map (Declaration.Clash.entry (some r.component.path)) := by
    refine List.filter_eq_self.2 fun e he => ?_
    obtain ⟨clash, _, rfl⟩ := List.mem_map.1 he
    rfl
  rw [hjournal, List.filter_append, List.filter_append, List.filter_append, hclashes]
  have hdequeued : [dequeuedEntry c rest.length].filter Journal.Entry.isClash = [] := by
    simp [Journal.Entry.isClash, dequeuedEntry]
  have hlast : [importsEntry r.component (newDeclarations (take env s c rest) r),
      compiledEntry r.component].filter Journal.Entry.isClash = [] := by
    simp [Journal.Entry.isClash, importsEntry, compiledEntry]
  rw [hdequeued, hlast, List.append_nil, List.append_nil]

/-- The warnings of a run, component by component: those of the declarations with another path than
the first one of their label. -/
theorem Runs.clashes_eq {w : W} {root : Component} {rs : List Compiled} {t : State W}
    (h : Runs env (start env w root) rs t) :
    t.journal.filter Journal.Entry.isClash = rs.flatMap fun r =>
      (r.declarations.filterMap (Declaration.clash? fun l => (readPairs root rs).lookup l)).map
        (Declaration.Clash.entry (some r.component.path)) := by
  induction h with
  | nil => rfl
  | @snoc rs t u r hruns hturn ih =>
    obtain @⟨c, rest, _, hq, hc⟩ := hturn
    obtain ⟨_, _, _, _, _, hcomponent⟩ := compile_eq_ok_iff.1 hc
    have hpair : r.component.pair = c.pair := by rw [hcomponent, complete_pair]
    rw [filter_isClash_absorb, ih, hruns.shape.clashes_eq hq hpair, List.flatMap_append,
      List.flatMap_singleton]
    congr 1
    refine List.flatMap_congr fun r' hr' => congrArg _ (List.filterMap_congr fun d hd => ?_)
    simp only [Declaration.clash?, lookup_readPairs_snoc hr' hd]

end Discovery

namespace Builder

open Discovery

def logged (b : Builder) (label : Option String) (path : Option Path) (s : Session) :
    List Journal.Entry :=
  (b.discover label path s).state.journal

variable {b : Builder} {label : Option String} {path : Option Path} {s : Session} {store : Store}

theorem discover_of_run {t : State Session}
    (h : run (b.rootEnv label path) (fuelFor s.disk)
      (start (b.rootEnv label path) s (b.rootComponent label path)) = ⟨t, none⟩) :
    (b.discover label path s).state =
      t.log (b.rootEnv label path) [Discovery.completeEntry t] := by
  unfold rootEnv at h
  simp only [discover, explore, h]
  rfl

/-- When a parse succeeds, the warnings of clashes among the entries that it logs are exactly those of
the declarations whose path is not that of the component stored under their label: in the order of the
store, then in the order of the lines. A warning names the label, the stored path, the path of the
declaration and the path of the component with the declaration. Every declared label is stored. -/
theorem parse_warns_exactly (b : Builder) (label : Option String) (path : Option Path) (s : Session)
    {store : Store} (h : (b.parse label path s).result = .ok store) :
    (b.parse label path s).session =
      (b.logged label path s).foldl (b.rootEnv label path).record s ∧
    store.records = (b.compiled label path s).map Compiled.component ∧
    (∀ r ∈ b.compiled label path s,
      (∃ source, b.ReadsSource label path s r.component source ∧
        (s.journal.file = none → Source.read s.disk r.component.path = .ok source) ∧
        Declaration.scan b.root source = .ok r.declarations) ∧
      ∀ d ∈ r.declarations, (store.get? d.label).isSome) ∧
    (b.logged label path s).filter Journal.Entry.isClash =
      (b.compiled label path s).flatMap fun r =>
        (r.declarations.filterMap store.clash?).map
          (Declaration.Clash.entry (some r.component.path)) := by
  obtain ⟨t, hrun, hruns, hq, rfl⟩ := run_of_parse h
  have hstate := discover_of_run hrun
  have hshape := hruns.shape
  have hfind : (fun l => (readPairs (b.rootComponent label path) (b.compiled label path s)).lookup l) =
      fun l => (t.store.get? l).map Component.path := by
    funext l
    rw [← t.store.lookup_paths, hshape.store_paths_eq_firsts hq, Keyed.lookup_firsts]
  refine ⟨?_, hshape.store_records, ?_, ?_⟩
  · have hworld := log_world (Runs.world_eq_journal hruns) [Discovery.completeEntry t]
    rw [← hstate] at hworld
    exact hworld
  · intro r hr
    obtain ⟨source, hsource, hscan⟩ := hruns.readsSource hr
    refine ⟨⟨source, hsource, hsource.read_eq, hscan⟩, fun d hd => ?_⟩
    have hmem : d.label ∈ Keyed.keys
        (readPairs (b.rootComponent label path) (b.compiled label path s)) :=
      mem_keys_readPairs.2 (.inr ⟨r, hr, List.mem_map_of_mem hd⟩)
    have hsome := congrFun hfind d.label
    cases hget : t.store.get? d.label with
    | some c => rfl
    | none =>
      rw [hget] at hsome
      exact absurd hmem ((Keyed.lookup_eq_none _ _).1 hsome)
  · have hlast : [Discovery.completeEntry t].filter Journal.Entry.isClash = [] := by
      simp [Journal.Entry.isClash, Discovery.completeEntry]
    rw [logged, hstate, State.log, List.filter_append, hlast, List.append_nil,
      Runs.clashes_eq hruns, hfind]
    rfl

/-! ## A project with a clash -/

/-- The sample, where the second component declares the first one at another place. -/
def clashSession : Session :=
  { disk :=
      { entries :=
          [(["p"], .directory),
            (["p", "App.vue"],
              .file (Text.Utf8.encode "<template><script>\x7b\x7d\nimport A from './A'\nimport B from './B'")),
            (["p", "A"], .file (Text.Utf8.encode "<template><script>\x7b\x7d")),
            (["p", "B"], .file (Text.Utf8.encode "<template><script>\x7b\x7d\nimport A from './C'"))]
        cwd := ["p"] }
    home := ⟨none, []⟩ }

theorem parse_clashSession :
    ((sampleBuilder.parse none none clashSession).result.toOption.map Store.labels,
      (sampleBuilder.parse none none clashSession).builder.metrics,
      ((sampleBuilder.logged none none clashSession).filter Journal.Entry.isClash).map fun e =>
        e.fields.map fun f => (f.1, f.2.text)) =
    (some ["App", "A", "B"], ⟨3, 3, 3, 1, 0⟩,
      [[("label", "'A'"), ("kept", "'/p/A'"), ("ignored", "'/p/C'"), ("importer", "'/p/B'")]]) := by
  decide +kernel

theorem exists_parse_clashSession :
    ∃ store, (sampleBuilder.parse none none clashSession).result = .ok store ∧
      store.labels = ["App", "A", "B"] := by
  have hlabels := (Prod.mk.inj parse_clashSession).1
  cases h : (sampleBuilder.parse none none clashSession).result with
  | error e =>
    rw [h] at hlabels
    cases hlabels
  | ok store =>
    rw [h] at hlabels
    exact ⟨store, rfl, Option.some.inj hlabels⟩

theorem parse_warns_exactly_clash :
    ∃ store, (sampleBuilder.parse none none clashSession).result = .ok store ∧
      store.labels = ["App", "A", "B"] ∧
      (((sampleBuilder.logged none none clashSession).filter Journal.Entry.isClash).map fun e =>
        e.fields.map fun f => (f.1, f.2.text)) =
        [[("label", "'A'"), ("kept", "'/p/A'"), ("ignored", "'/p/C'"), ("importer", "'/p/B'")]] ∧
      (sampleBuilder.logged none none clashSession).filter Journal.Entry.isClash =
        (sampleBuilder.compiled none none clashSession).flatMap fun r =>
          (r.declarations.filterMap store.clash?).map
            (Declaration.Clash.entry (some r.component.path)) := by
  obtain ⟨store, hresult, hlabels⟩ := exists_parse_clashSession
  obtain ⟨-, -, -, hclashes⟩ := parse_warns_exactly sampleBuilder none none clashSession hresult
  exact ⟨store, hresult, hlabels, (Prod.mk.inj (Prod.mk.inj parse_clashSession).2).2, hclashes⟩

end Builder

end Bundler
