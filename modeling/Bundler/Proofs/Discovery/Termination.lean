import Bundler.Proofs.Discovery.Partition
import Bundler.Proofs.Journal.Growth

/-!
# Bundler.Proofs.Discovery.Termination

Discovery ends, whatever the files declare and however they are linked: every component that is taken
has a label of its own, and there are only so many labels in the files.

* `Supply env labels`: `labels` bounds what can be read, and loses nothing when entries are recorded.
* `Supply.ends`: with a bound on the number of labels the loop ends.
* `Builder.parse_takes_at_most`: a parse ends, after at most one component more than there are labels
  declared.

The files can change while components are compiled, since the journal may be one of them. Its lines
declare nothing, except that the first of them may complete a declaration that was left unfinished.
-/

namespace Bundler

namespace Discovery

variable {W : Type} {env : Env W} {labels : W → List String}

structure Supply (env : Env W) (labels : W → List String) : Prop where
  read_subset : ∀ {w : W} {p : Path} {source : String},
    env.read w p = .ok source → Source.labelsOf source ⊆ labels w
  record_subset : ∀ (w : W) (e : Journal.Entry), labels w ⊆ labels (env.record w e)

theorem Supply.foldl_subset (h : Supply env labels) (w : W) (es : List Journal.Entry) :
    labels w ⊆ labels (es.foldl env.record w) := by
  induction es generalizing w with
  | nil => exact List.Subset.refl _
  | cons e es ih => exact List.Subset.trans (h.record_subset w e) (ih _)

theorem Turn.world_eq {s t : State W} {r : Compiled} (h : Turn env s r t) :
    ∃ es : List Journal.Entry, t.world = es.foldl env.record s.world := by
  obtain @⟨c, rest, _, _, _⟩ := h
  simp only [absorb, take, State.log, ← List.foldl_append]
  exact ⟨_, rfl⟩

theorem Runs.world_eq {s t : State W} {rs : List Compiled} (h : Runs env s rs t) :
    ∃ es : List Journal.Entry, t.world = es.foldl env.record s.world := by
  induction h with
  | nil => exact ⟨[], rfl⟩
  | snoc _ hturn ih =>
    obtain ⟨es, hes⟩ := ih
    obtain ⟨es', hes'⟩ := hturn.world_eq
    exact ⟨es ++ es', by rw [hes', hes, List.foldl_append]⟩

theorem Runs.take_world_eq {s t : State W} {rs : List Compiled} (h : Runs env s rs t) (c : Component)
    (rest : Queue) :
    ∃ es : List Journal.Entry, (take env t c rest).world = es.foldl env.record s.world := by
  obtain ⟨es, hes⟩ := h.world_eq
  refine ⟨es ++ [dequeuedEntry c rest.length], ?_⟩
  rw [List.foldl_append, ← hes]
  rfl

theorem Ends.world_eq {s : State W} {n : Nat} {o : Outcome W} (h : Ends env s n o) :
    ∃ es : List Journal.Entry, o.state.world = es.foldl env.record s.world := by
  induction h with
  | finished _ => exact ⟨[], rfl⟩
  | failed hs =>
    obtain ⟨c, rest, _, _, rfl⟩ := compile_of_step_failed hs
    exact ⟨[dequeuedEntry c rest.length], rfl⟩
  | advanced hs _ ih =>
    obtain ⟨r, hturn⟩ := turn_of_step_advanced hs
    obtain ⟨es, hes⟩ := ih
    obtain ⟨es', hes'⟩ := hturn.world_eq
    exact ⟨es' ++ es, by rw [hes, hes', List.foldl_append]⟩

theorem Supply.take_subset (h : Supply env labels) (s : State W) (c : Component) (rest : Queue) :
    labels s.world ⊆ labels (take env s c rest).world :=
  h.foldl_subset s.world _

theorem Supply.absorb_subset (h : Supply env labels) (s : State W) (r : Compiled) :
    labels s.world ⊆ labels (absorb env s r).world :=
  h.foldl_subset s.world _

variable {w : W} {root : Component} {rs : List Compiled} {t : State W}

theorem Turn.labels_eq {s u : State W} {r : Compiled} (h : Turn env s r u) :
    ∃ c rest source, s.queue.pop? = some (c, rest) ∧
      env.read (take env s c rest).world c.path = .ok source ∧
      r.declarations.map Declaration.label = Source.labelsOf source ∧
      u = absorb env (take env s c rest) r := by
  obtain @⟨c, rest, _, hq, hcompile⟩ := h
  obtain ⟨source, _, hread, _, hscan, _⟩ := compile_eq_ok_iff.1 hcompile
  exact ⟨c, rest, source, hq, hread, Declaration.map_label_scan hscan, rfl⟩

/-- The components that have been compiled and those that wait are at most one more than the labels
that have been declared. -/
theorem Runs.length_le (hruns : Runs env (start env w root) rs t) {declared : List String}
    (h : ∀ r ∈ rs, r.declarations.map Declaration.label ⊆ declared) :
    rs.length + t.queue.length ≤ 1 + declared.length := by
  have hshape := hruns.shape
  have hsub : rs.map (fun r => r.component.label) ++ t.queue.labels ⊆ root.label :: declared := by
    intro l hl
    rw [hshape.labels_eq, Keyed.mem_keys_firsts, mem_keys_readPairs] at hl
    rcases hl with rfl | ⟨r, hr, hl⟩
    · exact List.mem_cons_self
    · exact List.mem_cons_of_mem _ (h r hr hl)
  have hlen := (List.subperm_of_subset hshape.nodup hsub).length_le
  rw [List.length_append, List.length_map, Queue.labels, List.length_map, List.length_cons] at hlen
  rw [Queue.length]
  omega

/-- Every label that a run has found declared can be read in its world. -/
theorem Supply.declared_subset (h : Supply env labels) (hruns : Runs env (start env w root) rs t) :
    ∀ r ∈ rs, r.declarations.map Declaration.label ⊆ labels t.world := by
  induction hruns with
  | nil => exact fun r hr => absurd hr List.not_mem_nil
  | @snoc rs t u r' _ hturn ih =>
    obtain ⟨c, rest, source, _, hread, hlabels, rfl⟩ := hturn.labels_eq
    have hafter := h.absorb_subset (take env t c rest) r'
    intro r hr
    rcases List.mem_append.1 hr with hr | hr
    · have hbefore := List.Subset.trans (ih r hr) (h.take_subset t c rest)
      exact List.Subset.trans hbefore hafter
    · rw [List.mem_singleton.1 hr, hlabels]
      exact List.Subset.trans (h.read_subset hread) hafter

theorem Supply.length_le (h : Supply env labels) (hruns : Runs env (start env w root) rs t) {v : W}
    (hv : labels t.world ⊆ labels v) : rs.length + t.queue.length ≤ 1 + (labels v).length :=
  hruns.length_le fun r hr => List.Subset.trans (h.declared_subset hruns r hr) hv

/-- A loop takes at most one component more than there are labels in what it reads. -/
theorem Ends.length_le {declared : List String}
    (hread : ∀ rs t c rest source, Runs env (start env w root) rs t → t.queue.pop? = some (c, rest) →
      env.read (take env t c rest).world c.path = .ok source → Source.labelsOf source ⊆ declared)
    {n : Nat} {o : Outcome W} (hends : Ends env t n o) (hruns : Runs env (start env w root) rs t)
    (hrs : ∀ r ∈ rs, r.declarations.map Declaration.label ⊆ declared) :
    rs.length + n ≤ 1 + declared.length := by
  have hlen := hruns.length_le hrs
  induction hends generalizing rs with
  | finished _ => omega
  | failed hstep =>
    -- the component that failed was waiting, so it has been counted
    obtain ⟨c, rest, hq, _, _⟩ := compile_of_step_failed hstep
    rw [Queue.length, pop?_eq_some_iff.1 hq, List.length_cons] at hlen
    omega
  | @advanced t u n o hstep _ ih =>
    obtain ⟨r, hturn⟩ := turn_of_step_advanced hstep
    have hnext : ∀ r' ∈ rs ++ [r], r'.declarations.map Declaration.label ⊆ declared := by
      intro r' hr'
      rcases List.mem_append.1 hr' with hr' | hr'
      · exact hrs r' hr'
      · obtain ⟨c, rest, source, hq, hsource, hlabels, _⟩ := hturn.labels_eq
        rw [List.mem_singleton.1 hr', hlabels]
        exact hread rs t c rest source hruns hq hsource
    have hruns' := hruns.snoc hturn
    have := ih hruns' hnext (hruns'.length_le hnext)
    rw [List.length_append, List.length_singleton] at this
    omega

/-- With a bound on the number of labels that can ever be read, the loop ends. -/
theorem Supply.ends (h : Supply env labels) {bound : Nat}
    (hbound : ∀ es : List Journal.Entry, (labels (es.foldl env.record w)).length ≤ bound)
    (hruns : Runs env (start env w root) rs t) :
    ∃ n o, Ends env t n o ∧ rs.length + n ≤ 1 + (labels o.state.world).length := by
  -- by induction on the number of components that can still come
  induction hleft : 1 + bound - rs.length using Nat.strongRecOn generalizing rs t with
  | ind left ih =>
    rcases step_cases env t with ⟨_, hstep⟩ | ⟨c, rest, e, hq, _, hstep⟩ | ⟨r, u, hturn, hstep⟩
    · have hlen := h.length_le hruns (List.Subset.refl _)
      exact ⟨0, ⟨t, none⟩, .finished hstep, by simp only; omega⟩
    · -- the component that failed was waiting, so it has been counted
      have hlen := h.length_le hruns (h.take_subset t c rest)
      rw [Queue.length, pop?_eq_some_iff.1 hq, List.length_cons] at hlen
      exact ⟨1, ⟨take env t c rest, some e⟩, .failed hstep, by simp only; omega⟩
    · have hnext := hruns.snoc hturn
      have hlen := h.length_le hnext (List.Subset.refl _)
      obtain ⟨es, hes⟩ := hnext.world_eq
      have hworld : (labels u.world).length ≤ bound := by
        rw [hes]
        exact hbound es
      rw [List.length_append, List.length_singleton] at hlen
      obtain ⟨n, o, hends, hn⟩ := ih (1 + bound - (rs ++ [r]).length)
        (by rw [List.length_append, List.length_singleton]; omega) hnext rfl
      rw [List.length_append, List.length_singleton] at hn
      exact ⟨n + 1, o, .advanced hstep hends, by omega⟩

end Discovery

namespace Builder

open Discovery

theorem supply (b : Builder) (label : Option String) (path : Option Path) :
    Supply (b.rootEnv label path) fun s => Source.declaredLabels s.disk where
  read_subset := Source.labelsOf_subset_of_read
  record_subset w e := Session.declaredLabels_subset_log w _ e

theorem length_declaredLabels_record (b : Builder) (label : Option String) (path : Option Path)
    (s : Session) (es : List Journal.Entry) :
    (Source.declaredLabels (es.foldl (b.rootEnv label path).record s).disk).length ≤
      (Source.declaredLabels s.disk).length + 1 :=
  Session.length_declaredLabels_foldl_log s _ es

/-- The discovery of a builder ends, and the steps that it is given are enough for it. -/
theorem ends_discovery (b : Builder) (label : Option String) (path : Option Path) (s : Session) :
    ∃ n o, Ends (b.rootEnv label path)
        (start (b.rootEnv label path) s (b.rootComponent label path)) n o ∧
      n ≤ 1 + (Source.declaredLabels o.state.world.disk).length ∧
      run (b.rootEnv label path) (fuelFor s.disk)
        (start (b.rootEnv label path) s (b.rootComponent label path)) = o := by
  have hbound := b.length_declaredLabels_record label path s
  obtain ⟨n, o, hends, hn⟩ := (b.supply label path).ends hbound
    (.nil (s := start (b.rootEnv label path) s (b.rootComponent label path)))
  rw [List.length_nil, Nat.zero_add] at hn
  obtain ⟨es, hes⟩ := hends.world_eq
  have hdisk : (Source.declaredLabels o.state.world.disk).length ≤
      (Source.declaredLabels s.disk).length + 1 := by
    rw [hes]
    exact hbound es
  have hfuel : n < fuelFor s.disk := by
    rw [fuelFor]
    omega
  exact ⟨n, o, hends, hn, hends.run_eq hfuel⟩

/-- The steps that a parse is given are enough for every component that waits. -/
theorem Reaches.length_lt_fuelFor {b : Builder} {label : Option String} {path : Option Path}
    {s : Session} {rs : List Compiled} {t : State Session}
    (h : b.Reaches label path s rs t) {c : Component} {rest : Queue}
    (hq : t.queue.pop? = some (c, rest)) : rs.length < fuelFor s.disk := by
  have hlen := (b.supply label path).length_le h (List.Subset.refl _)
  obtain ⟨es, hes⟩ := Runs.world_eq h
  have hdisk : (Source.declaredLabels t.world.disk).length ≤
      (Source.declaredLabels s.disk).length + 1 := by
    rw [hes]
    exact b.length_declaredLabels_record label path s es
  rw [Queue.length, pop?_eq_some_iff.1 hq, List.length_cons] at hlen
  rw [fuelFor]
  omega

theorem parse_result_of_run {b : Builder} {label : Option String} {path : Option Path} {s : Session}
    {o : Outcome Session}
    (h : run (b.rootEnv label path) (fuelFor s.disk)
      (start (b.rootEnv label path) s (b.rootComponent label path)) = o) :
    (b.parse label path s).result =
      match o.error with
      | some e => .error e
      | none => .ok o.state.store := by
  unfold rootEnv at h
  obtain ⟨t, error⟩ := o
  cases error <;> simp only [parse, discover, explore, h, log_store]

theorem parse_metrics_of_run {b : Builder} {label : Option String} {path : Option Path} {s : Session}
    {o : Outcome Session}
    (h : run (b.rootEnv label path) (fuelFor s.disk)
      (start (b.rootEnv label path) s (b.rootComponent label path)) = o) :
    (b.parse label path s).builder.metrics = o.state.metrics := by
  unfold rootEnv at h
  obtain ⟨t, error⟩ := o
  cases error <;> simp only [parse, discover, explore, h, State.log]

/-- Only a summary comes after the loop. -/
theorem parse_session_of_run {b : Builder} {label : Option String} {path : Option Path} {s : Session}
    {o : Outcome Session}
    (h : run (b.rootEnv label path) (fuelFor s.disk)
      (start (b.rootEnv label path) s (b.rootComponent label path)) = o) :
    ∃ es : List Journal.Entry,
      (b.parse label path s).session = es.foldl (b.rootEnv label path).record o.state.world := by
  unfold rootEnv at h
  obtain ⟨t, error⟩ := o
  simp only [parse, discover, explore, h]
  cases error with
  | some e => exact ⟨[], rfl⟩
  | none => exact ⟨[Discovery.completeEntry t], rfl⟩

theorem parse_session_eq (b : Builder) (label : Option String) (path : Option Path) (s : Session) :
    ∃ es : List Journal.Entry,
      (b.parse label path s).session = es.foldl (b.rootEnv label path).record s := by
  obtain ⟨n, o, hends, _, hrun⟩ := b.ends_discovery label path s
  obtain ⟨es, hes⟩ := hends.world_eq
  obtain ⟨es', hes'⟩ := parse_session_of_run hrun
  refine ⟨es ++ es', ?_⟩
  rw [hes', hes, List.foldl_append]
  rfl

/-- What is read elsewhere than in the journal declares labels of the disk that the parse was given. -/
theorem labelsOf_subset_of_reaches {b : Builder} {label : Option String} {path : Option Path}
    {s : Session} {rs : List Compiled} {t : State Session} {c : Component} {rest : Queue}
    {source : String} (h : b.Reaches label path s rs t)
    (hread : (b.rootEnv label path).read (take (b.rootEnv label path) t c rest).world c.path =
      .ok source)
    (hjournal : ¬ (take (b.rootEnv label path) t c rest).world.NamesJournal c.path) :
    Source.labelsOf source ⊆ Source.declaredLabels s.disk := by
  obtain ⟨es, hworld⟩ := Runs.take_world_eq h c rest
  rw [hworld] at hread hjournal
  exact Session.labelsOf_subset_of_not_namesJournal hread hjournal

def stateAfter (b : Builder) (label : Option String) (path : Option Path) (s : Session) (k : Nat) :
    State Session :=
  (run (b.rootEnv label path) k (start (b.rootEnv label path) s (b.rootComponent label path))).state

theorem Reaches.stateAfter_eq {b : Builder} {label : Option String} {path : Option Path} {s : Session}
    {rs : List Compiled} {t : State Session} (h : b.Reaches label path s rs t) :
    b.stateAfter label path s rs.length = t :=
  congrArg Outcome.state (Runs.run_add h 0)

/-- Whether the component that is next in a state leads to the file of the journal. -/
def takesJournal (b : Builder) (label : Option String) (path : Option Path) (t : State Session) :
    Bool :=
  t.queue.pop?.any fun p =>
    decide ((take (b.rootEnv label path) t p.1 p.2).world.NamesJournal p.1.path)

/-- Whether a component that is taken leads to the journal can be seen from the first states. -/
theorem Reaches.not_namesJournal {b : Builder} {label : Option String} {path : Option Path}
    {s : Session} {rs : List Compiled} {t : State Session} {c : Component} {rest : Queue}
    (hfirst : ∀ k < fuelFor s.disk, b.takesJournal label path (b.stateAfter label path s k) = false)
    (h : b.Reaches label path s rs t) (hq : t.queue.pop? = some (c, rest)) :
    ¬ (take (b.rootEnv label path) t c rest).world.NamesJournal c.path := by
  have hk := hfirst rs.length (h.length_lt_fuelFor hq)
  rw [h.stateAfter_eq, takesJournal, hq] at hk
  simpa using hk

/-- The loop of a discovery ends, and a parse gives its outcome. It takes at most one component more
than there are labels declared in the files, as the parse leaves them. These are the files that it was
given when the journal has no file, and otherwise they declare at most one label more. That label does
not count when no component that is taken is the file of the journal. -/
theorem parse_takes_at_most (b : Builder) (label : Option String) (path : Option Path) (s : Session) :
    ∃ n o, Ends (b.rootEnv label path)
        (start (b.rootEnv label path) s (b.rootComponent label path)) n o ∧
      (b.parse label path s).result =
        (match o.error with
        | some e => .error e
        | none => .ok o.state.store) ∧
      n ≤ 1 + (Source.declaredLabels (b.parse label path s).session.disk).length ∧
      (Source.declaredLabels (b.parse label path s).session.disk).length ≤
        (Source.declaredLabels s.disk).length + 1 ∧
      (s.journal.file = none → (b.parse label path s).session.disk = s.disk) ∧
      ((∀ rs t c rest, b.Reaches label path s rs t → t.queue.pop? = some (c, rest) →
          ¬ (take (b.rootEnv label path) t c rest).world.NamesJournal c.path) →
        n ≤ 1 + (Source.declaredLabels s.disk).length) := by
  obtain ⟨n, o, hends, hn, hrun⟩ := b.ends_discovery label path s
  obtain ⟨es', hes'⟩ := parse_session_of_run hrun
  obtain ⟨es, hsession⟩ := b.parse_session_eq label path s
  refine ⟨n, o, hends, parse_result_of_run hrun, ?_, ?_, ?_, ?_⟩
  · have hsub := (b.supply label path).foldl_subset o.state.world es'
    rw [← hes'] at hsub
    have hlen := (List.subperm_of_subset (Source.nodup_declaredLabels _) hsub).length_le
    omega
  · rw [hsession]
    exact b.length_declaredLabels_record label path s es
  · intro hfile
    rw [hsession]
    exact (Session.foldl_log_disk hfile _ es).1
  · intro hjournal
    have hlen : ([] : List Compiled).length + n ≤ 1 + (Source.declaredLabels s.disk).length :=
      hends.length_le
        (fun rs t c rest source hruns hq hread =>
          labelsOf_subset_of_reaches hruns hread (hjournal rs t c rest hruns hq))
        .nil (fun r hr => absurd hr List.not_mem_nil)
    rwa [List.length_nil, Nat.zero_add] at hlen

/-- Two components beside an open journal that keeps nothing below the highest level. -/
def journalledSession : Session :=
  { disk :=
      { entries :=
          [(["p"], .directory),
            (["p", "App.vue"],
              .file (Text.Utf8.encode "<template><script>\x7b\x7d\nimport A from './A'")),
            (["p", "A"], .file (Text.Utf8.encode "<template><script>\x7b\x7d")),
            (["p", "vno.log"], .file [])]
        cwd := ["p"]
        held := [["p", "vno.log"]] }
    home := ⟨none, []⟩
    journal :=
      { setup := 1
        level := 50
        file := some ⟨.ofParts ["p", "vno.log"], 50, .opened ["p", "vno.log"]⟩ } }

def journalledBuilder : Builder :=
  { sampleBuilder with logger := { setup := 1 } }

theorem parse_takes_at_most_journalled :
    journalledSession.journalAt? = some ["p", "vno.log"] ∧
      Source.declaredLabels journalledSession.disk = ["A"] ∧
      ∃ n o, Ends (journalledBuilder.rootEnv none none)
          (start (journalledBuilder.rootEnv none none) journalledSession
            (journalledBuilder.rootComponent none none)) n o ∧ n ≤ 2 := by
  have hlabels : Source.declaredLabels journalledSession.disk = ["A"] := by decide +kernel
  have hfirst : ∀ k < fuelFor journalledSession.disk, journalledBuilder.takesJournal none none
      (journalledBuilder.stateAfter none none journalledSession k) = false := by decide +kernel
  obtain ⟨n, o, hends, _, _, _, _, hbound⟩ :=
    parse_takes_at_most journalledBuilder none none journalledSession
  have hn := hbound fun rs t c rest h hq => h.not_namesJournal hfirst hq
  rw [hlabels] at hn
  exact ⟨rfl, hlabels, n, o, hends, hn⟩

end Builder

end Bundler
