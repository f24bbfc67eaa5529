import Bundler.Discovery
import Bundler.Proofs.Declaration

/-!
# Bundler.Proofs.Discovery.Run

Discovery as a loop without a bound on its steps:

* `Turn env s r t`: the oldest component of `s` is taken and becomes `r`, and `t` is the state after.
* `Runs env s rs t`: turns from `s` to `t`, in which the components of `rs` are compiled in order.
* `Ends env s n o`: the loop from `s` ends with outcome `o` after taking `n` components.
* `trace env fuel s`: the components that a bounded run compiles.

`Runs.shape` says what every state of a run looks like: the store holds what has been compiled, in
order, and the labels and paths of the store and of the queue are the first ones among those of the
root and of the declarations read so far.
-/

namespace Bundler

/-- The label and the path of a component. -/
def Component.pair (c : Component) : String × Path :=
  (c.label, c.path)

namespace Discovery

variable {W : Type} {env : Env W}

/-! ## Compiling -/

/-- A component with its sections and its fragment. -/
def complete (runtime : String) (sections : Sections) (c : Component) : Component :=
  { sections.fill c with
    fragment := some (Fragment.statement c.kind runtime c.label (sections.template.getD "")
      (sections.script.getD "")) }

@[simp] theorem complete_label (runtime : String) (sections : Sections) (c : Component) :
    (complete runtime sections c).label = c.label := rfl

@[simp] theorem complete_isRoot (runtime : String) (sections : Sections) (c : Component) :
    (complete runtime sections c).isRoot = c.isRoot := rfl

@[simp] theorem complete_pair (runtime : String) (sections : Sections) (c : Component) :
    (complete runtime sections c).pair = c.pair := rfl

/-- A component whose sections have been taken can always be rendered. -/
theorem render_fill (runtime : String) (sections : Sections) (c : Component) :
    Fragment.render runtime (sections.fill c) =
      .ok (Fragment.statement c.kind runtime c.label (sections.template.getD "")
        (sections.script.getD "")) := rfl

/-- What compiling a component comes to when no stage fails. -/
theorem compile_eq_ok_iff {w : W} {c : Component} {r : Compiled} :
    compile env w c = .ok r ↔
      ∃ source sections, env.read w c.path = .ok source ∧
        Sections.extract env.optional source = .ok sections ∧
        Declaration.scan env.context.projectRoot source = .ok r.declarations ∧
        r.component = complete env.context.runtime sections c := by
  constructor
  · intro h
    unfold compile at h
    split at h
    · cases h
    · rename_i source hread
      split at h
      · cases h
      · rename_i sections hsections
        simp only [render_fill] at h
        split at h
        · cases h
        · rename_i declarations hscan
          cases h
          exact ⟨source, sections, hread, hsections, hscan, rfl⟩
  · rintro ⟨source, sections, hread, hsections, hscan, hcomponent⟩
    obtain ⟨component, declarations⟩ := r
    simp only at hscan hcomponent
    simp only [compile, hread, hsections, render_fill, hscan, hcomponent]
    rfl

/-! ## Turns -/

/-- One turn of the loop. -/
inductive Turn (env : Env W) (s : State W) : Compiled → State W → Prop where
  | intro {c : Component} {rest : Queue} {r : Compiled} :
      s.queue.pop? = some (c, rest) → compile env (take env s c rest).world c = .ok r →
      Turn env s r (absorb env (take env s c rest) r)

theorem pop?_eq_none_iff {q : Queue} : q.pop? = none ↔ q.pending = [] := by
  unfold Queue.pop?
  split <;> simp_all

theorem pop?_eq_some_iff {q rest : Queue} {c : Component} :
    q.pop? = some (c, rest) ↔ q.pending = c :: rest.pending := by
  unfold Queue.pop?
  split
  · rename_i h
    simp [h]
  · rename_i c' cs h
    constructor
    · intro he
      cases he
      exact h
    · intro he
      rw [h] at he
      cases he
      rfl

theorem step_of_compile_ok {s : State W} {c : Component} {rest : Queue} {r : Compiled}
    (h : s.queue.pop? = some (c, rest)) (hc : compile env (take env s c rest).world c = .ok r) :
    step env s = .advanced (absorb env (take env s c rest) r) := by
  simp only [step, h, hc]

theorem step_of_compile_error {s : State W} {c : Component} {rest : Queue} {e : BuildError}
    (h : s.queue.pop? = some (c, rest)) (hc : compile env (take env s c rest).world c = .error e) :
    step env s = .failed e (take env s c rest) := by
  simp only [step, h, hc]

/-- Everything that a step can come to. -/
theorem step_cases (env : Env W) (s : State W) :
    (s.queue.pending = [] ∧ step env s = .finished) ∨
    (∃ c rest e, s.queue.pop? = some (c, rest) ∧
      compile env (take env s c rest).world c = .error e ∧
      step env s = .failed e (take env s c rest)) ∨
    ∃ r t, Turn env s r t ∧ step env s = .advanced t := by
  cases hq : s.queue.pop? with
  | none => exact .inl ⟨pop?_eq_none_iff.1 hq, by simp only [step, hq]⟩
  | some p =>
    obtain ⟨c, rest⟩ := p
    cases hc : compile env (take env s c rest).world c with
    | error e => exact .inr (.inl ⟨c, rest, e, rfl, hc, step_of_compile_error hq hc⟩)
    | ok r => exact .inr (.inr ⟨r, _, .intro hq hc, step_of_compile_ok hq hc⟩)

theorem pending_of_step_finished {s : State W} (h : step env s = .finished) :
    s.queue.pending = [] := by
  rcases step_cases env s with ⟨hq, _⟩ | ⟨c, rest, e, _, _, he⟩ | ⟨r, t, _, he⟩
  · exact hq
  · rw [h] at he
    cases he
  · rw [h] at he
    cases he

theorem compile_of_step_failed {s t : State W} {e : BuildError} (h : step env s = .failed e t) :
    ∃ c rest, s.queue.pop? = some (c, rest) ∧
      compile env (take env s c rest).world c = .error e ∧ t = take env s c rest := by
  rcases step_cases env s with ⟨_, he⟩ | ⟨c, rest, e', hq, hc, he⟩ | ⟨r, u, _, he⟩
  · rw [h] at he
    cases he
  · rw [h] at he
    cases he
    exact ⟨c, rest, hq, hc, rfl⟩
  · rw [h] at he
    cases he

theorem turn_of_step_advanced {s t : State W} (h : step env s = .advanced t) :
    ∃ r, Turn env s r t := by
  rcases step_cases env s with ⟨_, he⟩ | ⟨c, rest, e, _, _, he⟩ | ⟨r, u, hturn, he⟩
  · rw [h] at he
    cases he
  · rw [h] at he
    cases he
  · rw [h] at he
    cases he
    exact ⟨r, hturn⟩

theorem Turn.step_eq {s t : State W} {r : Compiled} (h : Turn env s r t) :
    step env s = .advanced t := by
  obtain ⟨hq, hc⟩ := h
  exact step_of_compile_ok hq hc

/-! ## Runs -/

/-- Turns one after the other. -/
inductive Runs (env : Env W) (s : State W) : List Compiled → State W → Prop where
  | nil : Runs env s [] s
  | snoc {rs : List Compiled} {t u : State W} {r : Compiled} :
      Runs env s rs t → Turn env t r u → Runs env s (rs ++ [r]) u

/-- The loop from a state ends, after the given number of components have been taken. -/
inductive Ends (env : Env W) : State W → Nat → Outcome W → Prop where
  | finished {s : State W} : step env s = .finished → Ends env s 0 ⟨s, none⟩
  | failed {s t : State W} {e : BuildError} : step env s = .failed e t → Ends env s 1 ⟨t, some e⟩
  | advanced {s t : State W} {n : Nat} {o : Outcome W} :
      step env s = .advanced t → Ends env t n o → Ends env s (n + 1) o

/-- A bounded run with steps to spare is the whole loop. -/
theorem Ends.run_eq {s : State W} {n fuel : Nat} {o : Outcome W} (h : Ends env s n o)
    (hn : n < fuel) : run env fuel s = o := by
  induction h generalizing fuel with
  | finished hs =>
    obtain ⟨fuel, rfl⟩ := Nat.exists_eq_add_one.2 (Nat.zero_lt_of_lt hn)
    simp only [run, hs]
  | failed hs =>
    obtain ⟨fuel, rfl⟩ := Nat.exists_eq_add_one.2 (Nat.zero_lt_of_lt hn)
    simp only [run, hs]
  | advanced hs _ ih =>
    obtain ⟨fuel, rfl⟩ := Nat.exists_eq_add_one.2 (Nat.zero_lt_of_lt hn)
    simp only [run, hs]
    exact ih (by omega)

theorem Runs.run_add {s t : State W} {rs : List Compiled} (h : Runs env s rs t) :
    ∀ n : Nat, run env (rs.length + n) s = run env n t := by
  induction h with
  | nil => simp
  | @snoc rs t u r _ hturn ih =>
    intro n
    have hlen : (rs ++ [r]).length + n = rs.length + (n + 1) := by simp; omega
    rw [hlen, ih (n + 1)]
    simp [run, hturn.step_eq]

/-- A loop that ends without an error has emptied the queue. -/
theorem Ends.pending_eq_nil {s t : State W} {n : Nat} (h : Ends env s n ⟨t, none⟩) :
    t.queue.pending = [] := by
  generalize ho : (⟨t, none⟩ : Outcome W) = o at h
  induction h with
  | finished hs =>
    cases ho
    exact pending_of_step_finished hs
  | failed _ => cases ho
  | advanced _ _ ih => exact ih ho

/-- The components that a bounded run compiles, in order. -/
def trace (env : Env W) : (fuel : Nat) → State W → List Compiled
  | 0, _ => []
  | fuel + 1, s =>
    match s.queue.pop? with
    | none => []
    | some (c, rest) =>
      match compile env (take env s c rest).world c with
      | .error _ => []
      | .ok r => r :: trace env fuel (absorb env (take env s c rest) r)

theorem Turn.trace_succ {s t : State W} {r : Compiled} (h : Turn env s r t) (fuel : Nat) :
    trace env (fuel + 1) s = r :: trace env fuel t := by
  obtain ⟨hq, hc⟩ := h
  simp only [trace, hq, hc]

theorem Runs.append_trace {s₀ s : State W} {rs : List Compiled} (hs₀ : Runs env s₀ rs s) {fuel : Nat}
    (h : (run env fuel s).error = none) :
    Runs env s₀ (rs ++ trace env fuel s) (run env fuel s).state := by
  induction fuel generalizing rs s with
  | zero => simpa [trace, run] using hs₀
  | succ fuel ih =>
    rcases step_cases env s with ⟨hq, hs⟩ | ⟨c, rest, e, _, _, hs⟩ | ⟨r, t, hturn, hs⟩
    · simpa [trace, pop?_eq_none_iff.2 hq, run, hs] using hs₀
    · simp [run, hs] at h
    · simp only [run, hs] at h ⊢
      rw [hturn.trace_succ, List.append_cons]
      exact ih (hs₀.snoc hturn) h

/-- A bounded run without an error goes through its trace. -/
theorem runs_trace {s : State W} {fuel : Nat} (h : (run env fuel s).error = none) :
    Runs env s (trace env fuel s) (run env fuel s).state := by
  simpa using Runs.append_trace .nil h

/-! ## The shape of a run -/

@[simp] theorem log_queue (es : List Journal.Entry) (s : State W) :
    (s.log env es).queue = s.queue := rfl

@[simp] theorem log_store (es : List Journal.Entry) (s : State W) :
    (s.log env es).store = s.store := rfl

@[simp] theorem take_queue (s : State W) (c : Component) (rest : Queue) :
    (take env s c rest).queue = rest := rfl

@[simp] theorem take_store (s : State W) (c : Component) (rest : Queue) :
    (take env s c rest).store = s.store := rfl

/-- The declarations of a compiled component whose labels are not in use. -/
def newDeclarations (s : State W) (r : Compiled) : List Declaration :=
  (Declaration.resolve (known s r.component) r.declarations).1

@[simp] theorem absorb_queue (s : State W) (r : Compiled) :
    (absorb env s r).queue.pending =
      s.queue.pending ++ (newDeclarations s r).map ofDeclaration := rfl

@[simp] theorem absorb_store (s : State W) (r : Compiled) :
    (absorb env s r).store = s.store.put r.component.label r.component := rfl

theorem mem_keys_known (s : State W) (c : Component) (l : String) :
    l ∈ Keyed.keys (known s c) ↔ l = c.label ∨ l ∈ s.queue.labels ∨ l ∈ s.store.labels := by
  have hkeys : Keyed.keys (known s c) = c.label :: (Keyed.keys s.queue.paths ++ s.store.labels) := by
    simp [known, Keyed.keys, Store.paths, Store.labels, Function.comp_def]
  have hqueue : l ∈ Keyed.keys s.queue.paths ↔ l ∈ s.queue.labels := by
    rw [Queue.paths, Keyed.mem_keys_putAll]
    simp [Keyed.keys, Queue.labels, Function.comp_def]
  rw [hkeys, List.mem_cons, List.mem_append, hqueue]

/-- The labels and paths that a run has read: that of the root, then those of the declarations of the
compiled components. -/
def readPairs (root : Component) (rs : List Compiled) : List (String × Path) :=
  root.pair :: rs.flatMap fun r => r.declarations.map Declaration.pair

theorem readPairs_snoc (root : Component) (rs : List Compiled) (r : Compiled) :
    readPairs root (rs ++ [r]) = readPairs root rs ++ r.declarations.map Declaration.pair := by
  simp [readPairs]

theorem keys_readPairs (root : Component) (rs : List Compiled) :
    Keyed.keys (readPairs root rs) =
      root.label :: rs.flatMap fun r => r.declarations.map Declaration.label := by
  simp only [readPairs, Keyed.keys, Component.pair, Declaration.pair, List.map_cons,
    List.map_flatMap, List.map_map, Function.comp_def]

theorem mem_keys_readPairs {root : Component} {rs : List Compiled} {l : String} :
    l ∈ Keyed.keys (readPairs root rs) ↔
      l = root.label ∨ ∃ r ∈ rs, l ∈ r.declarations.map Declaration.label := by
  rw [keys_readPairs, List.mem_cons, List.mem_flatMap]

/-- What a run has done so far: `rs` has been compiled, and `t` is the state. -/
structure Shape (env : Env W) (root : Component) (rs : List Compiled) (t : State W) : Prop where
  /-- The store holds what has been compiled, in order. -/
  store_eq : t.store =
    { context := env.context
      entries := rs.map fun r => (r.component.label, r.component)
      root := root
      size := rs.length }
  /-- Of every label that has been read, store and queue have the first path. -/
  pairs_eq : (rs.map Compiled.component ++ t.queue.pending).map Component.pair =
    Keyed.firsts (readPairs root rs)
  /-- The root comes first, and no other component is marked as one. -/
  root_eq : ∃ c cs, rs.map Compiled.component ++ t.queue.pending = c :: cs ∧
    c.pair = root.pair ∧ c.isRoot = root.isRoot ∧ ∀ d ∈ cs, d.isRoot = false

theorem shape_start (w : W) (root : Component) : Shape env root [] (start env w root) where
  store_eq := rfl
  pairs_eq := rfl
  root_eq := ⟨root, [], rfl, rfl, rfl, by simp⟩

namespace Shape

variable {root : Component} {rs : List Compiled} {t : State W}

theorem labels_eq (h : Shape env root rs t) :
    rs.map (fun r => r.component.label) ++ t.queue.labels =
      Keyed.keys (Keyed.firsts (readPairs root rs)) := by
  rw [← h.pairs_eq, Keyed.keys]
  simp [Queue.labels, Component.pair, Function.comp_def]

/-- No label has been compiled twice, waits twice, or waits after it has been compiled. -/
theorem nodup (h : Shape env root rs t) :
    (rs.map (fun r => r.component.label) ++ t.queue.labels).Nodup := by
  rw [h.labels_eq]
  exact Keyed.nodup_keys_firsts _

theorem store_labels (h : Shape env root rs t) :
    t.store.labels = rs.map fun r => r.component.label := by
  rw [h.store_eq]
  simp [Store.labels, Keyed.keys, Function.comp_def]

theorem store_records (h : Shape env root rs t) : t.store.records = rs.map Compiled.component := by
  rw [h.store_eq]
  simp [Store.records, Function.comp_def]

theorem store_paths (h : Shape env root rs t) :
    t.store.paths = (rs.map Compiled.component).map Component.pair := by
  rw [h.store_eq]
  simp [Store.paths, Component.pair, Function.comp_def]

/-- The labels in use are those that the run has read. -/
theorem mem_keys_known_take (h : Shape env root rs t) {c c' : Component} {rest : Queue}
    (hq : t.queue.pop? = some (c, rest)) (hc : c'.label = c.label) (l : String) :
    l ∈ Keyed.keys (known (take env t c rest) c') ↔ l ∈ Keyed.keys (readPairs root rs) := by
  rw [← Keyed.mem_keys_firsts l (readPairs root rs), ← h.labels_eq, mem_keys_known, take_store,
    h.store_labels, take_queue, Queue.labels, Queue.labels, pop?_eq_some_iff.1 hq, hc, List.map_cons,
    List.mem_append, List.mem_cons]
  tauto

theorem map_pair_newDeclarations (h : Shape env root rs t) {c : Component} {rest : Queue}
    {r : Compiled} (hq : t.queue.pop? = some (c, rest)) (hc : r.component.label = c.label) :
    (newDeclarations (take env t c rest) r).map Declaration.pair =
      (Keyed.firsts (r.declarations.map Declaration.pair)).filter fun p =>
        !(Keyed.keys (readPairs root rs)).contains p.1 := by
  rw [newDeclarations, Declaration.map_pair_resolve]
  refine List.filter_congr fun p _ => ?_
  have hp := h.mem_keys_known_take hq hc p.1
  rw [Bool.eq_iff_iff]
  simp [hp]

/-- A turn keeps the shape. -/
theorem turn (h : Shape env root rs t) {r : Compiled} {u : State W} (hturn : Turn env t r u) :
    Shape env root (rs ++ [r]) u := by
  obtain ⟨hq, hcompile⟩ := hturn
  rename_i c rest
  obtain ⟨source, sections, _, _, _, hcomponent⟩ := compile_eq_ok_iff.1 hcompile
  have hlabel : r.component.label = c.label := by rw [hcomponent, complete_label]
  have hpair : r.component.pair = c.pair := by rw [hcomponent, complete_pair]
  have hroot : r.component.isRoot = c.isRoot := by rw [hcomponent, complete_isRoot]
  have hpending : t.queue.pending = c :: rest.pending := pop?_eq_some_iff.1 hq
  refine ⟨?_, ?_, ?_⟩
  · -- the label is in the queue, so the store does not have it yet
    have hnew : c.label ∉ t.store.labels := by
      have hnodup := h.nodup
      rw [← h.store_labels, Queue.labels, hpending, List.map_cons] at hnodup
      exact fun hmem => (List.disjoint_of_nodup_append hnodup) hmem List.mem_cons_self
    rw [absorb_store, take_store, Store.put, hlabel, Keyed.put_of_notMem hnew, h.store_eq]
    simp [hlabel]
  · have hpairs := h.pairs_eq
    rw [hpending, List.map_append, List.map_cons] at hpairs
    have hof : (fun d => (ofDeclaration d).pair) = Declaration.pair := rfl
    rw [absorb_queue, take_queue, readPairs_snoc, Keyed.firsts_append, ← hpairs,
      ← h.map_pair_newDeclarations hq hlabel]
    simp [hpair, Function.comp_def, hof]
  · obtain ⟨c₀, cs, hfound, hpair₀, hroot₀, hcs⟩ := h.root_eq
    rw [hpending] at hfound
    rw [absorb_queue, take_queue, List.map_append, List.map_singleton, List.append_assoc]
    have hnew : ∀ d ∈ (newDeclarations (take env t c rest) r).map ofDeclaration, d.isRoot = false := by
      intro d hd
      obtain ⟨x, _, rfl⟩ := List.mem_map.1 hd
      rfl
    -- the component that was taken is the root only when nothing has been compiled yet
    cases hrs : rs.map Compiled.component with
    | nil =>
      rw [hrs, List.nil_append, List.cons.injEq] at hfound
      obtain ⟨rfl, rfl⟩ := hfound
      refine ⟨r.component, rest.pending ++ _, rfl, hpair.trans hpair₀, hroot.trans hroot₀, ?_⟩
      intro d hd
      rcases List.mem_append.1 hd with hd | hd
      · exact hcs d hd
      · exact hnew d hd
    | cons c₁ cs₁ =>
      rw [hrs, List.cons_append, List.cons.injEq] at hfound
      obtain ⟨rfl, rfl⟩ := hfound
      refine ⟨_, _, List.cons_append, hpair₀, hroot₀, ?_⟩
      intro d hd
      simp only [List.singleton_append, List.mem_append, List.mem_cons] at hd
      rcases hd with hd | rfl | hd | hd
      · exact hcs d (by simp [hd])
      · rw [hroot]
        exact hcs c (by simp)
      · exact hcs d (by simp [hd])
      · exact hnew d hd

end Shape

/-- Every state of a run has this shape. -/
theorem Runs.shape {w : W} {root : Component} {rs : List Compiled} {t : State W}
    (h : Runs env (start env w root) rs t) : Shape env root rs t := by
  induction h with
  | nil => exact shape_start w root
  | snoc _ hturn ih => exact ih.turn hturn

end Discovery

end Bundler
