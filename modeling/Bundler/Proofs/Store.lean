import Bundler.Proofs.Keyed
import Bundler.Store
import Mathlib.Data.Finset.Card

/-!
# Bundler.Proofs.Store

A store as a log of what has been put into it. Whatever is done with a store, its answers can be read off
the puts alone: of every label the last one counts, at the place of the first one.

* `Operation`, `Question`: what can be done with a store and what it can be asked.
* `Log.answer log q`: the answer that a log of puts gives.
* `Follows s log`: the store has taken in the log; `Follows.apply` is one operation, `Follows.run` all.
* `answer_run_eq_log`: every answer of a store is that of its log.
-/

namespace Bundler

theorem Keyed.length_firsts {β : Type} (xs : List (String × β)) :
    (Keyed.firsts xs).length = (Keyed.keys xs).toFinset.card := by
  have hset : (Keyed.keys xs).toFinset = (Keyed.keys (Keyed.firsts xs)).toFinset := by
    ext k
    simp [Keyed.mem_keys_firsts]
  rw [hset, List.toFinset_card_of_nodup (Keyed.nodup_keys_firsts xs), Keyed.keys, List.length_map]

namespace Store

/-! ## Questions and operations -/

inductive Question where
  | get (label : String)
  | contains (label : String)
  | labels
  | records
  | paths
  | length
  | size

/-- What the answer to a question is. -/
abbrev Question.Answer : Question → Type
  | .get _ => Option Component
  | .contains _ => Bool
  | .labels => List String
  | .records => List Component
  | .paths => List (String × Path)
  | .length => Nat
  | .size => Nat

def answer (s : Store) : (q : Question) → q.Answer
  | .get l => s.get? l
  | .contains l => s.contains l
  | .labels => s.labels
  | .records => s.records
  | .paths => s.paths
  | .length => s.length
  | .size => s.size

/-- What can be done with a store. The label of a put need not be that of the component. -/
inductive Operation where
  | put (label : String) (c : Component)
  | setRoot (c : Component)
  | setContext (x : Context)
  | ask (q : Question)

def apply (s : Store) : Operation → Store
  | .put l c => s.put l c
  | .setRoot c => { s with root := some c }
  | .setContext x => { s with context := x }
  | .ask _ => s

def run (s : Store) (ops : List Operation) : Store :=
  ops.foldl apply s

/-! ## The log -/

/-- A log of puts, the first one first. -/
abbrev Log := List (String × Component)

namespace Log

/-- The component of the last put under a label. -/
def last? (log : Log) (l : String) : Option Component :=
  log.reverse.lookup l

/-- The labels of a log, each at the place of its first put. -/
def labels (log : Log) : List String :=
  Keyed.keys (Keyed.firsts log)

def answer (log : Log) : (q : Question) → q.Answer
  | .get l => log.last? l
  | .contains l => (Keyed.keys log).contains l
  | .labels => log.labels
  | .records => log.labels.filterMap log.last?
  | .paths => log.labels.filterMap fun l => (log.last? l).map fun c => (l, c.path)
  | .length => (Keyed.keys log).toFinset.card
  | .size => log.length

/-- What an operation adds to a log. -/
def entry : Operation → Log
  | .put l c => [(l, c)]
  | _ => []

/-- The puts among some operations. -/
def ofOperations (ops : List Operation) : Log :=
  ops.flatMap entry

end Log

/-- The store has taken in the log, and nothing else. -/
structure Follows (s : Store) (log : Log) : Prop where
  entries : s.entries = Keyed.putAll log []
  size : s.size = log.length

theorem follows_new (x : Context) : Follows { context := x } [] :=
  ⟨rfl, rfl⟩

theorem Follows.apply {s : Store} {log : Log} (h : Follows s log) (op : Operation) :
    Follows (s.apply op) (log ++ Log.entry op) := by
  cases op with
  | put l c =>
    constructor
    · simp [Store.apply, Store.put, Log.entry, Keyed.putAll, List.foldl_append, h.entries]
    · simp [Store.apply, Store.put, Log.entry, h.size]
  | setRoot c => simpa [Log.entry] using ⟨h.entries, h.size⟩
  | setContext x => simpa [Log.entry] using ⟨h.entries, h.size⟩
  | ask q => simpa [Log.entry] using ⟨h.entries, h.size⟩

theorem Follows.run {s : Store} {log : Log} (h : Follows s log) (ops : List Operation) :
    Follows (s.run ops) (log ++ Log.ofOperations ops) := by
  induction ops generalizing s log with
  | nil => simpa [Log.ofOperations] using ⟨h.entries, h.size⟩
  | cons op ops ih =>
    have hrest := ih (h.apply op)
    rwa [List.append_assoc] at hrest

namespace Follows

variable {s : Store} {log : Log}

theorem get? (h : Follows s log) (l : String) : s.get? l = log.last? l := by
  rw [Store.get?, h.entries, Keyed.lookup_putAll, Log.last?]
  simp

theorem labels (h : Follows s log) : s.labels = log.labels := by
  rw [Store.labels, h.entries, Keyed.keys_putAll_nil, Log.labels]

theorem nodup (h : Follows s log) : (Keyed.keys s.entries).Nodup := by
  rw [h.entries, Keyed.keys_putAll_nil]
  exact Keyed.nodup_keys_firsts log

/-- What is listed of the components, label by label. -/
theorem map_entries (h : Follows s log) {γ : Type} (f : String × Component → γ) :
    s.entries.map f = log.labels.filterMap fun l => (log.last? l).map fun c => f (l, c) := by
  rw [Keyed.map_eq_filterMap_lookup h.nodup, ← h.labels, Store.labels]
  refine List.filterMap_congr fun l _ => ?_
  rw [← h.get?, Store.get?]

theorem answer (h : Follows s log) (q : Question) : s.answer q = log.answer q := by
  cases q with
  | get l => exact h.get? l
  | contains l =>
    have hmem : l ∈ s.labels ↔ l ∈ Keyed.keys log := by
      rw [h.labels, Log.labels, Keyed.mem_keys_firsts]
    simp [Store.answer, Store.contains, Log.answer, hmem]
  | labels => exact h.labels
  | records =>
    have hrecords := h.map_entries Prod.snd
    simpa [Store.answer, Store.records, Log.answer] using hrecords
  | paths => exact h.map_entries fun p => (p.1, p.2.path)
  | length =>
    have hlength : s.entries.length = (Keyed.firsts log).length := by
      simpa [Store.labels, Log.labels, Keyed.keys] using congrArg List.length h.labels
    exact hlength.trans (Keyed.length_firsts log)
  | size => exact h.size

end Follows

/-- There are as many puts as labels exactly when no label has been put twice. -/
theorem Log.card_keys_eq_length_iff (log : Log) :
    (Keyed.keys log).toFinset.card = log.length ↔ (Keyed.keys log).Nodup := by
  rw [← List.length_map Prod.fst, ← Keyed.keys]
  constructor
  · intro h
    rw [List.card_toFinset] at h
    exact List.dedup_eq_self.1 ((List.dedup_sublist _).eq_of_length h)
  · exact List.toFinset_card_of_nodup

/-- After any operations on a new store, every answer is that of the log of its puts: a label has the
component of its last put, and stands where it was put first. There are never more labels than puts, and
as many exactly when no label has been put twice. A root or a context that is set changes no answer, then
or later. -/
theorem answer_run_eq_log (x : Context) (ops : List Operation) :
    (∀ q, (run { context := x } ops).answer q = (Log.ofOperations ops).answer q) ∧
    (run { context := x } ops).length ≤ (run { context := x } ops).size ∧
    ((run { context := x } ops).length = (run { context := x } ops).size ↔
      (Keyed.keys (Log.ofOperations ops)).Nodup) ∧
    ∀ c y later q,
      (run { context := x } (ops ++ .setRoot c :: later)).answer q =
        (run { context := x } (ops ++ later)).answer q ∧
      (run { context := x } (ops ++ .setContext y :: later)).answer q =
        (run { context := x } (ops ++ later)).answer q := by
  have hanswer : ∀ ops q, (run { context := x } ops).answer q = (Log.ofOperations ops).answer q :=
    fun ops q => ((follows_new x).run ops).answer q
  have hlength : (run { context := x } ops).length = (Keyed.keys (Log.ofOperations ops)).toFinset.card :=
    hanswer ops .length
  have hsize : (run { context := x } ops).size = (Log.ofOperations ops).length := hanswer ops .size
  refine ⟨hanswer ops, ?_, ?_, fun c y later q => ⟨?_, ?_⟩⟩
  · rw [hlength, hsize, ← List.length_map Prod.fst]
    exact List.toFinset_card_le _
  · rw [hlength, hsize, Log.card_keys_eq_length_iff]
  · rw [hanswer, hanswer]
    simp [Log.ofOperations, Log.entry]
  · rw [hanswer, hanswer]
    simp [Log.ofOperations, Log.entry]

end Store

end Bundler
