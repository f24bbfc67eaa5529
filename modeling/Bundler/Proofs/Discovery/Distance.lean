import Bundler.Proofs.Discovery.Order

/-!
# Bundler.Proofs.Discovery.Distance

How far the components of a store lie from the root. A component is one declaration further than the
one that declares it; its distance is the least number of declarations that lead to it.

* `Discovery.ReachedIn root rs n l`: `n` declarations lead from the root to the label `l`.
* `Discovery.IsDistance`: no fewer do.
* `Discovery.Layers`: what the loop keeps. The components lie in layers; those that wait lie in the
  layer of the oldest of them and in the next one.
* `Builder.parse_distance_le`: a parse stores everything that can be reached, nearest first.
-/

namespace Bundler

namespace Discovery

def Declares (rs : List Compiled) (u v : String) : Prop :=
  ∃ r ∈ rs, r.component.label = u ∧ v ∈ r.declarations.map Declaration.label

/-- A number of declarations, one after the other, leads from the root to a label. -/
inductive ReachedIn (root : String) (rs : List Compiled) : Nat → String → Prop where
  | root : ReachedIn root rs 0 root
  | declared {n : Nat} {u v : String} :
      ReachedIn root rs n u → Declares rs u v → ReachedIn root rs (n + 1) v

structure IsDistance (root : String) (rs : List Compiled) (l : String) (n : Nat) : Prop where
  reached : ReachedIn root rs n l
  le_of_reached : ∀ m, ReachedIn root rs m l → n ≤ m

theorem IsDistance.unique {root l : String} {rs : List Compiled} {m n : Nat}
    (hm : IsDistance root rs l m) (hn : IsDistance root rs l n) : m = n :=
  Nat.le_antisymm (hm.le_of_reached n hn.reached) (hn.le_of_reached m hm.reached)

theorem Declares.append {rs : List Compiled} {u v : String} (h : Declares rs u v)
    (more : List Compiled) : Declares (rs ++ more) u v := by
  obtain ⟨r, hr, hu, hv⟩ := h
  exact ⟨r, List.mem_append_left _ hr, hu, hv⟩

theorem declares_snoc {rs : List Compiled} {r : Compiled} {u v : String} :
    Declares (rs ++ [r]) u v ↔ Declares rs u v ∨
      (r.component.label = u ∧ v ∈ r.declarations.map Declaration.label) := by
  constructor
  · rintro ⟨x, hx, hu, hv⟩
    rcases List.mem_append.1 hx with hx | hx
    · exact .inl ⟨x, hx, hu, hv⟩
    · rw [List.mem_singleton] at hx
      subst hx
      exact .inr ⟨hu, hv⟩
  · rintro (h | ⟨hu, hv⟩)
    · exact h.append _
    · exact ⟨r, List.mem_append_right _ List.mem_cons_self, hu, hv⟩

theorem ReachedIn.append {root l : String} {rs : List Compiled} {n : Nat}
    (h : ReachedIn root rs n l) (more : List Compiled) : ReachedIn root (rs ++ more) n l := by
  induction h with
  | root => exact .root
  | declared _ hd ih => exact .declared ih (hd.append more)

/-! ## Layers -/

def labelsOf (rs : List Compiled) : List String :=
  rs.map fun r => r.component.label

/-- Compiled and waiting labels lie in layers: `depth` says in which. -/
structure Layers (root : String) (rs : List Compiled) (waiting : List String)
    (depth : String → Nat) : Prop where
  root_mem : root ∈ labelsOf rs ++ waiting
  depth_root : depth root = 0
  reached : ∀ l ∈ labelsOf rs ++ waiting, ReachedIn root rs (depth l) l
  ordered : (labelsOf rs ++ waiting).Pairwise fun k l => depth k ≤ depth l
  /-- Nothing lies more than one layer beyond a label that waits. -/
  span : ∀ k ∈ labelsOf rs ++ waiting, ∀ l ∈ waiting, depth k ≤ depth l + 1
  /-- What has been declared has been found, at most one layer further. -/
  declared : ∀ u v, Declares rs u v → v ∈ labelsOf rs ++ waiting ∧ depth v ≤ depth u + 1

theorem layers_start (root : String) : Layers root [] [root] fun _ => 0 where
  root_mem := List.mem_singleton_self root
  depth_root := rfl
  reached l hl := by
    rw [labelsOf, List.map_nil, List.nil_append, List.mem_singleton] at hl
    subst hl
    exact .root
  ordered := by simp [labelsOf]
  span := by simp
  declared := by simp [Declares]

/-- The layers once the labels `new` have been found from the label `c`. -/
def deepen (depth : String → Nat) (c : String) (new : List String) (l : String) : Nat :=
  if l ∈ new then depth c + 1 else depth l

theorem deepen_of_mem {depth : String → Nat} {c l : String} {new : List String} (h : l ∈ new) :
    deepen depth c new l = depth c + 1 :=
  if_pos h

theorem deepen_of_notMem {depth : String → Nat} {c l : String} {new : List String} (h : l ∉ new) :
    deepen depth c new l = depth l :=
  if_neg h

/-- The oldest label leaves the queue, and of what it declares the labels that were not there join
it. -/
theorem Layers.turn {root c : String} {rs : List Compiled} {rest new : List String}
    {depth : String → Nat} {r : Compiled} (h : Layers root rs (c :: rest) depth)
    (hlabel : r.component.label = c) (hfresh : ∀ l ∈ new, l ∉ labelsOf rs ++ c :: rest)
    (hnew : ∀ l ∈ new, l ∈ r.declarations.map Declaration.label)
    (hknown : ∀ l ∈ r.declarations.map Declaration.label, l ∈ (labelsOf rs ++ c :: rest) ++ new) :
    Layers root (rs ++ [r]) (rest ++ new) (deepen depth c new) := by
  have hfound : labelsOf (rs ++ [r]) ++ (rest ++ new) = (labelsOf rs ++ c :: rest) ++ new := by
    simp [labelsOf, hlabel]
  have hold : ∀ {l}, l ∈ labelsOf rs ++ c :: rest → deepen depth c new l = depth l := fun hl =>
    deepen_of_notMem fun hmem => hfresh _ hmem hl
  have hc : c ∈ labelsOf rs ++ c :: rest := List.mem_append_right _ List.mem_cons_self
  -- `c` waits, so nothing that has been found lies more than one layer beyond it
  have hspan : ∀ {l}, l ∈ labelsOf rs ++ c :: rest → depth l ≤ depth c + 1 := fun hl =>
    h.span _ hl c List.mem_cons_self
  have hrest : ∀ {l}, l ∈ rest → depth c ≤ depth l := fun hl =>
    List.rel_of_pairwise_cons (List.pairwise_append.1 h.ordered).2.1 hl
  have hmem : ∀ {l}, l ∈ rest → l ∈ labelsOf rs ++ c :: rest := fun hl =>
    List.mem_append_right _ (List.mem_cons_of_mem _ hl)
  constructor
  case root_mem =>
    rw [hfound]
    exact List.mem_append_left _ h.root_mem
  case depth_root =>
    rw [hold h.root_mem]
    exact h.depth_root
  case reached =>
    intro l hl
    rw [hfound] at hl
    rcases List.mem_append.1 hl with hl | hl
    · rw [hold hl]
      exact (h.reached l hl).append _
    · rw [deepen_of_mem hl]
      exact .declared ((h.reached c hc).append _) (declares_snoc.2 (.inr ⟨hlabel, hnew l hl⟩))
  case ordered =>
    rw [hfound, List.pairwise_append]
    refine ⟨?_, ?_, ?_⟩
    · refine h.ordered.imp_of_mem fun hk hl hle => ?_
      rw [hold hk, hold hl]
      exact hle
    · refine List.pairwise_of_forall_mem_list fun k hk l hl => ?_
      exact Nat.le_of_eq ((deepen_of_mem hk).trans (deepen_of_mem hl).symm)
    · intro k hk l hl
      rw [hold hk, deepen_of_mem hl]
      exact hspan hk
  case span =>
    intro k hk l hl
    rw [hfound] at hk
    rcases List.mem_append.1 hk with hk | hk <;> rcases List.mem_append.1 hl with hl | hl
    · rw [hold hk, hold (hmem hl)]
      exact h.span k hk l (List.mem_cons_of_mem _ hl)
    · rw [hold hk, deepen_of_mem hl]
      exact Nat.le_succ_of_le (hspan hk)
    · rw [deepen_of_mem hk, hold (hmem hl)]
      exact Nat.succ_le_succ (hrest hl)
    · rw [deepen_of_mem hk, deepen_of_mem hl]
      exact Nat.le_succ _
  case declared =>
    intro u v huv
    rw [hfound]
    rcases declares_snoc.1 huv with hdeclares | ⟨rfl, hv⟩
    · -- declared before: both ends keep their layers
      obtain ⟨hv, hle⟩ := h.declared u v hdeclares
      have hu : u ∈ labelsOf rs ++ c :: rest := by
        obtain ⟨x, hx, rfl, _⟩ := hdeclares
        exact List.mem_append_left _ (List.mem_map_of_mem hx)
      rw [hold hv, hold hu]
      exact ⟨List.mem_append_left _ hv, hle⟩
    · refine ⟨hknown v hv, ?_⟩
      rw [hlabel, hold hc]
      rcases List.mem_append.1 (hknown v hv) with hv | hv
      · rw [hold hv]
        exact hspan hv
      · exact Nat.le_of_eq (deepen_of_mem hv)

/-- When nothing waits, whatever can be reached has been found, in a layer that is near enough. -/
theorem Layers.depth_le {root l : String} {rs : List Compiled} {depth : String → Nat} {n : Nat}
    (h : Layers root rs [] depth) (hl : ReachedIn root rs n l) :
    l ∈ labelsOf rs ∧ depth l ≤ n := by
  induction hl with
  | root =>
    have hroot := h.root_mem
    rw [List.append_nil] at hroot
    exact ⟨hroot, Nat.le_of_eq h.depth_root⟩
  | declared _ hd ih =>
    obtain ⟨hv, hle⟩ := h.declared _ _ hd
    rw [List.append_nil] at hv
    exact ⟨hv, Nat.le_trans hle (Nat.succ_le_succ ih.2)⟩

theorem Layers.isDistance {root l : String} {rs : List Compiled} {depth : String → Nat}
    (h : Layers root rs [] depth) (hl : l ∈ labelsOf rs) : IsDistance root rs l (depth l) :=
  ⟨h.reached l (List.mem_append_left _ hl), fun _ hm => (h.depth_le hm).2⟩

variable {W : Type} {env : Env W}

theorem label_mem_of_mem_newDeclarations {s : State W} {r : Compiled} {d : Declaration}
    (h : d ∈ newDeclarations s r) : d.label ∈ r.declarations.map Declaration.label := by
  have hkept : d.pair ∈ (newDeclarations s r).map Declaration.pair := List.mem_map_of_mem h
  rw [newDeclarations, Declaration.map_pair_resolve] at hkept
  have hkey : d.label ∈ Keyed.keys (Keyed.firsts (r.declarations.map Declaration.pair)) :=
    List.mem_map_of_mem (List.mem_filter.1 hkept).1
  rw [Keyed.mem_keys_firsts] at hkey
  simpa [Keyed.keys, Declaration.pair, Function.comp_def] using hkey

theorem Runs.layers {w : W} {root : Component} {rs : List Compiled} {t : State W}
    (h : Runs env (start env w root) rs t) : ∃ depth, Layers root.label rs t.queue.labels depth := by
  induction h with
  | nil => exact ⟨_, layers_start root.label⟩
  | @snoc rs t u r hruns hturn ih =>
    obtain ⟨depth, hlayers⟩ := ih
    have hnext := (hruns.snoc hturn).shape
    obtain @⟨c, rest, _, hq, hc⟩ := hturn
    obtain ⟨_, _, _, _, _, hcomponent⟩ := compile_eq_ok_iff.1 hc
    have hlabel : r.component.label = c.label := by rw [hcomponent, complete_label]
    have hwaiting : t.queue.labels = c.label :: rest.labels := by
      rw [Queue.labels, pop?_eq_some_iff.1 hq]
      rfl
    have hqueue : (absorb env (take env t c rest) r).queue.labels =
        rest.labels ++ (newDeclarations (take env t c rest) r).map Declaration.label := by
      rw [Queue.labels, absorb_queue, take_queue, List.map_append, List.map_map]
      rfl
    have hfound : (rs ++ [r]).map (fun r => r.component.label) ++
        (absorb env (take env t c rest) r).queue.labels =
        (labelsOf rs ++ c.label :: rest.labels) ++
          (newDeclarations (take env t c rest) r).map Declaration.label := by
      simp [labelsOf, hqueue, hlabel]
    rw [hwaiting] at hlayers
    rw [hqueue]
    refine ⟨_, hlayers.turn hlabel ?_ ?_ ?_⟩
    · have hnodup := hnext.nodup
      rw [hfound] at hnodup
      exact fun l hl hmem => List.disjoint_of_nodup_append hnodup hmem hl
    · intro l hl
      obtain ⟨d, hd, rfl⟩ := List.mem_map.1 hl
      exact label_mem_of_mem_newDeclarations hd
    · intro l hl
      rw [← hfound, hnext.labels_eq, Keyed.mem_keys_firsts, mem_keys_readPairs]
      exact .inr ⟨r, List.mem_append_right _ List.mem_cons_self, hl⟩

end Discovery

namespace Builder

open Discovery

/-- A parse that succeeds has stored exactly the labels that declarations lead to from the root, each
at a least number of declarations from it, and the components come in the order of these distances.
The declarations are those in the sources that the parse has read. -/
theorem parse_distance_le (b : Builder) (label : Option String) (path : Option Path) (s : Session)
    {store : Store} (h : (b.parse label path s).result = .ok store) :
    store.records = (b.compiled label path s).map Compiled.component ∧
    (∀ r ∈ b.compiled label path s, ∃ source, b.ReadsSource label path s r.component source ∧
      (s.journal.file = none → Source.read s.disk r.component.path = .ok source) ∧
      Declaration.scan b.root source = .ok r.declarations) ∧
    (∀ l ∈ store.labels,
      ∃ n, IsDistance (b.rootComponent label path).label (b.compiled label path s) l n) ∧
    (∀ l n, ReachedIn (b.rootComponent label path).label (b.compiled label path s) n l →
      l ∈ store.labels) ∧
    store.records.Pairwise fun c d => ∀ m n,
      IsDistance (b.rootComponent label path).label (b.compiled label path s) c.label m →
      IsDistance (b.rootComponent label path).label (b.compiled label path s) d.label n → m ≤ n := by
  obtain ⟨t, hruns, hq, rfl⟩ := reaches_of_parse h
  have hshape := hruns.shape
  have hlabels : t.store.labels = labelsOf (b.compiled label path s) := hshape.store_labels
  obtain ⟨depth, hlayers⟩ := Runs.layers hruns
  rw [Queue.labels, hq, List.map_nil] at hlayers
  refine ⟨hshape.store_records, ?_, ?_, ?_, ?_⟩
  · intro r hr
    obtain ⟨source, hsource, hscan⟩ := hruns.readsSource hr
    exact ⟨source, hsource, hsource.read_eq, hscan⟩
  · intro l hl
    rw [hlabels] at hl
    exact ⟨depth l, hlayers.isDistance hl⟩
  · intro l n hl
    rw [hlabels]
    exact (hlayers.depth_le hl).1
  · have hordered := hlayers.ordered
    rw [List.append_nil, labelsOf, List.pairwise_map] at hordered
    rw [hshape.store_records, List.pairwise_map]
    refine hordered.imp_of_mem fun hc hd hle m n hm hn => ?_
    rw [hm.unique (hlayers.isDistance (List.mem_map_of_mem hc)),
      hn.unique (hlayers.isDistance (List.mem_map_of_mem hd))]
    exact hle

theorem parse_distance_le_sample :
    ∃ store, (sampleBuilder.parse none none sampleSession).result = .ok store ∧
      store.labels = ["App", "A", "B"] ∧
      store.records.Pairwise fun c d => ∀ m n,
        IsDistance "App" (sampleBuilder.compiled none none sampleSession) c.label m →
        IsDistance "App" (sampleBuilder.compiled none none sampleSession) d.label n → m ≤ n := by
  have hlabels : (sampleBuilder.parse none none sampleSession).result.toOption.map Store.labels =
      some ["App", "A", "B"] := by decide +kernel
  cases h : (sampleBuilder.parse none none sampleSession).result with
  | error e =>
    rw [h] at hlabels
    cases hlabels
  | ok store =>
    rw [h] at hlabels
    exact ⟨store, rfl, Option.some.inj hlabels,
      (parse_distance_le sampleBuilder none none sampleSession h).2.2.2.2⟩

end Builder

end Bundler
