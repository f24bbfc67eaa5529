import Bundler.Disk.Resolve
import Bundler.Proofs.Disk.Passage
import Bundler.Proofs.Path
import Mathlib.Data.List.Perm.Subperm

/-!
# Bundler.Proofs.Disk.Resolve

Resolving a path by name against following it on the disk. Where an absolute path leads somewhere, it
is resolved to that location, provided that every link can be named by its full path. A link whose full
path is too long is passed over: it is read as a name of its own.

* `Rooted d l`: the way from the root to a location leads through directories.
* `LinksNamed d`: every link has a full path that fits.
* `Leads.resolveFrom`: names that lead somewhere are resolved to where they lead.
* `resolve_of_stat`: an absolute path that names an entry is resolved to the location of the entry.
-/

namespace Bundler.Disk

variable {d : Disk} {l l' : Location} {name : String} {rest : List String}

/-! ## Locations -/

/-- Everything above a location is a directory, and its names are such as entries have. -/
inductive Rooted (d : Disk) : Location → Prop where
  | root : Rooted d []
  | child {l : Location} {name : String} :
      Rooted d l → d.get? l = some .directory → IsName name → Rooted d (l ++ [name])

theorem Rooted.notMem_dots (h : Rooted d l) : ".." ∉ l := by
  induction h with
  | root => exact List.not_mem_nil
  | child _ _ hname ih =>
    rw [List.mem_append, List.mem_singleton, not_or]
    exact ⟨ih, Ne.symm hname.ne_dots⟩

theorem Rooted.parentOf (h : Rooted d l) : Rooted d (parentOf l) := by
  cases h with
  | root => exact .root
  | child hl _ _ =>
    rw [Disk.parentOf, List.dropLast_concat]
    exact hl

/-- The names of a location lead to it, without any link. -/
theorem Rooted.leads {e : Entry} (h : Rooted d l) (hget : d.get? l = some e)
    (he : ∀ target, e ≠ .link target) : Leads d [] l 0 l := by
  induction h generalizing e with
  | root => exact .nil
  | child _ hdir hname ih =>
    have habove := ih hdir (fun target => by simp)
    exact leads_append.2 ⟨0, 0, _, rfl, habove, .down hdir hname hget he .nil⟩

theorem Rooted.targetBase (h : Rooted d l) (target : String) : Rooted d (targetBase target l) := by
  unfold Disk.targetBase
  split
  · exact .root
  · exact h

theorem Leads.rooted {parts : List String} {n : Nat} (h : Leads d l parts n l')
    (hl : Rooted d l) : Rooted d l' := by
  induction h with
  | nil => exact hl
  | stay _ _ _ ih => exact ih hl
  | up _ _ ih => exact ih hl.parentOf
  | down hdir hname _ _ _ ih => exact ih (.child hl hdir hname)
  | link _ _ _ _ _ iht ih => exact ih (iht (hl.targetBase _))

theorem up_ofParts (h : ".." ∉ l) : (Path.ofParts l).up = Path.ofParts (parentOf l) := by
  rcases List.eq_nil_or_concat l with rfl | ⟨l, name, rfl⟩
  · rfl
  · have hname : name ≠ ".." := by
      rintro rfl
      exact h (by simp)
    simp [Path.up, Path.ofParts, parentOf, Path.pushPart, hname]

/-! ## Links -/

/-- Every link can be named by its full path. -/
def LinksNamed (d : Disk) : Prop :=
  ∀ l target, d.get? l = some (.link target) → Fits (.ofParts l)

/-- The full path of a location in a directory goes through the directory to the last name. -/
theorem Rooted.lastName (hl : Rooted d l) (hdir : d.get? l = some .directory) (hname : IsName name)
    (hfits : Fits (.ofParts (l ++ [name]))) : LastName d (.ofParts (l ++ [name])) l name where
  isAbsolute := rfl
  fits := hfits
  leads := ⟨l, 0, rfl, Nat.zero_le _, hl.leads hdir fun target => by simp⟩
  isDirectory := hdir
  isName := hname

theorem linkAt?_of_link {target : String} (hl : Rooted d l) (hdir : d.get? l = some .directory)
    (hname : IsName name) (hlink : d.get? (l ++ [name]) = some (.link target))
    (hfits : Fits (.ofParts (l ++ [name]))) : d.linkAt? (.ofParts (l ++ [name])) = some target := by
  rw [linkAt?, stat, (hl.lastName hdir hname hfits).walk_itself hlink]

theorem linkAt?_of_not_link {e : Entry} (hl : Rooted d l) (hdir : d.get? l = some .directory)
    (hname : IsName name) (hget : d.get? (l ++ [name]) = some e) (he : ∀ target, e ≠ .link target) :
    d.linkAt? (.ofParts (l ++ [name])) = none := by
  unfold linkAt?
  split
  · rename_i l' target hstat
    obtain ⟨hfits, _⟩ := walkFrom_of_walk (by rfl) (walk_of_stat hstat)
    rw [stat, (hl.lastName hdir hname hfits).walk_itself hget] at hstat
    cases hstat
    exact absurd rfl (he target)
  · rfl

/-- A link that cannot be named is passed over. -/
theorem linkAt?_of_not_fits (h : ¬ Fits (.ofParts l)) : d.linkAt? (.ofParts l) = none := by
  unfold linkAt?
  split
  · rename_i l' target hstat
    exact absurd (walkFrom_of_walk rfl (walk_of_stat hstat)).1 h
  · rfl

/-! ## Steps of a resolution -/

section Steps

variable {depth : Nat} {seen : Seen} {p : Path}

theorem resolveFrom_nil : resolveFrom d depth seen p [] = .reached p seen := by
  cases depth <;> rfl

theorem resolveFrom_stay (hname : name = "" ∨ name = ".") :
    resolveFrom d depth seen p (name :: rest) = resolveFrom d depth seen p rest := by
  cases depth <;> simp [resolveFrom, resolveParts, hname]

theorem resolveFrom_up :
    resolveFrom d depth seen p (".." :: rest) = resolveFrom d depth seen p.up rest := by
  cases depth <;> simp [resolveFrom, resolveParts]

theorem resolveFrom_name (hname : IsName name) (hlink : d.linkAt? (.ofParts (l ++ [name])) = none) :
    resolveFrom d depth seen (.ofParts l) (name :: rest) =
      resolveFrom d depth seen (.ofParts (l ++ [name])) rest := by
  have hlink' : d.linkAt? ⟨.single, l ++ [name]⟩ = none := hlink
  cases depth <;>
    simp [resolveFrom, resolveParts, hname.ne_empty, hname.ne_dot, hname.ne_dots, Path.ofParts, hlink']

theorem resolveFrom_known {target : String} {q : Path} (hname : IsName name)
    (hlink : d.linkAt? (.ofParts (l ++ [name])) = some target)
    (hseen : seen.lookup (.ofParts (l ++ [name])) = some (some q)) :
    resolveFrom d depth seen (.ofParts l) (name :: rest) = resolveFrom d depth seen q rest := by
  have hlink' : d.linkAt? ⟨.single, l ++ [name]⟩ = some target := hlink
  have hseen' : seen.lookup ⟨.single, l ++ [name]⟩ = some (some q) := hseen
  cases depth <;>
    simp [resolveFrom, resolveParts, hname.ne_empty, hname.ne_dot, hname.ne_dots, Path.ofParts, hlink',
      hseen']

theorem resolveFrom_link {target : String} {q : Path} {seen' : Seen} (hname : IsName name)
    (hlink : d.linkAt? (.ofParts (l ++ [name])) = some target)
    (hseen : seen.lookup (.ofParts (l ++ [name])) = none)
    (htarget : resolveFrom d depth ((.ofParts (l ++ [name]), none) :: seen)
      (.ofParts (targetBase target l)) (targetParts target) = .reached q seen') :
    resolveFrom d (depth + 1) seen (.ofParts l) (name :: rest) =
      resolveFrom d (depth + 1) ((.ofParts (l ++ [name]), some q) :: seen') q rest := by
  have hlink' : d.linkAt? ⟨.single, l ++ [name]⟩ = some target := hlink
  have hseen' : seen.lookup ⟨.single, l ++ [name]⟩ = none := hseen
  have hbase : baseOf target (.ofParts l) = .ofParts (targetBase target l) := by
    unfold baseOf targetBase
    split <;> rfl
  simp only [Path.ofParts] at htarget hbase ⊢
  simp [resolveFrom, resolveParts, hname.ne_empty, hname.ne_dot, hname.ne_dots, hlink', hseen', hbase,
    htarget]

end Steps

/-! ## Resolution of what leads somewhere -/

/-- The target of the link at a location leads somewhere, through so many links more. -/
def TargetLeads (d : Disk) (l : Location) (n : Nat) (l' : Location) : Prop :=
  ∃ above name target, l = above ++ [name] ∧ d.get? l = some (.link target) ∧
    Leads d (targetBase target above) (targetParts target) n l'

theorem TargetLeads.deterministic {m n : Nat} {l₁ l₂ : Location} (h₁ : TargetLeads d l m l₁)
    (h₂ : TargetLeads d l n l₂) : m = n ∧ l₁ = l₂ := by
  obtain ⟨above, name, target, rfl, hget, hleads⟩ := h₁
  obtain ⟨above', name', target', heq, hget', hleads'⟩ := h₂
  obtain ⟨rfl, _⟩ := List.append_inj' heq rfl
  rw [hget] at hget'
  cases hget'
  exact hleads.deterministic hleads'

theorem TargetLeads.mem_keys {n : Nat} (h : TargetLeads d l n l') : l ∈ Keyed.keys d.entries := by
  obtain ⟨_, _, target, _, hget, _⟩ := h
  exact List.mem_map_of_mem (mem_entries_of_get? hget (by simp))

/-- What a resolution has noted: the links at `opened` are being followed, and of the others it has
met it knows where they lead. -/
structure Noted (d : Disk) (opened : List Location) (seen : Seen) : Prop where
  pending : ∀ p, seen.lookup p = some none → ∃ l ∈ opened, p = .ofParts l
  known : ∀ p q, seen.lookup p = some (some q) →
    ∃ l n l', p = .ofParts l ∧ q = .ofParts l' ∧ TargetLeads d l n l'

theorem ofParts_inj {l₁ l₂ : Location} (h : Path.ofParts l₁ = Path.ofParts l₂) : l₁ = l₂ :=
  congrArg Path.parts h

theorem Noted.nil : Noted d [] [] where
  pending p h := by cases h
  known p q h := by cases h

theorem Noted.open {opened : List Location} {seen : Seen} (h : Noted d opened seen) (l : Location) :
    Noted d (l :: opened) ((.ofParts l, none) :: seen) where
  pending p hp := by
    by_cases hpl : p = .ofParts l
    · exact ⟨l, List.mem_cons_self, hpl⟩
    · rw [List.lookup_cons, beq_eq_false_iff_ne.2 hpl] at hp
      obtain ⟨o, ho, heq⟩ := h.pending p hp
      exact ⟨o, List.mem_cons_of_mem _ ho, heq⟩
  known p q hp := by
    by_cases hpl : p = .ofParts l
    · subst hpl
      rw [List.lookup_cons_self] at hp
      cases hp
    · rw [List.lookup_cons, beq_eq_false_iff_ne.2 hpl] at hp
      exact h.known p q hp

theorem Noted.close {opened : List Location} {seen : Seen} {n : Nat} (h : Noted d (l :: opened) seen)
    (hl : TargetLeads d l n l') : Noted d opened ((.ofParts l, some (.ofParts l')) :: seen) where
  pending p hp := by
    by_cases hpl : p = .ofParts l
    · subst hpl
      rw [List.lookup_cons_self] at hp
      cases hp
    · rw [List.lookup_cons, beq_eq_false_iff_ne.2 hpl] at hp
      obtain ⟨o, ho, heq⟩ := h.pending p hp
      rcases List.mem_cons.1 ho with rfl | ho
      · exact absurd heq hpl
      · exact ⟨o, ho, heq⟩
  known p q hp := by
    by_cases hpl : p = .ofParts l
    · subst hpl
      rw [List.lookup_cons_self] at hp
      cases hp
      exact ⟨l, n, l', rfl, rfl, hl⟩
    · rw [List.lookup_cons, beq_eq_false_iff_ne.2 hpl] at hp
      exact h.known p q hp

/-- The links that are being followed while names with `n` links on their way are resolved: each of
them has at least as many links on its own way, since these names belong to it. -/
structure Nesting (d : Disk) (opened : List Location) (n : Nat) : Prop where
  nodup : opened.Nodup
  deeper : ∀ o ∈ opened, ∃ k l', TargetLeads d o k l' ∧ n ≤ k

theorem Nesting.le {opened : List Location} {m n : Nat} (h : Nesting d opened n) (hm : m ≤ n) :
    Nesting d opened m where
  nodup := h.nodup
  deeper o ho := by
    obtain ⟨k, l', hleads, hk⟩ := h.deeper o ho
    exact ⟨k, l', hleads, Nat.le_trans hm hk⟩

/-- A link is not met again while it is being followed. -/
theorem Nesting.notMem {opened : List Location} {n k : Nat} (h : Nesting d opened n)
    (hl : TargetLeads d l k l') (hk : k < n) : l ∉ opened := by
  intro hmem
  obtain ⟨k', l'', hleads, hn⟩ := h.deeper l hmem
  have := (hl.deterministic hleads).1
  omega

theorem Nesting.cons {opened : List Location} {n k : Nat} (h : Nesting d opened n)
    (hl : TargetLeads d l k l') (hk : k < n) : Nesting d (l :: opened) k where
  nodup := List.nodup_cons.2 ⟨h.notMem hl hk, h.nodup⟩
  deeper o ho := by
    rcases List.mem_cons.1 ho with rfl | ho
    · exact ⟨k, l', hl, Nat.le_refl k⟩
    · exact (h.le (Nat.le_of_lt hk)).deeper o ho

/-- There are at most as many links being followed as there are entries. -/
theorem Nesting.length_le {opened : List Location} {n : Nat} (h : Nesting d opened n) :
    opened.length ≤ d.entries.length := by
  have hsub : opened ⊆ Keyed.keys d.entries := by
    intro o ho
    obtain ⟨_, _, hleads, _⟩ := h.deeper o ho
    exact hleads.mem_keys
  have hle := (List.subperm_of_subset h.nodup hsub).length_le
  rw [Keyed.keys, List.length_map] at hle
  exact hle

/-- Names that lead somewhere are resolved to where they lead. -/
theorem Leads.resolveFrom {parts : List String} {n depth : Nat} {seen : Seen}
    {opened : List Location} (h : Leads d l parts n l') (hlinks : LinksNamed d) (hl : Rooted d l)
    (hseen : Noted d opened seen) (hopened : Nesting d opened n)
    (hdepth : d.entries.length ≤ depth + opened.length) :
    ∃ seen', Disk.resolveFrom d depth seen (.ofParts l) parts = .reached (.ofParts l') seen' ∧
      Noted d opened seen' := by
  induction h generalizing depth seen opened with
  | nil => exact ⟨seen, resolveFrom_nil, hseen⟩
  | stay _ hname _ ih =>
    rw [resolveFrom_stay hname]
    exact ih hl hseen hopened hdepth
  | up _ _ ih =>
    rw [resolveFrom_up, up_ofParts hl.notMem_dots]
    exact ih hl.parentOf hseen hopened hdepth
  | down hdir hname hget he _ ih =>
    rw [resolveFrom_name hname (linkAt?_of_not_link hl hdir hname hget he)]
    exact ih (.child hl hdir hname) hseen hopened hdepth
  | @link l m l' name target rest k n hdir hname hlink htarget hrest iht ih =>
    have hm : Rooted d m := htarget.rooted (hl.targetBase target)
    have hat := linkAt?_of_link hl hdir hname hlink (hlinks _ _ hlink)
    have hleads : TargetLeads d (l ++ [name]) k m := ⟨l, name, target, rfl, hlink, htarget⟩
    have hrest' := hopened.le (m := n) (by omega)
    cases hlookup : seen.lookup (.ofParts (l ++ [name])) with
    | some note =>
      cases note with
      | none =>
        -- the links on the way of an open link would include all of them again
        obtain ⟨o, ho, heq⟩ := hseen.pending _ hlookup
        rw [← ofParts_inj heq] at ho
        exact absurd ho (hopened.notMem hleads (by omega))
      | some q =>
        obtain ⟨o, k', m', heq, rfl, hknown⟩ := hseen.known _ _ hlookup
        rw [← ofParts_inj heq] at hknown
        rw [resolveFrom_known hname hat hlookup, ← (hleads.deterministic hknown).2]
        exact ih hm hseen hrest' hdepth
    | none =>
      have hopen := hopened.cons hleads (show k < k + 1 + n by omega)
      have hroom := hopen.length_le
      rw [List.length_cons] at hroom
      obtain ⟨depth, rfl⟩ := Nat.exists_eq_add_of_le' (show 1 ≤ depth by omega)
      have hroom' : d.entries.length ≤ depth + ((l ++ [name]) :: opened).length := by
        rw [List.length_cons]
        omega
      obtain ⟨seen', hresolved, hseen'⟩ :=
        iht (hl.targetBase target) (hseen.open (l ++ [name])) hopen hroom'
      rw [resolveFrom_link hname hat hlookup hresolved]
      exact ih hm (hseen'.close hleads) hrest' hdepth

theorem length_entries_le_maxDepth (d : Disk) (p : Path) : d.entries.length ≤ d.maxDepth p := by
  unfold maxDepth
  calc d.entries.length
      ≤ d.entries.length + 1 := Nat.le_succ _
    _ ≤ (d.entries.length + 1) * (d.cwd.length + d.lost.length + p.parts.length + 2) :=
        Nat.le_mul_of_pos_right _ (Nat.succ_pos _)

theorem stat_ne_tooManyLinks {p : Path} {final : Final} {text : Option String} (hfits : ¬ Fits p) :
    d.stat final p ≠ .error (.system .tooManyLinks text) := by
  intro h
  rcases walk_of_not_fits hfits with hwalk | hwalk <;>
  · rw [stat, hwalk] at h
    cases h

theorem resolve_of_reached {p : Path} {seen : Seen} (habs : p.isAbsolute = true)
    (hnull : p.hasNull = false)
    (hreached : resolveFrom d (d.maxDepth p) [] (.ofParts []) p.parts = .reached (.ofParts l) seen)
    (hdots : ".." ∉ l)
    (hstat : ∀ text, d.stat .followed (.ofParts l) ≠ .error (.system .tooManyLinks text)) :
    d.resolve p = .ok (.ofParts l) := by
  have hwithout : d.withoutLinks p = .ofParts l := by
    rw [Path.ofParts] at hreached
    simp only [withoutLinks, habs, if_true, hreached]
  have habsolute : d.absolute (.ofParts l) = .ok (.ofParts l) := by
    rw [absolute, if_pos (by rfl), Path.normalize_of_notMem hdots]
  rw [resolve, hnull, hwithout, habsolute, if_neg Bool.false_ne_true]
  split
  · rename_i heq
    cases heq
  · rename_i r hr
    cases hr
    split
    · rename_i text hloop
      exact absurd hloop (hstat text)
    · rfl

/-- An absolute path that names an entry is resolved to the location of the entry. -/
theorem resolve_of_stat {p : Path} {final : Final} {e : Entry} (hlinks : LinksNamed d)
    (habs : p.isAbsolute = true) (h : d.stat final p = .ok (l, e))
    (he : ∀ target, e ≠ .link target) : d.resolve p = .ok (.ofParts l) := by
  obtain ⟨hfits, hget, n, hn, hleads⟩ := leads_of_stat habs h fun _ => he
  have hrooted := hleads.rooted .root
  have hdepth : d.entries.length ≤ d.maxDepth p + ([] : List Location).length :=
    length_entries_le_maxDepth d p
  obtain ⟨seen', hreached, _⟩ := hleads.resolveFrom hlinks .root .nil
    ⟨List.nodup_nil, fun o ho => absurd ho List.not_mem_nil⟩ hdepth
  refine resolve_of_reached habs hfits.1 hreached hrooted.notMem_dots fun text hloop => ?_
  -- the location itself is reached without any link
  by_cases hfits' : Fits (.ofParts l)
  · rw [(hrooted.leads hget he).stat_followed (Nat.zero_le _) hget rfl hfits'] at hloop
    cases hloop
  · exact stat_ne_tooManyLinks hfits' hloop

theorem isAbsolute_of_resolve {d : Disk} {p q : Path} (h : d.resolve p = .ok q) :
    q.isAbsolute = true := by
  have habsolute : ∀ p r, d.absolute p = .ok r → r.isAbsolute = true := by
    intro p r hr
    unfold absolute at hr
    split at hr
    · rename_i habs
      cases hr
      exact habs
    · unfold cwdPath at hr
      split at hr
      · cases hr
        have hcwd : (Path.ofParts d.cwd / p).isAbsolute = true := Path.isAbsolute_div rfl p
        exact hcwd
      · cases hr
  unfold resolve at h
  split at h
  · cases h
  · split at h
    · cases h
    · rename_i r hr
      split at h
      · cases h
      · cases h
        exact habsolute _ _ hr

end Bundler.Disk
