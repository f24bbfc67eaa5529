import Bundler.Proofs.Disk.Change
import Mathlib.Data.List.Induction

/-!
# Bundler.Proofs.Disk.Remake

A directory that is made anew is empty.

* `WellFormed d`: every entry lies in a directory, and so do the current directory and the files in use.
* `New p l d₀ d`: the directory that a path names has been made last, and nothing lies in it.
* `makeDirectoriesFrom_new`: a path that names no directory is made as a new one.
* `remake_new`: so is one that has been removed.
* `New.remove`: a new directory that is removed with what has been put in it leaves no trace.
-/

namespace Bundler.Disk

variable {d d' : Disk} {l : Location} {p : Path}

/-! ## Well-formed disks -/

structure WellFormed (d : Disk) : Prop where
  above : ∀ l name, d.get? (l ++ [name]) ≠ none → d.get? l = some .directory
  cwd : d.get? d.cwd = some .directory
  held : ∀ l ∈ d.held, d.get? l ≠ none

theorem notMem_keys_of_get?_none (h : d.get? l = none) : l ∉ Keyed.keys d.entries := by
  rw [get?, if_neg (ne_nil_of_get?_none h), Keyed.lookup_eq_none] at h
  exact h

theorem wellFormed_iff : d.WellFormed ↔
    (∀ q ∈ d.entries, d.get? q.1.dropLast = some .directory) ∧ d.get? d.cwd = some .directory ∧
      ∀ l ∈ d.held, d.get? l ≠ none := by
  constructor
  · intro h
    refine ⟨fun q hq => ?_, h.cwd, h.held⟩
    rcases List.eq_nil_or_concat q.1 with hnil | ⟨l, name, hlast⟩
    · rw [hnil]
      rfl
    · rw [List.concat_eq_append] at hlast
      rw [hlast, List.dropLast_concat]
      refine h.above l name fun hnone => notMem_keys_of_get?_none hnone ?_
      rw [← hlast]
      exact List.mem_map_of_mem hq
  · rintro ⟨habove, hcwd, hheld⟩
    refine ⟨fun l name hsome => ?_, hcwd, hheld⟩
    have hmem : l ++ [name] ∈ Keyed.keys d.entries := by
      by_contra hnone
      rw [get?, if_neg (by simp), ne_eq, Keyed.lookup_eq_none] at hsome
      exact hsome hnone
    obtain ⟨q, hq, hlast⟩ := List.mem_map.1 hmem
    have hdir := habove q hq
    rw [hlast, List.dropLast_concat] at hdir
    exact hdir

instance : Decidable d.WellFormed :=
  decidable_of_iff _ wellFormed_iff.symm

/-- Nothing lies below a location without an entry. -/
theorem WellFormed.get?_eq_none (h : d.WellFormed) (hl : d.get? l = none) {m : Location}
    (hm : l <+: m) : d.get? m = none := by
  obtain ⟨names, rfl⟩ := hm
  induction names using List.reverseRecOn with
  | nil =>
    rw [List.append_nil]
    exact hl
  | append_singleton names name ih =>
    by_contra hsome
    rw [← List.append_assoc] at hsome
    have habove := h.above _ _ hsome
    rw [ih] at habove
    cases habove

theorem WellFormed.get?_parentOf (h : d.WellFormed) (hl : d.get? l = some .directory) :
    d.get? (parentOf l) = some .directory := by
  rcases List.eq_nil_or_concat l with rfl | ⟨m, name, rfl⟩
  · exact hl
  · rw [List.concat_eq_append] at hl ⊢
    rw [parentOf, List.dropLast_concat]
    exact h.above m name (by simp [hl])

/-! ## New directories -/

/-- The directory that a path names has been made last, at a location where there was nothing, and
neither the current directory nor a file in use is there. -/
structure New (p : Path) (l : Location) (d₀ d : Disk) : Prop where
  eq : d = d₀.set l .directory
  free : ∀ m, l <+: m → d₀.get? m = none
  stat : d.stat .followed p = .ok (l, .directory)
  cwd : ¬ l <+: d₀.cwd
  held : ∀ m ∈ d₀.held, ¬ l <+: m

namespace New

variable {d₀ : Disk}

theorem ne_nil (h : New p l d₀ d) : l ≠ [] :=
  ne_nil_of_get?_none (h.free l (List.prefix_refl l))

theorem get?_self (h : New p l d₀ d) : d.get? l = some .directory := by
  rw [h.eq, get?_set h.ne_nil, if_pos rfl]

theorem get?_below (h : New p l d₀ d) {names : List String} (hnames : names ≠ []) :
    d.get? (l ++ names) = none := by
  rw [h.eq, get?_set h.ne_nil, if_neg (by simpa using hnames)]
  exact h.free _ (List.prefix_append _ _)

theorem leads (h : New p l d₀ d) (habs : p.isAbsolute = true) :
    Fits p ∧ ∃ n, n ≤ maxLinks ∧ Leads d [] p.parts n l := by
  obtain ⟨hfits, _, hleads⟩ := leads_of_stat habs h.stat fun hfinal => by cases hfinal
  exact ⟨hfits, hleads⟩

end New

theorem isDirectory_eq_true (h : d.isDirectory p = .ok true) :
    ∃ l, d.stat .followed p = .ok (l, .directory) := by
  unfold isDirectory lookup at h
  split at h
  · rename_i l e hstat
    have he : e = .directory := by simpa [Except.map] using h
    exact ⟨l, he ▸ hstat⟩
  · split at h <;> cases h

theorem isDirectory_of_stat (h : d.stat .followed p = .ok (l, .directory)) :
    d.isDirectory p = .ok true := by
  rw [isDirectory, lookup, h]
  rfl

/-- A free name that is taken by a directory is a new directory. -/
theorem new_of_vacant {m : Location} {name : String} (hwf : d.WellFormed)
    (habs : p.isAbsolute = true) (hwalk : d.walk .itself p = .ok (.vacant m name)) :
    New p (m ++ [name]) d (d.set (m ++ [name]) .directory) := by
  obtain ⟨hfits, hfrom⟩ := walkFrom_of_walk habs hwalk
  obtain ⟨_, _, hfree, hleads⟩ := vacant_of_walkFrom hfrom
  have hget : (d.set (m ++ [name]) .directory).get? (m ++ [name]) = some .directory := by
    rw [get?_set (by simp), if_pos rfl]
  obtain ⟨n, hn, hleads⟩ := hleads _ _ (extends_set hfree _) hget (by simp)
  refine ⟨rfl, fun x hx => hwf.get?_eq_none hfree hx, hleads.stat_followed hn hget habs hfits,
    fun hcwd => ?_, fun x hx hprefix => ?_⟩
  · have hnone := hwf.get?_eq_none hfree hcwd
    rw [hwf.cwd] at hnone
    cases hnone
  · exact hwf.held x hx (hwf.get?_eq_none hfree hprefix)

/-- The last name of a walk is found, or free, or too long, but never missing a directory. -/
theorem walkFrom_last_ne_notFound {name : String} {links : Nat} (hwf : d.WellFormed)
    (hl : d.get? l = some .directory) : walkFrom d .itself links l [name] ≠ .error .notFound := by
  intro h
  by_cases hskip : name = "" ∨ name = "."
  · rw [walkFrom_stay hl hskip, walkFrom_nil hl] at h
    cases h
  by_cases hdots : name = ".."
  · subst hdots
    rw [walkFrom_up hl, walkFrom_nil (hwf.get?_parentOf hl)] at h
    cases h
  by_cases hsize : maxName < name.utf8ByteSize
  · rw [not_or] at hskip
    cases links <;> simp [walkFrom, walkParts, hl, hskip, hdots, hsize] at h
  · rw [not_or] at hskip
    rw [walkFrom_name hl ⟨hskip.1, hskip.2, hdots, Nat.not_lt.1 hsize⟩ fun _ => rfl] at h
    cases hget : d.get? (l ++ [name]) with
    | none => simp [hget] at h
    | some e => cases e <;> simp [hget, walkFrom_nil] at h

/-- Where a directory is missing on the way to a path, its parent is none. -/
theorem isDirectory_parent_ne {text : Option String} (hwf : d.WellFormed) (habs : p.isAbsolute = true)
    (hwalk : d.walk .itself p = .error (.system .notFound text)) :
    ∃ name, p.parts = p.parent.parts ++ [name] ∧ d.isDirectory p.parent ≠ .ok true := by
  have hfrom := walkFrom_of_notFound habs hwalk
  rcases List.eq_nil_or_concat p.parts with hparts | ⟨above, name, hparts⟩
  · have hroot : d.get? [] = some .directory := rfl
    rw [hparts, walkFrom_nil hroot] at hfrom
    cases hfrom
  · rw [List.concat_eq_append] at hparts
    have habove : p.parent.parts = above := by rw [Path.parent, hparts, List.dropLast_concat]
    refine ⟨name, by rw [habove, hparts], fun hdir => ?_⟩
    obtain ⟨l, hstat⟩ := isDirectory_eq_true hdir
    obtain ⟨_, hl, n, hn, hleads⟩ :=
      leads_of_stat (show p.parent.isAbsolute = true from habs) hstat fun hfinal => by cases hfinal
    have hgoes : GoesOn .itself [name] := List.cons_ne_nil _ _
    rw [habove] at hleads
    rw [hparts, hleads.walkFrom_append hn hgoes] at hfrom
    exact walkFrom_last_ne_notFound hwf hl hfrom

/-- A single name leads nowhere, or to what it names. -/
theorem Leads.single {name : String} {n : Nat} {l' : Location} (h : Leads d l [name] n l')
    (hname : name ≠ "..") : l' = l ∨ d.get? (l ++ [name]) ≠ none := by
  cases h with
  | stay _ _ hrest =>
    cases hrest
    exact .inl rfl
  | up _ _ => exact absurd rfl hname
  | down _ _ hget _ _ => exact .inr (by simp [hget])
  | link _ _ hget _ _ => exact .inr (by simp [hget])

/-- A directory in a new one is new. -/
theorem New.child {m : Location} {d₀ d₁ : Disk} {name : String} (h : New p.parent m d₀ d₁)
    (habs : p.isAbsolute = true) (hparts : p.parts = p.parent.parts ++ [name]) (hname : name ≠ "..")
    (hmade : ensureDirectory p d₁ = .ok () d') : ∃ l d₂, New p l d₂ d' := by
  obtain ⟨_, _, _, hparent⟩ := h.leads habs
  have hmaking := ensureDirectory_cases p d₁
  rw [hmade] at hmaking
  cases hmaking with
  | @made l name' hwalk =>
    obtain ⟨hfits, hfrom⟩ := walkFrom_of_walk habs hwalk
    obtain ⟨_, _, hfree, hleads⟩ := vacant_of_walkFrom hfrom
    have hext := extends_set hfree .directory
    have hget : (d₁.set (l ++ [name']) .directory).get? (l ++ [name']) = some .directory := by
      rw [get?_set (by simp), if_pos rfl]
    obtain ⟨n, hn, hleads⟩ := hleads _ _ hext hget (by simp)
    -- the last name has been made in the new directory, since nothing else is there
    have heq : m ++ [name] = l ++ [name'] := by
      have hlast := hleads
      rw [hparts, leads_append] at hlast
      obtain ⟨_, _, x, _, habove, hlast⟩ := hlast
      obtain ⟨_, rfl⟩ := habove.deterministic (hparent.mono hext)
      rcases hlast.single hname with heq | hsome
      · rw [heq, h.get?_self] at hfree
        cases hfree
      · by_contra hne
        rw [get?_set (by simp), if_neg hne] at hsome
        exact hsome (h.get?_below (List.cons_ne_nil _ _))
    rw [← heq] at hleads hget ⊢
    refine ⟨m ++ [name], d₁, rfl, ?_, hleads.stat_followed hn hget habs hfits, ?_, ?_⟩
    · rintro _ ⟨names, rfl⟩
      rw [List.append_assoc]
      exact h.get?_below (List.cons_ne_nil _ _)
    · rw [h.eq]
      exact fun hcwd => h.cwd ((List.prefix_append _ _).trans hcwd)
    · rw [h.eq]
      exact fun x hx hprefix => h.held x hx ((List.prefix_append _ _).trans hprefix)
  | present hdir =>
    obtain ⟨l, hstat⟩ := isDirectory_eq_true hdir
    obtain ⟨_, _, _, _, hleads⟩ := leads_of_stat habs hstat fun hfinal => by cases hfinal
    rw [hparts, leads_append] at hleads
    obtain ⟨_, _, x, _, habove, hlast⟩ := hleads
    obtain ⟨_, rfl⟩ := habove.deterministic hparent
    rcases hlast.single hname with rfl | hsome
    · exact ⟨_, d₀, h.eq, h.free, hstat, h.cwd, h.held⟩
    · exact absurd (h.get?_below (List.cons_ne_nil _ _)) hsome

/-- Every double dot of a path comes after names that lead to a directory. -/
def DotsLead (d : Disk) (p : Path) : Prop :=
  ∀ above rest, p.parts = above ++ ".." :: rest → d.isDirectory ⟨p.anchor, above⟩ = .ok true

theorem dotsLead_iff : DotsLead d p ↔
    ∀ i < p.parts.length, p.parts[i]? = some ".." →
      d.isDirectory ⟨p.anchor, p.parts.take i⟩ = .ok true := by
  constructor
  · intro h i hi hdots
    refine h _ (p.parts.drop (i + 1)) ?_
    rw [List.getElem?_eq_getElem hi, Option.some.injEq] at hdots
    rw [← hdots, ← List.drop_eq_getElem_cons hi, List.take_append_drop]
  · intro h above rest hparts
    have hdir := h above.length (by simp [hparts]) (by simp [hparts])
    rw [hparts, List.take_left] at hdir
    exact hdir

instance : Decidable (DotsLead d p) :=
  decidable_of_iff _ dotsLead_iff.symm

theorem ensureDirectory_new (hwf : d.WellFormed) (habs : p.isAbsolute = true)
    (hnone : d.isDirectory p ≠ .ok true) (h : ensureDirectory p d = .ok () d') :
    ∃ l d₀, New p l d₀ d' := by
  have hmaking := ensureDirectory_cases p d
  rw [h] at hmaking
  cases hmaking with
  | made hwalk => exact ⟨_, d, new_of_vacant hwf habs hwalk⟩
  | present hdir => exact absurd hdir hnone

/-- A path that names no directory is made as a new one. -/
theorem makeDirectoriesFrom_new {fuel : Nat} (hwf : d.WellFormed) (habs : p.isAbsolute = true)
    (hdots : DotsLead d p) (hnone : d.isDirectory p ≠ .ok true)
    (h : makeDirectoriesFrom fuel p d = .ok () d') : ∃ l d₀, New p l d₀ d' := by
  induction fuel generalizing p d' with
  | zero => exact ensureDirectory_new hwf habs hnone h
  | succ fuel ih =>
    rcases makeDirectoriesFrom_succ fuel p d with heq | ⟨⟨text, hwalk⟩, hparent⟩
    · rw [heq] at h
      exact ensureDirectory_new hwf habs hnone h
    · -- the parent is missing as well, so that it is new when the last name is made
      obtain ⟨name, hparts, hnone'⟩ := isDirectory_parent_ne hwf habs hwalk
      have hname : name ≠ ".." := by
        rintro rfl
        exact hnone' (hdots p.parent.parts [] hparts)
      have hdots' : DotsLead d p.parent := by
        intro above rest habove
        refine hdots above (rest ++ [name]) ?_
        rw [hparts, habove, List.append_assoc]
        rfl
      rcases hparent with ⟨e, d₁, _, heq⟩ | ⟨d₁, hmade, heq⟩
      · rw [heq] at h
        cases h
      · rw [heq] at h
        obtain ⟨m, d₀, hnew⟩ := ih (show p.parent.isAbsolute = true from habs) hdots' hnone' hmade
        exact hnew.child habs hparts hname h

/-! ## Directories that have been removed -/

/-- A free name on a path that leads somewhere on a larger disk is taken there. -/
theorem ne_none_of_vacant {x y : Disk} {q : Path} {n : Nat} {m : Location} {name : String}
    (hext : Extends x y) (habs : q.isAbsolute = true) (hleads : Leads y [] q.parts n l)
    (hl : y.get? l ≠ none) (hwalk : x.walk .itself q = .ok (.vacant m name)) :
    y.get? (m ++ [name]) ≠ none := by
  intro hnone
  obtain ⟨_, hfrom⟩ := walkFrom_of_walk habs hwalk
  obtain ⟨_, _, _, hvacant⟩ := vacant_of_walkFrom hfrom
  have hext' := extends_set hnone .directory
  obtain ⟨_, _, htaken⟩ := hvacant (y.set (m ++ [name]) .directory) .directory (hext.trans hext')
    (by rw [get?_set (by simp), if_pos rfl]) (by simp)
  obtain ⟨_, rfl⟩ := htaken.deterministic (hleads.mono hext')
  exact hl hnone

/-- A path that names a directory leads along all its beginnings to directories. -/
theorem Leads.of_above {parts q : List String} {n : Nat} (h : Leads d [] parts n l)
    (hl : d.get? l = some .directory) (hq : q <+: parts) :
    ∃ k m, Leads d [] q k m ∧ d.get? m = some .directory := by
  obtain ⟨rest, rfl⟩ := hq
  obtain ⟨a, _, m, _, hfirst, hrest⟩ := leads_append.1 h
  refine ⟨a, m, hfirst, ?_⟩
  cases rest with
  | nil =>
    cases hrest
    exact hl
  | cons name rest => exact hrest.get?_eq

/-- Making a directory that is there changes nothing. -/
theorem after_makeDirectories_of_stat (habs : p.isAbsolute = true)
    (h : d.stat .followed p = .ok (l, .directory)) : after (makeDirectories p d) = d := by
  obtain ⟨_, hl, n, _, hleads⟩ := leads_of_stat habs h fun hfinal => by cases hfinal
  have hkept : KeptOnWay p fun x => x = d := by
    rintro q x m name hanchor hparts rfl hwalk
    obtain ⟨k, z, hq, hz⟩ := hleads.of_above hl hparts
    have habs' : q.isAbsolute = true := by rw [Path.isAbsolute, hanchor]; exact habs
    exact absurd (walk_sound hwalk) (ne_none_of_vacant (.refl x) habs' hq (by simp [hz]) hwalk)
  exact (hkept.makeDirectoriesFrom _ rfl).1

theorem not_prefix_cwd_erase (d : Disk) (hl : l ≠ []) : ¬ l <+: (d.erase l).cwd := by
  have hlength := List.length_pos_iff.2 hl
  unfold erase
  simp only
  split
  · intro h
    have hle := h.length_le
    rw [strand, List.length_take] at hle
    omega
  · rename_i hprefix
    rwa [List.isPrefixOf_iff_prefix] at hprefix

theorem not_prefix_of_mem_held {m : Location} (h : m ∈ ((d.clearBelow l).erase l).held) :
    ¬ l <+: m := by
  simp only [erase, clearBelow] at h
  rw [List.mem_filter, List.mem_filter, bne_iff_ne, Bool.not_eq_true', ← Bool.not_eq_true,
    isInside_iff] at h
  obtain ⟨⟨_, hinside⟩, hne⟩ := h
  rintro ⟨names, rfl⟩
  refine hinside ⟨names, ?_, rfl⟩
  rintro rfl
  exact hne (List.append_nil l)

theorem get?_removed (hl : l ≠ []) {m : Location} (h : l <+: m) :
    ((d.clearBelow l).erase l).get? m = none := by
  rw [get?_erase hl]
  split
  · rfl
  · rename_i hne
    rw [get?_clearBelow, if_pos]
    obtain ⟨names, rfl⟩ := h
    exact isInside_iff.2 ⟨names, fun hnil => hne (by rw [hnil, List.append_nil]), rfl⟩

theorem extends_erase (d : Disk) (hl : l ≠ []) : Extends (d.erase l) d := by
  intro m e he
  rw [get?_erase hl] at he
  split at he
  · cases he
  · exact he

theorem get?_erase_set (hl : l ≠ []) (hdir : d.get? l = some .directory) (m : Location) :
    ((d.erase l).set l .directory).get? m = d.get? m := by
  rw [get?_set hl, get?_erase hl]
  split
  · rename_i heq
    rw [heq, hdir]
  · rfl

/-- A disk from which a directory has been taken, and to which it may have been given back. -/
def Bereft (d : Disk) (l : Location) (x : Disk) : Prop :=
  x = d.erase l ∨ x = (d.erase l).set l .directory

/-- On the way to a directory that has been taken away it is the only one that can be made. -/
theorem Bereft.eq_of_vacant {x : Disk} {q : Path} {n : Nat} {m : Location} {name : String}
    (hx : Bereft d l x) (hl : l ≠ []) (hdir : d.get? l = some .directory)
    (hleads : Leads d [] p.parts n l) (hparts : q.parts <+: p.parts) (habs : q.isAbsolute = true)
    (hwalk : x.walk .itself q = .ok (.vacant m name)) : x = d.erase l ∧ m ++ [name] = l := by
  obtain ⟨_, z, hq, hz⟩ := hleads.of_above hdir hparts
  have hfree : x.get? (m ++ [name]) = none := walk_sound hwalk
  rcases hx with rfl | rfl
  · have htaken := ne_none_of_vacant (extends_erase d hl) habs hq (by simp [hz]) hwalk
    refine ⟨rfl, ?_⟩
    by_contra hne
    rw [get?_erase hl, if_neg hne] at hfree
    exact htaken hfree
  · have hsame : Extends ((d.erase l).set l .directory) d :=
      fun m e he => get?_erase_set hl hdir m ▸ he
    have htaken := ne_none_of_vacant hsame habs hq (by simp [hz]) hwalk
    rw [get?_erase_set hl hdir] at hfree
    exact absurd hfree htaken

/-- Making a directory that has been taken away gives it back and nothing else. -/
theorem makeDirectories_erase {n : Nat} (habs : p.isAbsolute = true) (hl : l ≠ [])
    (hdir : d.get? l = some .directory) (hleads : Leads d [] p.parts n l)
    (h : makeDirectories p (d.erase l) = .ok () d') : d' = (d.erase l).set l .directory := by
  have hkept : KeptOnWay p (Bereft d l) := by
    intro q x m name hanchor hparts hx hwalk
    have habs' : q.isAbsolute = true := by rw [Path.isAbsolute, hanchor]; exact habs
    obtain ⟨rfl, heq⟩ := hx.eq_of_vacant hl hdir hleads hparts habs' hwalk
    exact .inr (by rw [heq])
  obtain ⟨x, hx, hmade⟩ := (hkept.makeDirectoriesFrom _ (.inl rfl)).2 d' h
  have hmaking := ensureDirectory_cases p x
  rw [hmade] at hmaking
  cases hmaking with
  | made hwalk =>
    obtain ⟨rfl, heq⟩ := hx.eq_of_vacant hl hdir hleads (List.prefix_refl _) habs hwalk
    rw [heq]
  | present hpresent =>
    rcases hx with rfl | rfl
    · -- the path would lead to the same place, where nothing is left
      obtain ⟨m, hstat⟩ := isDirectory_eq_true hpresent
      obtain ⟨_, hm, _, _, hleads'⟩ := leads_of_stat habs hstat fun hfinal => by cases hfinal
      obtain ⟨_, rfl⟩ := (hleads'.mono (extends_erase d hl)).deterministic hleads
      rw [get?_erase hl, if_pos rfl] at hm
      cases hm
    · rfl

/-- What has been removed and is made again is new, wherever the path leads on its way. -/
theorem remake_new (habs : p.isAbsolute = true) (hl : l ≠ [])
    (hstat : (d.clearBelow l).stat .itself p = .ok (l, .directory))
    (h : makeDirectories p ((d.clearBelow l).erase l) = .ok () d') :
    New p l ((d.clearBelow l).erase l) d' := by
  obtain ⟨hfits, hdir, n, hn, hleads⟩ := leads_of_stat habs hstat fun _ _ => by simp
  have heq := makeDirectories_erase habs hl hdir hleads h
  have hext : Extends (d.clearBelow l) d' := by
    intro m e he
    rw [heq, get?_erase_set hl hdir]
    exact he
  exact {
    eq := heq
    free := fun m hm => get?_removed hl hm
    stat := (hleads.mono hext).stat_followed hn (hext _ _ hdir) habs hfits
    cwd := not_prefix_cwd_erase _ hl
    held := fun m hm => not_prefix_of_mem_held hm }

/-- What is removed by a name of its own is not the root of the disk. -/
theorem ne_nil_of_stat_clearBelow {name : String} (habs : p.isAbsolute = true)
    (hstat : (d.clearBelow l).stat .itself p = .ok (l, .directory))
    (hlast : p.parts.getLast? = some name) (hname : name ≠ "" ∧ name ≠ "." ∧ name ≠ "..") : l ≠ [] := by
  rintro rfl
  obtain ⟨_, _, _, _, hleads⟩ := leads_of_stat habs hstat fun _ _ => by simp
  have hempty : ∀ m, m ≠ [] → (d.clearBelow []).get? m = none := by
    intro m hm
    have hinside : isInside [] m = true := isInside_iff.2 ⟨m, hm, rfl⟩
    rw [get?_clearBelow, if_pos hinside]
  obtain ⟨above, hparts⟩ := List.getLast?_eq_some_iff.1 hlast
  rw [hparts, leads_append] at hleads
  obtain ⟨_, _, m, _, _, hleads⟩ := hleads
  have hm : m = [] := by
    by_contra hne
    have hdir := hleads.get?_eq
    rw [hempty m hne] at hdir
    cases hdir
  subst hm
  cases hleads with
  | stay _ hskip _ => exact hskip.elim hname.1 hname.2.1
  | up _ _ => exact hname.2.2 rfl
  | down _ _ hget _ _ =>
    rw [hempty _ (by simp)] at hget
    cases hget
  | link _ _ hget _ _ =>
    rw [hempty _ (by simp)] at hget
    cases hget

theorem isInside_eq_false {base : Location} (h : ¬ base <+: l) : isInside base l = false := by
  rw [← Bool.not_eq_true, isInside_iff]
  rintro ⟨names, _, rfl⟩
  exact h (List.prefix_append _ _)

/-- A new directory that is removed again, together with an entry that has been put into it, leaves no
trace. -/
theorem New.remove {d₀ : Disk} (h : New p l d₀ d) (name : String) (e : Entry) :
    ((d.set (l ++ [name]) e).clearBelow l).erase l = d₀ := by
  have hkeys : ∀ m, l <+: m → m ∉ Keyed.keys d₀.entries :=
    fun m hm => notMem_keys_of_get?_none (h.free m hm)
  have houtside : ∀ q ∈ d₀.entries, ¬ l <+: q.1 :=
    fun q hq hprefix => hkeys q.1 hprefix (List.mem_map_of_mem hq)
  have hput : d.set (l ++ [name]) e =
      { d₀ with entries := d₀.entries ++ [(l, .directory)] ++ [(l ++ [name], e)] } := by
    rw [h.eq, set, set, Keyed.put_of_notMem (hkeys l (List.prefix_refl l)), Keyed.put_of_notMem]
    rw [Keyed.keys_append, List.mem_append, not_or]
    exact ⟨hkeys _ (List.prefix_append _ _), by simp [Keyed.keys]⟩
  have hcleared : (d.set (l ++ [name]) e).clearBelow l =
      { d₀ with entries := d₀.entries ++ [(l, .directory)] } := by
    have hfilter : (d₀.entries ++ [(l, Entry.directory)] ++ [(l ++ [name], e)]).filter
        (fun q => !isInside l q.1) = d₀.entries ++ [(l, .directory)] := by
      rw [List.filter_append, List.filter_append, List.filter_eq_self.2]
      · simp [isInside]
      · intro q hq
        rw [isInside_eq_false (houtside q hq)]
        rfl
    have hheld : d₀.held.filter (fun m => !isInside l m) = d₀.held := by
      refine List.filter_eq_self.2 fun m hm => ?_
      rw [isInside_eq_false (h.held m hm)]
      rfl
    rw [hput, clearBelow]
    simp only [isInside_eq_false h.cwd, hfilter, hheld]
    rfl
  have hfilter : (d₀.entries ++ [(l, Entry.directory)]).filter (fun q => !(q.1 == l)) = d₀.entries := by
    rw [List.filter_append, List.filter_eq_self.2]
    · simp
    · intro q hq
      have hne : q.1 ≠ l := fun heq => houtside q hq (heq ▸ List.prefix_refl l)
      simpa using hne
  have hheld : d₀.held.filter (· != l) = d₀.held := by
    refine List.filter_eq_self.2 fun m hm => ?_
    have hne : m ≠ l := fun heq => h.held m hm (heq ▸ List.prefix_refl l)
    simpa using hne
  have hcwd : ¬ l.isPrefixOf d₀.cwd = true := fun hprefix => h.cwd (List.isPrefixOf_iff_prefix.1 hprefix)
  rw [hcleared, erase, Keyed.erase]
  simp only [if_neg hcwd, hfilter, hheld]

end Bundler.Disk
