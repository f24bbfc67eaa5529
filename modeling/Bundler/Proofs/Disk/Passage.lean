import Bundler.Proofs.Disk.Walk

/-!
# Bundler.Proofs.Disk.Passage

Following names on a disk, without a bound on the number of links.

* `Leads d l parts n l'`: from the directory at `l` the names lead to `l'`, through `n` links.
* `leads_append`: a passage along a list of names is a passage along its parts.
* `Leads.deterministic`: names lead to one place only, through one number of links.
* `Leads.grow`: where names lead does not change when a disk gets more entries.
* `leads_of_walkFrom`: what a walk finds, the names lead to.
* `vacant_of_walkFrom`: so do they to a free name that a walk comes to, once it is taken.
* `Leads.walkFrom_append`: a walk along names that lead somewhere goes on from there.
-/

namespace Bundler.Disk

/-- A name that an entry of a directory can have. -/
structure IsName (name : String) : Prop where
  ne_empty : name ≠ ""
  ne_dot : name ≠ "."
  ne_dots : name ≠ ".."
  size_le : name.utf8ByteSize ≤ maxName

/-- Names lead from one location to another. A link on the way is replaced by its target. -/
inductive Leads (d : Disk) : Location → List String → Nat → Location → Prop where
  | nil {l : Location} : Leads d l [] 0 l
  | stay {l l' : Location} {name : String} {rest : List String} {n : Nat} :
      d.get? l = some .directory → name = "" ∨ name = "." → Leads d l rest n l' →
      Leads d l (name :: rest) n l'
  | up {l l' : Location} {rest : List String} {n : Nat} :
      d.get? l = some .directory → Leads d (parentOf l) rest n l' → Leads d l (".." :: rest) n l'
  | down {l l' : Location} {name : String} {rest : List String} {n : Nat} {e : Entry} :
      d.get? l = some .directory → IsName name → d.get? (l ++ [name]) = some e →
      (∀ target, e ≠ .link target) → Leads d (l ++ [name]) rest n l' → Leads d l (name :: rest) n l'
  | link {l m l' : Location} {name target : String} {rest : List String} {k n : Nat} :
      d.get? l = some .directory → IsName name → d.get? (l ++ [name]) = some (.link target) →
      Leads d (targetBase target l) (targetParts target) k m → Leads d m rest n l' →
      Leads d l (name :: rest) (k + 1 + n) l'

variable {d : Disk} {final : Final} {links : Nat} {l l' : Location} {name : String}
  {rest : List String}

/-! ## Steps of a walk -/

theorem walkFrom_stay (hl : d.get? l = some .directory) (hname : name = "" ∨ name = ".") :
    walkFrom d final links l (name :: rest) = walkFrom d final links l rest := by
  cases links <;> simp [walkFrom, walkParts, hl, hname]

theorem walkFrom_up (hl : d.get? l = some .directory) :
    walkFrom d final links l (".." :: rest) = walkFrom d final links (parentOf l) rest := by
  cases links <;> simp [walkFrom, walkParts, hl]

/-- A name that only slashes follow cannot be that of a file to be made. -/
theorem walkFrom_name (hl : d.get? l = some .directory) (hname : IsName name)
    (hslash : final = .created → endsInSlash rest = false) :
    walkFrom d final links l (name :: rest) =
      match d.get? (l ++ [name]) with
      | none => if rest = [] then .ok (.vacant l name) else .error .notFound
      | some (.link target) =>
        if rest = [] && final = .itself then .ok (.found (l ++ [name]) (.link target))
        else
          match links with
          | 0 => .error .tooManyLinks
          | links + 1 => walkFrom d final links (targetBase target l) (targetParts target ++ rest)
      | some _ => walkFrom d final links (l ++ [name]) rest := by
  have hskip : ¬ (name = "" || name = ".") = true := by simp [hname.ne_empty, hname.ne_dot]
  have hcreated : ¬ (final = .created && endsInSlash rest) = true := by
    rw [Bool.and_eq_true, decide_eq_true_eq]
    rintro ⟨hfinal, hends⟩
    rw [hslash hfinal] at hends
    cases hends
  have hsize : ¬ maxName < name.utf8ByteSize := Nat.not_lt.2 hname.size_le
  cases links <;>
  · simp only [walkFrom, walkParts, hl]
    refine (if_neg hskip).trans ((if_neg hname.ne_dots).trans
      ((if_neg hcreated).trans ((if_neg hsize).trans ?_)))
    cases d.get? (l ++ [name]) with
    | none => rfl
    | some e => cases e <;> rfl

theorem walkFrom_down {e : Entry} (hl : d.get? l = some .directory) (hname : IsName name)
    (hget : d.get? (l ++ [name]) = some e) (he : ∀ target, e ≠ .link target)
    (hslash : final = .created → endsInSlash rest = false) :
    walkFrom d final links l (name :: rest) = walkFrom d final links (l ++ [name]) rest := by
  rw [walkFrom_name hl hname hslash, hget]
  cases e with
  | directory => rfl
  | file bytes => rfl
  | link target => exact absurd rfl (he target)

/-- A walk with these names to come follows a link that it is at: it follows links at the end too, or
this is not the end. -/
def GoesOn : Final → List String → Prop
  | .followed, _ => True
  | .itself, rest => rest ≠ []
  | .created, rest => ∃ name ∈ rest, name ≠ ""

theorem goesOn_name (final : Final) (hname : name ≠ "") : GoesOn final [name] := by
  cases final with
  | followed => trivial
  | itself => exact List.cons_ne_nil _ _
  | created => exact ⟨name, List.mem_singleton_self _, hname⟩

theorem GoesOn.append {more : List String} (h : GoesOn final more) (rest : List String) :
    GoesOn final (rest ++ more) := by
  cases final with
  | followed => trivial
  | itself => exact List.append_ne_nil_of_right_ne_nil _ h
  | created =>
    obtain ⟨name, hname, hne⟩ := h
    exact ⟨name, List.mem_append_right _ hname, hne⟩

theorem GoesOn.endsInSlash (h : GoesOn final rest) (hfinal : final = .created) :
    endsInSlash rest = false := by
  subst hfinal
  obtain ⟨name, hname, hne⟩ := h
  rw [Disk.endsInSlash, Bool.and_eq_false_iff]
  refine .inr (List.all_eq_false.2 ⟨name, hname, ?_⟩)
  simpa using hne

theorem walkFrom_link {target : String} (hl : d.get? l = some .directory) (hname : IsName name)
    (hlink : d.get? (l ++ [name]) = some (.link target)) (hrest : GoesOn final rest) :
    walkFrom d final (links + 1) l (name :: rest) =
      walkFrom d final links (targetBase target l) (targetParts target ++ rest) := by
  have hend : ¬ (rest = [] && final = .itself) = true := by
    rw [Bool.and_eq_true, decide_eq_true_eq, decide_eq_true_eq]
    rintro ⟨rfl, rfl⟩
    exact hrest rfl
  rw [walkFrom_name hl hname hrest.endsInSlash, hlink]
  simp only
  rw [if_neg hend]

theorem walkFrom_missing {parts : List String} (hl : d.get? l = none) :
    walkFrom d final links l parts = .error .notFound := by
  cases links <;> cases parts <;> simp [walkFrom, walkParts, hl]

theorem walkFrom_nil {e : Entry} (hl : d.get? l = some e) :
    walkFrom d final links l [] = .ok (.found l e) := by
  cases links <;> simp [walkFrom, walkParts, hl]

/-- Everything that the first name of a walk that ends somewhere can come to. -/
inductive WalkStep (d : Disk) (final : Final) (links : Nat) (l : Location) (name : String)
    (rest : List String) (spot : Spot) : Prop where
  | stay : name = "" ∨ name = "." → walkFrom d final links l rest = .ok spot →
      WalkStep d final links l name rest spot
  | up : name = ".." → walkFrom d final links (parentOf l) rest = .ok spot →
      WalkStep d final links l name rest spot
  | vacant : IsName name → d.get? (l ++ [name]) = none → rest = [] → spot = .vacant l name →
      WalkStep d final links l name rest spot
  | itself {target : String} : IsName name → d.get? (l ++ [name]) = some (.link target) → rest = [] →
      final = .itself → spot = .found (l ++ [name]) (.link target) →
      WalkStep d final links l name rest spot
  | link {target : String} {fewer : Nat} : IsName name →
      d.get? (l ++ [name]) = some (.link target) → links = fewer + 1 →
      walkFrom d final fewer (targetBase target l) (targetParts target ++ rest) = .ok spot →
      WalkStep d final links l name rest spot
  | down {e : Entry} : IsName name → d.get? (l ++ [name]) = some e → (∀ target, e ≠ .link target) →
      walkFrom d final links (l ++ [name]) rest = .ok spot → WalkStep d final links l name rest spot

/-- A step starts in a directory. -/
theorem walkStep_of_walkFrom {spot : Spot} (h : walkFrom d final links l (name :: rest) = .ok spot) :
    d.get? l = some .directory ∧ WalkStep d final links l name rest spot := by
  have hl : d.get? l = some .directory := by
    cases hget : d.get? l with
    | none =>
      rw [walkFrom_missing hget] at h
      cases h
    | some e =>
      cases e with
      | directory => rfl
      | file bytes => cases links <;> simp [walkFrom, walkParts, hget] at h
      | link target => cases links <;> simp [walkFrom, walkParts, hget] at h
  refine ⟨hl, ?_⟩
  by_cases hskip : name = "" ∨ name = "."
  · rw [walkFrom_stay hl hskip] at h
    exact .stay hskip h
  by_cases hdots : name = ".."
  · subst hdots
    rw [walkFrom_up hl] at h
    exact .up rfl h
  have hskip' : ¬ (name = "" || name = ".") = true := by simpa using hskip
  rw [not_or] at hskip
  by_cases hcreated : (final = .created && endsInSlash rest) = true
  · cases links <;>
    · simp only [walkFrom, walkParts, hl] at h
      rw [if_neg hskip', if_neg hdots, if_pos hcreated] at h
      cases h
  by_cases hsize : maxName < name.utf8ByteSize
  · cases links <;>
    · simp only [walkFrom, walkParts, hl] at h
      rw [if_neg hskip', if_neg hdots, if_neg hcreated, if_pos hsize] at h
      cases h
  have hname : IsName name := ⟨hskip.1, hskip.2, hdots, Nat.not_lt.1 hsize⟩
  have hslash : final = .created → endsInSlash rest = false := by
    intro hfinal
    rw [hfinal] at hcreated
    simpa using hcreated
  rw [walkFrom_name hl hname hslash] at h
  split at h
  · rename_i hnone
    split at h
    · rename_i hrest
      cases h
      exact .vacant hname hnone hrest rfl
    · cases h
  · rename_i target hlink
    split at h
    · rename_i hend
      rw [Bool.and_eq_true, decide_eq_true_eq, decide_eq_true_eq] at hend
      cases h
      exact .itself hname hlink hend.1 hend.2 rfl
    · split at h
      · cases h
      · exact .link hname hlink rfl h
  · rename_i e hnolink hget
    exact .down hname hget (fun target he => hnolink target (he ▸ rfl)) h

/-! ## Passages -/

/-- A passage along at least one name starts in a directory. -/
theorem Leads.get?_eq {n : Nat} (h : Leads d l (name :: rest) n l') :
    d.get? l = some .directory := by
  cases h <;> assumption

theorem leads_append {xs ys : List String} {n : Nat} :
    Leads d l (xs ++ ys) n l' ↔ ∃ a b m, n = a + b ∧ Leads d l xs a m ∧ Leads d m ys b l' := by
  constructor
  · intro h
    induction xs generalizing l n with
    | nil => exact ⟨0, n, l, (Nat.zero_add n).symm, .nil, h⟩
    | cons x xs ih =>
      cases h with
      | stay hl hname h =>
        obtain ⟨a, b, m, rfl, hxs, hys⟩ := ih h
        exact ⟨a, b, m, rfl, .stay hl hname hxs, hys⟩
      | up hl h =>
        obtain ⟨a, b, m, rfl, hxs, hys⟩ := ih h
        exact ⟨a, b, m, rfl, .up hl hxs, hys⟩
      | down hl hname hget he h =>
        obtain ⟨a, b, m, rfl, hxs, hys⟩ := ih h
        exact ⟨a, b, m, rfl, .down hl hname hget he hxs, hys⟩
      | @link _ _ _ _ target _ k _ hl hname hget htarget h =>
        obtain ⟨a, b, m, rfl, hxs, hys⟩ := ih h
        exact ⟨k + 1 + a, b, m, (Nat.add_assoc _ _ _).symm, .link hl hname hget htarget hxs, hys⟩
  · rintro ⟨a, b, m, rfl, hxs, hys⟩
    induction hxs with
    | nil =>
      rw [Nat.zero_add]
      exact hys
    | stay hl hname _ ih => exact .stay hl hname (ih hys)
    | up hl _ ih => exact .up hl (ih hys)
    | down hl hname hget he _ ih => exact .down hl hname hget he (ih hys)
    | link hl hname hget htarget _ _ ih =>
      rw [Nat.add_assoc]
      exact .link hl hname hget htarget (ih hys)

/-- Names lead to one place only, through one number of links. -/
theorem Leads.deterministic {parts : List String} {m n : Nat} {l₁ l₂ : Location}
    (h₁ : Leads d l parts m l₁) (h₂ : Leads d l parts n l₂) : m = n ∧ l₁ = l₂ := by
  induction h₁ generalizing n l₂ with
  | nil =>
    cases h₂
    exact ⟨rfl, rfl⟩
  | stay _ hname _ ih =>
    cases h₂ with
    | stay _ _ h => exact ih h
    | up _ _ => simp at hname
    | down _ hname' _ _ _ => exact absurd hname (not_or.2 ⟨hname'.ne_empty, hname'.ne_dot⟩)
    | link _ hname' _ _ _ => exact absurd hname (not_or.2 ⟨hname'.ne_empty, hname'.ne_dot⟩)
  | up _ _ ih =>
    cases h₂ with
    | stay _ hname _ => simp at hname
    | up _ h => exact ih h
    | down _ hname _ _ _ => exact absurd rfl hname.ne_dots
    | link _ hname _ _ _ => exact absurd rfl hname.ne_dots
  | down _ hname hget he _ ih =>
    cases h₂ with
    | stay _ hname' _ => exact absurd hname' (not_or.2 ⟨hname.ne_empty, hname.ne_dot⟩)
    | up _ _ => exact absurd rfl hname.ne_dots
    | down _ _ _ _ h => exact ih h
    | link _ _ hget' _ _ =>
      rw [hget] at hget'
      exact absurd (Option.some.inj hget') (he _)
  | link _ hname hget _ _ iht ih =>
    cases h₂ with
    | stay _ hname' _ => exact absurd hname' (not_or.2 ⟨hname.ne_empty, hname.ne_dot⟩)
    | up _ _ => exact absurd rfl hname.ne_dots
    | down _ _ hget' he _ =>
      rw [hget] at hget'
      exact absurd (Option.some.inj hget').symm (he _)
    | link _ _ hget' htarget h =>
      rw [hget] at hget'
      cases hget'
      obtain ⟨rfl, rfl⟩ := iht htarget
      obtain ⟨rfl, rfl⟩ := ih h
      exact ⟨rfl, rfl⟩

/-- A disk has all the entries of another one. -/
def Extends (d d' : Disk) : Prop :=
  ∀ l e, d.get? l = some e → d'.get? l = some e

theorem Extends.refl (d : Disk) : Extends d d :=
  fun _ _ h => h

theorem Extends.trans {d₁ d₂ d₃ : Disk} (h : Extends d₁ d₂) (h' : Extends d₂ d₃) : Extends d₁ d₃ :=
  fun l e he => h' l e (h l e he)

/-- A disk has all the entries of another one, except that files may have other bytes. -/
def Grows (d d' : Disk) : Prop :=
  ∀ l e, d.get? l = some e →
    d'.get? l = some e ∨ ∃ old new, e = .file old ∧ d'.get? l = some (.file new)

theorem Extends.grows {d' : Disk} (h : Extends d d') : Grows d d' :=
  fun l e he => .inl (h l e he)

theorem Grows.directory {d' : Disk} (h : Grows d d') (hl : d.get? l = some .directory) :
    d'.get? l = some .directory := by
  rcases h l _ hl with hsame | ⟨old, new, hfile, _⟩
  · exact hsame
  · cases hfile

theorem Grows.link {d' : Disk} {target : String} (h : Grows d d') (hl : d.get? l = some (.link target)) :
    d'.get? l = some (.link target) := by
  rcases h l _ hl with hsame | ⟨old, new, hfile, _⟩
  · exact hsame
  · cases hfile

theorem Grows.file {d' : Disk} {old : List UInt8} (h : Grows d d') (hl : d.get? l = some (.file old)) :
    ∃ new, d'.get? l = some (.file new) := by
  rcases h l _ hl with hsame | ⟨_, new, _, hnew⟩
  · exact ⟨old, hsame⟩
  · exact ⟨new, hnew⟩

/-- More entries and other bytes do not change where names lead. -/
theorem Leads.grow {d' : Disk} {parts : List String} {n : Nat} (h : Leads d l parts n l')
    (hgrows : Grows d d') : Leads d' l parts n l' := by
  induction h with
  | nil => exact .nil
  | stay hl hname _ ih => exact .stay (hgrows.directory hl) hname ih
  | up hl _ ih => exact .up (hgrows.directory hl) ih
  | @down l l' name rest n e hl hname hget he _ ih =>
    rcases hgrows _ _ hget with hsame | ⟨_, new, _, hnew⟩
    · exact .down (hgrows.directory hl) hname hsame he ih
    · exact .down (hgrows.directory hl) hname hnew (fun _ => by simp) ih
  | link hl hname hget _ _ iht ih =>
    exact .link (hgrows.directory hl) hname (hgrows.link hget) iht ih

theorem Leads.mono {d' : Disk} {parts : List String} {n : Nat} (h : Leads d l parts n l')
    (hext : Extends d d') : Leads d' l parts n l' :=
  h.grow hext.grows

/-! ## Walks and passages -/

/-- What a walk finds, the names lead to, unless it is a link that is meant itself. -/
theorem leads_of_walkFrom {parts : List String} {e : Entry}
    (h : walkFrom d final links l parts = .ok (.found l' e))
    (he : final = .itself → ∀ target, e ≠ .link target) :
    ∃ n, n ≤ links ∧ Leads d l parts n l' ∧ d.get? l' = some e := by
  induction links using Nat.strongRecOn generalizing l parts with
  | ind links ihlinks =>
    induction parts generalizing l with
    | nil =>
      cases hget : d.get? l with
      | none =>
        rw [walkFrom_missing hget] at h
        cases h
      | some e' =>
        rw [walkFrom_nil hget] at h
        cases h
        exact ⟨0, Nat.zero_le _, .nil, hget⟩
    | cons name rest ih =>
      obtain ⟨hl, hstep⟩ := walkStep_of_walkFrom h
      cases hstep with
      | stay hname h =>
        obtain ⟨n, hn, hleads, hget⟩ := ih h
        exact ⟨n, hn, .stay hl hname hleads, hget⟩
      | up hname hup =>
        subst hname
        obtain ⟨n, hn, hleads, hget⟩ := ih hup
        exact ⟨n, hn, .up hl hleads, hget⟩
      | vacant _ _ _ hspot => cases hspot
      | itself _ _ _ hfinal hspot =>
        cases hspot
        exact absurd rfl (he hfinal _)
      | link hname hlink hlinks h =>
        obtain ⟨n, hn, hleads, hget⟩ := ihlinks _ (by omega) h
        obtain ⟨a, b, m, rfl, htarget, hrest⟩ := leads_append.1 hleads
        exact ⟨a + 1 + b, by omega, .link hl hname hlink htarget hrest, hget⟩
      | down hname hentry hnolink h =>
        obtain ⟨n, hn, hleads, hget⟩ := ih h
        exact ⟨n, hn, .down hl hname hentry hnolink hleads, hget⟩

/-- A free name that a walk comes to is free in a directory. When it is taken by something other than
a link, the names lead there. -/
theorem vacant_of_walkFrom {parts : List String}
    (h : walkFrom d final links l parts = .ok (.vacant l' name)) :
    d.get? l' = some .directory ∧ IsName name ∧ d.get? (l' ++ [name]) = none ∧
      ∀ (d' : Disk) (e : Entry), Extends d d' → d'.get? (l' ++ [name]) = some e →
        (∀ target, e ≠ .link target) → ∃ n, n ≤ links ∧ Leads d' l parts n (l' ++ [name]) := by
  induction links using Nat.strongRecOn generalizing l parts with
  | ind links ihlinks =>
    induction parts generalizing l with
    | nil =>
      cases hget : d.get? l with
      | none =>
        rw [walkFrom_missing hget] at h
        cases h
      | some e =>
        rw [walkFrom_nil hget] at h
        cases h
    | cons part rest ih =>
      obtain ⟨hl, hstep⟩ := walkStep_of_walkFrom h
      cases hstep with
      | stay hpart h =>
        obtain ⟨hdir, hname, hfree, hleads⟩ := ih h
        refine ⟨hdir, hname, hfree, fun d' e hext hget he => ?_⟩
        obtain ⟨n, hn, hleads⟩ := hleads d' e hext hget he
        exact ⟨n, hn, .stay (hext _ _ hl) hpart hleads⟩
      | up hpart hup =>
        subst hpart
        obtain ⟨hdir, hname, hfree, hleads⟩ := ih hup
        refine ⟨hdir, hname, hfree, fun d' e hext hget he => ?_⟩
        obtain ⟨n, hn, hleads⟩ := hleads d' e hext hget he
        exact ⟨n, hn, .up (hext _ _ hl) hleads⟩
      | vacant hpart hfree hrest hspot =>
        subst hrest
        cases hspot
        exact ⟨hl, hpart, hfree, fun d' e hext hget he =>
          ⟨0, Nat.zero_le _, .down (hext _ _ hl) hpart hget he .nil⟩⟩
      | itself _ _ _ _ hspot => cases hspot
      | link hpart hlink hlinks h =>
        obtain ⟨hdir, hname, hfree, hleads⟩ := ihlinks _ (by omega) h
        refine ⟨hdir, hname, hfree, fun d' e hext hget he => ?_⟩
        obtain ⟨n, hn, hleads⟩ := hleads d' e hext hget he
        obtain ⟨a, b, m, rfl, htarget, hrest⟩ := leads_append.1 hleads
        exact ⟨a + 1 + b, by omega, .link (hext _ _ hl) hpart (hext _ _ hlink) htarget hrest⟩
      | down hpart hentry hnolink h =>
        obtain ⟨hdir, hname, hfree, hleads⟩ := ih h
        refine ⟨hdir, hname, hfree, fun d' e hext hget he => ?_⟩
        obtain ⟨n, hn, hleads⟩ := hleads d' e hext hget he
        exact ⟨n, hn, .down (hext _ _ hl) hpart (hext _ _ hentry) hnolink hleads⟩

/-- A walk along names that lead somewhere goes on from there, with so many links fewer. -/
theorem Leads.walkFrom_append {parts more : List String} {n : Nat} (h : Leads d l parts n l')
    (hn : n ≤ links) (hmore : GoesOn final more) :
    walkFrom d final links l (parts ++ more) = walkFrom d final (links - n) l' more := by
  induction h generalizing links more with
  | nil => rfl
  | stay hl hname _ ih =>
    rw [List.cons_append, walkFrom_stay hl hname]
    exact ih hn hmore
  | up hl _ ih =>
    rw [List.cons_append, walkFrom_up hl]
    exact ih hn hmore
  | down hl hname hget he _ ih =>
    rw [List.cons_append, walkFrom_down hl hname hget he (hmore.append _).endsInSlash]
    exact ih hn hmore
  | @link _ _ _ _ _ rest k n hl hname hlink _ _ iht ih =>
    obtain ⟨links, rfl⟩ := Nat.exists_eq_add_of_le' (show 1 ≤ links by omega)
    rw [List.cons_append, walkFrom_link hl hname hlink (hmore.append rest),
      iht (by omega) (hmore.append rest), ih (by omega) hmore]
    congr 1
    omega

/-! ## Absolute paths -/

/-- A path name that can be used: it is not too long and does not hold the character zero. -/
def Fits (p : Path) : Prop :=
  p.hasNull = false ∧ p.text.utf8ByteSize < maxPath

theorem walk_eq {p : Path} (habs : p.isAbsolute = true) (hfits : Fits p) :
    d.walk final p =
      match walkFrom d final maxLinks [] p.parts with
      | .ok spot => .ok spot
      | .error code => .error (.system code p.text) := by
  cases hfrom : walkFrom d final maxLinks [] p.parts with
  | ok spot =>
    simp only [walk, hfits.1, habs, Nat.not_le.2 hfits.2, Bool.false_eq_true, if_false, if_true, hfrom]
  | error code =>
    simp only [walk, hfits.1, habs, Nat.not_le.2 hfits.2, Bool.false_eq_true, if_false, if_true, hfrom]

/-- A name that cannot be used is refused before anything is followed. -/
theorem walk_of_not_fits {p : Path} (h : ¬ Fits p) :
    d.walk final p = .error .nullByte ∨ d.walk final p = .error (.system .nameTooLong p.text) := by
  unfold walk
  by_cases hnull : p.hasNull = true
  · exact .inl (if_pos hnull)
  · rw [Fits, not_and] at h
    rw [if_neg hnull, if_pos (Nat.not_lt.1 (h (Bool.eq_false_iff.2 hnull)))]
    exact .inr rfl

theorem walkFrom_of_walk {p : Path} {spot : Spot} (habs : p.isAbsolute = true)
    (h : d.walk final p = .ok spot) :
    Fits p ∧ walkFrom d final maxLinks [] p.parts = .ok spot := by
  have hfits : Fits p := by
    by_contra hfits
    rcases walk_of_not_fits hfits with herror | herror <;> rw [h] at herror <;> cases herror
  refine ⟨hfits, ?_⟩
  rw [walk_eq habs hfits] at h
  split at h
  · rename_i spot' hspot
    cases h
    exact hspot
  · cases h

theorem walkFrom_of_notFound {p : Path} {text : Option String} (habs : p.isAbsolute = true)
    (h : d.walk final p = .error (.system .notFound text)) :
    walkFrom d final maxLinks [] p.parts = .error .notFound := by
  have hfits : Fits p := by
    by_contra hfits
    rcases walk_of_not_fits hfits with herror | herror <;> rw [h] at herror <;> cases herror
  rw [walk_eq habs hfits] at h
  split at h
  · cases h
  · rename_i code hcode
    cases h
    exact hcode

theorem walk_of_stat {p : Path} {e : Entry} (h : d.stat final p = .ok (l, e)) :
    d.walk final p = .ok (.found l e) := by
  unfold stat at h
  split at h
  · cases h
  · rename_i hwalk
    cases h
    exact hwalk
  · cases h

/-- What an absolute path names, its parts lead to from the root. -/
theorem leads_of_stat {p : Path} {e : Entry} (habs : p.isAbsolute = true)
    (h : d.stat final p = .ok (l, e)) (he : final = .itself → ∀ target, e ≠ .link target) :
    Fits p ∧ d.get? l = some e ∧ ∃ n, n ≤ maxLinks ∧ Leads d [] p.parts n l := by
  obtain ⟨hfits, hwalk⟩ := walkFrom_of_walk habs (walk_of_stat h)
  obtain ⟨n, hn, hleads, hget⟩ := leads_of_walkFrom hwalk he
  exact ⟨hfits, hget, n, hn, hleads⟩

theorem Leads.stat_followed {p : Path} {e : Entry} {n : Nat} (h : Leads d [] p.parts n l)
    (hn : n ≤ maxLinks) (hget : d.get? l = some e) (habs : p.isAbsolute = true) (hfits : Fits p) :
    d.stat .followed p = .ok (l, e) := by
  have hend : GoesOn .followed [] := trivial
  have hwalk := h.walkFrom_append hn hend
  rw [List.append_nil, walkFrom_nil hget] at hwalk
  rw [stat, walk_eq habs hfits, hwalk]

theorem stat_followed_of_itself {p : Path} (habs : p.isAbsolute = true)
    (h : d.stat .itself p = .ok (l, .directory)) : d.stat .followed p = .ok (l, .directory) := by
  obtain ⟨hfits, hdir, n, hn, hleads⟩ := leads_of_stat habs h fun _ _ => by simp
  exact hleads.stat_followed hn hdir habs hfits

/-- A path goes through a directory to a last name. -/
structure LastName (d : Disk) (p : Path) (l : Location) (name : String) : Prop where
  isAbsolute : p.isAbsolute = true
  fits : Fits p
  leads : ∃ parts n, p.parts = parts ++ [name] ∧ n ≤ maxLinks ∧ Leads d [] parts n l
  isDirectory : d.get? l = some .directory
  isName : IsName name

theorem LastName.walk_eq {p : Path} (h : LastName d p l name) (final : Final) :
    ∃ links, d.walk final p =
      match walkFrom d final links l [name] with
      | .ok spot => .ok spot
      | .error code => .error (.system code p.text) := by
  obtain ⟨parts, n, hparts, hn, hleads⟩ := h.leads
  refine ⟨maxLinks - n, ?_⟩
  rw [Disk.walk_eq h.isAbsolute h.fits, hparts,
    hleads.walkFrom_append hn (goesOn_name final h.isName.ne_empty)]

theorem LastName.walk_itself {p : Path} {e : Entry} (h : LastName d p l name)
    (hget : d.get? (l ++ [name]) = some e) : d.walk .itself p = .ok (.found (l ++ [name]) e) := by
  obtain ⟨links, hwalk⟩ := h.walk_eq .itself
  rw [hwalk, walkFrom_name h.isDirectory h.isName fun _ => rfl, hget]
  cases e with
  | directory => simp only [walkFrom_nil hget]
  | file bytes => simp only [walkFrom_nil hget]
  | link target => rfl

end Bundler.Disk
