import Bundler.Proofs.Bundle.Order
import Bundler.Proofs.Discovery.Still
import Bundler.Proofs.Disk.Remake
import Bundler.Proofs.Project.Reset

/-!
# Bundler.Proofs.Project.Fresh

Builds that empty the output directory first.

* `Project.resetOutput_new`: a reset that succeeds leaves a new output directory.
* `Project.resetOutput_again`: a reset after a build leaves the disk as the reset before it did.
* `Disk.New.append`: a bundle is the only file in a new directory.
* `runBuild_fresh`: what a clean build leaves in the output directory.
* `runBuild_keeps_old`: the old bundle stays when the output directory is first found missing.
-/

namespace Bundler

open Disk

/-! ## Located projects -/

namespace Project

variable {p : Project} {d d' : Disk}

theorem isAbsolute_of_resolveRoot {home : Home} {root : Option Path} {r : Path}
    (h : resolveRoot home root d = .ok r) : r.isAbsolute = true := by
  unfold resolveRoot at h
  split at h
  · split at h
    · cases h
    · exact isAbsolute_of_resolve h
  · split at h
    · cases h
    · split at h
      · exact isAbsolute_of_resolve h
      · split at h
        · cases h
        · exact isAbsolute_of_resolve h

theorem locate_eq_ok {home : Home} {root : Option Path} {s : Settings}
    (h : locate home root s d = .ok p) : ∃ r : Path, r.isAbsolute = true ∧ p = atRoot r s := by
  unfold locate at h
  split at h
  · cases h
  · rename_i r hr
    split at h
    · cases h
    · cases h
    · cases h
      exact ⟨r, isAbsolute_of_resolveRoot hr, rfl⟩

/-- The places of a project as they are located: the output directory is the root, or it has a last name
of its own. -/
structure Located (p : Project) : Prop where
  isAbsolute : p.outputDir.isAbsolute = true
  last : p.outputDir = p.root ∨
    ∀ name, p.outputDir.parts.getLast? = some name → name ≠ "" ∧ name ≠ "."

theorem located_atRoot {r : Path} (hr : r.isAbsolute = true) (s : Settings) :
    Located (atRoot r s) where
  isAbsolute := Path.isAbsolute_div hr (Path.ofString s.outputDir)
  last := by
    have hdiv : (atRoot r s).outputDir = r.append (Path.ofString s.outputDir) := rfl
    rw [hdiv, Path.append]
    split
    · refine .inr fun name hname => ?_
      exact Path.ne_of_mem_parts_ofString (List.mem_of_getLast? hname)
    · cases hparts : (Path.ofString s.outputDir).parts with
      | nil =>
        left
        rw [List.append_nil]
        rfl
      | cons part parts =>
        refine .inr fun name hname => ?_
        rw [List.getLast?_append_of_ne_nil _ (List.cons_ne_nil _ _), ← hparts] at hname
        exact Path.ne_of_mem_parts_ofString (List.mem_of_getLast? hname)

/-! ## Resets -/

theorem remake_eq_ok {q : Path} (h : p.remake d = .ok q d') :
    makeDirectories p.outputDir d = .ok () d' := by
  rw [remake, DiskTask.change_bind] at h
  cases hmade : makeDirectories p.outputDir d with
  | ok _ d₁ =>
    rw [hmade] at h
    cases h
    rfl
  | error e d₁ =>
    rw [hmade] at h
    cases h

/-- How a reset succeeds: the output directory is missing and is made, or it is removed and made again. -/
theorem resetOutput_eq_ok (hp : Located p) {q : Path} (h : p.resetOutput d = .ok q d') :
    (d.isDirectory p.outputDir ≠ .ok true ∧ makeDirectories p.outputDir d = .ok () d') ∨
      ∃ l, l ≠ [] ∧ d.stat .itself p.outputDir = .ok (l, .directory) ∧
        (d.clearBelow l).stat .itself p.outputDir = .ok (l, .directory) ∧
        makeDirectories p.outputDir ((d.clearBelow l).erase l) = .ok () d' := by
  have hremoval := removeTree_cases hp.isAbsolute d
  have hreset := resetOutput_cases p d
  generalize hr : p.resetOutput d = r at hreset
  rw [h] at hr
  cases hreset with
  | unresolved _ => cases hr
  | rootless _ _ => cases hr
  | guarded _ _ _ => cases hr
  | refused _ _ _ _ _ => cases hr
  | unremoved _ _ _ _ => cases hr
  | absent _ _ _ hpresent =>
    refine .inl ⟨fun hdir => ?_, remake_eq_ok hr.symm⟩
    obtain ⟨l, hstat⟩ := isDirectory_eq_true hdir
    rw [isPresent, lookup, hstat] at hpresent
    cases hpresent
  | removed houtput hroot hbelow hremove =>
    rw [hremove] at hremoval
    cases hremoval with
    | @removed l hstat hstat' hparts hdots =>
      refine .inr ⟨l, ?_, hstat, hstat', remake_eq_ok hr.symm⟩
      rcases hp.last with heq | hlast
      · -- the root itself is never removed
        rw [heq, hroot] at houtput
        cases houtput
        rw [Path.isBelow_self] at hbelow
        cases hbelow
      · have hname := List.getLast?_eq_some_getLast hparts
        obtain ⟨hempty, hdot⟩ := hlast _ hname
        refine ne_nil_of_stat_clearBelow hp.isAbsolute hstat' hname ⟨hempty, hdot, fun hdots' => ?_⟩
        rw [hdots'] at hname
        exact hdots hname

/-- A reset that succeeds leaves a new output directory. -/
theorem resetOutput_new (hp : Located p) (hwf : d.WellFormed) (hdots : DotsLead d p.outputDir)
    {q : Path} (h : p.resetOutput d = .ok q d') : ∃ l d₀, New p.outputDir l d₀ d' := by
  rcases resetOutput_eq_ok hp h with ⟨hnone, hmade⟩ | ⟨l, hl, _, hstat, hmade⟩
  · exact makeDirectoriesFrom_new hwf hp.isAbsolute hdots hnone hmade
  · exact ⟨l, _, remake_new hp.isAbsolute hl hstat hmade⟩

/-- After one entry has been put into a new output directory, another reset leaves the disk as the first
one did. -/
theorem resetOutput_again (hp : Located p) {l : Location} {d₀ : Disk} (hnew : New p.outputDir l d₀ d)
    {name : String} {e : Entry} {q : Path}
    (h : p.resetOutput (d.set (l ++ [name]) e) = .ok q d') : d' = d := by
  have hext : Extends d (d.set (l ++ [name]) e) :=
    extends_set (hnew.get?_below (List.cons_ne_nil _ _)) e
  obtain ⟨hfits, n, hn, hleads⟩ := hnew.leads hp.isAbsolute
  have hleads' := hleads.mono hext
  rcases resetOutput_eq_ok hp h with ⟨hnone, _⟩ | ⟨m, hm, hstat, hstat', hmade⟩
  · have hstat := hleads'.stat_followed hn (hext _ _ hnew.get?_self) hp.isAbsolute hfits
    exact absurd (isDirectory_of_stat hstat) hnone
  · obtain ⟨_, _, _, _, hleads''⟩ := leads_of_stat hp.isAbsolute hstat fun _ _ => by simp
    obtain ⟨_, rfl⟩ := hleads''.deterministic hleads'
    rw [(remake_new hp.isAbsolute hm hstat' hmade).eq, hnew.remove, hnew.eq]

end Project

/-! ## Bundles in new directories -/

theorem Path.IsFileName.file_inDirectory {name : String} (h : Path.IsFileName name) (p : Path) :
    (Bundle.inDirectory p name).file = ⟨p.anchor, p.parts ++ [name]⟩ := by
  change p.append (Path.ofString name) = _
  rw [h.ofString_eq]
  rfl

/-- The file of a bundle in a new directory is not there yet. -/
theorem Disk.New.walk_file {p : Path} {l : Location} {d₀ d : Disk} {name : String} {spot : Spot}
    (h : New p l d₀ d) (habs : p.isAbsolute = true) (hname : Path.IsFileName name)
    (hwalk : d.walk .created (Bundle.inDirectory p name).file = .ok spot) : spot = .vacant l name := by
  rw [hname.file_inDirectory] at hwalk
  have habs' : Path.isAbsolute ⟨p.anchor, p.parts ++ [name]⟩ = true := habs
  obtain ⟨_, n, hn, hleads⟩ := h.leads habs
  obtain ⟨_, hfrom⟩ := walkFrom_of_walk habs' hwalk
  simp only at hfrom
  rw [hleads.walkFrom_append hn (goesOn_name .created hname.ne_empty)] at hfrom
  obtain ⟨_, hstep⟩ := walkStep_of_walkFrom hfrom
  have hfree := h.get?_below (List.cons_ne_nil name [])
  cases hstep with
  | stay hskip _ => exact absurd hskip (not_or.2 ⟨hname.ne_empty, hname.ne_dot⟩)
  | up hup _ => exact absurd hup hname.ne_dots
  | vacant _ _ _ hspot => exact hspot
  | itself _ hget _ _ _ => simp [hfree] at hget
  | link _ hget _ _ => simp [hfree] at hget
  | down _ hget _ _ => simp [hfree] at hget

/-- Adding to a bundle in a new directory makes its file, or fails and changes nothing. -/
theorem Disk.New.append {p : Path} {l : Location} {d₀ d : Disk} {name : String} {bytes : List UInt8}
    (h : New p l d₀ d) (habs : p.isAbsolute = true) (hname : Path.IsFileName name) :
    (Bundle.inDirectory p name).append bytes d = .ok () (d.set (l ++ [name]) (.file bytes)) ∨
      ∃ e, (Bundle.inDirectory p name).append bytes d = .error e d := by
  have hmade : after (makeDirectories (Bundle.inDirectory p name).directory d) = d :=
    after_makeDirectories_of_stat habs h.stat
  cases hmake : makeDirectories (Bundle.inDirectory p name).directory d with
  | error e d₁ =>
    rw [hmake] at hmade
    obtain rfl : d₁ = d := hmade
    exact .inr ⟨e, Bundle.append_of_unmade hmake bytes⟩
  | ok u d₁ =>
    rw [hmake] at hmade
    obtain rfl : d₁ = d := hmade
    rw [Bundle.append_of_made hmake]
    simp only [appendFile, openFile]
    cases hwalk : d₁.walk .created (Bundle.inDirectory p name).file with
    | error e => exact .inr ⟨e, rfl⟩
    | ok spot =>
      cases h.walk_file habs hname hwalk
      left
      simp only [List.nil_append, set, Keyed.put_put]

/-- Writing a bundle into a new directory makes its file, or fails and changes nothing. -/
theorem Disk.New.write {p : Path} {l : Location} {d₀ d : Disk} {name : String} (h : New p l d₀ d)
    (habs : p.isAbsolute = true) (hname : Path.IsFileName name) (store : Store) :
    (∃ path, ((Bundle.inDirectory p name).write store d).result = .ok path ∧
        ((Bundle.inDirectory p name).write store d).disk =
          d.set (l ++ [name]) (.file (store.records.reverse.flatMap Bundle.fragmentBytes))) ∨
      ∃ e, ((Bundle.inDirectory p name).write store d).result = .error e ∧
        ((Bundle.inDirectory p name).write store d).disk = d := by
  unfold Bundle.write
  cases hfragments : Bundle.fragments store with
  | error f => exact .inr ⟨_, rfl, rfl⟩
  | ok fs =>
    simp only [Bundle.bytesOf_fragmentsOf hfragments]
    rcases h.append habs hname with happend | ⟨e, happend⟩
    · rw [happend]
      exact .inl ⟨_, rfl, rfl⟩
    · rw [happend]
      simp only
      split
      · exact .inr ⟨_, rfl, rfl⟩
      · exact .inr ⟨_, rfl, rfl⟩

/-! ## Builds -/

/-- What logging leaves as it is. -/
structure Session.Logged (s s' : Session) : Prop where
  home : s'.home = s.home
  disk : s.journal.file = none → s'.disk = s.disk
  file : s.journal.file = none → s'.journal.file = none

namespace Session.Logged

theorem refl (s : Session) : Logged s s :=
  ⟨rfl, fun _ => rfl, id⟩

theorem trans {s₁ s₂ s₃ : Session} (h : Logged s₁ s₂) (h' : Logged s₂ s₃) : Logged s₁ s₃ where
  home := h'.home.trans h.home
  disk hfile := (h'.disk (h.file hfile)).trans (h.disk hfile)
  file hfile := h'.file (h.file hfile)

theorem with_disk {s s' : Session} (h : Logged s s') (d : Disk) :
    Logged { s with disk := d } { s' with disk := d } :=
  ⟨h.home, fun _ => rfl, h.file⟩

theorem log (s : Session) (lg : Journal.Logger) (e : Journal.Entry) : Logged s (s.log lg e) where
  home := rfl
  disk hfile := (log_disk hfile lg e).1
  file hfile := (log_disk hfile lg e).2

theorem foldl_log (s : Session) (lg : Journal.Logger) (es : List Journal.Entry) :
    Logged s (es.foldl (fun s e => s.log lg e) s) := by
  induction es generalizing s with
  | nil => exact refl s
  | cons e es ih => exact (log s lg e).trans (ih _)

theorem logAll (s : Session) (lg : Journal.Logger) (es : List Journal.Entry) :
    Logged s (s.logAll lg es) := by
  have heq : s.logAll lg es = es.foldl (fun s e => s.log lg e) s := by
    induction es generalizing s with
    | nil => rfl
    | cons e es ih => exact ih (s.log lg e)
  rw [heq]
  exact foldl_log s lg es

end Session.Logged

namespace Builder

variable {b : Builder} {label : Option String} {path outputDir : Option Path} {s : Session}

theorem logged_parse (b : Builder) (label : Option String) (path : Option Path) (s : Session) :
    Session.Logged s (b.parse label path s).session := by
  obtain ⟨es, hsession⟩ := b.parse_session_eq label path s
  rw [hsession]
  exact Session.Logged.foldl_log s _ es

theorem build_eq (b : Builder) (store : Store) (outputDir : Option Path) (s : Session) :
    (b.build store outputDir s).result = ((b.outputBundle outputDir).write store s.disk).result ∧
      Session.Logged { s with disk := ((b.outputBundle outputDir).write store s.disk).disk }
        (b.build store outputDir s).session := by
  unfold build
  rw [← outputBundle]
  rcases hwrite : (b.outputBundle outputDir).write store s.disk with ⟨_ | out, bundle, entries, d⟩
  · simp only [hwrite]
    exact ⟨trivial, .logAll _ _ _⟩
  · simp only [hwrite]
    exact ⟨trivial, .logAll _ _ _⟩

/-- A compilation is a parse and, if that succeeds, a writing of the bundle. -/
theorem compile_cases (hfile : s.journal.file = none) :
    (∃ e, (b.compile label path outputDir s).result = .error e ∧
        Session.Logged s (b.compile label path outputDir s).session) ∨
      ∃ store metrics, (b.parse label path s).result = .ok store ∧
        (b.compile label path outputDir s).result =
          ((b.outputBundle outputDir).write store s.disk).result.map (⟨store, ·, metrics⟩) ∧
        Session.Logged { s with disk := ((b.outputBundle outputDir).write store s.disk).disk }
          (b.compile label path outputDir s).session := by
  have hbundle : (b.parse label path s).builder.outputBundle outputDir = b.outputBundle outputDir := rfl
  have hlogged := b.logged_parse label path s
  unfold compile
  rcases hparse : b.parse label path s with ⟨_ | store, b₁, s₁⟩
  · rw [hparse] at hlogged
    exact .inl ⟨_, rfl, hlogged⟩
  · rw [hparse] at hlogged hbundle
    obtain ⟨hresult, hbuilt⟩ := b₁.build_eq store outputDir s₁
    simp only at hlogged hbundle
    rw [hbundle, hlogged.disk hfile] at hresult hbuilt
    simp only
    rcases hbuild : b₁.build store outputDir s₁ with ⟨_ | out, b₂, s₂⟩
    · rw [hbuild] at hresult hbuilt
      refine .inr ⟨store, {}, rfl, ?_, (hlogged.with_disk _).trans hbuilt⟩
      rw [← hresult]
      rfl
    · rw [hbuild] at hresult hbuilt
      refine .inr ⟨store, b₂.metrics, rfl, ?_,
        ((hlogged.with_disk _).trans hbuilt).trans (.log s₂ b₂.logger (completeEntry store out))⟩
      rw [← hresult]
      rfl

/-- A compilation into a new directory makes the file of the bundle, or fails and changes nothing. -/
theorem compile_new {p : Path} {l : Location} {d₀ : Disk} (h : New p l d₀ s.disk)
    (habs : p.isAbsolute = true) (hname : Path.IsFileName b.settings.outputFile)
    (hfile : s.journal.file = none) :
    (∃ r, (b.compile label path p s).result = .ok r ∧ (b.parse label path s).result = .ok r.store ∧
        Session.Logged
          { s with
            disk := s.disk.set (l ++ [b.settings.outputFile])
              (.file (r.store.records.reverse.flatMap Bundle.fragmentBytes)) }
          (b.compile label path p s).session) ∨
      ∃ e, (b.compile label path p s).result = .error e ∧
        Session.Logged s (b.compile label path p s).session := by
  rcases compile_cases hfile with hfailed | ⟨store, metrics, hparse, hresult, hlogged⟩
  · exact .inr hfailed
  · have hbundle : b.outputBundle p = .inDirectory p b.settings.outputFile := rfl
    rw [hbundle] at hresult hlogged
    rcases h.write habs hname store with ⟨out, hwrite, hdisk⟩ | ⟨e, hwrite, hdisk⟩
    · rw [hwrite] at hresult
      rw [hdisk] at hlogged
      exact .inl ⟨_, hresult, hparse, hlogged⟩
    · rw [hwrite] at hresult
      rw [hdisk] at hlogged
      exact .inr ⟨e, hresult, hlogged⟩

end Builder

/-! ## Clean builds -/

/-- The directory at a path holds the files of a list and nothing else. -/
def Disk.HoldsExactly (d : Disk) (p : Path) (files : List (String × List UInt8)) : Prop :=
  ∃ l, d.stat .followed p = .ok (l, .directory) ∧
    ∀ names, names ≠ [] → d.get? (l ++ names) =
      match names with
      | [name] => (files.lookup name).map .file
      | _ => none

namespace Disk.New

variable {p : Path} {l : Location} {d₀ d : Disk}

theorem holdsExactly_nil (h : New p l d₀ d) : d.HoldsExactly p [] := by
  refine ⟨l, h.stat, fun names hnames => ?_⟩
  rw [h.get?_below hnames]
  split <;> rfl

theorem holdsExactly_set (h : New p l d₀ d) (habs : p.isAbsolute = true) (name : String)
    (bytes : List UInt8) :
    (d.set (l ++ [name]) (.file bytes)).HoldsExactly p [(name, bytes)] := by
  have hext : Extends d (d.set (l ++ [name]) (.file bytes)) :=
    extends_set (h.get?_below (List.cons_ne_nil _ _)) _
  obtain ⟨hfits, n, hn, hleads⟩ := h.leads habs
  refine ⟨l, (hleads.mono hext).stat_followed hn (hext _ _ h.get?_self) habs hfits,
    fun names hnames => ?_⟩
  rw [get?_set (List.append_ne_nil_of_right_ne_nil l (List.cons_ne_nil name []))]
  simp only [List.append_right_inj]
  split_ifs with heq
  · subst heq
    simp
  · rw [h.get?_below hnames]
    split
    · rename_i other
      have hne : other ≠ name := fun he => heq (by rw [he])
      rw [List.lookup_cons, beq_false_of_ne hne]
      rfl
    · rfl

end Disk.New

namespace Project

theorem resetOutput_ne_failure {p : Project} {d d' : Disk} {f : Failure} :
    p.resetOutput d ≠ .error (.failure f) d' := by
  have hremake : ∀ d₁, p.remake d₁ ≠ .error (.failure f) d' := by
    intro d₁ h
    rw [remake, DiskTask.change_bind] at h
    cases hmade : makeDirectories p.outputDir d₁ <;> rw [hmade] at h <;> cases h
  have hreset := resetOutput_cases p d
  intro h
  generalize hr : p.resetOutput d = r at hreset
  rw [h] at hr
  cases hreset with
  | unresolved _ => cases hr
  | rootless _ _ => cases hr
  | guarded _ _ _ => cases hr
  | refused hkind _ _ _ _ =>
    cases hr
    exact hkind f rfl
  | unremoved _ _ _ _ => cases hr
  | absent _ _ _ _ => exact hremake _ hr.symm
  | removed _ _ _ _ => exact hremake _ hr.symm

/-- What is there when a clean build comes to its compilation. -/
structure Started (p : Project) (config : Config) (s : Session) (d : Disk) (b : Builder) (entry : Path) :
    Prop where
  reset : ∃ q, p.resetOutput s.disk = .ok q d
  settings : b.settings = config.build
  root : d.resolve p.root = .ok b.root
  entry : p.entryPath s.home config.build.entry = .ok entry

/-- Everything that a clean build can come to. -/
inductive CleanBuild (p : Project) (config : Config) (s : Session) :
    EStateM.Result Error Session BuildResult → Prop where
  | unreset {e : Error} {d : Disk} : p.resetOutput s.disk = .error e d →
      CleanBuild p config s (.error e { s with disk := d })
  | unstarted {q : Path} {d : Disk} (e : FileError) : p.resetOutput s.disk = .ok q d →
      CleanBuild p config s (.error (.file e) { s with disk := d })
  | failed {d : Disk} {b : Builder} {entry : Path} {e : BuildError} : Started p config s d b entry →
      (b.compile none entry p.outputDir { s with disk := d }).result = .error e →
      CleanBuild p config s
        (.error (.ofBuild e) (b.compile none entry p.outputDir { s with disk := d }).session)
  | built {d : Disk} {b : Builder} {entry : Path} {r : BuildResult} : Started p config s d b entry →
      (b.compile none entry p.outputDir { s with disk := d }).result = .ok r →
      CleanBuild p config s (.ok r (b.compile none entry p.outputDir { s with disk := d }).session)

theorem create_eq_ok {root : Path} {settings : Settings} {logger : Option Journal.Logger} {s : Session}
    {b : Builder} (h : Builder.create root settings logger s = .ok b) :
    b.settings = settings ∧ s.disk.resolve root = .ok b.root := by
  unfold Builder.create at h
  simp only at h
  split at h
  · cases h
  · rename_i r hr
    cases h
    exact ⟨rfl, hr⟩

theorem buildProject_cases {p : Project} {config : Config} (hclean : config.build.clean = true)
    (s : Session) : CleanBuild p config s (buildProject p config none s) := by
  unfold buildProject
  simp only [hclean, if_true]
  cases hreset : p.resetOutput s.disk with
  | error e d => exact .unreset hreset
  | ok q d =>
    simp only
    cases hcreate : Builder.create p.root config.build none { s with disk := d } with
    | error e => exact .unstarted e hreset
    | ok b =>
      simp only
      cases hentry : p.entryPath s.home config.build.entry with
      | error e => exact .unstarted e hreset
      | ok entry =>
        obtain ⟨hsettings, hroot⟩ := create_eq_ok hcreate
        have hstarted : Started p config s d b entry := ⟨⟨q, hreset⟩, hsettings, hroot, hentry⟩
        simp only
        rcases hcompile : b.compile none entry p.outputDir { s with disk := d } with ⟨_ | r, b', s'⟩
        · have hfailed := CleanBuild.failed hstarted (congrArg Builder.Done.result hcompile)
          rw [hcompile] at hfailed
          exact hfailed
        · have hbuilt := CleanBuild.built hstarted (congrArg Builder.Done.result hcompile)
          rw [hcompile] at hbuilt
          exact hbuilt

end Project

theorem cleanBuild_runBuild {root : Option Path} {config : Config} {s : Session} {p : Project}
    (hclean : config.build.clean = true)
    (hlocate : Project.locate s.home root config.build s.disk = .ok p) :
    p.CleanBuild config s (runBuild root config s) := by
  simp only [runBuild, hlocate]
  exact Project.buildProject_cases hclean s

section

variable {p : Project} {config : Config} {s s₁ : Session} {d d₁ : Disk} {l : Location} {d₀ : Disk}

/-- A compilation that succeeds has made the file of the bundle. -/
theorem Project.Started.compile_ok {b : Builder} {entry : Path} {r : BuildResult}
    (h : p.Started config s d b entry) (hp : p.Located) (hnew : New p.outputDir l d₀ d)
    (hname : Path.IsFileName config.build.outputFile) (hfile : s.journal.file = none)
    (hresult : (b.compile none entry p.outputDir { s with disk := d }).result = .ok r) :
    (b.parse none entry { s with disk := d }).result = .ok r.store ∧
      Session.Logged
        { s with
          disk := d.set (l ++ [config.build.outputFile])
            (.file (r.store.records.reverse.flatMap Bundle.fragmentBytes)) }
        (b.compile none entry p.outputDir { s with disk := d }).session := by
  rw [← h.settings] at hname ⊢
  rcases Builder.compile_new (s := { s with disk := d }) hnew hp.isAbsolute hname hfile with
    ⟨r', hok, hnext⟩ | ⟨e, herror, _⟩
  · rw [hresult, Except.ok.injEq] at hok
    subst hok
    exact hnext
  · rw [hresult] at herror
    cases herror

/-- A compilation that fails has changed nothing. -/
theorem Project.Started.compile_error {b : Builder} {entry : Path} {e : BuildError}
    (h : p.Started config s d b entry) (hp : p.Located) (hnew : New p.outputDir l d₀ d)
    (hname : Path.IsFileName config.build.outputFile) (hfile : s.journal.file = none)
    (hresult : (b.compile none entry p.outputDir { s with disk := d }).result = .error e) :
    Session.Logged { s with disk := d }
      (b.compile none entry p.outputDir { s with disk := d }).session := by
  rw [← h.settings] at hname
  rcases Builder.compile_new (s := { s with disk := d }) hnew hp.isAbsolute hname hfile with
    ⟨r, hok, _⟩ | ⟨_, _, hlogged⟩
  · rw [hresult] at hok
    cases hok
  · exact hlogged

/-- Two clean builds of one project that come to their compilation on the same disk find the same
components. -/
theorem Project.Started.parse_eq {b b₁ : Builder} {entry entry₁ : Path}
    (h : p.Started config s d b entry) (h₁ : p.Started config s₁ d b₁ entry₁)
    (hhome : s₁.home = s.home) (hfile : s.journal.file = none) (hfile₁ : s₁.journal.file = none) :
    (b₁.parse none entry₁ { s₁ with disk := d }).result =
      (b.parse none entry { s with disk := d }).result := by
  have hroot : b₁.root = b.root := by
    have hroots := h₁.root
    rw [h.root, Except.ok.injEq] at hroots
    exact hroots.symm
  have hentry : entry₁ = entry := by
    have hentries := h₁.entry
    rw [hhome, h.entry, Except.ok.injEq] at hentries
    exact hentries.symm
  have hsettings : b₁.settings = b.settings := h₁.settings.trans h.settings.symm
  have hdisk : Builder.SameDisk { s₁ with disk := d } { s with disk := d } := ⟨rfl, hfile₁, hfile⟩
  rw [hentry]
  exact Builder.parse_result_eq hsettings hroot hdisk none entry

/-- A clean build after another one that left its bundle finds the same components and leaves the disk
as it is. -/
theorem Project.Started.build_again {b : Builder} {entry : Path} {r : BuildResult}
    (h : p.Started config s d b entry) (hp : p.Located) (hnew : New p.outputDir l d₀ d)
    (hname : Path.IsFileName config.build.outputFile) (hfile : s.journal.file = none)
    (hparse : (b.parse none entry { s with disk := d }).result = .ok r.store)
    (hlogged : Session.Logged
      { s with
        disk := d.set (l ++ [config.build.outputFile])
          (.file (r.store.records.reverse.flatMap Bundle.fragmentBytes)) } s₁)
    {r₂ : BuildResult} {s₂ : Session} (h₂ : p.CleanBuild config s₁ (.ok r₂ s₂)) :
    r₂.store = r.store ∧ s₂.disk = s₁.disk := by
  have hfile₁ : s₁.journal.file = none := hlogged.file hfile
  cases h₂ with
  | @built d₁ b₁ entry₁ _ hstarted hresult =>
    obtain ⟨q, hreset⟩ := hstarted.reset
    rw [hlogged.disk hfile] at hreset ⊢
    obtain rfl : d₁ = d := resetOutput_again hp hnew hreset
    obtain ⟨hparse₁, hlogged₁⟩ := hstarted.compile_ok hp hnew hname hfile₁ hresult
    rw [h.parse_eq hstarted hlogged.home hfile hfile₁, hparse, Except.ok.injEq] at hparse₁
    rw [hlogged₁.disk hfile₁, hparse₁]
    exact ⟨rfl, rfl⟩

end

/-- When every double dot on the way to the output directory comes after directories that are there, a
clean build leaves the bundle of its store in the output directory and nothing else, whatever was there
before. A failed component leaves the directory empty, and a second build finds the same components and
leaves the same disk. -/
theorem runBuild_fresh {root : Option Path} {config : Config} {s : Session} {p : Project}
    (hwf : s.disk.WellFormed) (hfile : s.journal.file = none) (hclean : config.build.clean = true)
    (hname : Path.IsFileName config.build.outputFile)
    (hlocate : Project.locate s.home root config.build s.disk = .ok p)
    (hdots : DotsLead s.disk p.outputDir) :
    (∀ r s₁, runBuild root config s = .ok r s₁ →
      s₁.disk.HoldsExactly p.outputDir
          [(config.build.outputFile, r.store.records.reverse.flatMap Bundle.fragmentBytes)] ∧
        ∀ root₁ r₂ s₂, Project.locate s₁.home root₁ config.build s₁.disk = .ok p →
          runBuild root₁ config s₁ = .ok r₂ s₂ → r₂.store = r.store ∧ s₂.disk = s₁.disk) ∧
    ∀ f s₁, runBuild root config s = .error (.failure f) s₁ →
      s₁.disk.HoldsExactly p.outputDir [] := by
  have hp : p.Located := by
    obtain ⟨r, hr, rfl⟩ := Project.locate_eq_ok hlocate
    exact Project.located_atRoot hr _
  constructor
  · intro r s₁ hrun
    have hbuild := cleanBuild_runBuild hclean hlocate
    rw [hrun] at hbuild
    cases hbuild with
    | @built d b entry _ hstarted hresult =>
      obtain ⟨q, hreset⟩ := hstarted.reset
      obtain ⟨l, d₀, hnew⟩ := Project.resetOutput_new hp hwf hdots hreset
      obtain ⟨hparse, hlogged⟩ := hstarted.compile_ok hp hnew hname hfile hresult
      constructor
      · rw [hlogged.disk hfile]
        exact hnew.holdsExactly_set hp.isAbsolute _ _
      · intro root₁ r₂ s₂ hlocate₁ hrun₁
        have hagain := cleanBuild_runBuild hclean hlocate₁
        rw [hrun₁] at hagain
        exact hstarted.build_again hp hnew hname hfile hparse hlogged hagain
  · intro f s₁ hrun
    have hbuild := cleanBuild_runBuild hclean hlocate
    rw [hrun] at hbuild
    generalize hcause : Error.failure f = cause at hbuild
    cases hbuild with
    | unreset hreset =>
      rw [← hcause] at hreset
      exact absurd hreset Project.resetOutput_ne_failure
    | unstarted _ _ => cases hcause
    | @failed d b entry e hstarted hresult =>
      obtain ⟨q, hreset⟩ := hstarted.reset
      obtain ⟨l, d₀, hnew⟩ := Project.resetOutput_new hp hwf hdots hreset
      have hlogged := hstarted.compile_error hp hnew hname hfile hresult
      rw [hlogged.disk hfile]
      exact hnew.holdsExactly_nil

/-- A project with an old bundle in `out`. -/
def staleDisk : Disk :=
  { entries :=
      [(["p"], .directory),
        (["p", "App.vue"], .file (Text.Utf8.encode "<template><script>\x7b\x7d")),
        (["p", "src"], .directory),
        (["p", "out"], .directory),
        (["p", "out", "build.js"], .file [120])]
    cwd := ["p"] }

def staleSession : Session :=
  { disk := staleDisk, home := ⟨none, []⟩ }

def staleConfig (outputDir : String) : Config :=
  { build := { outputDir := outputDir, optionalSections := [.style] } }

def staleProject (outputDir : String) : Project :=
  .atRoot (.ofParts ["p"]) (staleConfig outputDir).build

theorem locate_stale (outputDir : String) :
    Project.locate staleSession.home none (staleConfig outputDir).build staleDisk =
      .ok (staleProject outputDir) := by
  have hroot : Project.resolveRoot staleSession.home none staleDisk = .ok (.ofParts ["p"]) := by
    decide +kernel
  have hfile : staleDisk.isFile (.ofParts ["p"]) = .ok false := by decide +kernel
  simp only [Project.locate, hroot, hfile, staleProject]

theorem runBuild_fresh_over_old :
    staleDisk.WellFormed ∧ DotsLead staleDisk (staleProject "src/../out").outputDir ∧
    ∃ r s₁, runBuild none (staleConfig "src/../out") staleSession = .ok r s₁ ∧
      s₁.disk.HoldsExactly (staleProject "src/../out").outputDir
        [("build.js", r.store.records.reverse.flatMap Bundle.fragmentBytes)] := by
  have hwf : staleDisk.WellFormed := by decide +kernel
  have hdots : DotsLead staleDisk (staleProject "src/../out").outputDir := by decide +kernel
  have hname : Path.IsFileName "build.js" := ⟨by decide, by decide, by decide, by simp⟩
  have hok : (runBuild none (staleConfig "src/../out") staleSession matches .ok _ _) = true := by
    decide +kernel
  refine ⟨hwf, hdots, ?_⟩
  cases hrun : runBuild none (staleConfig "src/../out") staleSession with
  | error e s₁ =>
    rw [hrun] at hok
    cases hok
  | ok r s₁ =>
    have hfresh := @runBuild_fresh none (staleConfig "src/../out") staleSession
      (staleProject "src/../out") hwf rfl rfl hname (locate_stale _) hdots
    exact ⟨r, s₁, rfl, (hfresh.1 r s₁ hrun).1⟩

/-- The old bundle stays when the output directory is not found before it is made: the directory `x`
that the path leads through is missing, and with it the path leads to `out`. -/
theorem runBuild_keeps_old :
    staleDisk.WellFormed ∧
    Project.locate staleSession.home none (staleConfig "x/../out").build staleDisk =
      .ok (staleProject "x/../out") ∧
    ∃ r s₁, runBuild none (staleConfig "x/../out") staleSession = .ok r s₁ ∧
      s₁.disk.get? ["p", "out", "build.js"] =
        some (.file (120 :: r.store.records.reverse.flatMap Bundle.fragmentBytes)) ∧
      ¬ s₁.disk.HoldsExactly (staleProject "x/../out").outputDir
        [("build.js", r.store.records.reverse.flatMap Bundle.fragmentBytes)] := by
  refine ⟨by decide +kernel, locate_stale _, ?_⟩
  have hkept : (match runBuild none (staleConfig "x/../out") staleSession with
      | .ok r s₁ => decide (s₁.disk.stat .followed (staleProject "x/../out").outputDir =
            .ok (["p", "out"], .directory) ∧
          s₁.disk.get? ["p", "out", "build.js"] =
            some (.file (120 :: r.store.records.reverse.flatMap Bundle.fragmentBytes)))
      | .error _ _ => false) = true := by
    decide +kernel
  cases hrun : runBuild none (staleConfig "x/../out") staleSession with
  | error e s₁ =>
    rw [hrun] at hkept
    cases hkept
  | ok r s₁ =>
    rw [hrun] at hkept
    obtain ⟨hstat, hget⟩ := of_decide_eq_true hkept
    refine ⟨r, s₁, rfl, hget, ?_⟩
    rintro ⟨l, hl, hexact⟩
    rw [hstat] at hl
    cases hl
    have hnew := hexact ["build.js"] (List.cons_ne_nil _ _)
    rw [List.cons_append, List.cons_append, List.nil_append, hget] at hnew
    simp at hnew

end Bundler
