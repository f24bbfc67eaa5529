import Bundler.Proofs.Settings.ProjectFile
import Bundler.Proofs.Value.Paths
import Bundler.Settings.Edit

/-!
# Bundler.Proofs.Settings.History

Settings and configurations over time. Whatever is assigned to them after they have been made, and
whichever assignments are refused, their fields are in order, and one assignment changes one place.

* `Settings.Sound`, `Config.Sound`: what the fields are like at every time.
* `Table.SameBut p t t'`: the tables agree but for what stands at a path, above or below it.
* `Record.history change s xs`: many changes, one after the other; `Record.Reliable`: what is asked of
  every history, and `Record.reliable_of_step`: what a single change has to be like for it.
* `Record.assignAt_eq_done`, `ConfigDraft.assignAt_eq_done`: what an assignment that is accepted has done.
* `Settings.Valid.assign_held`, `Config.Valid.assign_held`: a value that one record holds, another takes.
* `Config.reliable_of_accepted`: the histories of settings and of configurations.
-/

namespace Bundler

/-! ## Sound fields -/

/-- A text with characters that neither begins nor ends with white space. -/
def Text.IsTrimmed (s : String) : Prop :=
  s ≠ "" ∧ (∀ c ∈ s.toList.head?, isWhite c = false) ∧ ∀ c ∈ s.toList.getLast?, isWhite c = false

structure Settings.Sound (s : Settings) : Prop where
  texts : ∀ t ∈ [s.rootLabel, s.entry, s.outputDir, s.outputFile, s.runtime], Text.IsTrimmed t
  noHome : s.outputDir.toList.head? ≠ some '~'
  noRoot : (Path.ofString s.outputDir).isAbsolute = false
  noDrive : isDriveAbsolute s.outputDir.toList = false
  nodup : (s.optionalSections.map Section.name).Nodup
  known : ∀ n ∈ s.optionalSections.map Section.name, n ∈ ["template", "script", "style"]

/-- Upper case can be taken of the level at any time without changing it. -/
structure Config.Sound (c : Config) : Prop where
  build : c.build.Sound
  level : Text.upper c.logLevel = c.logLevel

theorem Settings.IsText.isTrimmed {s : String} (h : IsText s) : Text.IsTrimmed s := by
  have htrim : Text.trim Text.isWhite s.toList = s.toList := by
    have hlist := congrArg String.toList h.1
    rwa [Text.trimWhite, String.toList_ofList] at hlist
  have hhead := Text.not_of_mem_head?_trim (p := Text.isWhite) (s := s.toList)
  have hlast := Text.not_of_mem_getLast?_trim (p := Text.isWhite) (s := s.toList)
  rw [htrim] at hhead hlast
  exact ⟨h.2, hhead, hlast⟩

theorem Section.name_injective : Function.Injective Section.name := by
  intro a b
  cases a <;> cases b <;> decide

theorem Settings.Valid.sound {s : Settings} (h : s.Valid) : s.Sound := by
  have hbase := h.inside.1
  simp only [hasOwnBase, Bool.or_eq_false_iff] at hbase
  refine
    { texts := ?_, noHome := ?_, noRoot := hbase.1.2, noDrive := hbase.2,
      nodup := h.sections.map Section.name_injective, known := ?_ }
  · simp only [List.forall_mem_cons]
    exact ⟨h.rootLabel.isTrimmed, h.entry.isTrimmed, h.outputDir.isTrimmed, h.outputFile.isTrimmed,
      h.runtime.isTrimmed, List.forall_mem_nil _⟩
  · simpa using hbase.1.1
  · intro n hn
    obtain ⟨k, _, rfl⟩ := List.mem_map.1 hn
    cases k <;> decide

theorem Config.Valid.sound {c : Config} (h : c.Valid) : c.Sound :=
  ⟨h.build.sound, h.logLevel.2⟩

/-! ## One place in a table -/

/-- The second table differs from the first at most at a path, above it or below it. -/
def Table.SameBut (p : List String) (t t' : Table) : Prop :=
  ∀ q, ¬ p <+: q → ¬ q <+: p → t'.at? q = t.at? q

namespace Table.SameBut

variable {t t' u u' : Table} {k : String} {p : List String}

theorem refl (p : List String) (t : Table) : SameBut p t t :=
  fun _ _ _ => rfl

theorem put (k : String) (v : Value) (t : Table) : SameBut [k] t (Keyed.put k v t) := by
  intro q hbelow habove
  cases q with
  | nil => exact absurd List.nil_prefix habove
  | cons l q =>
    have hne : l ≠ k := by
      rintro rfl
      exact hbelow ((List.prefix_cons_inj l).2 List.nil_prefix)
    rw [Table.at?, Table.at?, Value.at?_cons, Value.at?_cons, Keyed.lookup_put_of_ne hne]

/-- A change in a table below is a change at the longer path. -/
theorem putUnder (h : SameBut p u u') (hk : t.lookup k = some (.table u)) :
    SameBut (k :: p) t (Keyed.put k (.table u') t) := by
  intro q hbelow habove
  cases q with
  | nil => exact absurd List.nil_prefix habove
  | cons l q =>
    rw [Table.at?, Table.at?, Value.at?_cons, Value.at?_cons]
    by_cases hl : l = k
    · subst hl
      rw [List.prefix_cons_inj] at hbelow habove
      rw [Keyed.lookup_put_self, hk]
      exact h q hbelow habove
    · rw [Keyed.lookup_put_of_ne hl]

end Table.SameBut

/-! ## Histories -/

namespace Record

section History

variable {σ χ : Type} {change : σ → χ → Outcome σ} {sound : σ → Prop} {fields : σ → Table}
  {place : χ → List String} {s s' : σ} {x : χ}

def Outcome.after (s : σ) : Outcome σ → σ
  | .done s' => s'
  | .refused _ => s
  | .unreachable _ => s

/-- The state after changes that are tried one after the other. -/
def history (change : σ → χ → Outcome σ) (s : σ) (xs : List χ) : σ :=
  xs.foldl (fun s x => (change s x).after s) s

theorem history_concat (change : σ → χ → Outcome σ) (s : σ) (xs : List χ) (x : χ) :
    history change s (xs ++ [x]) = (change (history change s xs) x).after (history change s xs) := by
  simp [history, List.foldl_append]

/-- What is asked of the states after any changes: they are sound; one more change that is accepted leaves
all fields but those at its place as they are; and one that is not accepted leaves the whole state. -/
structure Reliable (change : σ → χ → Outcome σ) (sound : σ → Prop) (fields : σ → Table)
    (place : χ → List String) (s : σ) : Prop where
  sound : ∀ xs, sound (history change s xs)
  accepted : ∀ xs x s', change (history change s xs) x = .done s' →
    history change s (xs ++ [x]) = s' ∧
      Table.SameBut (place x) (fields (history change s xs)) (fields s')
  refused : ∀ xs x, (∀ s', change (history change s xs) x ≠ .done s') →
    history change s (xs ++ [x]) = history change s xs

/-- By induction on the changes: an invariant that every accepted change keeps holds at every time. -/
theorem invariant_history {P : σ → Prop} (hstep : ∀ s x s', P s → change s x = .done s' → P s')
    (hs : P s) (xs : List χ) : P (history change s xs) := by
  induction xs generalizing s with
  | nil => exact hs
  | cons x xs ih =>
    have hafter : P ((change s x).after s) := by
      cases hx : change s x with
      | done s' => exact hstep s x s' hs hx
      | refused r => exact hs
      | unreachable r => exact hs
    exact ih hafter

theorem reliable_of_step {P : σ → Prop} (hsound : ∀ s, P s → sound s)
    (hstep : ∀ s x s', P s → change s x = .done s' → P s')
    (hsame : ∀ s x s', P s → change s x = .done s' → Table.SameBut (place x) (fields s) (fields s'))
    (hs : P s) : Reliable change sound fields place s where
  sound xs := hsound _ (invariant_history hstep hs xs)
  accepted xs x s' hx := by
    rw [history_concat, hx]
    exact ⟨rfl, hsame _ x s' (invariant_history hstep hs xs) hx⟩
  refused xs x hx := by
    rw [history_concat]
    cases hchange : change (history change s xs) x with
    | done s' => exact absurd hchange (hx s')
    | refused r => rfl
    | unreachable r => rfl

end History

/-! ## Assignments -/

variable {α : Type} {k : Kind α} {given : Surroundings} {d d' : Draft α} {v : Value}

theorem Outcome.map_eq_done {σ τ : Type} {f : σ → τ} {o : Outcome σ} {t : τ} (h : o.map f = .done t) :
    ∃ s, o = .done s ∧ f s = t := by
  cases o with
  | done s =>
    cases h
    exact ⟨s, rfl, rfl⟩
  | refused r => cases h
  | unreachable r => cases h

theorem assign_eq_done {name : String} (h : assign k given d name v = .done d') :
    d'.record = d.record ∨ k.assign d.record name v = .ok d'.record := by
  unfold assign at h
  split at h
  · cases h
  · split at h
    · cases h
      exact .inl rfl
    · split at h
      · rename_i a ha
        cases h
        exact .inr ha
      · cases h

/-- A change that is accepted sets one field, or none. -/
theorem assignAt_eq_done {path : List String} (h : assignAt k given d v path = .done d') :
    d'.record = d.record ∨ ∃ name, path = [name] ∧ k.assign d.record name v = .ok d'.record := by
  unfold assignAt at h
  split at h
  · cases h
    exact .inl rfl
  · rename_i name
    exact (assign_eq_done h).imp_right fun ha => ⟨name, rfl, ha⟩
  · split at h
    · cases h
    · cases h
      exact .inl rfl
    · obtain ⟨_, _, rfl⟩ := Outcome.map_eq_done h
      exact .inl rfl

end Record

/-- A change to a configuration: a value set at a path, or checked settings put in the place of its own. -/
inductive Config.Change where
  | set (path : List String) (v : Value)
  | rebuild (s : Settings) (h : s.Accepted)

def Config.Change.path : Config.Change → List String
  | .set path _ => path
  | .rebuild _ _ => ["build"]

namespace ConfigDraft

variable {given : Record.Surroundings} {c c' : ConfigDraft}

def change (given : Record.Surroundings) (c : ConfigDraft) : Config.Change → Record.Outcome ConfigDraft
  | .set path v => c.assignAt given v path
  | .rebuild s _ =>
    .done { c with config := Config.finish { c.config with build := s }, buildNotes := [] }

theorem assignAt_eq_done {v : Value} {path : List String} (h : c.assignAt given v path = .done c') :
    c'.config = c.config ∨ (∃ name, path = [name] ∧ c.config.assign name v = .ok c'.config) ∨
      ∃ name, path = ["build", name] ∧ c.config.assignBuild name v = .ok c'.config := by
  unfold assignAt at h
  split at h
  · obtain ⟨d, hd, rfl⟩ := Record.Outcome.map_eq_done h
    rcases Record.assignAt_eq_done hd with heq | ⟨name, hpath, ha⟩
    · exact .inl (by rw [heq])
    · cases hpath
      refine .inr (.inr ⟨_, rfl, ?_⟩)
      rw [Config.assignBuild]
      exact congrArg (Except.map _) ha
  · obtain ⟨d, hd, rfl⟩ := Record.Outcome.map_eq_done h
    rcases Record.assignAt_eq_done hd with heq | ⟨name, hpath, ha⟩
    · exact .inl heq
    · exact .inr (.inl ⟨name, hpath, ha⟩)

theorem accepted_of_change {x : Config.Change} (hc : c.config.Accepted)
    (h : c.change given x = .done c') : c'.config.Accepted := by
  cases x with
  | set path v =>
    rcases assignAt_eq_done h with heq | ⟨name, _, ha⟩ | ⟨name, _, ha⟩
    · rwa [heq]
    · exact .assigned hc ha
    · exact .assignedBuild hc ha
  | rebuild s hs =>
    cases h
    exact .rebuilt hc hs

end ConfigDraft

theorem Settings.table_assign {s s' : Settings} {name : String} {v : Value}
    (h : s.assign name v = .ok s') : ∃ w, s'.table = Keyed.put name w s.table := by
  unfold Settings.assign at h
  split at h
  case h_8 => cases h
  -- the table lists the fields in a fixed order, so a new value comes to stand where the old one stood
  all_goals
    obtain ⟨x, _, rfl⟩ := eq_ok_of_map_within h
    exact ⟨_, rfl⟩

theorem Config.table_assign {c c' : Config} {name : String} {v : Value}
    (h : c.assign name v = .ok c') : ∃ w, c'.table = Keyed.put name w c.finish.table := by
  unfold Config.assign at h
  split at h
  · obtain ⟨x, _, rfl⟩ := Settings.eq_ok_of_map_within h
    exact ⟨.str (Text.upper x), rfl⟩
  · obtain ⟨x, _, rfl⟩ := Settings.eq_ok_of_map_within h
    exact ⟨.table x.table, rfl⟩
  · cases h

theorem Settings.sameBut_of_assignAt {given : Record.Surroundings} {d d' : Record.Draft Settings}
    {v : Value} {path : List String} (h : Record.assignAt Settings.kind given d v path = .done d') :
    Table.SameBut path d.record.table d'.record.table := by
  rcases Record.assignAt_eq_done h with heq | ⟨name, rfl, ha⟩
  · rw [heq]
    exact .refl path _
  · obtain ⟨w, hw⟩ := table_assign ha
    rw [hw]
    exact .put name w _

/-- A change to another field than the level takes upper case of the level too, which it has already. -/
theorem ConfigDraft.sameBut_of_change {given : Record.Surroundings} {c c' : ConfigDraft}
    {x : Config.Change} (hc : c.config.finish = c.config) (h : c.change given x = .done c') :
    Table.SameBut x.path c.config.table c'.config.table := by
  cases x with
  | set path v =>
    rcases assignAt_eq_done h with heq | ⟨name, rfl, ha⟩ | ⟨name, rfl, ha⟩
    · rw [heq]
      exact .refl path _
    · obtain ⟨w, hw⟩ := Config.table_assign ha
      rw [hw, hc]
      exact .put name w _
    · rw [Config.assignBuild] at ha
      cases hs : c.config.build.assign name v with
      | error fs =>
        rw [hs] at ha
        cases ha
      | ok s =>
        rw [hs] at ha
        obtain ⟨w, hw⟩ := Settings.table_assign hs
        have hbuild : Table.SameBut [name] c.config.build.table s.table := by
          rw [hw]
          exact .put name w _
        rw [← Except.ok.inj ha]
        exact hbuild.putUnder rfl
  | rebuild s hs =>
    cases h
    have htable : (Config.finish { c.config with build := s }).table =
        Keyed.put "build" (.table s.table) c.config.finish.table := rfl
    rw [htable, hc]
    exact .put "build" (.table s.table) _

/-! ## Values that are taken as they are -/

/-- What valid settings hold in a field can be assigned to that field of any settings. -/
theorem Settings.Valid.assign_held {s' : Settings} (h : s'.Valid) (s : Settings) :
    ∀ p ∈ s'.table, ∃ u, s.assign p.1 p.2 = .ok u ∧ u.table = Keyed.put p.1 p.2 s.table := by
  simp only [Settings.table, List.forall_mem_cons]
  refine ⟨⟨{ s with rootLabel := s'.rootLabel }, ?_, rfl⟩, ⟨{ s with entry := s'.entry }, ?_, rfl⟩,
    ⟨{ s with outputDir := s'.outputDir }, ?_, rfl⟩, ⟨{ s with outputFile := s'.outputFile }, ?_, rfl⟩,
    ⟨{ s with runtime := s'.runtime }, ?_, rfl⟩, ⟨{ s with clean := s'.clean }, rfl, rfl⟩,
    ⟨{ s with optionalSections := s'.optionalSections }, ?_, rfl⟩, List.forall_mem_nil _⟩
  · rw [Settings.assign, checkText_of_isText h.rootLabel]
    rfl
  · rw [Settings.assign, checkText_of_isText h.entry]
    rfl
  · rw [Settings.assign, checkOutputDir_of_isText h.outputDir h.inside]
    rfl
  · rw [Settings.assign, checkText_of_isText h.outputFile]
    rfl
  · rw [Settings.assign, checkText_of_isText h.runtime]
    rfl
  · rw [Settings.assign, checkSections_of_nodup h.sections]
    rfl

theorem Config.Valid.assign_held {c' : Config} (h : c'.Valid) (c : Config) :
    ∀ p ∈ c'.table, ∃ u, c.assign p.1 p.2 = .ok u ∧ u.table = Keyed.put p.1 p.2 c.finish.table := by
  have hbuild : Settings.ofTable c'.build.table = .ok c'.build :=
    Settings.ofTable_of_lookup h.build fun p hp => Keyed.lookup_of_mem c'.build.nodup_keys_table hp
  simp only [Config.table, List.forall_mem_cons]
  refine ⟨⟨finish { c with logLevel := c'.logLevel }, ?_, ?_⟩,
    ⟨finish { c with build := c'.build }, ?_, rfl⟩, List.forall_mem_nil _⟩
  · rw [Config.assign, checkString_of_isLevel h.logLevel]
    rfl
  · rw [finish, h.logLevel.2]
    rfl
  · rw [Config.assign, checkBuild, hbuild]
    rfl

/-! ## Settings and configurations -/

/-- The histories of settings and of configurations that have been made or loaded: their fields are sound
at every time, a value that is accepted changes its own field only, and one that is refused changes
nothing. What they hold is accepted in the same field of any others, and stands there as it is. Every
assignment to a configuration also takes upper case of its level, which leaves those that have been made
or loaded as they are. -/
theorem Config.reliable_of_accepted (given : Record.Surroundings) :
    (∀ d : Record.Draft Settings, d.record.Accepted →
      Record.Reliable
        (fun d (x : List String × Value) => Record.assignAt Settings.kind given d x.2 x.1)
        (fun d => d.record.Sound) (fun d => d.record.table) Prod.fst d ∧
      ∀ s : Settings, ∀ p ∈ d.record.table,
        ∃ u, s.assign p.1 p.2 = .ok u ∧ u.table = Keyed.put p.1 p.2 s.table) ∧
    ∀ c : ConfigDraft, c.config.Accepted →
      Record.Reliable (ConfigDraft.change given) (fun c => c.config.Sound) (fun c => c.config.table)
        Config.Change.path c ∧
      ∀ e : Config, (e.Accepted → e.finish = e) ∧ ∀ p ∈ c.config.table,
        ∃ u, e.assign p.1 p.2 = .ok u ∧ u.table = Keyed.put p.1 p.2 e.finish.table := by
  constructor
  · intro d hd
    refine ⟨?_, hd.valid.assign_held⟩
    refine Record.reliable_of_step (P := fun d => d.record.Accepted) (fun d hd => hd.valid.sound)
      (fun d x d' hd hx => ?_) (fun d x d' _ hx => Settings.sameBut_of_assignAt hx) hd
    rcases Record.assignAt_eq_done hx with heq | ⟨name, _, ha⟩
    · rwa [heq]
    · exact .assigned hd ha
  · intro c hc
    refine ⟨?_, fun e => ⟨fun he => he.valid.finish_eq, hc.valid.assign_held e⟩⟩
    exact Record.reliable_of_step (P := fun c => c.config.Accepted) (fun c hc => hc.valid.sound)
      (fun c x c' hc hx => ConfigDraft.accepted_of_change hc hx)
      (fun c x c' hc hx => ConfigDraft.sameBut_of_change hc.valid.finish_eq hx) hc

/-- Assignments to settings; the second is of the wrong sort and the third leads out of the project. -/
def sampleSteps : List (List String × Value) :=
  [(["output_dir"], .str " dist\\js "), (["runtime"], .int 3), (["output_dir"], .str "../x"),
    (["optional_sections"], .list [.str " Style ", .str "STYLE"])]

/-- Changes to a configuration; the second gives no text and the last is to a field that is not there. -/
def sampleChanges : List Config.Change :=
  [.set ["build", "entry"] (.str "Main.vue"), .set ["log_level"] (.int 1),
    .rebuild {} (.made (t := []) rfl), .set ["build", "runtime"] (.str "\tReact"),
    .set ["level"] (.str "debug")]

/-- The level begins as a letter whose upper case has two characters. -/
theorem Config.reliable_of_accepted_sample :
    ∃ (d : Record.Draft Settings) (c : ConfigDraft), d.record.Accepted ∧ c.config.Accepted ∧
      c.config.logLevel = "ʼN" ∧
      (Record.history (fun d (x : List String × Value) =>
        Record.assignAt Settings.kind (fun _ _ => none) d x.2 x.1) d sampleSteps).record.Sound ∧
      (Record.history (fun d (x : List String × Value) =>
        Record.assignAt Settings.kind (fun _ _ => none) d x.2 x.1) d sampleSteps).record =
        { outputDir := "dist\\js", optionalSections := [.style] } ∧
      (Record.history (ConfigDraft.change fun _ _ => none) c sampleChanges).config.Sound ∧
      (Record.history (ConfigDraft.change fun _ _ => none) c sampleChanges).config =
        { logLevel := "ʼN", build := { runtime := "React" } } := by
  have hsettings : Settings.Accepted {} := .made (t := []) rfl
  have hmade : (Config.ofTable [("log_level", .str " ŉ ")]).toOption = some { logLevel := "ʼN" } := by
    decide +kernel
  have hconfig : Config.Accepted { logLevel := "ʼN" } := by
    cases htable : Config.ofTable [("log_level", .str " ŉ ")] with
    | error fs =>
      rw [htable] at hmade
      cases hmade
    | ok c =>
      rw [htable] at hmade
      cases hmade
      exact .made htable
  obtain ⟨hone, htwo⟩ := Config.reliable_of_accepted fun _ _ => none
  exact ⟨⟨{}, []⟩, { config := { logLevel := "ʼN" } }, hsettings, hconfig, rfl,
    (hone _ hsettings).1.sound sampleSteps, by decide +kernel, (htwo _ hconfig).1.sound sampleChanges,
    by decide +kernel⟩

end Bundler
