import Bundler.Proofs.Keyed
import Bundler.Proofs.Settings.OutputDir
import Bundler.Proofs.Text.Case
import Bundler.Settings.Config

/-!
# Bundler.Proofs.Settings.Valid

What the checks establish. A checked value passes its own check again and is not changed by it, so
settings can be written down and read again.

* `Settings.Valid`, `Config.Valid`: what the fields of checked settings and configurations are like.
* `Config.Accepted`: configurations that have been made or loaded and changed by assignments.
* `Settings.Accepted.valid`, `Config.Accepted.valid`: they are valid.
* `Settings.ofTable_of_lookup`: a table that holds all fields of valid settings is accepted and gives
  these settings.
-/

namespace Bundler

theorem Text.trimWhite_trimWhite (s : String) : trimWhite (trimWhite s) = trimWhite s := by
  rw [trimWhite, trimWhite, String.toList_ofList, trim_trim]

theorem Checked.field_eq_ok {α : Type} {P : α → Prop} {t : Table} {name : String} {default x : α}
    {check : Value → Checked α} (hdefault : P default) (hcheck : ∀ v y, check v = .ok y → P y)
    (h : Checked.field t name default check = .ok x) : P x := by
  unfold Checked.field at h
  split at h
  · cases h
    exact hdefault
  · rename_i v _
    exact hcheck v x (Settings.eq_ok_of_within h)

theorem Checked.field_of_lookup {α : Type} {t : Table} {name : String} {v : Value} {default x : α}
    {check : Value → Checked α} (hlookup : t.lookup name = some v) (h : check v = .ok x) :
    Checked.field t name default check = .ok x := by
  rw [Checked.field, hlookup]
  simp only [h]
  rfl

namespace Settings

/-! ## Texts -/

/-- A text that is more than white space and has none around it. -/
def IsText (s : String) : Prop :=
  Text.trimWhite s = s ∧ s ≠ ""

instance (s : String) : Decidable (IsText s) :=
  inferInstanceAs (Decidable (_ ∧ _))

theorem trimWhite_of_checkString {v : Value} {s : String} (h : checkString v = .ok s) :
    Text.trimWhite s = s := by
  cases v with
  | str t =>
    cases h
    exact Text.trimWhite_trimWhite t
  | _ => cases h

theorem isText_of_checkText {v : Value} {s : String} (h : checkText v = .ok s) : IsText s := by
  unfold checkText at h
  split at h
  · cases h
  · rename_i t ht
    split at h
    · cases h
    · rename_i hne
      cases h
      exact ⟨trimWhite_of_checkString ht, hne⟩

theorem checkText_of_isText {s : String} (h : IsText s) : checkText (.str s) = .ok s := by
  simp only [checkText, checkString, h.1, if_neg h.2]

theorem isText_of_checkOutputDir {v : Value} {s : String} (h : checkOutputDir v = .ok s) : IsText s := by
  unfold checkOutputDir at h
  split at h
  · cases h
  · rename_i t ht
    split at h
    · cases h
    · split at h
      · cases h
      · cases h
        exact isText_of_checkText ht

theorem checkOutputDir_of_isText {s : String} (h : IsText s) (hinside : StaysInside s) :
    checkOutputDir (.str s) = .ok s := by
  simp [checkOutputDir, checkText_of_isText h, hinside.1, hinside.2]

/-! ## Sections -/

theorem nodup_firstOccurrences {α : Type} [BEq α] [LawfulBEq α] (xs : List α) :
    (firstOccurrences xs).Nodup := by
  have hfold : ∀ acc : List α, acc.Nodup →
      (xs.foldl (fun acc x => if acc.contains x then acc else acc ++ [x]) acc).Nodup := by
    induction xs with
    | nil => exact fun acc h => h
    | cons x xs ih =>
      intro acc hacc
      rw [List.foldl_cons]
      refine ih _ ?_
      split
      · exact hacc
      · rename_i hx
        rw [List.contains_iff_mem] at hx
        exact List.nodup_append.2 ⟨hacc, List.nodup_singleton x, fun a ha b hb => by
          rw [List.mem_singleton.1 hb]
          exact fun heq => hx (heq ▸ ha)⟩
  exact hfold [] List.nodup_nil

theorem firstOccurrences_of_nodup {α : Type} [BEq α] [LawfulBEq α] {xs : List α} (h : xs.Nodup) :
    firstOccurrences xs = xs := by
  have hfold : ∀ acc : List α, (acc ++ xs).Nodup →
      xs.foldl (fun acc x => if acc.contains x then acc else acc ++ [x]) acc = acc ++ xs := by
    clear h
    induction xs with
    | nil => simp
    | cons x xs ih =>
      intro acc hacc
      have hx : acc.contains x = false := by
        rw [Bool.eq_false_iff, Ne, List.contains_iff_mem]
        intro hmem
        exact (List.nodup_append.1 hacc).2.2 x hmem x List.mem_cons_self rfl
      rw [List.append_cons] at hacc ⊢
      rw [List.foldl_cons, hx]
      exact ih _ hacc
  exact hfold [] h

theorem ofName?_eq_some_iff {name : String} {k : Section} :
    Section.ofName? name = some k ↔ k.name = name := by
  constructor
  · intro h
    have hname := List.find?_some h
    exact beq_iff_eq.1 hname
  · rintro rfl
    cases k <;> rfl

theorem nodup_of_checkSections {v : Value} {ks : List Section} (h : checkSections v = .ok ks) :
    ks.Nodup := by
  unfold checkSections at h
  split at h
  · split at h
    · cases h
    · simp only at h
      split at h
      · cases h
        refine (nodup_firstOccurrences _).filterMap ?_
        intro a b k ha hb
        rw [Option.mem_def, ofName?_eq_some_iff] at ha hb
        rw [← ha, ← hb]
      · cases h
  · cases h

theorem checkStrings_names (ks : List Section) (i : Nat) :
    checkStrings i (ks.map fun k => .str k.name) = .ok (ks.map Section.name) := by
  induction ks generalizing i with
  | nil => rfl
  | cons k ks ih =>
    have hname : Text.trimWhite k.name = k.name := by cases k <;> decide +kernel
    rw [List.map_cons, checkStrings, ih, checkString, hname]
    rfl

theorem checkSections_of_nodup {ks : List Section} (h : ks.Nodup) :
    checkSections (.list (ks.map fun k => .str k.name)) = .ok ks := by
  have hsection : ∀ k : Section, sectionName k.name = k.name := by
    intro k
    cases k <;> decide +kernel
  have hnames : firstOccurrences ((ks.map Section.name).map sectionName) = ks.map Section.name := by
    rw [List.map_map, Function.comp_def, List.map_congr_left fun k _ => hsection k]
    refine firstOccurrences_of_nodup (h.map fun a b hab => ?_)
    cases a <;> cases b <;> first | rfl | exact absurd hab (by decide)
  have hknown : (ks.map Section.name).filter (fun s => (Section.ofName? s).isNone) = [] := by
    rw [List.filter_eq_nil_iff]
    intro s hs
    obtain ⟨k, _, rfl⟩ := List.mem_map.1 hs
    rw [ofName?_eq_some_iff.2 rfl]
    simp
  have hback : (ks.map Section.name).filterMap Section.ofName? = ks := by
    have hsome : Section.ofName? ∘ Section.name = some := funext fun k => ofName?_eq_some_iff.2 rfl
    rw [List.filterMap_map, hsome, List.filterMap_some]
  simp only [checkSections, checkStrings_names, hnames, hknown, hback]

/-! ## Records -/

/-- What the fields of checked settings are like. -/
structure Valid (s : Settings) : Prop where
  rootLabel : IsText s.rootLabel
  entry : IsText s.entry
  outputDir : IsText s.outputDir
  inside : StaysInside s.outputDir
  outputFile : IsText s.outputFile
  runtime : IsText s.runtime
  sections : s.optionalSections.Nodup

theorem valid_default : Valid {} where
  rootLabel := by decide +kernel
  entry := by decide +kernel
  outputDir := by decide +kernel
  inside := staysInside_default
  outputFile := by decide +kernel
  runtime := by decide +kernel
  sections := List.nodup_nil

theorem valid_of_ofTable {t : Table} {s : Settings} (h : ofTable t = .ok s) : s.Valid := by
  have hinside := staysInside_of_ofTable h
  simp only [ofTable] at h
  split at h
  · rename_i hlabel hentry hdir hfile hruntime _ hsections
    cases h
    exact
      { rootLabel := Checked.field_eq_ok valid_default.rootLabel (fun _ _ => isText_of_checkText) hlabel
        entry := Checked.field_eq_ok valid_default.entry (fun _ _ => isText_of_checkText) hentry
        outputDir := Checked.field_eq_ok valid_default.outputDir (fun _ _ => isText_of_checkOutputDir) hdir
        inside := hinside
        outputFile := Checked.field_eq_ok valid_default.outputFile (fun _ _ => isText_of_checkText) hfile
        runtime := Checked.field_eq_ok valid_default.runtime (fun _ _ => isText_of_checkText) hruntime
        sections := Checked.field_eq_ok List.nodup_nil (fun _ _ => nodup_of_checkSections) hsections }
  · cases h

theorem eq_ok_of_map_within {α β : Type} {c : Checked α} {step : Fault.Place} {f : α → β} {b : β}
    (h : (c.within step).map f = .ok b) : ∃ a, c = .ok a ∧ b = f a := by
  cases c with
  | error fs => cases h
  | ok a =>
    cases h
    exact ⟨a, rfl, rfl⟩

theorem Valid.assign {s s' : Settings} {name : String} {v : Value} (hs : s.Valid)
    (h : s.assign name v = .ok s') : s'.Valid := by
  unfold Settings.assign at h
  split at h
  · obtain ⟨x, hx, rfl⟩ := eq_ok_of_map_within h
    exact { hs with rootLabel := isText_of_checkText hx }
  · obtain ⟨x, hx, rfl⟩ := eq_ok_of_map_within h
    exact { hs with entry := isText_of_checkText hx }
  · obtain ⟨x, hx, rfl⟩ := eq_ok_of_map_within h
    exact { hs with
      outputDir := isText_of_checkOutputDir hx, inside := staysInside_of_checkOutputDir hx }
  · obtain ⟨x, hx, rfl⟩ := eq_ok_of_map_within h
    exact { hs with outputFile := isText_of_checkText hx }
  · obtain ⟨x, hx, rfl⟩ := eq_ok_of_map_within h
    exact { hs with runtime := isText_of_checkText hx }
  · obtain ⟨x, _, rfl⟩ := eq_ok_of_map_within h
    exact { hs with }
  · obtain ⟨x, hx, rfl⟩ := eq_ok_of_map_within h
    exact { hs with sections := nodup_of_checkSections hx }
  · cases h

theorem Accepted.valid {s : Settings} (h : s.Accepted) : s.Valid := by
  induction h with
  | made ht => exact valid_of_ofTable ht
  | assigned _ ha ih => exact ih.assign ha

/-- All fields of settings, under their keys. -/
def table (s : Settings) : Table :=
  [("root_label", .str s.rootLabel), ("entry", .str s.entry), ("output_dir", .str s.outputDir),
    ("output_file", .str s.outputFile), ("runtime", .str s.runtime), ("clean", .bool s.clean),
    ("optional_sections", .list (s.optionalSections.map fun k => .str k.name))]

theorem ofTable_of_lookup {s : Settings} {t : Table} (hs : s.Valid)
    (h : ∀ p ∈ s.table, t.lookup p.1 = some p.2) : ofTable t = .ok s := by
  simp only [table, List.forall_mem_cons] at h
  obtain ⟨hlabel, hentry, hdir, hfile, hruntime, hclean, hsections, _⟩ := h
  simp only [ofTable, Checked.field_of_lookup hlabel (checkText_of_isText hs.rootLabel),
    Checked.field_of_lookup hentry (checkText_of_isText hs.entry),
    Checked.field_of_lookup hdir (checkOutputDir_of_isText hs.outputDir hs.inside),
    Checked.field_of_lookup hfile (checkText_of_isText hs.outputFile),
    Checked.field_of_lookup hruntime (checkText_of_isText hs.runtime),
    Checked.field_of_lookup hclean (show checkFlag _ = .ok s.clean from rfl),
    Checked.field_of_lookup hsections (checkSections_of_nodup hs.sections)]

end Settings

namespace Config

/-- A level in upper case, without white space around it; it may be empty. -/
def IsLevel (l : String) : Prop :=
  Text.trimWhite l = l ∧ Text.upper l = l

/-- What the fields of checked configurations are like. -/
structure Valid (c : Config) : Prop where
  logLevel : IsLevel c.logLevel
  build : c.build.Valid

/-- Configurations that have passed the checks: made from a table or loaded from layers, then changed by
assignments to their fields and to those of their build settings, or given other checked settings. -/
inductive Accepted : Config → Prop where
  | made {t : Table} {c : Config} : ofTable t = .ok c → Accepted c
  | loaded {given : Settings} {layers : List Table} {c : Config} :
      given.Accepted → loadOver given layers = .ok c → Accepted c
  | assigned {c c' : Config} {name : String} {v : Value} :
      Accepted c → c.assign name v = .ok c' → Accepted c'
  | assignedBuild {c c' : Config} {name : String} {v : Value} :
      Accepted c → c.assignBuild name v = .ok c' → Accepted c'
  | rebuilt {c : Config} {s : Settings} :
      Accepted c → s.Accepted → Accepted (finish { c with build := s })

/-- Upper case leaves no white space around a level, and taking it once more changes nothing. -/
theorem valid_finish {c : Config} (hlevel : Text.trimWhite c.logLevel = c.logLevel)
    (hbuild : c.build.Valid) : c.finish.Valid :=
  ⟨⟨Text.trimWhite_upper hlevel, Text.upper_upper c.logLevel⟩, hbuild⟩

theorem Valid.finish_eq {c : Config} (h : c.Valid) : c.finish = c := by
  rw [finish, h.logLevel.2]

theorem checkString_of_isLevel {l : String} (h : IsLevel l) :
    Settings.checkString (.str l) = .ok l := by
  rw [Settings.checkString, h.1]

theorem trimWhite_default : Text.trimWhite ({} : Config).logLevel = ({} : Config).logLevel := by
  decide +kernel

theorem trimWhite_of_field {t : Table} {l : String}
    (h : Checked.field t "log_level" ({} : Config).logLevel Settings.checkString = .ok l) :
    Text.trimWhite l = l :=
  Checked.field_eq_ok (P := fun l => Text.trimWhite l = l) trimWhite_default
    (fun _ _ => Settings.trimWhite_of_checkString) h

theorem valid_of_checkBuild {v : Value} {s : Settings} (h : checkBuild v = .ok s) : s.Valid := by
  cases v with
  | table t => exact Settings.valid_of_ofTable h
  | _ => cases h

theorem valid_of_ofTable {t : Table} {c : Config} (h : ofTable t = .ok c) : c.Valid := by
  simp only [ofTable] at h
  split at h
  · rename_i hlevel hbuild
    cases h
    exact valid_finish (trimWhite_of_field hlevel)
      (Checked.field_eq_ok Settings.valid_default (fun _ _ => valid_of_checkBuild) hbuild)
  · cases h

theorem valid_of_loadBuild {given s : Settings} {t : Table} (hgiven : given.Valid)
    (h : loadBuild given t = .ok s) : s.Valid := by
  unfold loadBuild at h
  split at h
  · cases h
    exact hgiven
  · cases h
    exact Settings.valid_default
  · split at h
    · rename_i htable
      cases h
      exact Settings.valid_of_ofTable htable
    · cases h
  · cases h

theorem valid_of_loadOver {given : Settings} {layers : List Table} {c : Config} (hgiven : given.Valid)
    (h : loadOver given layers = .ok c) : c.Valid := by
  unfold loadOver ofStack at h
  split at h
  · cases h
  · rename_i hbuild
    split at h
    · rename_i hlevel
      cases h
      exact valid_finish (trimWhite_of_field hlevel) (valid_of_loadBuild hgiven hbuild)
    · cases h

theorem Accepted.valid {c : Config} (h : c.Accepted) : c.Valid := by
  induction h with
  | made ht => exact valid_of_ofTable ht
  | loaded hgiven hload => exact valid_of_loadOver hgiven.valid hload
  | assigned _ ha ih =>
    unfold assign at ha
    split at ha
    · obtain ⟨x, hx, rfl⟩ := Settings.eq_ok_of_map_within ha
      exact valid_finish (Settings.trimWhite_of_checkString hx) ih.build
    · obtain ⟨x, hx, rfl⟩ := Settings.eq_ok_of_map_within ha
      exact valid_finish ih.logLevel.1 (valid_of_checkBuild hx)
    · cases ha
  | @assignedBuild c c' name v _ ha ih =>
    unfold assignBuild at ha
    cases hs : c.build.assign name v with
    | error fs =>
      rw [hs] at ha
      cases ha
    | ok s =>
      rw [hs] at ha
      cases ha
      exact { ih with build := ih.build.assign hs }
  | rebuilt _ hs ih => exact valid_finish ih.logLevel.1 hs.valid

end Config

end Bundler
