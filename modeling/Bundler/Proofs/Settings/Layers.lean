import Bundler.Proofs.Settings.ProjectFile
import Bundler.Proofs.Toml.Distinct

/-!
# Bundler.Proofs.Settings.Layers

Which layer of a configuration wins. When a project's table, an environment and a command line are
laid on the packaged defaults, each field has the value of the strongest layer that sets it.

* `Config.chosen`: all fields, each with the value of the first of its sources that sets it.
* `Config.ofStack_congr`: a configuration depends on its own fields only, and on no other key.
* `Config.load_eq_ofStack_chosen`: loading the layers is checking the chosen fields.
-/

namespace Bundler

theorem lookup_keyed? (k l : String) (v : Option Value) :
    (keyed? k v).lookup l = if l = k then v else none := by
  cases v with
  | none => simp [keyed?]
  | some v =>
    by_cases h : l = k
    · simp [keyed?, h]
    · have hne : (l == k) = false := beq_eq_false_iff_ne.2 h
      simp [keyed?, List.lookup_cons, hne, h]

theorem keys_keyed?_sublist (k : String) (v : Option Value) :
    List.Sublist (Keyed.keys (keyed? k v)) [k] := by
  cases v with
  | none => exact List.nil_sublist _
  | some v => exact List.Sublist.refl _

theorem NoTable.telling? {v : Option Value} (h : NoTable v) : NoTable (telling? v) := by
  intro t ht
  exact h t (Option.filter_eq_some_iff.1 ht).1

theorem NoTable.lookup_keyed? {v : Option Value} (h : NoTable v) (k l : String) :
    NoTable ((keyed? k v).lookup l) := by
  rw [Bundler.lookup_keyed?]
  split
  · exact h
  · exact nofun

/-! ## The layers of environments and command lines -/

namespace Config

/-- A layer that sets a level and a build table, if they are given. -/
def layerOf (level : Option Value) (build : Table) : Table :=
  keyed? "log_level" level ++ nonemptyTable "build" build

section LayerOf

variable (level : Option Value) (build : Table)

theorem nodup_keys_layerOf : (Keyed.keys (layerOf level build)).Nodup := by
  have hbuild : List.Sublist (Keyed.keys (nonemptyTable "build" build)) ["build"] := by
    unfold nonemptyTable
    split
    · exact List.nil_sublist _
    · exact List.Sublist.refl _
  have hkeys := (keys_keyed?_sublist "log_level" level).append hbuild
  rw [← Keyed.keys_append] at hkeys
  exact hkeys.nodup (by decide)

theorem lookup_level_layerOf : (layerOf level build).lookup "log_level" = level := by
  rw [layerOf, List.lookup_append, lookup_keyed?, if_pos rfl]
  cases build <;> simp [nonemptyTable, List.lookup_cons]

theorem lookup_build_layerOf :
    (layerOf level build).lookup "build" = if build.isEmpty then none else some (.table build) := by
  rw [layerOf, List.lookup_append, lookup_keyed?, if_neg (by decide)]
  cases build <;> simp [nonemptyTable]

theorem under_build_layerOf : (layerOf level build).under "build" = build := by
  rw [Table.under, lookup_build_layerOf]
  cases build <;> rfl

theorem nests_build_layerOf : (layerOf level build).Nests "build" := by
  intro v h
  rw [lookup_build_layerOf] at h
  split at h
  · cases h
  · cases h
    exact ⟨_, rfl⟩

end LayerOf

end Config

/-- What the options of a command line set, option by option. -/
def Flags.all (f : Flags) : List (Option Value) :=
  [f.label, f.entry, f.outputDir, f.outputFile, f.runtime, f.clean, f.logLevel]

theorem Flags.layer_eq (f : Flags) : f.layer = Config.layerOf (telling? f.logLevel) f.buildLayer :=
  rfl

theorem Flags.nodup_keys_buildLayer (f : Flags) : (Keyed.keys f.buildLayer).Nodup := by
  have hkeys := (((((keys_keyed?_sublist "root_label" f.label).append
    (keys_keyed?_sublist "entry" f.entry)).append
    (keys_keyed?_sublist "output_dir" f.outputDir)).append
    (keys_keyed?_sublist "output_file" f.outputFile)).append
    (keys_keyed?_sublist "runtime" f.runtime)).append (keys_keyed?_sublist "clean" f.clean)
  simp only [← Keyed.keys_append] at hkeys
  exact hkeys.nodup (by decide)

theorem Flags.noTable_buildLayer {f : Flags} (h : ∀ v ∈ f.all, NoTable v) (k : String) :
    NoTable (f.buildLayer.lookup k) := by
  simp only [all, List.forall_mem_cons] at h
  obtain ⟨hlabel, hentry, hdir, hfile, hruntime, hclean, _⟩ := h
  simp only [buildLayer, List.lookup_append]
  exact (((((hlabel.lookup_keyed? _ k).or (hentry.lookup_keyed? _ k)).or (hdir.lookup_keyed? _ k)).or
    (hfile.lookup_keyed? _ k)).or (hruntime.lookup_keyed? _ k)).or (hclean.lookup_keyed? _ k)

/-- The variables that set a field. -/
def variableNames : List String :=
  [levelVariable, outputDirVariable, rootLabelVariable]

/-- The build table of an environment. -/
def environmentBuild (environ : Table) : Table :=
  keyed? "output_dir" (telling? (environ.lookup outputDirVariable)) ++
    keyed? "root_label" (telling? (environ.lookup rootLabelVariable))

theorem nodup_keys_environmentBuild (environ : Table) :
    (Keyed.keys (environmentBuild environ)).Nodup := by
  have hdir := keys_keyed?_sublist "output_dir" (telling? (environ.lookup outputDirVariable))
  have hlabel := keys_keyed?_sublist "root_label" (telling? (environ.lookup rootLabelVariable))
  have hkeys := hdir.append hlabel
  rw [← Keyed.keys_append] at hkeys
  exact hkeys.nodup (by decide)

theorem environmentLayer_eq (environ : Table) : environmentLayer environ =
    Config.layerOf (telling? (environ.lookup levelVariable)) (environmentBuild environ) :=
  rfl

theorem noTable_environmentBuild {environ : Table}
    (h : ∀ x ∈ variableNames, NoTable (environ.lookup x)) (k : String) :
    NoTable ((environmentBuild environ).lookup k) := by
  simp only [variableNames, List.forall_mem_cons] at h
  obtain ⟨_, hdir, hlabel, _⟩ := h
  rw [environmentBuild, List.lookup_append]
  exact (hdir.telling?.lookup_keyed? _ k).or (hlabel.telling?.lookup_keyed? _ k)

/-! ## The fields that a configuration depends on -/

/-- The keys of the build settings. -/
def Settings.fieldNames : List String :=
  ["root_label", "entry", "output_dir", "output_file", "runtime", "clean", "optional_sections"]

theorem Checked.field_congr {α : Type} {t t' : Table} {name : String}
    (h : t.lookup name = t'.lookup name) (default : α) (check : Value → Checked α) :
    Checked.field t name default check = Checked.field t' name default check := by
  rw [Checked.field, Checked.field, h]

theorem Settings.ofTable_congr {t t' : Table} (h : ∀ k ∈ fieldNames, t.lookup k = t'.lookup k) :
    ofTable t = ofTable t' := by
  simp only [fieldNames, List.forall_mem_cons] at h
  obtain ⟨hlabel, hentry, hdir, hfile, hruntime, hclean, hsections, _⟩ := h
  simp only [ofTable, Checked.field_congr hlabel, Checked.field_congr hentry,
    Checked.field_congr hdir, Checked.field_congr hfile, Checked.field_congr hruntime,
    Checked.field_congr hclean, Checked.field_congr hsections]

namespace Config

theorem ofStack_congr {given : Settings} {t t' b b' : Table}
    (hlevel : t.lookup "log_level" = t'.lookup "log_level")
    (hb : t.lookup "build" = some (.table b)) (hb' : t'.lookup "build" = some (.table b'))
    (h : ∀ k ∈ Settings.fieldNames, b.lookup k = b'.lookup k) :
    ofStack given t = ofStack given t' := by
  simp only [ofStack, loadBuild, hb, hb', Settings.ofTable_congr h, Checked.field_congr hlevel]

/-- With a build table there are no errors but invalid fields. -/
theorem eq_invalid_of_ofStack {given : Settings} {t b : Table} {e : LoadError}
    (hb : t.lookup "build" = some (.table b)) (h : ofStack given t = .error e) :
    ∃ i, e = .invalid i := by
  simp only [ofStack, loadBuild, hb] at h
  cases hs : Settings.ofTable b with
  | error fs =>
    rw [hs] at h
    cases h
    exact ⟨_, rfl⟩
  | ok s =>
    rw [hs] at h
    simp only at h
    split at h
    · cases h
    · cases h
      exact ⟨_, rfl⟩

/-! ## Laying the layers on the defaults -/

/-- The build table of the packaged defaults. -/
def defaultBuild : Table :=
  ({} : Settings).table

theorem noTable_defaultBuild (k : String) : NoTable (defaultBuild.lookup k) := by
  intro t ht
  obtain ⟨before, after, heq, _⟩ := List.lookup_eq_some_iff.1 ht
  have hmem : (k, Value.table t) ∈ defaultBuild := by simp [heq]
  simp [defaultBuild, Settings.table] at hmem

section Stack

variable {user : Table} {envLevel flagLevel : Option Value} {envBuild flagBuild : Table}

theorem lookup_level_stack (huser : (Keyed.keys user).Nodup) (henv : NoTable envLevel)
    (hflag : NoTable flagLevel) :
    (stack [defaults, user, layerOf envLevel envBuild, layerOf flagLevel flagBuild]).lookup
        "log_level" =
      flagLevel.or (envLevel.or ((user.lookup "log_level").or (some (.str "INFO")))) := by
  have hdefaults : (Table.merge defaults []).lookup "log_level" = some (.str "INFO") := by
    rw [Table.lookup_merge (by decide)]
    rfl
  simp only [stack, List.foldl_cons, List.foldl_nil]
  rw [Table.lookup_merge_of_noTable (nodup_keys_layerOf _ _) (.inl ?_),
    Table.lookup_merge_of_noTable (nodup_keys_layerOf _ _) (.inl ?_),
    Table.lookup_merge_of_noTable huser (.inr ?_), lookup_level_layerOf, lookup_level_layerOf,
    hdefaults]
  · intro t ht
    rw [hdefaults] at ht
    cases ht
  · rwa [lookup_level_layerOf]
  · rwa [lookup_level_layerOf]

theorem lookup_build_stack (huser : (Keyed.keys user).Nodup) (hbuild : user.Nests "build") :
    (stack [defaults, user, layerOf envLevel envBuild, layerOf flagLevel flagBuild]).lookup "build" =
      some (.table (Table.merge flagBuild (Table.merge envBuild
        (Table.merge (user.under "build") defaultBuild)))) := by
  have hdefaults : (Table.merge defaults []).lookup "build" = some (.table defaultBuild) := by
    rw [Table.lookup_merge (by decide)]
    rfl
  have hfile := Table.lookup_merge_under huser hbuild hdefaults
  have henv := Table.lookup_merge_under (nodup_keys_layerOf envLevel envBuild)
    (nests_build_layerOf envLevel envBuild) hfile
  have hflag := Table.lookup_merge_under (nodup_keys_layerOf flagLevel flagBuild)
    (nests_build_layerOf flagLevel flagBuild) henv
  rw [under_build_layerOf, under_build_layerOf] at hflag
  exact hflag

theorem lookup_merge_builds {userBuild : Table} {k : String} (huser : (Keyed.keys userBuild).Nodup)
    (hnodupEnv : (Keyed.keys envBuild).Nodup) (hnodupFlag : (Keyed.keys flagBuild).Nodup)
    (henv : NoTable (envBuild.lookup k)) (hflag : NoTable (flagBuild.lookup k)) :
    (Table.merge flagBuild (Table.merge envBuild (Table.merge userBuild defaultBuild))).lookup k =
      (flagBuild.lookup k).or ((envBuild.lookup k).or
        ((userBuild.lookup k).or (defaultBuild.lookup k))) := by
  rw [Table.lookup_merge_of_noTable hnodupFlag (.inl hflag),
    Table.lookup_merge_of_noTable hnodupEnv (.inl henv),
    Table.lookup_merge_of_noTable huser (.inr (noTable_defaultBuild k))]

end Stack

/-! ## The chosen fields -/

/-- A field with the value of the first that sets it: its flag, its variable, the project's table, the
packaged defaults. -/
def choose (key : String) (fromFlag fromVariable : Option Value) (user : Table) (default : Value) :
    String × Value :=
  (key, (fromFlag.or (fromVariable.or (user.lookup key))).getD default)

/-- The build fields, chosen. -/
def chosenBuild (f : Flags) (environ userBuild : Table) : Table :=
  [choose "root_label" f.label (telling? (environ.lookup rootLabelVariable)) userBuild (.str "App"),
    choose "entry" f.entry none userBuild (.str "App.vue"),
    choose "output_dir" f.outputDir (telling? (environ.lookup outputDirVariable)) userBuild
      (.str "vno-build"),
    choose "output_file" f.outputFile none userBuild (.str "build.js"),
    choose "runtime" f.runtime none userBuild (.str "Vue"),
    choose "clean" f.clean none userBuild (.bool true),
    choose "optional_sections" none none userBuild (.list [])]

/-- All fields of a configuration, chosen. An empty variable sets nothing, and an empty flag no level. -/
def chosen (f : Flags) (environ user : Table) : Table :=
  [choose "log_level" (telling? f.logLevel) (telling? (environ.lookup levelVariable)) user
      (.str "INFO"),
    ("build", .table (chosenBuild f environ (user.under "build")))]

theorem lookup_builds_eq_chosen (f : Flags) (environ userBuild : Table) :
    ∀ k ∈ Settings.fieldNames,
      (f.buildLayer.lookup k).or (((environmentBuild environ).lookup k).or
        ((userBuild.lookup k).or (defaultBuild.lookup k))) =
      (chosenBuild f environ userBuild).lookup k := by
  simp [Settings.fieldNames, Flags.buildLayer, environmentBuild, chosenBuild, choose, defaultBuild,
    Settings.table, List.lookup_append, lookup_keyed?, List.lookup_cons]

/-- Two tables that set the same fields in the same way; their other keys may differ. -/
def SameFields (t t' : Table) : Prop :=
  t.lookup "log_level" = t'.lookup "log_level" ∧
    ∀ k ∈ Settings.fieldNames, (t.under "build").lookup k = (t'.under "build").lookup k

theorem chosen_congr {user user' : Table} (h : SameFields user user') (f : Flags) (environ : Table) :
    chosen f environ user = chosen f environ user' := by
  obtain ⟨hlevel, hfields⟩ := h
  simp only [Settings.fieldNames, List.forall_mem_cons] at hfields
  obtain ⟨hlabel, hentry, hdir, hfile, hruntime, hclean, hsections, _⟩ := hfields
  simp only [chosen, chosenBuild, choose, hlevel, hlabel, hentry, hdir, hfile, hruntime, hclean,
    hsections]

/-! ## Loading -/

theorem load_layers {f : Flags} {environ user : Table} (hflags : ∀ v ∈ f.all, NoTable v)
    (henviron : ∀ x ∈ variableNames, NoTable (environ.lookup x)) (huser : user.Distinct)
    (hbuild : user.Nests "build") :
    load [defaults, user, environmentLayer environ, f.layer] = ofStack {} (chosen f environ user) := by
  have hlevel : NoTable (telling? f.logLevel) := (hflags _ (by simp [Flags.all])).telling?
  have hlevelVariable : NoTable (telling? (environ.lookup levelVariable)) :=
    (henviron _ (by simp [variableNames])).telling?
  rw [load, environmentLayer_eq, Flags.layer_eq]
  refine ofStack_congr ?_ (lookup_build_stack huser.nodup hbuild) rfl fun k hk => ?_
  · rw [lookup_level_stack huser.nodup hlevelVariable hlevel]
    simp [chosen, choose]
  · rw [lookup_merge_builds (huser.under "build").nodup (nodup_keys_environmentBuild environ)
      f.nodup_keys_buildLayer (noTable_environmentBuild henviron k)
      (Flags.noTable_buildLayer hflags k)]
    exact lookup_builds_eq_chosen f environ (user.under "build") k hk

/-- For every table that a text writes, or any other with distinct keys, whose build entry is a table
if there is one: laid on the packaged defaults, with an environment and a command line on top, it gives
the configuration or the invalid fields that checking the chosen fields gives. Keys that are no fields
have no influence. Flags and variables are texts and truth values, so they hold no tables. -/
theorem load_eq_ofStack_chosen (f : Flags) (environ : Table) (hflags : ∀ v ∈ f.all, NoTable v)
    (henviron : ∀ x ∈ variableNames, NoTable (environ.lookup x)) :
    (∀ text t, Toml.parse text = .ok t → t.Distinct) ∧ Toml.parse defaultsText = .ok defaults ∧
    ∀ user : Table, user.Distinct → user.Nests "build" →
      load [defaults, user, environmentLayer environ, f.layer] =
        ofStack {} (chosen f environ user) ∧
      (∀ e, load [defaults, user, environmentLayer environ, f.layer] = .error e →
        ∃ i, e = .invalid i) ∧
      ∀ other : Table, other.Distinct → other.Nests "build" → SameFields other user →
        load [defaults, other, environmentLayer environ, f.layer] =
          load [defaults, user, environmentLayer environ, f.layer] := by
  refine ⟨fun _ _ => Toml.distinct_of_parse, parse_defaultsText, fun user huser hbuild => ?_⟩
  have hload := load_layers hflags henviron huser hbuild
  refine ⟨hload, fun e he => ?_, fun other hother hotherBuild hsame => ?_⟩
  · rw [hload] at he
    exact eq_invalid_of_ofStack rfl he
  · rw [hload, load_layers hflags henviron hother hotherBuild, chosen_congr hsame]

/-- A table of a project with tables and a number where texts belong, and with unknown keys. -/
def mixedUser : Table :=
  [("log_level", .table [("x", .int 1)]), ("colour", .list []),
    ("build", .table
      [("output_dir", .int 5), ("root_label", .table [("x", .bool true)]), ("entry", .str "Main.vue"),
        ("width", .table [])])]

def mixedEnviron : Table :=
  [("VNO_OUTPUT_DIR", .str "dist"), ("VNO_LOG_LEVEL", .str "debug"), ("VNO_ROOT_LABEL", .str "")]

def mixedFlags : Flags :=
  { label := some (.str "Main"), clean := some (.bool false), logLevel := some (.str "") }

theorem load_eq_ofStack_chosen_mixed :
    mixedUser.Distinct ∧ mixedUser.Nests "build" ∧
    (load [defaults, mixedUser, environmentLayer mixedEnviron, mixedFlags.layer]).toOption = some
      { logLevel := "DEBUG"
        build :=
          { rootLabel := "Main", entry := "Main.vue", outputDir := "dist", clean := false } } := by
  have huser : mixedUser.Distinct := by
    have hlevel : (Value.table [("x", .int 1)]).Distinct :=
      .table (by decide) (by simpa using .scalar nofun nofun)
    have hlabel : (Value.table [("x", .bool true)]).Distinct :=
      .table (by decide) (by simpa using .scalar nofun nofun)
    refine ⟨by decide, ?_⟩
    simp only [mixedUser, List.forall_mem_cons]
    refine ⟨hlevel, .list nofun, .table (by decide) ?_, nofun⟩
    simp only [List.forall_mem_cons]
    exact ⟨.scalar nofun nofun, hlabel, .scalar nofun nofun, .table (by decide) nofun, nofun⟩
  have hbuild : mixedUser.Nests "build" := by
    intro v hv
    cases hv
    exact ⟨_, rfl⟩
  have hflags : ∀ v ∈ mixedFlags.all, NoTable v := by
    simp [Flags.all, mixedFlags, NoTable]
  have henviron : ∀ x ∈ variableNames, NoTable (mixedEnviron.lookup x) := by
    simp [variableNames, levelVariable, outputDirVariable, rootLabelVariable, mixedEnviron, NoTable,
      List.lookup_cons]
  obtain ⟨_, _, h⟩ := load_eq_ofStack_chosen mixedFlags mixedEnviron hflags henviron
  refine ⟨huser, hbuild, ?_⟩
  rw [(h mixedUser huser hbuild).1]
  decide +kernel

end Config

end Bundler
