import Bundler.Proofs.Settings.Valid
import Bundler.Proofs.Toml.Document
import Bundler.Proofs.Value
import Bundler.Settings.Defaults
import Bundler.Settings.ProjectFile
import Mathlib.Data.List.Forall2

/-!
# Bundler.Proofs.Settings.ProjectFile

Configurations that are written to a project's file and loaded again.

* `Config.parse_render`: the text of any configuration writes all its fields, whatever their characters.
* `Config.load_table`: laid on the packaged defaults, the fields of a valid configuration give it back.
* `Config.accepted_iff_load_render`: the configurations that come back are the accepted ones.
-/

namespace Bundler

open Toml

theorem Settings.nodup_keys_table (s : Settings) : (Keyed.keys s.table).Nodup := by
  have hkeys : Keyed.keys s.table = ["root_label", "entry", "output_dir", "output_file", "runtime",
      "clean", "optional_sections"] := rfl
  rw [hkeys]
  decide

namespace Config

/-- All of a configuration, under its keys. -/
def table (c : Config) : Table :=
  [("log_level", .str c.logLevel), ("build", .table c.build.table)]

/-! ## Writing -/

theorem lineText_stringLine {k : String} (hk : IsBare k) (v : String) :
    LineText (.entry k (.str v)) (stringLine k v).toList := by
  have htext : (stringLine k v).toList = k.toList ++ ' ' :: '=' :: ' ' :: (stringText v).toList := by
    simp [stringLine]
  rw [htext]
  exact .entry hk (.str v)

theorem lineText_clean (b : Bool) :
    LineText (.entry "clean" (.bool b)) ("clean = " ++ if b then "true" else "false").toList := by
  rw [String.toList_append]
  exact .entry (by decide) (.bool b)

theorem lineText_sections (ks : List Section) :
    LineText (.entry "optional_sections" (.list (ks.map fun k => .str k.name)))
      ("optional_sections = [" ++ String.intercalate ", " (ks.map fun k => stringText k.name) ++
        "]").toList := by
  have htext : ("optional_sections = [" ++ String.intercalate ", " (ks.map fun k => stringText k.name) ++
      "]").toList = "optional_sections".toList ++ ' ' :: '=' :: ' ' ::
        '[' :: (itemsText (ks.map Section.name) ++ [']']) := by
    simp [itemsText, String.toList_intercalate, Function.comp_def]
  have hvalue := ValueText.strings (ks.map Section.name)
  rw [List.map_map] at hvalue
  rw [htext]
  exact .entry (by decide) hvalue

theorem forall₂_buildLines (s : Settings) :
    List.Forall₂ LineText (.header "build" :: entryLines s.table) ((buildLines s).map String.toList) := by
  refine .cons (.header (by decide)) ?_
  refine .cons (lineText_stringLine (k := "root_label") (by decide) _) ?_
  refine .cons (lineText_stringLine (k := "entry") (by decide) _) ?_
  refine .cons (lineText_stringLine (k := "output_dir") (by decide) _) ?_
  refine .cons (lineText_stringLine (k := "output_file") (by decide) _) ?_
  refine .cons (lineText_stringLine (k := "runtime") (by decide) _) ?_
  exact .cons (lineText_clean _) (.cons (lineText_sections _) .nil)

/-- The lines of a file that sets all fields of a configuration. -/
def fileLines (c : Config) : List (List Char) :=
  (stringLine "log_level" c.logLevel :: buildLines c.build).map String.toList

/-- Such a file, with empty lines and comments anywhere, is read as the fields and nothing else. -/
theorem parse_fileLines {c : Config} {text : String} {texts : List (List Char)}
    (htext : text.toList = texts.flatMap (· ++ ['\n'])) (h : WithFiller texts c.fileLines) :
    Toml.parse text = .ok c.table := by
  have hls : List.Forall₂ LineText
      (sectionLines [("log_level", .str c.logLevel)] "build" c.build.table) c.fileLines :=
    .cons (lineText_stringLine (k := "log_level") (by decide) _) (forall₂_buildLines c.build)
  exact parse_section (by simp) (by simp) c.build.nodup_keys_table htext h hls

theorem parse_render (c : Config) (comments : Bool) : Toml.parse (c.render comments) = .ok c.table := by
  have htext : (c.render comments).toList =
      (((if comments then commentLines else []) ++ stringLine "log_level" c.logLevel :: "" ::
        buildLines c.build).map String.toList).flatMap (· ++ ['\n']) := by
    simp [render, String.toList_join, List.flatMap_map, List.flatMap_append]
  have hcomments : ∀ t ∈ (if comments then commentLines else []).map String.toList, IsFiller t := by
    cases comments <;> decide +kernel
  refine parse_fileLines htext ?_
  rw [List.map_append]
  exact .append hcomments (.line (.filler (.inl rfl) (withFiller_self _)))

/-- Line feeds between lines, the last of which is empty, are line feeds at the ends of the others. -/
theorem toList_intercalate_lineFeed {lines : List String} (h : lines.getLast? = some "") :
    (String.intercalate "\n" lines).toList =
      (lines.dropLast.map String.toList).flatMap (· ++ ['\n']) := by
  rw [String.toList_intercalate]
  induction lines with
  | nil => cases h
  | cons l lines ih =>
    cases lines with
    | nil =>
      cases h
      rfl
    | cons l' lines =>
      rw [List.getLast?_cons_cons] at h
      rw [List.map_cons, List.map_cons, List.intercalate_cons_cons, ← List.map_cons, ih h]
      simp

/-- The packaged file sets the fields of the default configuration, with comments between them. -/
theorem parse_defaultsText : Toml.parse defaultsText = .ok defaults := by
  refine parse_fileLines (c := {}) (toList_intercalate_lineFeed rfl) (.of_filter ?_)
  simp only [fileLines, buildLines, stringLine, stringText, List.map_cons, List.map_nil, List.dropLast,
    String.toList_append]
  -- the kernel decodes the bytes of a literal slowly, so its characters are written out first
  repeat rw [String.toList_ofList]
  decide +kernel

/-! ## Loading -/

theorem lookup_merge_table (s : Settings) (base : Table) :
    ∀ p ∈ s.table, (Table.merge s.table base).lookup p.1 = some p.2 := by
  intro p hp
  have hvalue : ∀ t, p.2 ≠ .table t := by
    intro t
    simp only [Settings.table, List.mem_cons, List.not_mem_nil, or_false] at hp
    rcases hp with rfl | rfl | rfl | rfl | rfl | rfl | rfl <;> simp
  rw [Table.lookup_merge s.nodup_keys_table, Keyed.lookup_of_mem s.nodup_keys_table hp]
  exact congrArg some (Value.onto_of_ne_table hvalue _)

theorem load_table {c : Config} (hc : c.Valid) : load [defaults, c.table] = .ok c := by
  have hdefaults : (Keyed.keys defaults).Nodup := by decide
  have htable : (Keyed.keys c.table).Nodup := by simp [table, Keyed.keys]
  have hlevel : (stack [defaults, c.table]).lookup "log_level" = some (.str c.logLevel) := by
    simp only [stack, List.foldl_cons, List.foldl_nil]
    rw [Table.lookup_merge htable]
    rfl
  have hbuild : ∃ base, (stack [defaults, c.table]).lookup "build" =
      some (.table (Table.merge c.build.table base)) := by
    simp only [stack, List.foldl_cons, List.foldl_nil]
    rw [Table.lookup_merge htable, Table.lookup_merge hdefaults]
    exact ⟨_, rfl⟩
  obtain ⟨base, hbuild⟩ := hbuild
  have hsettings : Settings.ofTable (Table.merge c.build.table base) = .ok c.build :=
    Settings.ofTable_of_lookup hc.build (lookup_merge_table c.build base)
  simp only [load, ofStack, loadBuild, hbuild, hsettings,
    Checked.field_of_lookup hlevel (checkString_of_isLevel hc.logLevel)]
  exact congrArg Except.ok hc.finish_eq

/-- The accepted configurations are those that come back when they are written, with comments or without,
and both the packaged file and what was written are read and loaded. -/
theorem accepted_iff_load_render (c : Config) (comments : Bool) :
    c.Accepted ↔ ∃ base t, Toml.parse defaultsText = .ok base ∧
      Toml.parse (c.render comments) = .ok t ∧ load [base, t] = .ok c := by
  constructor
  · intro hc
    exact ⟨defaults, c.table, parse_defaultsText, parse_render c comments, load_table hc.valid⟩
  · rintro ⟨base, t, _, _, hload⟩
    exact .loaded (.made (t := []) rfl) hload

/-- A configuration with marks, backslashes, control characters and letters beyond the first tables. -/
def oddConfig : Config where
  logLevel := "\"É\\ẞ"
  build :=
    { rootLabel := "\"", entry := "\x00\x7f\r\n'\\u0041", outputDir := "dist\\\"\t𝔞", outputFile := "=#]"
      runtime := "\\", clean := false, optionalSections := [.style, .template] }

theorem accepted_iff_load_render_odd :
    oddConfig.Accepted ∧ ∀ comments, ∃ base t, Toml.parse defaultsText = .ok base ∧
      Toml.parse (oddConfig.render comments) = .ok t ∧ load [base, t] = .ok oddConfig := by
  have hmade : (ofTable oddConfig.table).toOption = some oddConfig := by decide +kernel
  have haccepted : oddConfig.Accepted := by
    cases htable : ofTable oddConfig.table with
    | error fs =>
      rw [htable] at hmade
      cases hmade
    | ok c =>
      rw [htable] at hmade
      cases hmade
      exact .made htable
  exact ⟨haccepted, fun comments => (accepted_iff_load_render oddConfig comments).1 haccepted⟩

end Config

end Bundler
