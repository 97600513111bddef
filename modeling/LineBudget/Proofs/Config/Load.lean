import LineBudget.Config.IgnoreFile
import LineBudget.Config.Load
import LineBudget.Proofs.Files.Lookup
import Mathlib

/-! Loading a configuration from the preferred place. -/
namespace LineBudget.Config
open LineBudget.Files

theorem ofText_preferredName : Path.ofText preferredName = ⟨0, [preferredName]⟩ := by cbv

/-- A readable file with the preferred name in the current directory is found, if the directory can
be searched. -/
theorem preferred_node {d : Disk} {content : List UInt8} {here : Node}
    (current : d.root.find? d.current = some here) (searchable : here.access.searchable = true)
    (entry : here.find? [preferredName] = some (.file content true)) :
    d.node (Path.ofText preferredName) = .ok (.file content true) := by
  have legal : LegalName preferredName := by decide
  rw [ofText_preferredName]
  exact Disk.node_names current entry (by simp) (by simpa using legal)
    ((Node.passable_single ..).trans searchable) (by decide)

theorem usualPlace_preferred {d : Disk} {content : List UInt8}
    (reached : d.node (Path.ofText preferredName) = .ok (.file content true)) :
    usualPlace d = .ok (Path.ofText preferredName) ∧
      d.isFile (Path.ofText preferredName) = .ok true ∧
      d.read (Path.ofText preferredName) = .ok content := by
  have clean : Disk.hasNul (Path.ofText preferredName) = false := by
    rw [ofText_preferredName]
    decide
  have present : d.isFile (Path.ofText preferredName) = .ok true := by
    rw [Disk.isFile, Disk.test, clean, reached]
    rfl
  refine ⟨?_, present, ?_⟩
  · simp only [usualPlace, configNames, firstFile?, present]
    rfl
  · rw [Disk.read, clean, reached]
    rfl

/-- A file with the preferred name in the current directory is the configuration, unless another
place was given. -/
theorem load_preferred {s : Surroundings} {content : List UInt8} {here : Node}
    (unset : s.lookupVariable configVariable = none)
    (current : s.disk.root.find? s.disk.current = some here)
    (searchable : here.access.searchable = true)
    (entry : here.find? [preferredName] = some (.file content true)) :
    (load s none).result = settingsOfContent content := by
  obtain ⟨usual, present, read⟩ := usualPlace_preferred (preferred_node current searchable entry)
  have found : locate s none = .ok (Path.ofText preferredName) := by
    simp only [locate, Option.filter_none, unset, usual, Except.mapError, bind, Except.bind,
      present]
    rfl
  simp only [load, found, readSettings, read]
  rfl

/-- A configuration that gives no rule. -/
def noRules : String := "\"rules\": \x7b\x7d"

/-- All settings that are not given have their defaults. -/
theorem settingsOfContent_noRules : settingsOfContent noRules.toUTF8.toList = .ok {} := by
  have decoded : Text.Utf8.decode noRules.toUTF8.toList = .ok noRules.toList := by cbv
  have newlines : Text.unifyNewlines noRules.toList = noRules.toList := by cbv
  have tokens : Yaml.Token.ofText noRules.toList = ([.mappingStart, .key, .scalar false "rules",
      .value, .flowMappingStart, .flowMappingEnd, .blockEnd, .streamEnd], none) := by cbv
  have node : Yaml.Node.ofText? noRules.toList = .ok (some (.mapping none .map
      [(.scalar none .str "rules", .mapping none .map [])])) := by
    rw [Yaml.Node.ofText?, tokens]
    cbv
  have value : Yaml.ofText noRules.toList = .ok (.map [(.text "rules", .map [])]) := by
    rw [Yaml.ofText, node]
    cbv
  simp only [settingsOfContent, decoded, newlines, Except.mapError, bind, Except.bind, value]
  cbv

/-- A disk with this configuration in its root, where runs start. -/
def configured (entries : List (String × Node)) : Surroundings :=
  { disk := { root :=
      .directory ((preferredName, .file noRules.toUTF8.toList true) :: entries) {} } }

theorem configured_entry (entries : List (String × Node)) :
    (configured entries).disk.root.find? [preferredName] =
      some (.file noRules.toUTF8.toList true) := by
  rw [Node.find?_cons]
  exact congrArg (Option.bind · _) List.lookup_cons_self

theorem configured_load (entries : List (String × Node)) :
    (load (configured entries) none).result = .ok {} :=
  (load_preferred rfl rfl rfl (configured_entry entries)).trans settingsOfContent_noRules

/-- Such a disk has no ignore file unless an entry is one. -/
theorem configured_unignored {entries : List (String × Node)}
    (missing : entries.lookup ignoreName = none) :
    (configured entries).disk.node ((currentDirectory (configured entries).disk).append
      [ignoreName]) = .error .notFound := by
  have legal : LegalName ignoreName := by decide
  have other : (ignoreName == preferredName) = false := by decide
  have short : (Path.ofLocation [ignoreName]).text.utf8ByteSize < pathLimit := by decide
  exact Disk.node_missing rfl rfl rfl legal (by rw [List.lookup_cons, other, missing]) short

end LineBudget.Config
