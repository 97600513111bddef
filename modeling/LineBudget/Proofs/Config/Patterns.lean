import LineBudget.Config.IgnoreFile
import LineBudget.Proofs.Files.Lookup
import LineBudget.Proofs.Text.Newline
import LineBudget.Proofs.Text.Trim
import LineBudget.Proofs.Text.Utf8

/-! The patterns of an ignore file. They are told from its lines, however these end, and written one
on a line they are read back. -/
namespace LineBudget.Config
open LineBudget.Files LineBudget.Text

/-- Something is on the line, all on one line and without blanks around it, and no comment. -/
structure Tidy (line : List Char) : Prop where
  nonempty : line ≠ []
  plain : Plain line
  front : ∀ c ∈ line.head?, isBlank c = false
  back : ∀ c ∈ line.getLast?, isBlank c = false
  uncommented : line.head? ≠ some '#'

/-- The trimmed lines that are neither empty nor comments. -/
def keptLines (lines : List (List Char)) : List (List Char) :=
  (lines.map trim).filter fun line => line ≠ [] ∧ line.head? ≠ some '#'

/-- A file with this text is read as these patterns, wherever it stands. -/
def ReadsAs (text : List Char) (patterns : List String) : Prop :=
  ∀ d place content, d.read place = .ok content → Utf8.Spells text content →
    readIgnoreFile d place = .ok patterns

variable {line text : List Char} {lines : List (List Char)} {d : Disk} {place : Path}
  {content : List UInt8} {division : Division} {patterns : List String}

theorem readsAs_patternsOfText (text : List Char) : ReadsAs text (patternsOfText text) := by
  intro d place content read spells
  simp only [readIgnoreFile, read, patternsOfContent, Utf8.decode_eq_ok_iff.mpr spells]

theorem patternsOfText_lines (proper : division.Proper) :
    patternsOfText division.text = (keptLines division.lines).map String.ofList := by
  rw [patternsOfText, proper.pieces_eq, keptLines]
  congr 2
  funext line
  cases line <;> simp

theorem tidy_keptLines (plain : ∀ line ∈ lines, Plain line) :
    ∀ line ∈ keptLines lines, Tidy line := by
  intro line kept
  obtain ⟨member, ready⟩ := List.mem_filter.mp kept
  obtain ⟨whole, inside, rfl⟩ := List.mem_map.mp member
  obtain ⟨nonempty, uncommented⟩ := of_decide_eq_true ready
  exact {
    nonempty
    plain := ⟨fun feed => (plain whole inside).noFeed (mem_of_mem_trim feed),
      fun ret => (plain whole inside).noReturn (mem_of_mem_trim ret)⟩
    front := fun _ => head?_trim
    back := fun _ => getLast?_trim
    uncommented }

/-- Lines that were kept are kept once more as they are. -/
theorem keptLines_keptLines (lines : List (List Char)) :
    keptLines (keptLines lines) = keptLines lines := by
  have trimmed : (keptLines lines).map trim = keptLines lines := by
    refine (List.map_congr_left ?_).trans (List.map_id _)
    intro line kept
    obtain ⟨whole, _, rfl⟩ := List.mem_map.mp (List.mem_filter.mp kept).1
    exact trim_trim whole
  rw [keptLines, trimmed]
  exact List.filter_eq_self.mpr fun line kept => (List.mem_filter.mp kept).2

theorem keptLines_ended (lines : List (List Char)) :
    keptLines (lines ++ [[]]) = keptLines lines := by
  simp [keptLines]

/-- Tidy lines with any ends. The last of them is ended or not. -/
theorem proper_of_tidy (tidy : ∀ line ∈ lines, Tidy line)
    (written : division.lines = lines ++ [[]] ∨ division.lines = lines) : division.Proper := by
  rcases written with ended | unended
  · have firsts : division.ended.map Prod.fst = lines := (List.append_inj' ended rfl).1
    apply Division.proper_of_nonempty
    · rw [ended]
      exact List.forall_mem_append.mpr
        ⟨fun line member => (tidy line member).plain, List.forall_mem_singleton.mpr .nil⟩
    · intro line member
      exact (tidy line.1 (firsts ▸ List.mem_map_of_mem member)).nonempty
  · rw [← unended] at tidy
    apply Division.proper_of_nonempty
    · exact fun line member => (tidy line member).plain
    · intro line member
      exact (tidy line.1 (List.mem_append_left _ (List.mem_map_of_mem member))).nonempty

/-- Tidy lines that were kept are the patterns of any file that they are the lines of. -/
theorem readsAs_copy (tidy : ∀ line ∈ lines, Tidy line) (kept : keptLines lines = lines)
    (written : division.lines = lines ++ [[]] ∨ division.lines = lines) :
    ReadsAs division.text (lines.map String.ofList) := by
  have same : keptLines division.lines = lines := by
    rcases written with ended | unended
    · rw [ended, keptLines_ended, kept]
    · rw [unended, kept]
  have read := readsAs_patternsOfText division.text
  rwa [patternsOfText_lines (proper_of_tidy tidy written), same] at read

/-- An ignore file that is UTF-8 is read as its trimmed lines without the empty ones and the
comments. These are tidy. They are the same however the lines end, as long as no two ends are
joined, and a file that has them as its lines is read as them again. -/
theorem readIgnoreFile_lines (d : Disk) (place : Path) (content : List UInt8) (text : List Char)
    (read : d.read place = .ok content) (spells : Utf8.Spells text content) :
    ∃ patterns : List String,
      readIgnoreFile d place = .ok patterns ∧
      (∀ pattern ∈ patterns, Tidy pattern.toList) ∧
      (∃ division : Division, division.Proper ∧ division.text = text) ∧
      (∀ division : Division, division.Proper → division.text = text →
        patterns.map String.toList = keptLines division.lines ∧
        ∀ other : Division, other.Proper → other.lines = division.lines →
          ReadsAs other.text patterns) ∧
      ∀ copy : Division,
        copy.lines = patterns.map String.toList ++ [[]] ∨
          copy.lines = patterns.map String.toList →
        ReadsAs copy.text patterns := by
  obtain ⟨own, proper, rfl⟩ := Division.exists_proper text
  have patterns := patternsOfText_lines proper
  have letters : (patternsOfText own.text).map String.toList = keptLines own.lines := by
    simp [patterns, Function.comp_def]
  have tidy := tidy_keptLines proper.plain
  refine ⟨patternsOfText own.text, readsAs_patternsOfText _ d place content read spells, ?_,
    ⟨own, proper, rfl⟩, ?_, ?_⟩
  · intro pattern member
    exact tidy _ (letters ▸ List.mem_map_of_mem member)
  · intro division divided same
    have lines : division.lines = own.lines := by
      rw [← divided.pieces_eq, same, proper.pieces_eq]
    refine ⟨letters.trans (by rw [lines]), ?_⟩
    intro other properly alike
    have read := readsAs_patternsOfText other.text
    rwa [patternsOfText_lines properly, alike, lines, ← patterns] at read
  · intro copy written
    rw [letters] at written
    rw [patterns]
    exact readsAs_copy tidy (keptLines_keptLines own.lines) written

/-- Lines that end in all three ways, one of them a comment behind blanks. The last is not ended. -/
def notes : Division :=
  ⟨[("a".toList, .returnFeed), ([], .loneReturn), (" #b".toList, .feed)], " c\u0085".toList⟩

/-- A disk with an ignore file. -/
def noting (content : List UInt8) : Disk :=
  { root := .directory [(ignoreName, .file content true)] {} }

theorem noting_read (content : List UInt8) :
    (noting content).read ⟨1, [ignoreName]⟩ = .ok content := by
  have legal : LegalName ignoreName := by decide
  have entry : (noting content).root.find? [ignoreName] = some (.file content true) := rfl
  have reached : (noting content).node ⟨1, [ignoreName]⟩ = .ok (.file content true) :=
    Disk.node_names rfl entry (by simp) (by simpa using legal) (Node.passable_single ..) (by decide)
  exact (Disk.read_eq_ok (by decide)).mpr reached

/-- The notes are read as two patterns. With other ends they are read so too, and so are the two
patterns alone. -/
theorem readIgnoreFile_lines_notes :
    readIgnoreFile (noting (notes.text.flatMap String.utf8EncodeChar)) ⟨1, [ignoreName]⟩ =
      .ok ["a", "c"] ∧
    ReadsAs "a\n\r\n #b\r c\u0085".toList ["a", "c"] ∧ ReadsAs "a\rc\n".toList ["a", "c"] := by
  have proper : notes.Proper := by decide
  have spells : Utf8.Spells notes.text (notes.text.flatMap String.utf8EncodeChar) := by
    rw [Utf8.Spells]
  obtain ⟨patterns, read, _, _, divided, copied⟩ :=
    readIgnoreFile_lines _ _ _ notes.text (noting_read _) spells
  obtain ⟨letters, respelled⟩ := divided notes proper rfl
  have kept : keptLines notes.lines = ["a", "c"].map String.toList := by decide
  obtain rfl := List.map_injective_iff.mpr (fun _ _ => String.toList_inj.mp) (letters.trans kept)
  refine ⟨read, ?_, ?_⟩
  · exact respelled ⟨[("a".toList, .feed), ([], .returnFeed), (" #b".toList, .loneReturn)],
      " c\u0085".toList⟩ (by decide) rfl
  · exact copied ⟨[("a".toList, .loneReturn), ("c".toList, .feed)], []⟩ (.inl rfl)

end LineBudget.Config
