import LineBudget.Proofs.Analysis.Relaxation
import LineBudget.Proofs.Json.Reading

/-! A report for programs loses nothing: the document gives back all rows with their fields and the
number of rows of each severity. The only rows that have no document are those with an integer of too
many digits. -/
namespace LineBudget.Report
open LineBudget.Analysis

/-- What is written about rows that were recorded one by one, if anything. -/
def written? (locale : Message.Locale) (colours : Bool) (warnings : List String)
    (rows : List Row) : Option String :=
  let report := Analysis.Report.ofRows rows
  if isWritable .json report then some (render .json locale colours report warnings) else none

/-- The members of the object about a row. -/
def fields (row : Row) : List (String × Json) := [
  ("path", .text row.path), ("type", .text row.subject.name), ("lines", .int row.lines),
  ("limit", .int row.limit), ("threshold", .int row.threshold),
  ("severity", .text row.severity.name)]

/-- How many rows there are of a severity. -/
def tally (rows : List Row) (severity : Severity) : Int := rows.countP (·.severity = severity)

/-- The document about rows: each with its fields, in their order, and how many there are of each
severity and in all. -/
def document (rows : List Row) : Json := .object [
  ("results", .list (rows.map fun row => .object (fields row))),
  ("summary", .object [
    ("errors", .int (tally rows .error)), ("warnings", .int (tally rows .warn)),
    ("passed", .int (tally rows .pass)), ("total", .int rows.length)])]

/-- No integer of a row has more digits than can be written, and neither has the number of rows. -/
structure Expressible (rows : List Row) : Prop where
  each : ∀ row ∈ rows, ∀ i ∈ [row.lines, row.limit, row.threshold],
    i.natAbs < 10 ^ Number.maxDigits
  length : rows.length < 10 ^ Number.maxDigits

section Document
variable {locale : Message.Locale} {colours : Bool} {warnings : List String} {rows others : List Row}
  {text : String} {row other : Row}

theorem name_injective : Function.Injective Subject.name := by
  intro a b same
  cases a <;> cases b <;> first | rfl | exact absurd same (by decide)

theorem severity_injective : Function.Injective Severity.name := by
  intro a b same
  cases a <;> cases b <;> first | rfl | exact absurd same (by decide)

/-- The fields tell the row. -/
theorem fields_injective : Function.Injective fields := by
  rintro ⟨path, subject, lines, limit, threshold, severity⟩ ⟨_, _, _, _, _, _⟩ same
  simp only [fields, List.cons.injEq, Prod.mk.injEq, Json.text.injEq, Json.int.injEq, true_and,
    and_true] at same
  obtain ⟨rfl, subjects, rfl, rfl, rfl, severities⟩ := same
  rw [name_injective subjects, severity_injective severities]

/-- The document of a report that was recorded row by row. -/
theorem json_ofRows (rows : List Row) : json (.ofRows rows) = document rows := by
  have tallied : Tallied (.ofRows rows) := .ofRows rows
  have total := tallied.total
  obtain ⟨errors, warnings, passed⟩ := tallied
  rw [ofRows_rows] at errors warnings passed total
  rw [json, ofRows_rows, errors, warnings, passed, total]
  rfl

theorem exact_json (report : Analysis.Report) : (json report).Exact := by
  have row (row : Row) : (rowJson row).Exact := by
    refine .object ?_
    simp only [List.forall_mem_cons, List.not_mem_nil, false_implies, implies_true, and_true]
    exact ⟨.text _, .text _, .int _, .int _, .int _, .text _⟩
  refine .object ?_
  simp only [List.forall_mem_cons, List.not_mem_nil, false_implies, implies_true, and_true]
  constructor
  · refine .list fun item member => ?_
    obtain ⟨each, _, rfl⟩ := List.mem_map.mp member
    exact row each
  · refine .object ?_
    simp only [List.forall_mem_cons, List.not_mem_nil, false_implies, implies_true, and_true]
    exact ⟨.int _, .int _, .int _, .int _⟩

/-- The text of a report is parsed back to its document. -/
theorem parse?_jsonText (report : Analysis.Report) :
    Json.parse? (jsonText report) = some (json report) :=
  Json.parse?_print (exact_json report) ['\n'] (by simp [Json.isSpace])

/-- One text is parsed to one document, and the document has the fields of every row. -/
theorem jsonText_injective (same : jsonText (.ofRows others) = jsonText (.ofRows rows)) :
    others = rows := by
  have documents : document others = document rows := by
    rw [← json_ofRows, ← json_ofRows]
    apply Option.some.inj
    rw [← parse?_jsonText, ← parse?_jsonText, same]
  simp only [document, Json.object.injEq, List.cons.injEq, Prod.mk.injEq, Json.list.injEq,
    true_and] at documents
  refine List.map_injective_iff.mpr ?_ documents.1
  intro a b fields
  exact fields_injective (Json.object.inj fields)

theorem isWritable_ofRows : isWritable .json (.ofRows rows) = true ↔ Expressible rows := by
  have tallied : Tallied (.ofRows rows) := .ofRows rows
  have within {n : Nat} (less : n ≤ rows.length) (short : rows.length < 10 ^ Number.maxDigits) :
      (n : Int).natAbs < 10 ^ Number.maxDigits := by
    rw [Int.natAbs_natCast]
    exact Nat.lt_of_le_of_lt less short
  have total := tallied.total
  obtain ⟨errors, warnings, passed⟩ := tallied
  rw [ofRows_rows] at errors warnings passed total
  rw [isWritable_json_iff, ofRows_rows, errors, warnings, passed, total]
  simp only [Number.isWritable_iff]
  constructor
  · rintro ⟨each, _, _, _, length⟩
    refine ⟨fun row member => ?_, by simpa using length⟩
    simpa using each row member
  · rintro ⟨each, length⟩
    refine ⟨fun row member => ?_, within List.countP_le_length length,
      within List.countP_le_length length, within List.countP_le_length length,
      within (Nat.le_refl _) length⟩
    simpa using each row member

theorem written?_eq_some : written? locale colours warnings rows = some text ↔
    Expressible rows ∧ jsonText (.ofRows rows) = text := by
  unfold written?
  by_cases expressible : Expressible rows
  · simp only [isWritable_ofRows.mpr expressible, if_true, Option.some.injEq, render, expressible,
      true_and]
  · have failed : isWritable .json (.ofRows rows) = false := by
      rw [← Bool.not_eq_true, isWritable_ofRows]
      exact expressible
    simp [failed, expressible]

/-- The document of a report is lossless. Rows recorded in any number and order, with paths of any
characters, come with a document unless one of their integers has too many digits. Read again, it has
the rows in their order with their six fields, and the number of rows of each severity and of all.
Whatever else is written to the same document has the same rows. -/
theorem written_lossless (locale : Message.Locale) (colours : Bool) (warnings : List String)
    (rows : List Row) :
    ((∃ text, written? locale colours warnings rows = some text) ↔ Expressible rows) ∧
    ∀ text, written? locale colours warnings rows = some text →
      Json.parse? text = some (.object [
        ("results", .list (rows.map fun row => .object (fields row))),
        ("summary", .object [
          ("errors", .int (tally rows .error)), ("warnings", .int (tally rows .warn)),
          ("passed", .int (tally rows .pass)), ("total", .int rows.length)])]) ∧
      ∀ others, written? locale colours warnings others = some text → others = rows := by
  simp only [written?_eq_some]
  refine ⟨⟨fun ⟨_, expressible, _⟩ => expressible, fun expressible => ⟨_, expressible, rfl⟩⟩, ?_⟩
  rintro text ⟨_, rfl⟩
  constructor
  · rw [parse?_jsonText, json_ofRows]
    rfl
  · rintro others ⟨_, same⟩
    exact jsonText_injective same

end Document

/-- A row about a file whose name holds a quotation mark, a backslash, a control character and a
letter outside ASCII. -/
def oddRow (lines : Int) : Row where
  path := "a\"\\\x01é"
  subject := .file
  lines
  limit := 2
  threshold := 2
  severity := .error

/-- The name comes back as it was. -/
theorem written_lossless_odd : ∃ text, written? .en false [] [oddRow 3] = some text ∧
    ∃ document, Json.parse? text = some document ∧
      document.member? "results" = some (.list [.object (fields (oddRow 3))]) := by
  have expressible : Expressible [oddRow 3] := by
    have few : 3 < 10 ^ Number.maxDigits := by
      calc 3 < 10 ^ 1 := by decide
        _ ≤ 10 ^ Number.maxDigits := Nat.pow_le_pow_right (by decide) (by decide)
    refine ⟨?_, ?_⟩
    · simp only [List.forall_mem_cons, List.not_mem_nil, false_implies, implies_true, and_true]
      exact ⟨few, Nat.lt_of_succ_lt few, Nat.lt_of_succ_lt few⟩
    · exact Nat.lt_of_le_of_lt (by decide) few
  obtain ⟨text, written⟩ := (written_lossless .en false [] [oddRow 3]).1.mpr expressible
  exact ⟨text, written, _, ((written_lossless .en false [] [oddRow 3]).2 text written).1, rfl⟩

/-- Two different rows of which nothing is written, as their lines have a digit too many. -/
theorem written_lossless_beyond :
    let lines : Int := 10 ^ Number.maxDigits
    [oddRow lines] ≠ [oddRow (lines + 1)] ∧
      written? .en false [] [oddRow lines] = none ∧
      written? .en false [] [oddRow (lines + 1)] = none := by
  intro lines
  have cast : lines = ((10 ^ Number.maxDigits : Nat) : Int) := by
    rw [Nat.cast_pow]
    rfl
  have unwritten {i : Int} (beyond : 10 ^ Number.maxDigits ≤ i.natAbs) :
      written? .en false [] [oddRow i] = none := by
    rw [Option.eq_none_iff_forall_ne_some]
    intro text written
    have short := (written?_eq_some.mp written).1.each (oddRow i) (by simp) i (by simp [oddRow])
    exact absurd short (Nat.not_lt.mpr beyond)
  refine ⟨?_, unwritten ?_, unwritten ?_⟩
  · intro same
    have lines := congrArg Row.lines (List.cons.inj same).1
    simp only [oddRow] at lines
    omega
  · rw [cast, Int.natAbs_natCast]
  · rw [cast]
    generalize 10 ^ Number.maxDigits = n
    omega

end LineBudget.Report
