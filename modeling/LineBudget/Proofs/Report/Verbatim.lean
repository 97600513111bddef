import LineBudget.Proofs.Console.Shown
import LineBudget.Proofs.Report.Lossless

/-! What a report for people consists of, line by line, and when a console prints it as it is. All that
is not a path or a warning is inert, so that only these can be changed on the way. -/
namespace LineBudget.Report
open LineBudget.Analysis

/-- What stands between the lines of a row and its limit. -/
def unit : Message.Locale → String
  | .en => " lines, limit: "
  | .ja => " 行, 上限: "

/-- The line about a row with a word before it. -/
def rowText (locale : Message.Locale) (word : String) (row : Row) : String :=
  "  " ++ word ++ row.path ++ " (" ++ toString row.lines ++ unit locale ++ toString row.limit ++ ")"

def rowText? (locale : Message.Locale) (row : Row) : Option String :=
  match row.severity with
  | .pass => none
  | .warn => some (rowText locale "WARN  " row)
  | .error => some (rowText locale "ERROR " row)

def summaryText (locale : Message.Locale) (errors warnings passed : Nat) : String :=
  match locale with
  | .en => "Results: " ++ toString errors ++ " error(s), " ++ toString warnings ++
      " warning(s), " ++ toString passed ++ " passed"
  | .ja => "結果: " ++ toString errors ++ " エラー, " ++ toString warnings ++ " 警告, " ++
      toString passed ++ " パス"

/-- Lines with an empty one behind them, if there are any. -/
def spaced (lines : List String) : List String := if lines = [] then [] else lines ++ [""]

/-- The lines about rows that were recorded one by one, each path and each warning as it is. -/
def verbatim (locale : Message.Locale) (warnings : List String) (rows : List Row) : List String :=
  let number (severity : Severity) := rows.countP (·.severity = severity)
  spaced (warnings.map ("  WARN  " ++ ·)) ++ spaced (rows.filterMap (rowText? locale)) ++
    [summaryText locale (number .error) (number .warn) (number .pass)]

def unlines (lines : List String) : String := String.join (lines.map (· ++ "\n"))

/-- The integers that are put into the lines. -/
def shownIntegers (report : Analysis.Report) : List Int :=
  (report.rows.filter (·.severity ≠ .pass)).flatMap (fun row => [row.lines, row.limit]) ++
    [(report.errors : Int), report.warnings, report.passed]

/-- What is printed about rows that were recorded one by one, if every integer has a text. -/
def printed? (console : Console) (locale : Message.Locale) (warnings : List String)
    (rows : List Row) : Option String :=
  let report := Analysis.Report.ofRows rows
  if (shownIntegers report).all Number.isWritable then
    some (text locale false report warnings console)
  else none

/-- No integer that is put into a line has more digits than can be written. -/
structure Sayable (rows : List Row) : Prop where
  each : ∀ row ∈ rows, row.severity ≠ .pass →
    row.lines.natAbs < 10 ^ Number.maxDigits ∧ row.limit.natAbs < 10 ^ Number.maxDigits
  numbers : ∀ severity, rows.countP (·.severity = severity) < 10 ^ Number.maxDigits

section Wording
variable {console : Console} {locale : Message.Locale} {warnings : List String} {rows : List Row}
  {row : Row} {line : String}

/-- The wording of both messages about a row, which differ in their word. -/
theorem say_row (locale : Message.Locale) {key : String} (word path lines limit : String)
    (known : (key, word) ∈ [("check.warn", "WARN  "), ("check.error", "ERROR ")]) :
    Message.say locale key [path, lines, limit] =
      word ++ path ++ " (" ++ lines ++ unit locale ++ limit ++ ")" := by
  have phrase : Message.phrase locale key [path, lines, limit] = .ok (String.ofList
      (word.toList ++ path.toList ++ (" (".toList ++ lines.toList ++
        ((unit locale).toList ++ limit.toList ++ ")".toList)))) := by
    simp only [List.mem_cons, Prod.mk.injEq, List.not_mem_nil, or_false] at known
    rcases known with ⟨rfl, rfl⟩ | ⟨rfl, rfl⟩ <;> cases locale <;> rfl
  rw [Message.say, phrase, ← String.toList_inj]
  simp only [String.toList_ofList, String.toList_append, List.append_assoc]

theorem say_summary (locale : Message.Locale) (errors warnings passed : Nat) :
    Message.say locale "check.summary" [toString errors, toString warnings, toString passed] =
      summaryText locale errors warnings passed := by
  have phrase : ∃ a b c d : String, summaryText locale errors warnings passed =
        a ++ toString errors ++ b ++ toString warnings ++ c ++ toString passed ++ d ∧
      Message.phrase locale "check.summary" [toString errors, toString warnings, toString passed] =
        .ok (String.ofList (a.toList ++ (toString errors).toList ++ (b.toList ++
          (toString warnings).toList ++ (c.toList ++ (toString passed).toList ++ d.toList)))) := by
    cases locale
    · exact ⟨_, _, _, _, rfl, rfl⟩
    · exact ⟨_, _, _, _, rfl, rfl⟩
  obtain ⟨a, b, c, d, wording, phrase⟩ := phrase
  rw [Message.say, phrase, wording, ← String.toList_inj]
  simp only [String.toList_ofList, String.toList_append, List.append_assoc]

theorem rowLine?_text (row : Row) : (rowLine? locale row).map Line.text = rowText? locale row := by
  have warn := say_row locale "WARN  " row.path (toString row.lines) (toString row.limit)
    (by decide : ("check.warn", "WARN  ") ∈ _)
  have error := say_row locale "ERROR " row.path (toString row.lines) (toString row.limit)
    (by decide : ("check.error", "ERROR ") ∈ _)
  cases judged : row.severity with
  | pass => simp only [rowLine?, rowText?, judged, Option.map_none]
  | warn => simp only [rowLine?, rowText?, rowText, judged, Option.map_some, warn, String.append_assoc]
  | error =>
    simp only [rowLine?, rowText?, rowText, judged, Option.map_some, error, String.append_assoc]

theorem closed_text (lines : List Line) :
    (closed lines).map Line.text = spaced (lines.map Line.text) := by
  cases lines <;> simp [closed, spaced, blankLine]

/-- The lines of a report are worded as they should be, before any of them is shown. -/
theorem lines_text : (lines locale (.ofRows rows) warnings).map Line.text =
    verbatim locale warnings rows := by
  obtain ⟨errors, warned, passed⟩ := Tallied.ofRows rows
  rw [ofRows_rows] at errors warned passed
  rw [lines, List.map_append, List.map_append, closed_text, closed_text, List.map_map,
    List.map_filterMap, ofRows_rows, List.map_singleton, say_summary, errors, warned, passed]
  simp only [rowLine?_text]
  rfl

theorem toList_unlines (lines : List String) :
    (unlines lines).toList = Console.joined (lines.map String.toList) := by
  simp [unlines, Console.joined, List.flatMap_map]

theorem toList_text : (text locale false (.ofRows rows) warnings console).toList =
    console.printed ((verbatim locale warnings rows).map String.toList) := by
  have render (line : Line) :
      (line.render console false).toList = console.shown line.text.toList ++ ['\n'] := by
    unfold Line.render
    split <;> simp
  rw [text, String.toList_join, List.flatMap_map, ← lines_text, Console.printed, List.flatMap_map,
    List.flatMap_map]
  simp only [render]

/-- What is written are the lines, each as the console shows it. -/
theorem text_ofRows : text locale false (.ofRows rows) warnings console =
    unlines ((verbatim locale warnings rows).map fun line =>
      String.ofList (console.shown line.toList)) := by
  rw [← String.toList_inj, toList_text, toList_unlines]
  simp [Console.printed, Console.joined, List.flatMap_map]

end Wording

section Inert
open Console
variable {console : Console} {locale : Message.Locale} {warnings : List String} {rows : List Row}

theorem inert_digits (n : Nat) : Inert (toString n).toList := by
  intro c member
  have other {d : Char} (none : d.isDigit = false) : c ≠ d :=
    Json.digit_ne (Number.isDigit_of_mem_toString member) none
  refine ⟨other rfl, other rfl, ?_⟩
  simp only [isHidden, Bool.or_eq_false_iff, decide_eq_false_iff_not]
  exact ⟨⟨⟨⟨other rfl, other rfl⟩, other rfl⟩, other rfl⟩, other rfl⟩

theorem inert_int (i : Int) : Inert (toString i).toList := by
  cases i with
  | ofNat n => exact inert_digits n
  | negSucc n =>
    have signed : toString (Int.negSucc n) = "-" ++ toString (n + 1) := rfl
    rw [signed, String.toList_append, inert_append]
    exact ⟨by decide, inert_digits (n + 1)⟩

/-- Of the line about a row, the path alone may be changed: what is behind it starts with a blank and
has one colon. -/
theorem keeps_rowText {word : String} (inert : Inert word.toList) (row : Row) :
    console.Keeps (rowText locale word row).toList ↔ console.Keeps row.path.toList := by
  obtain ⟨a, b, split, before, behind⟩ :
      ∃ a b, (unit locale).toList = a ++ ':' :: b ∧ Inert a ∧ Inert b := by
    cases locale
    · exact ⟨" lines, limit".toList, [' '], rfl, by decide, by decide⟩
    · exact ⟨" 行, 上限".toList, [' '], rfl, by decide, by decide⟩
  have parts : (rowText locale word row).toList = ("  ".toList ++ word.toList) ++
      (row.path.toList ++ ' ' :: (("(".toList ++ (toString row.lines).toList ++ a) ++
        ':' :: (b ++ (toString row.limit).toList ++ ")".toList))) := by
    have opening : " (".toList = ' ' :: "(".toList := rfl
    simp only [rowText, String.toList_append, split, opening, List.append_assoc, List.cons_append]
  have rest : console.Keeps (("(".toList ++ (toString row.lines).toList ++ a) ++
      ':' :: (b ++ (toString row.limit).toList ++ ")".toList)) := by
    apply keeps_once
    · simp only [inert_append]
      exact ⟨⟨by decide, inert_int row.lines⟩, before⟩
    · simp only [inert_append]
      exact ⟨⟨behind, inert_int row.limit⟩, by decide⟩
  rw [parts, keeps_append (inert_append.mpr ⟨by decide, inert⟩), keeps_append_space,
    and_iff_left rest]

theorem keeps_summaryText (errors warnings passed : Nat) :
    console.Keeps (summaryText locale errors warnings passed).toList := by
  have numbers {a b c d e : String} (a' : Inert a.toList) (b' : Inert b.toList)
      (c' : Inert c.toList) (d' : Inert d.toList) (e' : Inert e.toList) :
      console.Keeps (a.toList ++ ':' :: (b ++ toString errors ++ c ++ toString warnings ++ d ++
        toString passed ++ e).toList) := by
    apply keeps_once a'
    simp only [String.toList_append, inert_append]
    exact ⟨⟨⟨⟨⟨⟨b', inert_digits errors⟩, c'⟩, inert_digits warnings⟩, d'⟩, inert_digits passed⟩, e'⟩
  cases locale with
  | en =>
    have := @numbers "Results" " " " error(s), " " warning(s), " " passed" (by decide) (by decide)
      (by decide) (by decide) (by decide)
    simpa [summaryText] using this
  | ja =>
    have := @numbers "結果" " " " エラー, " " 警告, " " パス" (by decide) (by decide)
      (by decide) (by decide) (by decide)
    simpa [summaryText] using this

theorem keeps_spaced {lines : List String} : (∀ line ∈ spaced lines, console.Keeps line.toList) ↔
    ∀ line ∈ lines, console.Keeps line.toList := by
  have empty : console.Keeps [] := keeps_inert (by decide)
  unfold spaced
  split
  case isTrue none => simp [none]
  case isFalse => simp [or_imp, forall_and, empty]

/-- Paths and warnings are all that a console could change. -/
theorem keeps_verbatim : (∀ line ∈ verbatim locale warnings rows, console.Keeps line.toList) ↔
    (∀ warning ∈ warnings, console.Keeps warning.toList) ∧
    ∀ row ∈ rows, row.severity ≠ .pass → console.Keeps row.path.toList := by
  have warned (warning : String) :
      console.Keeps ("  WARN  " ++ warning).toList ↔ console.Keeps warning.toList := by
    rw [String.toList_append, keeps_append (by decide)]
  have told (row : Row) : (∀ line ∈ rowText? locale row, console.Keeps line.toList) ↔
      (row.severity ≠ .pass → console.Keeps row.path.toList) := by
    cases judged : row.severity with
    | pass => simp [rowText?, judged]
    | warn => simp [rowText?, judged, keeps_rowText (by decide : Inert "WARN  ".toList)]
    | error => simp [rowText?, judged, keeps_rowText (by decide : Inert "ERROR ".toList)]
  simp only [verbatim, List.forall_mem_append, keeps_spaced, List.forall_mem_map, warned,
    List.forall_mem_cons, keeps_summaryText, List.not_mem_nil, false_implies, implies_true, and_true]
  refine and_congr_right fun _ => ?_
  simp only [← told, List.mem_filterMap, forall_exists_index, and_imp, Option.mem_def]
  constructor
  · intro all row member line
    exact all line row member
  · intro all line row member
    exact all row member line

end Inert

section Printing
variable {console : Console} {locale : Message.Locale} {warnings : List String} {rows : List Row}
  {output : String}

theorem shownIntegers_writable :
    (shownIntegers (.ofRows rows)).all Number.isWritable = true ↔ Sayable rows := by
  obtain ⟨errors, warned, passed⟩ := Tallied.ofRows rows
  rw [ofRows_rows] at errors warned passed
  simp only [shownIntegers, ofRows_rows, errors, warned, passed, List.all_append, List.all_flatMap,
    List.all_cons, List.all_nil, Bool.and_true, Bool.and_eq_true, List.all_eq_true,
    Number.isWritable_iff, Int.natAbs_natCast, List.mem_filter, decide_eq_true_iff]
  constructor
  · rintro ⟨each, error, warn, pass⟩
    refine ⟨fun row member violates => each row ⟨member, violates⟩, fun severity => ?_⟩
    cases severity
    · exact pass
    · exact warn
    · exact error
  · intro sayable
    refine ⟨?_, sayable.numbers .error, sayable.numbers .warn, sayable.numbers .pass⟩
    intro row shown
    exact sayable.each row shown.1 shown.2

theorem printed?_eq_some : printed? console locale warnings rows = some output ↔
    Sayable rows ∧ text locale false (.ofRows rows) warnings console = output := by
  unfold printed?
  by_cases sayable : Sayable rows
  · simp only [shownIntegers_writable.mpr sayable, if_true, Option.some.injEq, sayable, true_and]
  · have failed := shownIntegers_writable.not.mpr sayable
    simp only [failed, if_false, sayable, false_and, reduceCtorEq, Bool.false_eq_true]

/-- The text about rows that were recorded one by one: the warnings and an empty line, if there are
any; the rows above their limits in order, each with its path, its lines and its limit, and an empty
line, if there are any; and how many rows there are of each severity. Nothing is printed if an integer
has too many digits. Each line is printed as the console shows it, and the whole is what it should be
exactly if the console keeps every warning and the path of every row above its limit: no tab and no
hidden character is in it, and no code of a sign. -/
theorem printed_verbatim (console : Console) (locale : Message.Locale) (warnings : List String)
    (rows : List Row) :
    ((∃ output, printed? console locale warnings rows = some output) ↔ Sayable rows) ∧
    ∀ output, printed? console locale warnings rows = some output →
      output = unlines ((verbatim locale warnings rows).map fun line =>
        String.ofList (console.shown line.toList)) ∧
      (output = unlines (verbatim locale warnings rows) ↔
        (∀ warning ∈ warnings, console.Keeps warning.toList) ∧
        ∀ row ∈ rows, row.severity ≠ .pass → console.Keeps row.path.toList) := by
  simp only [printed?_eq_some]
  refine ⟨⟨fun ⟨_, sayable, _⟩ => sayable, fun sayable => ⟨_, sayable, rfl⟩⟩, ?_⟩
  rintro output ⟨_, rfl⟩
  constructor
  · exact text_ofRows
  · rw [← String.toList_inj, toList_text, toList_unlines, Console.printed_eq_iff,
      List.forall_mem_map, keeps_verbatim]

end Printing

/-- A row of a file that is above its limit. -/
def aboveRow (path : String) : Row where
  path
  subject := .file
  lines := 3
  limit := 2
  threshold := 2
  severity := .error

theorem sayable_aboveRow (path : String) : Sayable [aboveRow path] := by
  have few : 3 < 10 ^ Number.maxDigits := by
    calc 3 < 10 ^ 1 := by decide
      _ ≤ 10 ^ Number.maxDigits := Nat.pow_le_pow_right (by decide) (by decide)
  constructor
  · intro row member _
    obtain rfl := List.mem_singleton.mp member
    exact ⟨few, Nat.lt_of_succ_lt few⟩
  · intro severity
    have most : [aboveRow path].countP (·.severity = severity) ≤ 1 := List.countP_le_length
    exact Nat.lt_of_le_of_lt (most.trans (by decide)) few

/-- A console that knows one sign. -/
def smiling : Console := { Console.standard with
  sign := fun code => if code = "smile".toList then some ['😄'] else none
  sign_plain := by grind }

/-- Brackets, braces and colons around what is no code stay. -/
theorem printed_verbatim_brackets : printed? smiling .en [] [aboveRow "[a]/\x7b0\x7d:b c:smile"] =
    some "  ERROR [a]/\x7b0\x7d:b c:smile (3 lines, limit: 2)\n\nResults: 1 error(s), 0 warning(s), 0 passed\n" := by
  have kept : smiling.Keeps (aboveRow "[a]/\x7b0\x7d:b c:smile").path.toList := by
    decide +kernel
  obtain ⟨sayable, printed⟩ :=
    printed_verbatim smiling .en [] [aboveRow "[a]/\x7b0\x7d:b c:smile"]
  obtain ⟨output, found⟩ := sayable.mpr (sayable_aboveRow _)
  have same := (printed output found).2.mpr ⟨by simp, by simpa using fun _ => kept⟩
  rw [found, same]
  decide +kernel

/-- A tab and a code are not printed as they are. -/
theorem printed_verbatim_changed :
    (printed? .standard .en [] [aboveRow "a\tb"] =
        some "  ERROR a       b (3 lines, limit: 2)\n\nResults: 1 error(s), 0 warning(s), 0 passed\n" ∧
      unlines (verbatim .en [] [aboveRow "a\tb"]) =
        "  ERROR a\tb (3 lines, limit: 2)\n\nResults: 1 error(s), 0 warning(s), 0 passed\n") ∧
    printed? smiling .en [] [aboveRow ":smile:"] =
        some "  ERROR 😄 (3 lines, limit: 2)\n\nResults: 1 error(s), 0 warning(s), 0 passed\n" ∧
      unlines (verbatim .en [] [aboveRow ":smile:"]) =
        "  ERROR :smile: (3 lines, limit: 2)\n\nResults: 1 error(s), 0 warning(s), 0 passed\n" := by
  refine ⟨⟨?_, by decide +kernel⟩, ?_, by decide +kernel⟩
  · exact printed?_eq_some.mpr ⟨sayable_aboveRow _, by decide +kernel⟩
  · exact printed?_eq_some.mpr ⟨sayable_aboveRow _, by decide +kernel⟩

end LineBudget.Report
