import LineBudget.Proofs.Line.Coverage

/-! What the automaton reads in a grammar: the markers as a set, and the delimiters that are in use.
Two grammars with the same syntax in this sense lead through the same states. Where a grammar has no
blocks, none is ever open, so that its block end does not matter. -/
namespace LineBudget.Line
open LineBudget.Language

/-- The grammars agree in all that a line can be judged by. What opens and closes a block counts
only where there are blocks. -/
structure SameSyntax (g other : Grammar) : Prop where
  markers : ∀ marker, marker ∈ other.lineMarkers ↔ marker ∈ g.lineMarkers
  blocks : other.hasBlocks = true ↔ g.hasBlocks = true
  delimits : g.hasBlocks = true →
    ∀ opener closer, Delimits other opener closer ↔ Delimits g opener closer
  closers : g.hasBlocks = true → ∀ line, Closer other line ↔ Closer g line

/-- An open block is one of a grammar that has blocks. -/
def Tally.Possible (g : Grammar) (t : Tally) : Prop := t.block = .inside → g.hasBlocks = true

variable {g other : Grammar} {line : List Char} {t : Tally}

theorem hasBlocks_iff : g.hasBlocks = true ↔ g.blockStart ≠ "" ∨ g.docDelimiters ≠ [] := by
  simp [Grammar.hasBlocks]

theorem possible_empty (g : Grammar) : ({} : Tally).Possible g := by
  intro inside
  cases inside

theorem Tally.Possible.judge (possible : t.Possible g) (trimmed : List Char) :
    (t.judge g trimmed).Possible g := by
  rw [judge_eq]
  -- Nothing but an opener leads into a block, and only a grammar with blocks has one.
  split_ifs with _ _ opens
  · intro closed
    cases closed
  · exact possible
  · exact possible
  · exact fun _ => opens.1
  · exact possible
  · exact possible

theorem Tally.Possible.add (possible : t.Possible g) (line : List Char) :
    (t.add (some g) line).Possible g := by
  have counted : ({ t with total := t.total + 1 } : Tally).Possible g := possible
  simp only [Tally.add]
  split
  · exact counted
  · exact counted.judge (Text.trim line)

theorem possible_foldl (possible : t.Possible g) (lines : List (List Char)) :
    (lines.foldl (Tally.add (some g)) t).Possible g := by
  induction lines generalizing t with
  | nil => exact possible
  | cons line rest ih => exact ih (possible.add line)

namespace SameSyntax

theorem lineComment (same : SameSyntax g other) : LineComment other line ↔ LineComment g line := by
  simp only [LineComment, same.markers]

theorem opener (same : SameSyntax g other) : Opener other line ↔ Opener g line := by
  unfold Opener
  rw [same.blocks]
  refine and_congr_right fun blocks => ?_
  simp only [same.delimits blocks]

theorem selfClosed (same : SameSyntax g other) (blocks : g.hasBlocks = true) :
    SelfClosed other line ↔ SelfClosed g line := by
  simp only [SelfClosed, same.delimits blocks]

theorem judge (same : SameSyntax g other) (possible : t.Possible g) (trimmed : List Char) :
    t.judge other trimmed = t.judge g trimmed := by
  rw [judge_eq, judge_eq]
  by_cases inside : t.block = .inside
  · simp only [inside, if_true, same.closers (possible inside)]
  · by_cases opens : Opener g trimmed
    · simp only [inside, if_false, same.opener, opens, if_true, same.selfClosed opens.1]
    · simp only [inside, if_false, same.opener, opens, same.lineComment]

theorem add (same : SameSyntax g other) (possible : t.Possible g) (line : List Char) :
    t.add (some other) line = t.add (some g) line := by
  have counted : ({ t with total := t.total + 1 } : Tally).Possible g := possible
  simp only [Tally.add, same.judge counted]

theorem foldl (same : SameSyntax g other) (possible : t.Possible g) (lines : List (List Char)) :
    lines.foldl (Tally.add (some other)) t = lines.foldl (Tally.add (some g)) t := by
  induction lines generalizing t with
  | nil => rfl
  | cons line rest ih =>
    rw [List.foldl_cons, List.foldl_cons, same.add possible, ih (possible.add line)]

theorem classify (same : SameSyntax g other) (lines : List (List Char)) :
    classify (some other) lines = classify (some g) lines := same.foldl (possible_empty g) lines

/-- Docstring delimiters replace the block delimiters altogether. -/
theorem of_docstrings (docstrings : g.docDelimiters ≠ []) (start stop : String) :
    SameSyntax g { g with blockStart := start, blockEnd := stop } where
  markers _ := Iff.rfl
  blocks := by simp only [hasBlocks_iff, docstrings, ne_eq, not_false_eq_true, or_true]
  delimits _ opener closer := by simp [Delimits, docstrings]
  closers _ line := by simp [Closer, docstrings]

/-- Without an opener there is nothing to close. -/
theorem of_unblocked (unblocked : ¬ g.hasBlocks = true) (stop : String) :
    SameSyntax g { g with blockEnd := stop } where
  markers _ := Iff.rfl
  blocks := Iff.rfl
  delimits blocks := absurd blocks unblocked
  closers blocks := absurd blocks unblocked

/-- Of the lists of a grammar only the members count. -/
theorem of_members {markers delimiters : List String}
    (sameMarkers : ∀ marker, marker ∈ markers ↔ marker ∈ g.lineMarkers)
    (sameDelimiters : ∀ delimiter, delimiter ∈ delimiters ↔ delimiter ∈ g.docDelimiters)
    (name : String) (extensions : List String) : SameSyntax g { g with
      name, extensions, lineMarkers := markers, docDelimiters := delimiters } := by
  have empty : delimiters = [] ↔ g.docDelimiters = [] := by
    simp only [List.eq_nil_iff_forall_not_mem, sameDelimiters]
  exact {
    markers := sameMarkers
    blocks := by simp only [hasBlocks_iff, ne_eq, empty]
    delimits := fun _ opener closer => by simp only [Delimits, empty, sameDelimiters]
    closers := fun _ line => by simp only [Closer, empty, sameDelimiters] }

end SameSyntax

/-- Nothing is read off a grammar but the syntax that is in use. Where there are docstring
delimiters, the block delimiters do not matter. Where there are neither these nor a block opener,
no line is reached within a block, and the block end does not matter. The order of the markers and
of the docstring delimiters and how often they are given never matter, nor do the name and the
extensions. -/
theorem classify_unread (g : Grammar) (lines : List (List Char)) :
    (g.docDelimiters ≠ [] → ∀ start stop,
      classify (some { g with blockStart := start, blockEnd := stop }) lines =
        classify (some g) lines) ∧
    (g.docDelimiters = [] → g.blockStart = "" →
      (∀ n, (classify (some g) (lines.take n)).block = .outside) ∧
      ∀ stop, classify (some { g with blockEnd := stop }) lines = classify (some g) lines) ∧
    ∀ name extensions markers delimiters, (∀ marker, marker ∈ markers ↔ marker ∈ g.lineMarkers) →
      (∀ delimiter, delimiter ∈ delimiters ↔ delimiter ∈ g.docDelimiters) →
      classify (some { g with
        name, extensions, lineMarkers := markers, docDelimiters := delimiters }) lines =
          classify (some g) lines := by
  refine ⟨fun docstrings start stop => ?_, fun plain unopened => ?_,
    fun name extensions markers delimiters sameMarkers sameDelimiters => ?_⟩
  · exact (SameSyntax.of_docstrings docstrings start stop).classify lines
  · have unblocked : ¬ g.hasBlocks = true := by
      rw [hasBlocks_iff]
      exact fun some => some.elim (absurd unopened) (absurd plain)
    refine ⟨fun n => ?_, fun stop => (SameSyntax.of_unblocked unblocked stop).classify lines⟩
    have possible : (classify (some g) (lines.take n)).Possible g :=
      possible_foldl (possible_empty g) (lines.take n)
    cases block : (classify (some g) (lines.take n)).block with
    | outside => rfl
    | inside => exact absurd (possible block) unblocked
  · exact (SameSyntax.of_members sameMarkers sameDelimiters name extensions).classify lines

/-- With docstring delimiters, a line that starts with the block opener is code, and one delimiter
closes what another one opened, in whatever order they are given. Without any opener, all three
lines are code. -/
theorem classify_unread_docstrings :
    let g : Grammar :=
      { name := "Python", lineMarkers := ["#", "//"], docDelimiters := ["\"\"\"", "'''"] }
    let plain : Grammar := { name := "Shell", lineMarkers := ["#"] }
    let lines := ["\"\"\" a".toList, "b '''".toList, "/* c".toList]
    (g.docDelimiters ≠ [] ∧
      classify (some { g with blockStart := "/*", blockEnd := "*/" }) lines = ⟨3, 1, .outside⟩) ∧
    (plain.docDelimiters = [] ∧ plain.blockStart = "" ∧
      classify (some { plain with blockEnd := "'''" }) lines = ⟨3, 3, .outside⟩) ∧
    classify (some { g with
      name := "Other", extensions := [".x"], lineMarkers := ["//", "#", "//"]
      docDelimiters := ["'''", "\"\"\"", "'''"] }) lines = ⟨3, 1, .outside⟩ := by
  intro g plain lines
  have run : classify (some g) lines = ⟨3, 1, .outside⟩ := by decide
  have shell : classify (some plain) lines = ⟨3, 3, .outside⟩ := by decide
  have docstrings : g.docDelimiters ≠ [] := by decide
  refine ⟨⟨docstrings, ?_⟩, ⟨rfl, rfl, ?_⟩, ?_⟩
  · exact ((classify_unread g lines).1 docstrings "/*" "*/").trans run
  · exact (((classify_unread plain lines).2.1 rfl rfl).2 "'''").trans shell
  · refine ((classify_unread g lines).2.2 "Other" [".x"] _ _ ?_ ?_).trans run
    · simp [g, or_comm]
    · simp [g, or_comm]

end LineBudget.Line
