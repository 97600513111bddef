import LineBudget.Line.Classify
import Mathlib.Data.List.Infix

/-! What the markers of a grammar mean on a trimmed line, in terms of how the line begins, ends and
divides. The tests of the automaton decide exactly these properties. -/
namespace LineBudget.Line
open LineBudget.Language

/-- An opening delimiter of a grammar with its own closer. Docstring delimiters close themselves,
and replace the block delimiters where there are any. -/
def Delimits (g : Grammar) (opener closer : String) : Prop :=
  if g.docDelimiters = [] then opener = g.blockStart ∧ closer = g.blockEnd
  else opener ∈ g.docDelimiters ∧ closer = opener

/-- The grammar has block comments, and the line starts with one of its opening delimiters. -/
def Opener (g : Grammar) (line : List Char) : Prop :=
  g.hasBlocks = true ∧ ∃ opener closer, Delimits g opener closer ∧ opener.toList <+: line

/-- The closer of an opening delimiter stands behind it, and the two do not overlap. -/
def SelfClosed (g : Grammar) (line : List Char) : Prop :=
  ∃ opener closer, Delimits g opener closer ∧
    ∃ inner after, line = opener.toList ++ inner ++ closer.toList ++ after

/-- The line opens a block that goes on behind it. -/
def LeavesOpen (g : Grammar) (line : List Char) : Prop := Opener g line ∧ ¬ SelfClosed g line

/-- The line contains the block end. Docstrings close at the end of a line, with any delimiter. -/
def Closer (g : Grammar) (line : List Char) : Prop :=
  if g.docDelimiters = [] then g.blockEnd.toList <:+: line
  else ∃ delimiter ∈ g.docDelimiters, delimiter.toList <:+ line

def LineComment (g : Grammar) (line : List Char) : Prop :=
  ∃ marker ∈ g.lineMarkers, marker.toList <+: line

theorem contains_iff {part text : List Char} : contains part text = true ↔ part <:+: text := by
  induction text with
  | nil => simp [contains]
  | cons c rest ih =>
    simp only [contains, Bool.or_eq_true, List.isPrefixOf_iff_prefix, ih]
    exact List.infix_cons_iff.symm

theorem closedBehind_iff {opener closer line : List Char} :
    opener <+: line ∧ closer <:+: line.drop opener.length ↔
      ∃ inner after, line = opener ++ inner ++ closer ++ after := by
  constructor
  · rintro ⟨⟨tail, rfl⟩, inner, after, same⟩
    rw [List.drop_left] at same
    exact ⟨inner, after, by simp [← same]⟩
  · rintro ⟨inner, after, rfl⟩
    refine ⟨⟨inner ++ closer ++ after, by simp⟩, inner, after, ?_⟩
    simp only [List.append_assoc, List.drop_left]

theorem isLineComment_iff {g : Grammar} {line : List Char} :
    isLineComment g line = true ↔ LineComment g line := by
  simp [isLineComment, LineComment]

theorem opensBlock_iff {g : Grammar} {line : List Char} :
    (g.hasBlocks && opensBlock g line) = true ↔ Opener g line := by
  rw [Bool.and_eq_true]
  refine and_congr_right fun _ => ?_
  by_cases plain : g.docDelimiters = [] <;> simp [opensBlock, Delimits, plain]

theorem closesBlock_iff {g : Grammar} {line : List Char} :
    closesBlock g line = true ↔ Closer g line := by
  by_cases plain : g.docDelimiters = []
  · simp [closesBlock, Closer, plain, contains_iff]
  · simp [closesBlock, Closer, plain]

theorem closesItself_iff {g : Grammar} {line : List Char} :
    closesItself g line = true ↔ SelfClosed g line := by
  simp only [SelfClosed, ← closedBehind_iff]
  by_cases plain : g.docDelimiters = []
  · simp [closesItself, Delimits, plain, contains_iff]
  · simp [closesItself, Delimits, plain, contains_iff]

instance (g : Grammar) (line : List Char) : Decidable (Opener g line) :=
  decidable_of_iff _ opensBlock_iff

instance (g : Grammar) (line : List Char) : Decidable (SelfClosed g line) :=
  decidable_of_iff _ closesItself_iff

instance (g : Grammar) (line : List Char) : Decidable (LeavesOpen g line) :=
  inferInstanceAs (Decidable (_ ∧ _))

instance (g : Grammar) (line : List Char) : Decidable (Closer g line) :=
  decidable_of_iff _ closesBlock_iff

instance (g : Grammar) (line : List Char) : Decidable (LineComment g line) :=
  decidable_of_iff _ isLineComment_iff

end LineBudget.Line
