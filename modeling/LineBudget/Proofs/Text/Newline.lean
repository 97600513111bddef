import LineBudget.Proofs.Text.Split
import LineBudget.Text.Newline
import Mathlib.Data.List.Chain

/-! Texts as lines with an end each. Every text is made of such lines, and how each of them ends is
lost when line ends are unified. -/
namespace LineBudget.Text

/-- The ways in which a line can end. -/
inductive Ending where
  | feed
  | returnFeed
  | loneReturn
  deriving DecidableEq, Repr

def Ending.text : Ending → List Char
  | .feed => ['\n']
  | .returnFeed => ['\r', '\n']
  | .loneReturn => ['\r']

/-- Nothing in the line can end it. -/
structure Plain (line : List Char) : Prop where
  noFeed : '\n' ∉ line
  noReturn : '\r' ∉ line

instance (line : List Char) : Decidable (Plain line) :=
  decidable_of_iff ('\n' ∉ line ∧ '\r' ∉ line)
    ⟨fun ⟨noFeed, noReturn⟩ => ⟨noFeed, noReturn⟩, fun ⟨noFeed, noReturn⟩ => ⟨noFeed, noReturn⟩⟩

/-- Lines that are ended, and the last one, which is not. -/
structure Division where
  ended : List (List Char × Ending)
  last : List Char
  deriving DecidableEq, Repr

namespace Division

def text (d : Division) : List Char :=
  d.ended.flatMap (fun line => line.1 ++ line.2.text) ++ d.last

/-- The lines without their ends. -/
def lines (d : Division) : List (List Char) := d.ended.map Prod.fst ++ [d.last]

/-- Behind a line that a lone return ends, the feed of an empty line would belong to the return. -/
def Apart (line next : List Char × Ending) : Prop := line.2 = .loneReturn → next ≠ ([], .feed)

instance : DecidableRel Apart :=
  fun line next => inferInstanceAs (Decidable (line.2 = .loneReturn → next ≠ ([], .feed)))

/-- The lines hold no ends, and no two of the ends are joined. -/
structure Proper (d : Division) : Prop where
  plain : ∀ line ∈ d.lines, Plain line
  apart : d.ended.IsChain Apart

instance (d : Division) : Decidable d.Proper :=
  decidable_of_iff ((∀ line ∈ d.lines, Plain line) ∧ d.ended.IsChain Apart)
    ⟨fun ⟨plain, apart⟩ => ⟨plain, apart⟩, fun ⟨plain, apart⟩ => ⟨plain, apart⟩⟩

end Division

variable {c : Char} {line last text rest : List Char} {ending : Ending} {d : Division}
  {ended : List (List Char × Ending)}

theorem Plain.nil : Plain [] := ⟨List.not_mem_nil, List.not_mem_nil⟩

theorem plain_cons : Plain (c :: line) ↔ (c ≠ '\n' ∧ c ≠ '\r') ∧ Plain line := by
  constructor
  · rintro ⟨noFeed, noReturn⟩
    obtain ⟨notFeed, laterFeed⟩ := List.ne_and_not_mem_of_not_mem_cons noFeed
    obtain ⟨notReturn, laterReturn⟩ := List.ne_and_not_mem_of_not_mem_cons noReturn
    exact ⟨⟨notFeed.symm, notReturn.symm⟩, laterFeed, laterReturn⟩
  · rintro ⟨⟨notFeed, notReturn⟩, noFeed, noReturn⟩
    exact ⟨List.not_mem_cons_of_ne_of_not_mem notFeed.symm noFeed,
      List.not_mem_cons_of_ne_of_not_mem notReturn.symm noReturn⟩

theorem Plain.head?_ne_feed (plain : Plain line) : line.head? ≠ some '\n' :=
  fun first => plain.noFeed (List.mem_of_head? first)

theorem unifyNewlines_cons (notReturn : c ≠ '\r') (rest : List Char) :
    unifyNewlines (c :: rest) = c :: unifyNewlines rest :=
  unifyNewlines.eq_3 c rest (fun _ same _ => notReturn same) notReturn

theorem unifyNewlines_plain (plain : Plain line) (rest : List Char) :
    unifyNewlines (line ++ rest) = line ++ unifyNewlines rest := by
  induction line with
  | nil => rfl
  | cons c more ih =>
    obtain ⟨⟨_, notReturn⟩, later⟩ := plain_cons.mp plain
    rw [List.cons_append, unifyNewlines_cons notReturn, ih later, List.cons_append]

theorem unifyNewlines_ending (apart : ending = .loneReturn → rest.head? ≠ some '\n') :
    unifyNewlines (ending.text ++ rest) = '\n' :: unifyNewlines rest := by
  cases ending with
  | feed => exact unifyNewlines_cons (by decide) rest
  | returnFeed => exact unifyNewlines.eq_1 rest
  | loneReturn =>
    refine unifyNewlines.eq_2 rest ?_
    rintro more rfl
    exact apart rfl rfl

namespace Division

theorem text_cons : (Division.mk ((line, ending) :: ended) last).text =
    line ++ (ending.text ++ (Division.mk ended last).text) := by
  simp [text, List.append_assoc]

theorem Proper.tail (proper : Proper ⟨(line, ending) :: ended, last⟩) : Proper ⟨ended, last⟩ :=
  ⟨(List.forall_mem_cons.mp proper.plain).2, proper.apart.tail⟩

/-- What follows on a lone return does not begin with a feed. -/
theorem Proper.head?_ne_feed (proper : Proper ⟨(line, ending) :: ended, last⟩)
    (lone : ending = .loneReturn) : (Division.mk ended last).text.head? ≠ some '\n' := by
  have plain := proper.tail.plain
  cases ended with
  | nil => exact (plain last (List.mem_singleton_self last)).head?_ne_feed
  | cons next others =>
    obtain ⟨body, nextEnding⟩ := next
    have unjoined := proper.apart.rel lone
    rw [text_cons]
    cases body with
    | nil =>
      cases nextEnding with
      | feed => exact absurd rfl unjoined
      | returnFeed | loneReturn => simp [Ending.text]
    | cons c more =>
      obtain ⟨⟨notFeed, _⟩, _⟩ := plain_cons.mp (plain (c :: more) (List.mem_cons_self ..))
      simpa using notFeed

/-- Once line ends are unified, the pieces are the lines, however they ended. -/
theorem Proper.pieces_eq (proper : d.Proper) : pieces '\n' (unifyNewlines d.text) = d.lines := by
  obtain ⟨ended, last⟩ := d
  induction ended with
  | nil =>
    have plain := proper.plain last (List.mem_singleton_self last)
    have whole : unifyNewlines last = last := by
      simpa [unifyNewlines] using unifyNewlines_plain plain []
    exact (congrArg (pieces '\n') whole).trans (pieces_plain plain.noFeed)
  | cons next others ih =>
    obtain ⟨line, ending⟩ := next
    have plain := proper.plain line (List.mem_cons_self ..)
    rw [text_cons, unifyNewlines_plain plain, unifyNewlines_ending proper.head?_ne_feed,
      pieces_append plain.noFeed, ih proper.tail]
    rfl

theorem Proper.cons (proper : Proper ⟨ended, last⟩) (plain : Plain line)
    (apart : ∀ next ∈ ended.head?, Apart (line, ending) next) :
    Proper ⟨(line, ending) :: ended, last⟩ where
  plain := List.forall_mem_cons.mpr ⟨plain, proper.plain⟩
  apart := List.isChain_cons.mpr ⟨apart, proper.apart⟩

/-- Where each line that is ended holds something, no two ends can be joined. -/
theorem proper_of_nonempty (plain : ∀ line ∈ d.lines, Plain line)
    (nonempty : ∀ line ∈ d.ended, line.1 ≠ []) : d.Proper := by
  refine ⟨plain, (List.pairwise_of_forall_mem_list ?_).isChain⟩
  rintro line - next member - rfl
  exact nonempty _ member rfl

/-- One more character in front of the first line. -/
def push (c : Char) : Division → Division
  | ⟨[], last⟩ => ⟨[], c :: last⟩
  | ⟨(line, ending) :: ended, last⟩ => ⟨(c :: line, ending) :: ended, last⟩

theorem text_push (c : Char) (d : Division) : (d.push c).text = c :: d.text := by
  obtain ⟨_ | ⟨⟨line, ending⟩, ended⟩, last⟩ := d <;> rfl

theorem Proper.push (proper : d.Proper) (notFeed : c ≠ '\n') (notReturn : c ≠ '\r') :
    (d.push c).Proper := by
  obtain ⟨_ | ⟨⟨line, ending⟩, ended⟩, last⟩ := d
  · have plain := proper.plain last (List.mem_singleton_self last)
    exact ⟨List.forall_mem_singleton.mpr (plain_cons.mpr ⟨⟨notFeed, notReturn⟩, plain⟩), .nil⟩
  · have plain := proper.plain line (List.mem_cons_self ..)
    exact proper.tail.cons (plain_cons.mpr ⟨⟨notFeed, notReturn⟩, plain⟩)
      (List.isChain_cons.mp proper.apart).1

/-- Every text is made of lines. -/
theorem exists_proper (text : List Char) : ∃ d : Division, d.Proper ∧ d.text = text := by
  induction text using unifyNewlines.induct with
  | case1 rest ih =>
    obtain ⟨d, proper, rfl⟩ := ih
    exact ⟨⟨([], .returnFeed) :: d.ended, d.last⟩, proper.cons .nil (fun _ _ lone => nomatch lone),
      text_cons⟩
  | case2 rest unfed ih =>
    obtain ⟨⟨ended, last⟩, proper, rfl⟩ := ih
    refine ⟨⟨([], .loneReturn) :: ended, last⟩, proper.cons .nil ?_, text_cons⟩
    rintro next first - rfl
    obtain ⟨others, rfl⟩ := List.head?_eq_some_iff.mp first
    exact unfed _ text_cons
  | case3 c rest _ notReturn ih =>
    obtain ⟨d, proper, rfl⟩ := ih
    by_cases feed : c = '\n'
    · subst feed
      exact ⟨⟨([], .feed) :: d.ended, d.last⟩, proper.cons .nil (fun _ _ lone => nomatch lone),
        text_cons⟩
    · exact ⟨d.push c, proper.push feed notReturn, text_push c d⟩
  | case4 => exact ⟨⟨[], []⟩, ⟨List.forall_mem_singleton.mpr .nil, .nil⟩, rfl⟩

end Division
end LineBudget.Text
