import LineBudget.Proofs.Command.Stages

/-! Two runs compared stage by stage. An examination has a counterpart wherever the same files are
listed and counted alike, and runs that pass their stages together end together. -/
namespace LineBudget.Command
open LineBudget.Files LineBudget.Config LineBudget.Scan LineBudget.Count LineBudget.Analysis
open scoped List

section Examined
variable {d d' : Disk} {settings settings' : Settings} {target target' : Path} {mode : Count.Mode}
  {counts : List FileCount} {files : List Entry}

/-- A file that can be counted in one place can be counted in the other one, with the same lines in
the mode that is asked for. -/
def CountsAlike (d d' : Disk) (target target' : Path) (mode : Count.Mode) (e : Entry) : Prop :=
  ∀ c, countEntry d target mode e = .ok c → ∃ c', countEntry d' target' mode e = .ok c' ∧
    c'.lines mode = c.lines mode

theorem CountsAlike.of_eq {e : Entry}
    (same : countEntry d target mode e = countEntry d' target' mode e) :
    CountsAlike d d' target target' mode e :=
  fun c counted => ⟨c, same ▸ counted, rfl⟩

/-- The lines that are counted in a listed file, if it can be counted. -/
def countedLines? (d : Disk) (target : Path) (mode : Count.Mode) (e : Entry) : Option Nat :=
  (countEntry d target mode e).toOption.map (·.lines mode)

theorem countedLines?_of_ok {e : Entry} {c : FileCount}
    (counted : countEntry d target mode e = .ok c) :
    countedLines? d target mode e = some (c.lines mode) := by
  rw [countedLines?, counted]
  rfl

theorem CountsAlike.of_lines {e : Entry}
    (same : countedLines? d target mode e = countedLines? d' target' mode e) :
    CountsAlike d d' target target' mode e := by
  intro c counted
  rw [countedLines?_of_ok counted] at same
  cases counted' : countEntry d' target' mode e with
  | error failure =>
    rw [countedLines?, counted'] at same
    cases same
  | ok c' =>
    rw [countedLines?_of_ok counted'] at same
    exact ⟨c', rfl, (Option.some.inj same).symm⟩

/-- Reported under the names of their entries, counts differ at most in lines that the mode does not
ask for. -/
theorem counts_alike (counted : counts.map .ok = files.map (countEntry d target mode))
    (alike : ∀ e ∈ files, CountsAlike d d' target target' mode e) :
    ∃ counts' : List FileCount, counts'.map .ok = files.map (countEntry d' target' mode) ∧
      (located counts' files).map (reportedOf mode) =
        (located counts files).map (reportedOf mode) := by
  induction files generalizing counts with
  | nil => exact ⟨[], rfl, by simp [located]⟩
  | cons e rest ih =>
    obtain ⟨c, later, rfl, here, others⟩ := List.map_eq_cons_iff.mp counted
    obtain ⟨first, behind⟩ := List.forall_mem_cons.mp alike
    obtain ⟨c', counted', lines⟩ := first c here.symm
    obtain ⟨others', counts', same⟩ := ih others behind
    refine ⟨c' :: others', ?_, ?_⟩
    · rw [List.map_cons, List.map_cons, counted', counts']
    · have reported : reportedOf mode { c' with path := e.path } =
          reportedOf mode { c with path := e.path } := by
        rw [reportedOf, reportedOf]
        cases mode <;> exact congrArg _ lines
      rw [located, located] at same ⊢
      simp only [List.zip_cons_cons, List.map_cons, reported, same]

/-- Where the stages hand on the same, up to the places of the files, they lead to the same report. -/
theorem Examined.moved (x : Examined d settings target)
    (read : settings'.userPatterns d' (currentDirectory d') = .ok x.user)
    (scanned : (scan d' settings' target').result = .ok x.listing)
    (chosen : settings'.mode = .ok x.mode) (limited : limits? settings' = some x.limits)
    (alike : ∀ e ∈ x.listing.files, CountsAlike d d' target target' x.mode e) :
    ∃ y : Examined d' settings' target', y.report = x.report ∧ y.user = x.user := by
  obtain ⟨counts', counted', same⟩ := counts_alike x.counted alike
  refine ⟨⟨x.user, x.listing, x.mode, x.limits, counts', read, scanned, chosen, limited, counted'⟩,
    ?_, rfl⟩
  exact analyze_congr same

end Examined

section Check
variable {s s' : Surroundings} {request request' : CheckRequest} {order order' : Nat → List Nat}

/-- A run fails exactly if it does not pass all of its stages. -/
theorem fails_iff_not_passed : Fails s request ↔ IsEmpty (Passed s request) := by
  constructor
  · exact fun fails => ⟨fails.not_passed⟩
  · intro unpassed
    rcases check_cases s request List.range fun _ => List.Perm.refl _ with ⟨fails, _⟩ | ⟨p, _⟩
    · exact fails
    · exact unpassed.elim p

/-- Of two runs that pass their stages together, either both fail or both write their report. -/
theorem check_both (once : ∀ n, order n ~ List.range n) (once' : ∀ n, order' n ~ List.range n)
    (onward : Passed s request → Nonempty (Passed s' request'))
    (back : Passed s' request' → Nonempty (Passed s request)) :
    ((check s request order).exit = failureCode ∧ (check s request order).output = "" ∧
      (check s' request' order').exit = failureCode ∧ (check s' request' order').output = "") ∨
    ∃ (p : Passed s request) (q : Passed s' request'),
      ((check s request order).exit = reportCode p.report ∧
        (check s request order).output = p.output) ∧
      (check s' request' order').exit = reportCode q.report ∧
        (check s' request' order').output = q.output := by
  rcases check_cases s request order once with ⟨fails, exit, output⟩ | ⟨p, ended⟩ <;>
    rcases check_cases s' request' order' once' with ⟨fails', exit', output'⟩ | ⟨q, ended'⟩
  · exact .inl ⟨exit, output, exit', output'⟩
  · obtain ⟨p⟩ := back q
    exact (fails.not_passed p).elim
  · obtain ⟨q⟩ := onward p
    exact (fails'.not_passed q).elim
  · exact .inr ⟨p, q, ended, ended'⟩

/-- Runs that come to the same report and the same output end alike. -/
theorem check_same (once : ∀ n, order n ~ List.range n) (once' : ∀ n, order' n ~ List.range n)
    (onward : ∀ p : Passed s request, ∃ q : Passed s' request',
      q.report = p.report ∧ q.output = p.output)
    (back : Passed s' request' → Nonempty (Passed s request)) :
    (check s request order).exit = (check s' request' order').exit ∧
      (check s request order).output = (check s' request' order').output := by
  rcases check_both once once' (fun p => ⟨(onward p).choose⟩) back with
    ⟨exit, output, exit', output'⟩ | ⟨p, q, ⟨exit, output⟩, exit', output'⟩
  · exact ⟨exit.trans exit'.symm, output.trans output'.symm⟩
  · obtain ⟨other, report, written⟩ := onward p
    rw [other.unique q] at report written
    rw [exit, output, exit', output', report, written]
    exact ⟨rfl, rfl⟩

end Check
end LineBudget.Command
