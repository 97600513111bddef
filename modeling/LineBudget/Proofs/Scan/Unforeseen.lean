import LineBudget.Proofs.Files.Canonical
import LineBudget.Proofs.Scan.Excluding

/-! Targets that cannot be walked: which of them a scan reports as failures of its own, and which of
them end it in a way that it does not foresee. -/
namespace LineBudget.Scan
open LineBudget.Files LineBudget.Config

/-- The place that is left of a target once links and double dots are worked off. -/
def resolved (d : Disk) (target : Path) : Path := .ofLocation (d.canonical target)

/-- The target leads to something other than a directory, to nothing, or through something other
than a directory. -/
inductive NoDirectory (d : Disk) (target : Path) : Prop
  | other {node : Node} (found : d.node (resolved d target) = .ok node)
    (plain : node.isDirectory = false)
  | missing (lost : d.node (resolved d target) = .error .notFound)
  | through (lost : d.node (resolved d target) = .error .notDirectory)

/-- Failures before the walk that the scan does not foresee: a path with a NUL is none, links lead
in a circle, a name or the whole path is too long for a look-up, and a directory on the way cannot
be searched. -/
inductive Unforeseen (d : Disk) (target : Path) : Failure → Prop
  | nul (inside : Disk.hasNul target = true) : Unforeseen d target (.access .nulInPath)
  | circle (clean : Disk.hasNul target = false)
    (lost : d.node (resolved d target) = .error .tooManyLinks) :
    Unforeseen d target (.linkLoop (resolved d target).text)
  | tooLong (clean : Disk.hasNul target = false)
    (clean' : Disk.hasNul (resolved d target) = false)
    (lost : d.node (resolved d target) = .error .nameTooLong) :
    Unforeseen d target (.access (.refused ⟨.nameTooLong, (resolved d target).text⟩))
  | denied (clean : Disk.hasNul target = false)
    (clean' : Disk.hasNul (resolved d target) = false)
    (lost : d.node (resolved d target) = .error .permissionDenied) :
    Unforeseen d target (.access (.refused ⟨.permissionDenied, (resolved d target).text⟩))

variable {d : Disk} {target : Path} {failure : Failure}

theorem directoryOfTarget_clean (clean : Disk.hasNul target = false)
    (straight : d.node (resolved d target) ≠ .error .tooManyLinks) :
    directoryOfTarget d target = match d.isDirectory (resolved d target) with
      | .error failure => .error (.access failure)
      | .ok true => .ok (resolved d target)
      | .ok false => .error (.scan (.notDirectory target.text)) := by
  rw [directoryOfTarget, clean, if_neg Bool.false_ne_true]
  dsimp only
  split
  case h_1 lost => exact absurd lost straight
  case h_2 => rfl

theorem directoryOfTarget_unforeseen (unforeseen : Unforeseen d target failure) :
    directoryOfTarget d target = .error failure := by
  cases unforeseen with
  | nul inside => rw [directoryOfTarget, if_pos inside]
  | circle clean lost =>
    rw [directoryOfTarget, clean, if_neg Bool.false_ne_true]
    dsimp only
    rw [← resolved, lost]
  | tooLong clean clean' lost | denied clean clean' lost =>
    rw [directoryOfTarget_clean clean (by simp [lost])]
    simp only [Disk.isDirectory, Disk.test, clean', lost]
    rfl

theorem directoryOfTarget_noDirectory (clean : Disk.hasNul target = false)
    (none : NoDirectory d target) :
    directoryOfTarget d target = .error (.scan (.notDirectory target.text)) := by
  have straight : d.node (resolved d target) ≠ .error .tooManyLinks := by
    cases none with
    | other found => simp [found]
    | missing lost | through lost => simp [lost]
  have no : d.isDirectory (resolved d target) = .ok false := by
    unfold Disk.isDirectory Disk.test
    split
    · rfl
    · cases none with
      | other found plain => simp [found, plain]
      | missing lost | through lost => simp [lost, Reason.answersNo]
  rw [directoryOfTarget_clean clean straight, no]

/-- A target is a directory or none, or something about it is not foreseen. -/
theorem directoryOfTarget_cases (d : Disk) (target : Path) :
    (∃ place, directoryOfTarget d target = .ok place) ∨
      directoryOfTarget d target = .error (.scan (.notDirectory target.text)) ∨
      ∃ failure, Unforeseen d target failure := by
  cases clean : Disk.hasNul target with
  | true => exact .inr (.inr ⟨_, .nul clean⟩)
  | false =>
    -- A NUL in what links lead to makes the path none, which is no directory.
    have unnamed (straight : d.node (resolved d target) ≠ .error .tooManyLinks)
        (nul : Disk.hasNul (resolved d target) = true) :
        directoryOfTarget d target = .error (.scan (.notDirectory target.text)) := by
      rw [directoryOfTarget_clean clean straight]
      simp [Disk.isDirectory, Disk.test, nul]
    cases found : d.node (resolved d target) with
    | ok node =>
      rw [directoryOfTarget_clean clean (by simp [found])]
      unfold Disk.isDirectory Disk.test
      cases Disk.hasNul (resolved d target) with
      | true => exact .inr (.inl rfl)
      | false => cases directory : node.isDirectory <;> simp [found, directory]
    | error reason =>
      cases reason with
      | notFound => exact .inr (.inl (directoryOfTarget_noDirectory clean (.missing found)))
      | notDirectory => exact .inr (.inl (directoryOfTarget_noDirectory clean (.through found)))
      | tooManyLinks => exact .inr (.inr ⟨_, .circle clean found⟩)
      | nameTooLong =>
        cases clean' : Disk.hasNul (resolved d target) with
        | false => exact .inr (.inr ⟨_, .tooLong clean clean' found⟩)
        | true => exact .inr (.inl (unnamed (by simp [found]) clean'))
      | permissionDenied =>
        cases clean' : Disk.hasNul (resolved d target) with
        | false => exact .inr (.inr ⟨_, .denied clean clean' found⟩)
        | true => exact .inr (.inl (unnamed (by simp [found]) clean'))
      | «exists» | isDirectory => cases Disk.node_error found

section Scan
variable {settings : Settings} {given : Ignore.Rules}

theorem scan_unreached (unreached : directoryOfTarget d target = .error failure) :
    (scan d settings target).result = .error failure := by
  simp only [scan, unreached]

/-- A scan lists its files, or it fails with an error of its own, or something about its target is
not foreseen. -/
theorem scan_cases (compiled : rules d settings = .ok given) (target : Path) :
    (∃ listing, (scan d settings target).result = .ok listing) ∨
      (∃ e, (scan d settings target).result = .error (.scan e)) ∨
      ∃ failure, Unforeseen d target failure := by
  rcases directoryOfTarget_cases d target with ⟨place, reached⟩ | none | unforeseen
  · have walked : (scan d settings target).result = (walk d place (exclusion given)).result := by
      simp only [scan, reached, compiled]
    rw [walked]
    rcases walk_cases d place (exclusion given) with listed | stopped
    · exact .inl listed
    · exact .inr (.inl stopped)
  · exact .inr (.inl ⟨_, scan_unreached none⟩)
  · exact .inr (.inr unforeseen)

end Scan

section Classes
variable {above : List String} {name : String} {entries : List (String × Node)} {access : Access}

theorem hasNul_eq_false {p : Path} (clean : ∀ part ∈ p.parts, '\x00' ∉ part.toList) :
    Disk.hasNul p = false := by
  rw [Disk.hasNul, Path.contains, List.any_eq_false]
  intro part member
  simpa using clean part member

/-- A link whose target is itself. -/
theorem Unforeseen.of_selfLink (legal : d.root.LegalNames) (parts : target.parts = above ++ [name])
    (found : d.root.find? (d.start target ++ above) = some (.directory entries access))
    (entry : entries.lookup name = some (.link name))
    (passable : d.root.passable (d.start target ++ target.parts) = true)
    (short : (Path.ofLocation (d.start target ++ target.parts)).text.utf8ByteSize < pathLimit) :
    Unforeseen d target (.linkLoop (Path.ofLocation (d.start target ++ target.parts)).text) := by
  have whole : d.start target ++ target.parts = d.start target ++ above ++ [name] := by
    rw [parts, List.append_assoc]
  have there : d.root.find? (d.start target ++ target.parts) = some (.link name) := by
    rw [whole, find?_child found, entry]
  have same : resolved d target = .ofLocation (d.start target ++ target.parts) :=
    congrArg Path.ofLocation
      (canonical_selfLink legal parts found entry (whole ▸ passable) (whole ▸ short))
  have clean : Disk.hasNul target = false := hasNul_eq_false fun part member =>
    (legal.names there part (List.mem_append_right _ member)).clean
  rw [← same]
  refine .circle clean ?_
  rw [same]
  rw [whole] at short passable ⊢
  exact Disk.node_selfLink legal found entry passable short

/-- The last name of a target stays when links and double dots are worked off, and so do the names
above it, unless it is a link. -/
theorem resolved_unlinked (legal : d.root.LegalNames) (parts : target.parts = above ++ [name])
    (found : d.root.find? (d.start target ++ above) = some (.directory entries access))
    (unlinked : access.searchable = true → ∀ target, entries.lookup name ≠ some (.link target))
    (notUp : name ≠ "..") (clean : '\x00' ∉ name.toList) :
    resolved d target = .ofLocation (d.start target ++ above ++ [name]) ∧
      Disk.hasNul target = false ∧ Disk.hasNul (resolved d target) = false := by
  have same : resolved d target = .ofLocation (d.start target ++ above ++ [name]) := by
    rw [resolved, canonical_unlinked legal parts found unlinked notUp, parts, List.append_assoc]
  have named := legal.names found
  have all : ∀ part ∈ d.start target ++ above ++ [name], '\x00' ∉ part.toList := by
    intro part member
    rcases List.mem_append.mp member with before | last
    · exact (named part before).clean
    · exact List.mem_singleton.mp last ▸ clean
  refine ⟨same, hasNul_eq_false fun part member => ?_, hasNul_eq_false (same ▸ all)⟩
  rw [parts] at member
  exact all part (by simpa using Or.inr (List.mem_append.mp member))

/-- A name that is too long for an entry, in a directory. -/
theorem Unforeseen.of_long (legal : d.root.LegalNames) (parts : target.parts = above ++ [name])
    (found : d.root.find? (d.start target ++ above) = some (.directory entries access))
    (passable : d.root.passable (d.start target ++ target.parts) = true)
    (long : nameLimit < name.utf8ByteSize) (clean : '\x00' ∉ name.toList) :
    Unforeseen d target (.access (.refused
      ⟨.nameTooLong, (Path.ofLocation (d.start target ++ target.parts)).text⟩)) := by
  have whole : d.start target ++ target.parts = d.start target ++ above ++ [name] := by
    rw [parts, List.append_assoc]
  have missing : entries.lookup name = none := by
    cases entry : entries.lookup name with
    | none => rfl
    | some node =>
      have named := legal.names ((find?_child found name).trans entry)
      exact absurd (named name (by simp)).short (Nat.not_le.mpr long)
  have notUp : name ≠ ".." := by
    rintro rfl
    exact absurd long (by decide)
  obtain ⟨same, clean, clean'⟩ :=
    resolved_unlinked legal parts found (by simp [missing]) notUp clean
  rw [whole, Node.passable_concat found, Bool.and_eq_true] at passable
  rw [whole, ← same]
  refine .tooLong clean clean' ?_
  rw [same]
  exact Disk.node_long legal found passable.1 passable.2 long

/-- A name in a directory that cannot be searched. -/
theorem Unforeseen.of_closed (legal : d.root.LegalNames) (parts : target.parts = above ++ [name])
    (found : d.root.find? (d.start target ++ above) = some (.directory entries access))
    (closed : access.searchable = false) (given : name ≠ "") (notUp : name ≠ "..")
    (clean : '\x00' ∉ name.toList)
    (short : (Path.ofLocation (d.start target ++ target.parts)).text.utf8ByteSize < pathLimit) :
    Unforeseen d target (.access (.refused
      ⟨.permissionDenied, (Path.ofLocation (d.start target ++ target.parts)).text⟩)) := by
  have whole : d.start target ++ target.parts = d.start target ++ above ++ [name] := by
    rw [parts, List.append_assoc]
  obtain ⟨same, clean, clean'⟩ :=
    resolved_unlinked legal parts found (by simp [closed]) notUp clean
  rw [whole] at short ⊢
  rw [← same]
  refine .denied clean clean' ?_
  rw [same]
  exact Disk.node_denied legal found closed given short

end Classes
end LineBudget.Scan
