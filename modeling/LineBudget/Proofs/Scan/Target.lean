import LineBudget.Proofs.Files.Lookup
import LineBudget.Proofs.Scan.Listing

/-! Which target a scan walks through, and what it then lists. -/
namespace LineBudget.Scan
open LineBudget.Files LineBudget.Config

variable {d : Disk} {s : Settings} {p place : Path} {root : Node} {given : Ignore.Rules}

/-- A target that can be walked is a directory at a path that can be used. -/
theorem directoryOfTarget_ok (reached : directoryOfTarget d p = .ok place) :
    place = .ofLocation (d.canonical p) ∧ Disk.hasNul place = false ∧
      ∃ root, d.node place = .ok root ∧ root.isDirectory = true := by
  unfold directoryOfTarget at reached
  split at reached
  · cases reached
  · dsimp only at reached
    split at reached
    · cases reached
    · cases tested : d.isDirectory (.ofLocation (d.canonical p)) with
      | error failure => simp [tested] at reached
      | ok directory =>
        cases directory with
        | false => simp [tested] at reached
        | true =>
          obtain rfl : Path.ofLocation (d.canonical p) = place := by simpa [tested] using reached
          simp only [Disk.isDirectory, Disk.test] at tested
          split at tested
          · cases tested
          · rename_i clean
            refine ⟨rfl, by simpa using clean, ?_⟩
            split at tested
            · rename_i root found
              exact ⟨root, found, Except.ok.inj tested⟩
            · split at tested <;> cases tested

/-- A scan that lists something has found its target and compiled its patterns. -/
theorem scan_eq_ok {listing : Listing} : (scan d s p).result = .ok listing ↔
    ∃ place given, directoryOfTarget d p = .ok place ∧ rules d s = .ok given ∧
      (walk d place (exclusion given)).result = .ok listing := by
  unfold scan
  cases reached : directoryOfTarget d p with
  | error failure => simp
  | ok place =>
    cases compiled : rules d s with
    | error failure => simp
    | ok given => simp

end LineBudget.Scan
