import LineBudget.Files.Archive
import LineBudget.Proofs.Files.Tree
import LineBudget.Proofs.Text.Split

/-! The trees that archives stand for: whatever an archive holds, its tree has each name of a
directory once, and only names that a path can have a part of. -/
namespace LineBudget.Files

theorem partsOf_proper (text : String) : ∀ part ∈ Path.partsOf text, ProperName part := by
  intro part member
  simp only [Path.partsOf, List.mem_filter, List.mem_map] at member
  obtain ⟨⟨piece, inside, rfl⟩, kept⟩ := member
  have named : String.ofList piece ≠ "" ∧ String.ofList piece ≠ "." := by simpa using kept
  exact ⟨named.1, named.2, by simpa using Text.not_mem_pieces inside⟩

namespace Archive

/-- A tree as archives make them. -/
structure Sound (root : Node) : Prop where
  distinct : root.DistinctNames
  proper : root.ProperNames

variable {root new : Node}

theorem Sound.insert (sound : Sound root) (added : Sound new) (text : String) :
    Sound (root.insert new (Path.partsOf text)) where
  distinct := sound.distinct.insert added.distinct _
  proper := sound.proper.insert added.proper (partsOf_proper text)

theorem Sound.find? (sound : Sound root) {names : List String} {node : Node}
    (found : root.find? names = some node) : Sound node where
  distinct := Node.Throughout.find? sound.distinct found
  proper := Node.Throughout.find? sound.proper found

theorem Sound.file (content : List UInt8) (readable : Bool) : Sound (.file content readable) :=
  ⟨.file .., .file ..⟩

theorem Sound.link (target : String) : Sound (.link target) := ⟨.link _, .link _⟩

theorem Sound.empty (access : Access) : Sound (.directory [] access) :=
  ⟨.directory List.nodup_nil (by simp), .directory (by simp) (by simp)⟩

theorem Sound.directory (sound : Sound new) (access : Access) :
    Sound (.directory new.entries access) where
  distinct :=
    have ⟨here, below⟩ := sound.distinct.start List.nodup_nil
    .directory here below
  proper :=
    have ⟨here, below⟩ := sound.proper.start (by simp)
    .directory here below

theorem Sound.addMember (sound : Sound root) (h : Header) (content : List UInt8) :
    Sound (addMember root h content) := by
  unfold Archive.addMember
  split
  · exact sound.insert (.file ..) _
  · exact sound.insert (.file ..) _
  · exact sound.insert (.file ..) _
  · split
    case h_1 node found => exact sound.insert (sound.find? found) _
    case h_2 => exact sound
  · exact sound.insert (.link _) _
  · refine sound.insert ?_ _
    cases found : root.find? (Path.partsOf h.name) with
    | none => exact .empty _
    | some node => exact (sound.find? found).directory _
  · exact sound

theorem Sound.addMembers (sound : Sound root) (long : LongFields) (octets : List UInt8) :
    Sound (addMembers root long octets) := by
  fun_induction Archive.addMembers root long octets with
  | case1 | case2 => exact sound
  | case3 _ _ _ _ _ _ _ _ _ _ ih | case4 _ _ _ _ _ _ _ _ _ _ ih => exact ih sound
  | case5 _ _ _ _ _ _ _ _ _ _ _ _ ih => exact ih (sound.addMember ..)

theorem disk_sound (octets : List UInt8) : Sound (disk octets).root :=
  (Sound.empty {}).addMembers {} octets

theorem node_sound {octets : List UInt8} {p : Path} {node : Node}
    (found : (disk octets).node p = .ok node) : Sound node where
  distinct := Disk.node_throughout (disk_sound octets).distinct found
  proper := Disk.node_throughout (disk_sound octets).proper found

end Archive
end LineBudget.Files
