import LineBudget.Text.Split

/-! The pieces of a text: none of them has the separator, and each run of characters without it is
one of them. -/
namespace LineBudget.Text

variable {separator : Char} {text piece rest : List Char}

theorem not_mem_pieces (member : piece ∈ pieces separator text) : separator ∉ piece := by
  induction text generalizing piece with
  | nil =>
    obtain rfl := List.mem_singleton.mp member
    exact List.not_mem_nil
  | cons c rest ih =>
    simp only [pieces] at member
    split at member
    case isTrue =>
      rcases List.mem_cons.mp member with rfl | later
      · exact List.not_mem_nil
      · exact ih later
    case isFalse other =>
      cases split : pieces separator rest with
      | nil => exact absurd split (pieces_ne_nil separator rest)
      | cons first others =>
        rw [split] at member ih
        rcases List.mem_cons.mp member with rfl | later
        · simp [Ne.symm other, ih (List.mem_cons_self ..)]
        · exact ih (List.mem_cons_of_mem _ later)

theorem pieces_plain (plain : separator ∉ piece) : pieces separator piece = [piece] := by
  induction piece with
  | nil => rfl
  | cons c rest ih =>
    obtain ⟨other, later⟩ := not_or.mp (fun member => plain (List.mem_cons.mpr member))
    rw [pieces, if_neg (Ne.symm other), ih later]

theorem pieces_append (plain : separator ∉ piece) :
    pieces separator (piece ++ separator :: rest) = piece :: pieces separator rest := by
  induction piece with
  | nil => rw [List.nil_append, pieces, if_pos rfl]
  | cons c front ih =>
    obtain ⟨other, later⟩ := not_or.mp (fun member => plain (List.mem_cons.mpr member))
    rw [List.cons_append, pieces, if_neg (Ne.symm other), ih later]

end LineBudget.Text
