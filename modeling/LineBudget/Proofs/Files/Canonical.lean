import LineBudget.Proofs.Files.Lookup

/-! Canonical paths where no link stands on the way, and three ends that no look-up comes to: a link
whose target is itself, a name that is too long for an entry, and what is in a directory that cannot
be searched. -/
namespace LineBudget.Files
open scoped List

variable {d : Disk} {p : Path} {root node leaf : Node} {entries : List (String × Node)}
  {access : Access} {last : Bool} {links fuel : Nat} {name target : String}
  {here names above steps more : List String} {place : Place} {reason : Reason} {seen : Seen}
  {stand : Stand} {rest : List Step}

/-- Reasons that come up while names are followed. -/
def Reason.isOfLookup : Reason → Bool
  | .notFound | .permissionDenied | .notDirectory | .nameTooLong | .tooManyLinks => true
  | _ => false

theorem follow_error (failed : follow root last links here steps = .error reason) :
    reason.isOfLookup = true := by
  fun_induction follow root last links here steps with
  | case1 | case7 | case9 => cases failed
  | case2 | case4 | case5 | case11 | case12 => rename_i ih; exact ih failed
  | case3 | case6 | case8 | case10 | case13 =>
    cases failed
    rfl

theorem Disk.node_error (failed : d.node p = .error reason) : reason.isOfLookup = true := by
  unfold Disk.node at failed
  split at failed
  case h_1 reason' lost =>
    cases failed
    unfold Disk.place at lost
    split at lost
    · cases lost
      rfl
    · exact follow_error lost
  case h_2 =>
    cases failed
    rfl
  case h_3 =>
    split at failed <;> cases failed
    rfl

section Text

/-- A name is the only part of the path that it spells. -/
theorem partsOf_name (proper : ProperName name) : Path.partsOf name = [name] := by
  obtain ⟨nonempty, notDot, plain⟩ := proper
  rw [Path.partsOf, Text.pieces_plain plain]
  simp [nonempty, notDot]

theorem relative_name (plain : '/' ∉ name.toList) :
    name.startsWith "/" = false ∧ name.endsWith "/" = false := by
  constructor
  · rw [String.startsWith_string_eq_false_iff]
    intro front
    exact plain (front.subset (by simp))
  · rw [String.endsWith, String.Slice.endsWith_string_eq_false_iff]
    intro back
    exact plain (by simpa using back.subset (List.mem_singleton_self '/'))

theorem linkSteps_name (proper : ProperName name) : linkSteps name = [name] := by
  rw [linkSteps, Text.pieces_plain proper.2.2, (relative_name proper.2.2).2]
  simp [proper.1]

/-- A path is no longer than a location that ends with its names. -/
theorem size_text_le (slashes : Nat) (atMost : slashes ≤ 1) (front names : List String) :
    (Path.mk slashes names).text.utf8ByteSize ≤
      (Path.ofLocation (front ++ names)).text.utf8ByteSize := by
  have whole (names : List String) :
      (Path.ofLocation names).text = "/" ++ "/".intercalate names := by
    rw [← String.toList_inj, text_location, String.toList_append]
    rfl
  have body : ("/".intercalate names).utf8ByteSize ≤
      ("/".intercalate (front ++ names)).utf8ByteSize := by
    cases front with
    | nil => exact Nat.le_refl _
    | cons first others =>
      cases names with
      | nil => exact Nat.zero_le _
      | cons name more =>
        rw [String.intercalate_append_of_ne_nil (by simp) (by simp), String.utf8ByteSize_append]
        exact Nat.le_add_left _ _
  have slash : "/".utf8ByteSize = 1 := by decide
  rw [whole, String.utf8ByteSize_append, slash]
  rcases Nat.le_one_iff_eq_zero_or_eq_one.mp atMost with rfl | rfl
  · have text : (Path.mk 0 names).text =
        if ("/".intercalate names).isEmpty then "." else "/".intercalate names := by
      simp [Path.text, String.pushn, Nat.repeat]
    have dot : ".".utf8ByteSize = 1 := by decide
    rw [text]
    split <;> omega
  · have same : (Path.mk 1 names).text = "/" ++ "/".intercalate names := whole names
    rw [same, String.utf8ByteSize_append, slash]
    omega

end Text

section Follow

/-- A link whose target is itself is followed until no link is left. -/
theorem follow_selfLink (legal : LegalName name)
    (found : root.find? here = some (.directory entries access))
    (searchable : access.searchable = true) (entry : entries.lookup name = some (.link name)) :
    follow root true links here [name] = .error .tooManyLinks := by
  obtain ⟨⟨given, notDot, plain⟩, notUp, short, _⟩ := legal
  induction links with
  | zero =>
    rw [follow_entry found searchable given notDot notUp short, entry]
    rfl
  | succ links ih =>
    rw [follow_link found searchable given notDot notUp short entry,
      linkSteps_name ⟨given, notDot, plain⟩, (relative_name plain).1, List.append_nil]
    exact ih

theorem Node.passable_concat (found : root.find? above = some (.directory entries access))
    (name : String) :
    root.passable (above ++ [name]) = (root.passable above && access.searchable) := by
  rw [passable_append, found, Option.all_some, passable_single, Node.access]

/-- The last name is looked up in the directory above it, if the way there can be searched. -/
theorem Disk.place_above (legal : d.root.LegalNames)
    (found : d.root.find? above = some (.directory entries access)) (name : String)
    (short : (Path.ofLocation (above ++ [name])).text.utf8ByteSize < pathLimit) :
    d.place (.ofLocation (above ++ [name])) last =
      if d.root.passable above then follow d.root last linkLimit above [name]
      else .error .permissionDenied := by
  rw [Disk.place, if_neg (Nat.not_le.mpr short)]
  exact follow_names rfl found (by simp) (legal.names found)

theorem Disk.node_selfLink (legal : d.root.LegalNames)
    (found : d.root.find? above = some (.directory entries access))
    (entry : entries.lookup name = some (.link name))
    (passable : d.root.passable (above ++ [name]) = true)
    (short : (Path.ofLocation (above ++ [name])).text.utf8ByteSize < pathLimit) :
    d.node (.ofLocation (above ++ [name])) = .error .tooManyLinks := by
  have named : LegalName name := legal.names ((find?_child found name).trans entry) name (by simp)
  rw [Node.passable_concat found, Bool.and_eq_true] at passable
  have lost : d.place (.ofLocation (above ++ [name])) true = .error .tooManyLinks := by
    rw [place_above legal found name short, if_pos passable.1]
    exact follow_selfLink named found passable.2 entry
  rw [Disk.node, lost]

theorem Disk.node_long (legal : d.root.LegalNames)
    (found : d.root.find? above = some (.directory entries access))
    (passable : d.root.passable above = true) (searchable : access.searchable = true)
    (long : nameLimit < name.utf8ByteSize) :
    d.node (.ofLocation (above ++ [name])) = .error .nameTooLong := by
  have lost : d.place (.ofLocation (above ++ [name])) true = .error .nameTooLong := by
    by_cases short : (Path.ofLocation (above ++ [name])).text.utf8ByteSize < pathLimit
    · rw [place_above legal found name short, if_pos passable]
      exact follow_long found searchable long
    · rw [Disk.place, if_pos (Nat.not_lt.mp short)]
  rw [Disk.node, lost]

theorem Disk.node_denied (legal : d.root.LegalNames)
    (found : d.root.find? above = some (.directory entries access))
    (closed : access.searchable = false) (given : name ≠ "")
    (short : (Path.ofLocation (above ++ [name])).text.utf8ByteSize < pathLimit) :
    d.node (.ofLocation (above ++ [name])) = .error .permissionDenied := by
  have lost : d.place (.ofLocation (above ++ [name])) true = .error .permissionDenied := by
    rw [place_above legal found name short]
    split
    · exact follow_denied found closed given
    · rfl
  rw [Disk.node, lost]

end Follow

section Canonical

theorem Stand.location_below (stand : Stand) (name : String) (current : List String) :
    (stand.below name).location current = stand.location current ++ [name] := by
  obtain ⟨up, names⟩ := stand
  cases up with
  | none => rfl
  | some n => exact (List.append_assoc ..).symm

/-- Nothing is taken away where no double dots are. -/
theorem collapse_eq_self (plain : ".." ∉ names) : collapse names = names := by
  have onward (names done : List String) (plain : ".." ∉ names) :
      names.foldl (fun done name => if name = ".." then done.tail else name :: done) done =
        names.reverse ++ done := by
    induction names generalizing done with
    | nil => rfl
    | cons name rest ih =>
      obtain ⟨differs, later⟩ := not_or.mp (fun member => plain (List.mem_cons.mpr member))
      rw [List.foldl_cons, if_neg (Ne.symm differs), ih _ later]
      simp
  rw [collapse, onward names [] plain, List.append_nil, List.reverse_reverse]

/-- A look-up that comes to something starts in a directory that can be searched. -/
theorem follow_begins {rest : List String} (given : name ≠ "")
    (arrived : follow root last links here (name :: rest) = .ok place) :
    ∃ entries access, root.find? here = some (.directory entries access) ∧
      access.searchable = true := by
  have directory : ∃ entries access, root.find? here = some (.directory entries access) := by
    rw [follow] at arrived
    split at arrived
    · exact ⟨_, _, ‹_›⟩
    · cases arrived
  obtain ⟨entries, access, found⟩ := directory
  cases searchable : access.searchable with
  | true => exact ⟨entries, access, found, searchable⟩
  | false =>
    rw [follow_denied found searchable given] at arrived
    cases arrived

/-- A name at the very end leads to its entry, also to a link, if links are not followed there. -/
theorem follow_last {there : List String}
    (found : root.find? here = some (.directory entries access))
    (searchable : access.searchable = true) (given : name ≠ "") (notDot : name ≠ ".")
    (notUp : name ≠ "..") (arrived : follow root false links here [name] = .ok (.taken there)) :
    there = here ++ [name] := by
  rcases Nat.lt_or_ge nameLimit name.utf8ByteSize with long | short
  · rw [follow_long found searchable long] at arrived
    cases arrived
  · rw [follow_entry found searchable given notDot notUp short, follow] at arrived
    cases entry : entries.lookup name with
    | none =>
      rw [entry] at arrived
      cases arrived
    | some node =>
      rw [entry] at arrived
      cases node with
      | file | link | directory => exact (Place.taken.inj (Except.ok.inj arrived)).symm

/-- Steps up lead up, or the look-up fails. -/
theorem follow_ups {n : Nat} {rest : List String} (arrived :
      follow root last links here (List.replicate n ".." ++ rest) = .ok place) :
    follow root last links (here.take (here.length - n)) rest = .ok place := by
  induction n generalizing here with
  | zero => simpa using arrived
  | succ n ih =>
    rw [List.replicate_succ, List.cons_append] at arrived
    obtain ⟨entries, access, found, searchable⟩ := follow_begins (by decide) arrived
    rw [follow_up found searchable] at arrived
    have shorter := ih arrived
    rw [List.length_dropLast, List.dropLast_eq_take, List.take_take] at shorter
    have same : min (here.length - 1 - n) (here.length - 1) = here.length - (n + 1) := by omega
    rwa [same] at shorter

/-- What is looked up below a place is looked up in the directory there. -/
theorem Stand.follow_below {name : String} (legal : d.root.LegalNames)
    (found : d.root.find? (stand.location d.current) = some (.directory entries access))
    (arrived : follow d.root last links (d.start (stand.below name).path)
      (stand.below name).path.parts = .ok place) :
    follow d.root last links (stand.location d.current) [name] = .ok place := by
  have named := legal.names found
  obtain ⟨up, names⟩ := stand
  -- Names from a directory on the way lead to the place, or the look-up fails on the way.
  have along (here : List String) {node : Node} (start : d.root.find? here = some node)
      (below : node.find? names = some (.directory entries access))
      (legal : ∀ part ∈ names, LegalName part)
      (arrived : follow d.root last links here (names ++ [name]) = .ok place) :
      follow d.root last links (here ++ names) [name] = .ok place := by
    rw [follow_names start below (by simp) legal] at arrived
    split at arrived
    · exact arrived
    · cases arrived
  cases up with
  | none => exact along [] rfl found named arrived
  | some n =>
    have whole : follow d.root last links d.current
        (List.replicate n ".." ++ (names ++ [name])) = .ok place := by
      simpa [Stand.below, Stand.path, Disk.start, Path.isAbsolute] using arrived
    have onward := follow_ups whole
    rw [Stand.location, Node.find?_append] at found
    obtain ⟨node, start, below⟩ := Option.bind_eq_some_iff.mp found
    have legal (part : String) (member : part ∈ names) : LegalName part :=
      named part (List.mem_append_right _ member)
    exact along _ start below legal onward

/-- Only a link that stands in the directory is found there, and only if the directory can be
searched. -/
theorem Disk.linkAt?_below (legal : d.root.LegalNames)
    (found : d.root.find? (stand.location d.current) = some (.directory entries access))
    (notUp : name ≠ "..") (link : d.linkAt? (stand.below name).path = some target) :
    access.searchable = true ∧ entries.lookup name = some (.link target) := by
  obtain ⟨there, placed, here⟩ : ∃ there,
      d.place (stand.below name).path false = .ok (.taken there) ∧
        d.root.find? there = some (.link target) := by
    unfold Disk.linkAt? at link
    split at link
    · rename_i there placed
      split at link
      · cases link
        exact ⟨there, placed, ‹_›⟩
      · cases link
    · cases link
  have last : follow d.root false linkLimit (stand.location d.current) [name] =
      .ok (.taken there) := by
    unfold Disk.place at placed
    split at placed
    · cases placed
    · exact Stand.follow_below legal found placed
  -- A step that stays in the directory comes to no link.
  have given : name ≠ "" := by
    rintro rfl
    rw [follow_slash found, follow] at last
    cases last
    cases found.symm.trans here
  obtain ⟨_, _, found', searchable⟩ := follow_begins given last
  cases found.symm.trans found'
  have notDot : name ≠ "." := by
    rintro rfl
    rw [follow_dot found searchable, follow] at last
    cases last
    cases found.symm.trans here
  obtain rfl := follow_last found searchable given notDot notUp last
  refine ⟨searchable, ?_⟩
  rw [Node.find?_append, found, Option.bind_some, Node.find?_cons] at here
  obtain ⟨leaf, entry, same⟩ := Option.bind_eq_some_iff.mp here
  cases same
  exact entry

/-- Names that lead through directories are worked off one by one, whether they can be searched or
not. -/
theorem canonicalFrom_names (fuel : Nat) (seen : Seen) (rest : List Step)
    (legal : d.root.LegalNames) (start : d.root.find? (stand.location d.current) = some node)
    (found : node.find? names = some (.directory entries access)) :
    canonicalFrom d (fuel + names.length) seen stand (names.map .name ++ rest) =
      canonicalFrom d fuel seen { stand with names := stand.names ++ names } rest := by
  induction names generalizing stand node with
  | nil => simp
  | cons name more ih =>
    rw [Node.find?_cons] at found
    obtain ⟨next, entry, below⟩ := Option.bind_eq_some_iff.mp found
    cases node with
    | file | link => cases entry
    | directory entries' access' =>
      have entry : entries'.lookup name = some next := entry
      have further : d.root.find? ((stand.below name).location d.current) = some next := by
        rw [Stand.location_below]
        exact (find?_child start name).trans entry
      have named : LegalName name :=
        legal.names further name (by rw [Stand.location_below]; simp)
      have unlinked : d.linkAt? (stand.below name).path = none := by
        by_contra some
        obtain ⟨target, link⟩ := Option.ne_none_iff_exists'.mp some
        have entry' := (Disk.linkAt?_below legal start named.notUp link).2
        cases entry.symm.trans entry'
        exact Node.unlinked_above (by simp) below target rfl
      have onward := ih further below
      rw [List.length_cons, ← Nat.add_assoc, List.map_cons, List.cons_append, canonicalFrom,
        if_neg named.notUp]
      dsimp only
      rw [unlinked]
      dsimp only
      rw [onward, Stand.below, List.append_assoc, List.singleton_append]

/-- The place where a path starts. -/
def Path.origin (p : Path) : Stand := ⟨if p.isAbsolute then none else some 0, []⟩

theorem location_origin (d : Disk) (p : Path) (names : List String) :
    ({ p.origin with names } : Stand).location d.current = d.start p ++ names := by
  unfold Path.origin Disk.start
  cases p.isAbsolute <;> simp [Stand.location]

/-- Below its start, a path is looked up under the names of the path. -/
theorem origin_path (d : Disk) (p : Path) (names : List String) :
    ∃ slashes ≤ 1, ({ p.origin with names } : Stand).path = ⟨slashes, names⟩ ∧
      d.start ⟨slashes, names⟩ = d.start p := by
  unfold Path.origin Disk.start
  cases p.isAbsolute with
  | true => exact ⟨1, Nat.le_refl 1, rfl, rfl⟩
  | false => exact ⟨0, Nat.zero_le 1, rfl, rfl⟩

theorem le_canonicalFuel (d : Disk) (p : Path) : p.parts.length + 1 ≤ canonicalFuel d p := by
  have some : 0 < d.current.length + p.parts.length + pathLimit := by
    rw [pathLimit]
    omega
  exact Nat.le_trans (by omega) (Nat.le_mul_of_pos_right _ some)

/-- The directories above the last name of a path are worked off, and steps are left for two more
names. -/
theorem canonical_above (legal : d.root.LegalNames) (parts : p.parts = above ++ [name])
    (found : d.root.find? (d.start p ++ above) = some (.directory entries access)) :
    ∃ fuel, d.canonical p =
      canonicalFrom d (fuel + 2) [] { p.origin with names := above } [.name name] := by
  obtain ⟨node, start, below⟩ : ∃ node, d.root.find? (d.start p) = some node ∧
      node.find? above = some (.directory entries access) := by
    rw [Node.find?_append] at found
    exact Option.bind_eq_some_iff.mp found
  have enough : above.length + 2 ≤ canonicalFuel d p := by
    have le := le_canonicalFuel d p
    rwa [parts, List.length_append] at le
  obtain ⟨fuel, whole⟩ := Nat.exists_eq_add_of_le enough
  have begun : p.origin.location d.current = d.start p := by
    simpa [Path.origin] using location_origin d p []
  rw [← begun] at start
  refine ⟨fuel, ?_⟩
  have onward := canonicalFrom_names (fuel + 2) [] [.name name] legal start below
  have none : p.origin.names ++ above = above := rfl
  rw [none] at onward
  rw [← onward, Disk.canonical, parts, List.map_append, whole, Path.origin]
  congr 1
  omega

theorem canonicalFrom_last (fuel : Nat) (notUp : name ≠ "..")
    (unlinked : d.linkAt? (stand.below name).path = none) :
    canonicalFrom d (fuel + 2) seen stand [.name name] = stand.location d.current ++ [name] := by
  rw [canonicalFrom, if_neg notUp]
  dsimp only
  rw [unlinked]
  dsimp only
  rw [canonicalFrom, Stand.location_below]

theorem canonical_single (parts : p.parts = [name]) (notUp : name ≠ "..")
    (unlinked : d.linkAt? (p.origin.below name).path = none) :
    d.canonical p = d.start p ++ [name] := by
  have enough : 2 ≤ canonicalFuel d p := by
    have le := le_canonicalFuel d p
    rwa [parts] at le
  obtain ⟨fuel, whole⟩ := Nat.exists_eq_add_of_le' enough
  have last : canonicalFrom d (fuel + 2) [] p.origin [.name name] =
      p.origin.location d.current ++ [name] := canonicalFrom_last fuel notUp unlinked
  have begun : p.origin.location d.current = d.start p := by
    simpa [Path.origin] using location_origin d p []
  rw [begun] at last
  rw [Disk.canonical, parts, whole]
  exact last

/-- A last name that is no link stays in the path, and so does one that cannot be looked up. -/
theorem canonical_unlinked (legal : d.root.LegalNames) (parts : p.parts = above ++ [name])
    (found : d.root.find? (d.start p ++ above) = some (.directory entries access))
    (unlinked : access.searchable = true → ∀ target, entries.lookup name ≠ some (.link target))
    (notUp : name ≠ "..") : d.canonical p = d.start p ++ p.parts := by
  obtain ⟨fuel, same⟩ := canonical_above legal parts found
  rw [← location_origin] at found
  have free : d.linkAt? (Stand.below { p.origin with names := above } name).path = none := by
    by_contra some
    obtain ⟨target, link⟩ := Option.ne_none_iff_exists'.mp some
    obtain ⟨searchable, entry⟩ := Disk.linkAt?_below legal found notUp link
    exact unlinked searchable target entry
  rw [same, canonicalFrom_last fuel notUp free, location_origin, parts, List.append_assoc]

/-- A link is found where it stands, if the directories above it can be searched. -/
theorem Disk.linkAt?_origin (legal : d.root.LegalNames)
    (found : d.root.find? (d.start p ++ above) = some (.directory entries access))
    (entry : entries.lookup name = some (.link target))
    (passable : d.root.passable (d.start p ++ above ++ [name]) = true)
    (short : (Path.ofLocation (d.start p ++ above ++ [name])).text.utf8ByteSize < pathLimit) :
    d.linkAt? (Stand.below { p.origin with names := above } name).path = some target := by
  have there := (find?_child found name).trans entry
  obtain ⟨⟨given, notDot, _⟩, notUp, size, _⟩ := legal.names there name (by simp)
  have named : ∀ part ∈ above, LegalName part := fun part member =>
    legal.names found part (List.mem_append_right _ member)
  obtain ⟨node, start, below⟩ : ∃ node, d.root.find? (d.start p) = some node ∧
      node.find? above = some (.directory entries access) := by
    rw [Node.find?_append] at found
    exact Option.bind_eq_some_iff.mp found
  rw [Node.passable_concat found, Node.passable_append, start] at passable
  simp only [Option.all_some, Bool.and_eq_true] at passable
  have last : follow d.root false linkLimit (d.start p ++ above) [name] =
      .ok (.taken (d.start p ++ above ++ [name])) := by
    rw [follow_entry found passable.2 given notDot notUp size, entry]
    rfl
  have placed : d.place (Stand.below { p.origin with names := above } name).path false =
      .ok (.taken (d.start p ++ above ++ [name])) := by
    obtain ⟨slashes, atMost, path, begun⟩ := origin_path d p (above ++ [name])
    have shorter := size_text_le slashes atMost (d.start p) (above ++ [name])
    rw [← List.append_assoc] at shorter
    rw [Stand.below, path, Disk.place, if_neg (by omega), begun,
      follow_names start below (by simp) named, if_pos passable.1.2, last]
  rw [Disk.linkAt?, placed]
  simp only [there]

/-- A link whose target is itself stays in the path. -/
theorem canonical_selfLink (legal : d.root.LegalNames) (parts : p.parts = above ++ [name])
    (found : d.root.find? (d.start p ++ above) = some (.directory entries access))
    (entry : entries.lookup name = some (.link name))
    (passable : d.root.passable (d.start p ++ above ++ [name]) = true)
    (short : (Path.ofLocation (d.start p ++ above ++ [name])).text.utf8ByteSize < pathLimit) :
    d.canonical p = d.start p ++ p.parts := by
  obtain ⟨fuel, same⟩ := canonical_above legal parts found
  have named := legal.names ((find?_child found name).trans entry)
  obtain ⟨proper, notUp, _, _⟩ := named name (by simp)
  have below : (Stand.below { p.origin with names := above } name).location d.current =
      d.start p ++ above ++ [name] := by
    rw [Stand.location_below, location_origin]
  have plain : ".." ∉ d.start p ++ above ++ [name] := fun member => (named _ member).notUp rfl
  have met := Disk.linkAt?_origin legal found entry passable short
  -- The link is met for the first time, its target is itself, and it is met again.
  rw [same, canonicalFrom, if_neg notUp]
  dsimp only
  rw [met]
  dsimp only
  rw [List.lookup_nil, (relative_name proper.2.2).1, if_neg Bool.false_ne_true,
    partsOf_name proper, List.map_singleton, List.singleton_append, canonicalFrom, if_neg notUp]
  dsimp only
  rw [met]
  dsimp only
  rw [List.lookup_cons_self]
  dsimp only
  rw [below, parts, ← List.append_assoc]
  exact (congrArg collapse (List.append_nil _)).trans (collapse_eq_self plain)

end Canonical
end LineBudget.Files
