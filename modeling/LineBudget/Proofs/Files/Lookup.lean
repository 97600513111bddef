import LineBudget.Files.Canonical
import LineBudget.Proofs.Files.Archive
import Mathlib.Data.List.Basic

/-! Look-ups below a place that was reached: the names of a tree lead to what the tree has under
them, as long as no link stands at the end. -/
namespace LineBudget.Files

/-- A name that the entries of a directory can have. -/
structure LegalName (name : String) : Prop where
  proper : ProperName name
  notUp : name ≠ ".."
  short : name.utf8ByteSize ≤ nameLimit
  clean : '\x00' ∉ name.toList

instance (name : String) : Decidable (LegalName name) :=
  decidable_of_iff (ProperName name ∧ name ≠ ".." ∧ name.utf8ByteSize ≤ nameLimit ∧
    '\x00' ∉ name.toList)
    ⟨fun ⟨proper, notUp, short, clean⟩ => ⟨proper, notUp, short, clean⟩,
      fun ⟨proper, notUp, short, clean⟩ => ⟨proper, notUp, short, clean⟩⟩

/-- Every entry has such a name. -/
def Node.LegalNames : Node → Prop := Node.Throughout fun entries => ∀ e ∈ entries, LegalName e.1

theorem Node.LegalNames.names {node leaf : Node} {names : List String} (legal : node.LegalNames)
    (found : node.find? names = some leaf) : ∀ part ∈ names, LegalName part := by
  induction names generalizing node with
  | nil => simp
  | cons name rest ih =>
    rw [find?_cons] at found
    obtain ⟨next, entry, below⟩ := Option.bind_eq_some_iff.mp found
    have member := mem_of_lookup entry
    obtain ⟨here, inside⟩ := legal.start (by simp)
    exact List.forall_mem_cons.mpr ⟨here _ member, ih (inside _ member) below⟩

/-- In a directory without directories, nothing stands below an entry. -/
theorem Node.find?_flat {entries : List (String × Node)} {access : Access} {names : List String}
    {leaf : Node} (flat : ∀ e ∈ entries, e.2.isDirectory = false) (nonempty : names ≠ [])
    (found : (directory entries access).find? names = some leaf) :
    ∃ e ∈ entries, names = [e.1] ∧ leaf = e.2 := by
  obtain ⟨name, rest, rfl⟩ := List.exists_cons_of_ne_nil nonempty
  rw [find?_cons] at found
  obtain ⟨node, entry, below⟩ := Option.bind_eq_some_iff.mp found
  have member := mem_of_lookup entry
  cases rest with
  | nil => exact ⟨_, member, rfl, (Option.some.inj below).symm⟩
  | cons next others =>
    rw [find?_eq_none (flat _ member)] at below
    cases below

section Text
variable {names : List String}

theorem pieces_intercalate (nonempty : names ≠ []) (plain : ∀ part ∈ names, '/' ∉ part.toList) :
    Text.pieces '/' ("/".intercalate names).toList = names.map String.toList := by
  induction names with
  | nil => exact absurd rfl nonempty
  | cons name more ih =>
    obtain ⟨here, later⟩ := List.forall_mem_cons.mp plain
    cases more with
    | nil => rw [String.intercalate_singleton, Text.pieces_plain here, List.map_singleton]
    | cons next others =>
      rw [String.intercalate_cons_cons, String.toList_append, String.toList_append,
        List.append_assoc]
      have slash : "/".toList = ['/'] := rfl
      rw [slash, List.singleton_append, Text.pieces_append here, ih (by simp) later]
      rfl

theorem text_location (names : List String) :
    (Path.ofLocation names).text.toList = '/' :: ("/".intercalate names).toList := by
  simp [Path.text, Path.ofLocation, String.pushn, Nat.repeat]

/-- A location is read back from its text. -/
theorem ofText_location (nonempty : names ≠ []) (proper : ∀ part ∈ names, ProperName part) :
    Path.ofText (Path.ofLocation names).text = Path.ofLocation names := by
  have plain : ∀ part ∈ names, '/' ∉ part.toList := fun part member => (proper part member).2.2
  have letters := text_location names
  have parts : Path.partsOf (Path.ofLocation names).text = names := by
    have all : (names.map String.toList).map String.ofList = names := by simp [Function.comp_def]
    have kept (part : String) (member : part ∈ names) : part ≠ "" ∧ part ≠ "." :=
      ⟨(proper part member).1, (proper part member).2.1⟩
    rw [Path.partsOf, letters, Text.pieces, if_pos rfl, pieces_intercalate nonempty plain,
      List.map_cons, all, List.filter_cons_of_neg (by simp)]
    exact List.filter_eq_self.mpr (by simpa using kept)
  have slashes : Path.leadingSlashes (Path.ofLocation names).text = 1 := by
    obtain ⟨name, more, rfl⟩ := List.exists_cons_of_ne_nil nonempty
    have given : name.toList ≠ [] := by
      simpa using (proper name (List.mem_cons_self ..)).1
    obtain ⟨c, others, spelled⟩ := List.exists_cons_of_ne_nil given
    have other : c ≠ '/' := by
      rintro rfl
      exact plain name (List.mem_cons_self ..) (by simp [spelled])
    have first : ("/".intercalate (name :: more)).toList.takeWhile (· = '/') = [] := by
      cases more <;> simp [String.intercalate_cons_cons, spelled, other]
    rw [Path.leadingSlashes, letters, List.takeWhile_cons_of_pos (by simp), first]
    rfl
  rw [Path.ofText, parts, slashes, Path.ofLocation]

end Text

section Follow
variable {root node next leaf : Node} {entries : List (String × Node)} {access : Access}
  {last : Bool} {links : Nat} {name target : String}
  {here there above below names steps rest : List String}

theorem Node.find?_append (node : Node) (above below : List String) :
    node.find? (above ++ below) = (node.find? above).bind (·.find? below) := by
  induction above generalizing node with
  | nil => rfl
  | cons name rest ih =>
    rw [List.cons_append, find?_cons, find?_cons, Option.bind_assoc]
    cases node.entries.lookup name with
    | none => rfl
    | some next => exact ih next

/-- Whether the directories on the way along names can be searched. -/
def Node.passable (node : Node) : List String → Bool
  | [] => true
  | name :: rest => node.access.searchable && (node.entries.lookup name).all (passable · rest)

theorem Node.passable_single (node : Node) (name : String) :
    node.passable [name] = node.access.searchable := by
  rw [passable]
  cases node.entries.lookup name <;> simp [passable]

theorem Node.passable_append (node : Node) (above below : List String) :
    node.passable (above ++ below) =
      (node.passable above && (node.find? above).all (·.passable below)) := by
  induction above generalizing node with
  | nil => simp [passable, find?]
  | cons name rest ih =>
    rw [List.cons_append, passable, passable, find?_cons, Bool.and_assoc]
    cases node.entries.lookup name with
    | none => simp
    | some next => simp [ih]

theorem follow_slash (found : root.find? here = some (.directory entries access)) :
    follow root last links here ("" :: rest) = follow root last links here rest := by
  rw [follow, found]
  simp only [if_true]

/-- In a directory that cannot be searched, no step but the empty one is made. -/
theorem follow_denied (found : root.find? here = some (.directory entries access))
    (closed : access.searchable = false) (given : name ≠ "") :
    follow root last links here (name :: rest) = .error .permissionDenied := by
  rw [follow, found]
  simp only [if_neg given, closed, Bool.not_false, if_true]

section Searchable
variable (found : root.find? here = some (.directory entries access))
  (searchable : access.searchable = true)
include found searchable

theorem follow_dot :
    follow root last links here ("." :: rest) = follow root last links here rest := by
  have given : "." ≠ "" := by decide
  rw [follow, found]
  simp only [if_neg given, searchable, Bool.not_true, Bool.false_eq_true, if_false, if_true]

theorem follow_up :
    follow root last links here (".." :: rest) = follow root last links here.dropLast rest := by
  have given : ".." ≠ "" := by decide
  have notDot : ".." ≠ "." := by decide
  rw [follow, found]
  simp only [if_neg given, searchable, Bool.not_true, Bool.false_eq_true, if_false, if_true,
    if_neg notDot]

theorem follow_long (long : nameLimit < name.utf8ByteSize) :
    follow root last links here (name :: rest) = .error .nameTooLong := by
  have differs (other : String) (size : other.utf8ByteSize ≤ nameLimit) : name ≠ other := by
    rintro rfl
    exact absurd long (Nat.not_lt.mpr size)
  rw [follow, found]
  simp only [if_neg (differs "" (by decide)), searchable, Bool.not_true, Bool.false_eq_true,
    if_false, if_neg (differs "." (by decide)), if_neg (differs ".." (by decide)), if_pos long]

variable (given : name ≠ "") (notDot : name ≠ ".") (notUp : name ≠ "..")
  (short : name.utf8ByteSize ≤ nameLimit)
include given notDot notUp short

/-- Where a name leads hangs on the entry of the directory alone. -/
theorem follow_entry : follow root last links here (name :: rest) =
    match entries.lookup name with
    | none => if rest.isEmpty then .ok (.vacant (here ++ [name])) else .error .notFound
    | some (.link target) =>
      if rest.isEmpty && !last then .ok (.taken (here ++ [name]))
      else match links with
        | 0 => .error .tooManyLinks
        | links + 1 => follow root last links (if target.startsWith "/" then [] else here)
            (linkSteps target ++ rest)
    | some _ => follow root last links (here ++ [name]) rest := by
  rw [follow, found]
  simp only [if_neg given, searchable, Bool.not_true, Bool.false_eq_true, if_false, if_neg notDot,
    if_neg notUp]
  exact if_neg (Nat.not_lt.mpr short)

/-- A name leads to its entry, unless that is a link. -/
theorem follow_name (entry : entries.lookup name = some node)
    (plain : ∀ target, node ≠ .link target) :
    follow root last links here (name :: rest) = follow root last links (here ++ [name]) rest := by
  rw [follow_entry found searchable given notDot notUp short, entry]
  cases node with
  | file | directory => rfl
  | link target => exact absurd rfl (plain target)

/-- A link leads on to its target, which is followed before the rest. -/
theorem follow_link (entry : entries.lookup name = some (.link target)) :
    follow root true (links + 1) here (name :: rest) =
      follow root true links (if target.startsWith "/" then [] else here)
        (linkSteps target ++ rest) := by
  rw [follow_entry found searchable given notDot notUp short, entry]
  simp only [Bool.not_true, Bool.and_false, Bool.false_eq_true, if_false]

end Searchable

/-- A walk that arrived goes on from where it arrived, with the links that are left. -/
theorem follow_append (arrived : follow root true links here steps = .ok (.taken there)) :
    ∃ left ≤ links, ∀ more,
      follow root true links here (steps ++ more) = follow root true left there more := by
  fun_induction follow root true links here steps with
  | case1 links here =>
    cases arrived
    exact ⟨links, Nat.le_refl _, fun _ => rfl⟩
  | case2 links here rest entries access found ih =>
    obtain ⟨left, bound, onward⟩ := ih arrived
    exact ⟨left, bound, fun more => (follow_slash found).trans (onward more)⟩
  | case4 links here rest entries access found searchable _ ih =>
    obtain ⟨left, bound, onward⟩ := ih arrived
    refine ⟨left, bound, fun more => ?_⟩
    rw [List.cons_append, follow_dot found (by simpa using searchable)]
    exact onward more
  | case5 links here rest entries access found searchable _ _ ih =>
    obtain ⟨left, bound, onward⟩ := ih arrived
    refine ⟨left, bound, fun more => ?_⟩
    rw [List.cons_append, follow_up found (by simpa using searchable)]
    exact onward more
  | case3 | case6 | case7 | case8 | case10 | case13 => cases arrived
  -- A link at the very end is followed.
  | case9 _ _ _ rest _ _ _ _ _ _ _ _ _ _ unfollowed => simp at unfollowed
  | case11 here name rest entries access found given searchable notDot notUp short target entry _
      links ih =>
    obtain ⟨left, bound, onward⟩ := ih arrived
    refine ⟨left, by omega, fun more => ?_⟩
    rw [List.cons_append, follow_link found (by simpa using searchable) given notDot notUp
      (Nat.not_lt.mp short) entry, ← List.append_assoc]
    exact onward more
  | case12 links here name rest entries access found given searchable notDot notUp short node plain
      entry ih =>
    obtain ⟨left, bound, onward⟩ := ih arrived
    refine ⟨left, bound, fun more => ?_⟩
    exact (follow_name found (by simpa using searchable) given notDot notUp (Nat.not_lt.mp short)
      entry plain).trans (onward more)

/-- In the tree itself nothing stands below a link: only what is found last could be one. -/
theorem Node.unlinked_above (plain : ∀ target, leaf ≠ .link target)
    (found : node.find? names = some leaf) (target : String) : node ≠ .link target := by
  rintro rfl
  cases names with
  | nil => exact plain target (Option.some.inj found).symm
  | cons => cases found

theorem find?_child (found : root.find? here = some (.directory entries access)) (name : String) :
    root.find? (here ++ [name]) = entries.lookup name := by
  rw [Node.find?_append, found, Option.bind_some, Node.find?_cons, Node.entries]
  cases entries.lookup name <;> rfl

/-- Names below a directory are worked off one by one, where no link is on the way: they lead to
what the tree has there, if all directories above it can be searched. -/
theorem follow_names (start : root.find? here = some node) (found : node.find? names = some leaf)
    (plain : ∀ target, leaf ≠ .link target) (legal : ∀ part ∈ names, LegalName part) :
    follow root last links here (names ++ rest) =
      if node.passable names then follow root last links (here ++ names) rest
      else .error .permissionDenied := by
  induction names generalizing here node with
  | nil => simp [Node.passable]
  | cons name more ih =>
    obtain ⟨⟨⟨given, notDot, _⟩, notUp, short, _⟩, later⟩ := List.forall_mem_cons.mp legal
    rw [Node.find?_cons] at found
    obtain ⟨next, entry, below⟩ := Option.bind_eq_some_iff.mp found
    cases node with
    | file | link => cases entry
    | directory entries access =>
      have entry : entries.lookup name = some next := entry
      rw [Node.passable, Node.access, Node.entries, entry, List.cons_append]
      cases searchable : access.searchable with
      | false =>
        rw [follow_denied start searchable given]
        rfl
      | true =>
        rw [follow_name start searchable given notDot notUp short entry
          (Node.unlinked_above plain below), ih ((find?_child start name).trans entry) below later,
          List.append_assoc, List.singleton_append]
        rfl

theorem follow_passable (start : root.find? here = some node) (found : node.find? names = some leaf)
    (plain : ∀ target, leaf ≠ .link target) (legal : ∀ part ∈ names, LegalName part)
    (passable : node.passable names = true) :
    follow root last links here names = .ok (.taken (here ++ names)) := by
  have whole : follow root last links here (names ++ []) =
      follow root last links (here ++ names) [] :=
    (follow_names start found plain legal).trans (if_pos passable)
  rwa [List.append_nil, follow] at whole

end Follow

/-- A path leads to what the tree has under its names from where it starts. -/
theorem Disk.node_names {d : Disk} {p : Path} {node leaf : Node}
    (start : d.root.find? (d.start p) = some node) (found : node.find? p.parts = some leaf)
    (plain : ∀ target, leaf ≠ .link target) (legal : ∀ part ∈ p.parts, LegalName part)
    (passable : node.passable p.parts = true) (short : p.text.utf8ByteSize < pathLimit) :
    d.node p = .ok leaf := by
  have there : d.place p true = .ok (.taken (d.start p ++ p.parts)) := by
    rw [Disk.place, if_neg (Nat.not_le.mpr short)]
    exact follow_passable start found plain legal passable
  rw [Disk.node, there]
  simp [Node.find?_append, start, found]

theorem Disk.node_missing {d : Disk} {p : Path} {name : String} {entries : List (String × Node)}
    {access : Access} (start : d.root.find? (d.start p) = some (.directory entries access))
    (searchable : access.searchable = true) (parts : p.parts = [name]) (legal : LegalName name)
    (missing : entries.lookup name = none) (short : p.text.utf8ByteSize < pathLimit) :
    d.node p = .error .notFound := by
  obtain ⟨⟨given, notDot, _⟩, notUp, size, _⟩ := legal
  have free : d.place p true = .ok (.vacant (d.start p ++ [name])) := by
    rw [Disk.place, if_neg (Nat.not_le.mpr short), parts,
      follow_entry start searchable given notDot notUp size, missing]
    rfl
  rw [Disk.node, free]

/-- Below a place that a path leads to, longer paths lead to what the tree has there. -/
theorem Disk.node_append {d : Disk} {location names : List String} {node leaf : Node}
    (reached : d.node (.ofLocation location) = .ok node) (found : node.find? names = some leaf)
    (plain : ∀ target, leaf ≠ .link target) (legal : ∀ part ∈ names, LegalName part)
    (passable : node.passable names = true)
    (short : ((Path.ofLocation location).append names).text.utf8ByteSize < pathLimit) :
    d.node ((Path.ofLocation location).append names) = .ok leaf := by
  obtain ⟨there, arrived, here⟩ : ∃ there,
      follow d.root true linkLimit [] location = .ok (.taken there) ∧
        d.root.find? there = some node := by
    have begun : d.start (.ofLocation location) = [] := rfl
    simp only [Disk.node, Disk.place, begun] at reached
    split at reached
    · cases reached
    · cases reached
    · rename_i there arrived
      split at arrived
      · cases arrived
      · split at reached
        · cases reached
          exact ⟨there, arrived, ‹_›⟩
        · cases reached
  obtain ⟨left, _, onward⟩ := follow_append arrived
  have whole := (onward names).trans (follow_passable here found plain legal passable)
  have there : d.place ((Path.ofLocation location).append names) true =
      .ok (.taken (there ++ names)) := by
    rw [Disk.place, if_neg (Nat.not_le.mpr short)]
    exact whole
  rw [Disk.node, there]
  simp [Node.find?_append, here, found]

theorem Disk.hasNul_append {p : Path} {names : List String} (clean : hasNul p = false)
    (legal : ∀ part ∈ names, LegalName part) : hasNul (p.append names) = false := by
  simp only [hasNul, Path.contains, Path.append, List.any_append, Bool.or_eq_false_iff]
  refine ⟨clean, ?_⟩
  rw [List.any_eq_false]
  intro part member
  simpa using (legal part member).clean

theorem Disk.read_eq_ok {d : Disk} {p : Path} {content : List UInt8} (clean : hasNul p = false) :
    d.read p = .ok content ↔ d.node p = .ok (.file content true) := by
  rw [Disk.read, clean]
  cases found : d.node p with
  | error reason => simp
  | ok node =>
    cases node with
    | file octets readable => cases readable <;> simp
    | directory entries access =>
      obtain ⟨listable, _⟩ := access
      cases listable <;> simp
    | link target => simp

section Canonical
variable {d : Disk} {P : String → Prop}

theorem mem_collapse {part : String} {names : List String} (member : part ∈ collapse names) :
    part ∈ names := by
  have onward (names done : List String) (inside : part ∈ names.foldl
      (fun done name => if name = ".." then done.tail else name :: done) done) :
      part ∈ done ∨ part ∈ names := by
    induction names generalizing done with
    | nil => exact .inl inside
    | cons name rest ih =>
      rcases ih _ inside with before | later
      · dsimp only at before
        split at before
        · exact .inl (List.mem_of_mem_tail before)
        · rcases List.mem_cons.mp before with rfl | before
          · exact .inr (List.mem_cons_self ..)
          · exact .inl before
      · exact .inr (List.mem_cons_of_mem _ later)
  exact (onward names [] (List.mem_reverse.mp member)).resolve_left List.not_mem_nil

theorem Stand.location_all {current : List String} {here : Stand} (base : ∀ part ∈ current, P part)
    (names : ∀ part ∈ here.names, P part) : ∀ part ∈ here.location current, P part := by
  intro part member
  unfold Stand.location at member
  split at member
  · exact names part member
  · rcases List.mem_append.mp member with before | below
    · exact base part (List.mem_of_mem_take before)
    · exact names part below

theorem Stand.above_all {here : Stand} (names : ∀ part ∈ here.names, P part) :
    ∀ part ∈ here.above.names, P part := by
  intro part member
  unfold Stand.above at member
  split at member
  · cases member
  · exact names part ((List.dropLast_sublist _).mem member)

theorem Stand.below_all {here : Stand} {name : String} (names : ∀ part ∈ here.names, P part)
    (named : P name) : ∀ part ∈ (here.below name).names, P part := by
  intro part member
  rcases List.mem_append.mp member with before | here
  · exact names part before
  · exact List.mem_singleton.mp here ▸ named

/-- A canonical path is made of names of the path, of targets of links, and of the current
directory. -/
theorem canonicalFrom_all {fuel : Nat} {seen : Seen} {here : Stand} {steps : List Step}
    (base : ∀ part ∈ d.current, P part) (targets : ∀ text, ∀ part ∈ Path.partsOf text, P part)
    (known : ∀ link stand, (link, some stand) ∈ seen → ∀ part ∈ stand.names, P part)
    (names : ∀ part ∈ here.names, P part) (ahead : ∀ part ∈ Step.names steps, P part) :
    ∀ part ∈ canonicalFrom d fuel seen here steps, P part := by
  fun_induction canonicalFrom d fuel seen here steps with
  | case1 => exact Stand.location_all base names
  | case2 seen here steps =>
    intro part member
    rcases List.mem_append.mp (mem_collapse member) with before | later
    · exact Stand.location_all base names part before
    · exact ahead part later
  | case3 seen here fuel link rest ih =>
    refine ih (fun other stand member => ?_) names ahead
    rcases List.mem_cons.mp member with same | before
    · cases same
      exact names
    · exact known other stand before
  | case4 seen here fuel rest ih =>
    exact ih known (Stand.above_all names) (List.forall_mem_cons.mp ahead).2
  | case5 seen here fuel name rest _ next target _ stand found ih =>
    obtain ⟨before, after, rfl, _⟩ := List.lookup_eq_some_iff.mp found
    exact ih known (known next stand (by simp)) (List.forall_mem_cons.mp ahead).2
  | case6 seen here fuel name rest _ next target =>
    obtain ⟨named, later⟩ := List.forall_mem_cons.mp ahead
    intro part member
    rcases List.mem_append.mp (mem_collapse member) with before | behind
    · exact Stand.location_all base (Stand.below_all names named) part before
    · exact later part behind
  -- The only names that are new come from the target of a link that is met first here.
  | case7 seen here fuel name rest _ next target _ _ ih =>
    refine ih (fun other stand member => ?_) ?_ ?_
    · rcases List.mem_cons.mp member with same | before
      · cases same
      · exact known other stand before
    · split
      · exact fun part member => absurd member List.not_mem_nil
      · exact names
    · intro part member
      rw [Step.names, List.filterMap_append] at member
      rcases List.mem_append.mp member with inTarget | later
      · exact targets target part (by simpa [List.filterMap_map] using inTarget)
      · exact (List.forall_mem_cons.mp ahead).2 part later
  | case8 seen here fuel name rest _ next _ ih =>
    obtain ⟨named, later⟩ := List.forall_mem_cons.mp ahead
    exact ih known (Stand.below_all names named) later

theorem canonical_proper {text : String} (current : ∀ part ∈ d.current, ProperName part) :
    ∀ part ∈ d.canonical (Path.ofText text), ProperName part := by
  have ahead : Step.names ((Path.ofText text).parts.map .name) = Path.partsOf text := by
    simp [Step.names, List.filterMap_map, Path.ofText]
  refine canonicalFrom_all current partsOf_proper (by simp) (by simp) ?_
  rw [ahead]
  exact partsOf_proper text

/-- A path below a canonical one is read back from its text. -/
theorem ofText_below {text : String} {names : List String}
    (current : ∀ part ∈ d.current, ProperName part) (nonempty : names ≠ [])
    (proper : ∀ part ∈ names, ProperName part) :
    Path.ofText ((Path.ofLocation (d.canonical (Path.ofText text))).append names).text =
      (Path.ofLocation (d.canonical (Path.ofText text))).append names := by
  refine ofText_location (by simp [nonempty]) fun part member => ?_
  rcases List.mem_append.mp member with above | below
  · exact canonical_proper current part above
  · exact proper part below

end Canonical
end LineBudget.Files
