import SqlBuild.Files.Tree

/-!
# Writing into file trees

Files are listed in a tree and directories need not be, so what a change of one entry does is said
of what stands at each path (`at?_write`). A name leads where the directories let it
(`locate_congr`), and its last part is the last part of the path (`getLast?_of_locate`).
-/

namespace SqlBuild

theorem exists_eq_ok {ε α : Type} {x : Except ε α} (h : x.toBool = true) : ∃ a, x = .ok a := by
  cases x with
  | error e => cases h
  | ok a => exact ⟨a, rfl⟩

namespace FileTree

theorem lookup_filter_ne {p q : Path} (h : q ≠ p) : ∀ entries : List (Path × Node),
    (entries.filter (·.1 ≠ p)).lookup q = entries.lookup q
  | [] => rfl
  | (r, node) :: rest => by
    by_cases hr : r = p
    · subst hr
      rw [List.filter_cons_of_neg (by simp), lookup_filter_ne h rest, List.lookup_cons,
        beq_eq_false_iff_ne.2 h]
    · rw [List.filter_cons_of_pos (by simpa using hr), List.lookup_cons, List.lookup_cons,
        lookup_filter_ne h rest]

theorem lookup_set (tree : FileTree) (p q : Path) (node : Node) :
    (tree.set p node).entries.lookup q = if q = p then some node else tree.entries.lookup q := by
  rw [set, List.lookup_cons]
  by_cases h : q = p
  · rw [if_pos h, h, beq_self_eq_true]
  · rw [if_neg h, beq_eq_false_iff_ne.2 h]
    exact lookup_filter_ne h _

/-- Files stand in the list, directories may be told by what is below them. -/
theorem at?_eq_some_iff {tree : FileTree} {p : Path} {node : Node} (h : node ≠ .directory) :
    tree.at? p = some node ↔ tree.entries.lookup p = some node := by
  unfold at?
  cases hp : tree.entries.lookup p with
  | some found => rfl
  | none =>
    dsimp only
    split
    · exact iff_of_false (fun heq => h (Option.some.inj heq).symm) (by simp)
    · simp

theorem at?_of_lookup {tree : FileTree} {p : Path} {node : Node}
    (h : tree.entries.lookup p = some node) : tree.at? p = some node := by
  rw [at?, h]

theorem at?_of_none {tree : FileTree} {p : Path} (h : tree.entries.lookup p = none) :
    tree.at? p =
      if p = [] ∨ tree.entries.any (fun e => p.isPrefixOf e.1) then some .directory else none := by
  rw [at?, h]

theorem mem_of_lookup {p : Path} {node : Node} {entries : List (Path × Node)}
    (h : entries.lookup p = some node) : (p, node) ∈ entries := by
  obtain ⟨before, after, rfl, -⟩ := List.lookup_eq_some_iff.1 h
  simp

/-- A path is a directory when something is listed below it and nothing at it. -/
theorem at?_of_below {tree : FileTree} {p q : Path} {node : Node} (h : tree.entries.lookup q = none)
    (hp : (p, node) ∈ tree.entries) (hq : q <+: p) : tree.at? q = some .directory := by
  rw [at?_of_none h, if_pos]
  exact .inr (List.any_eq_true.2 ⟨_, hp, List.isPrefixOf_iff_prefix.2 hq⟩)

/-- What is on the way to a directory is one as well, if nothing is listed there. -/
theorem at?_of_prefix {tree : FileTree} {p q : Path} (hp : tree.at? p = some .directory)
    (hq : q <+: p) (h : tree.entries.lookup q = none) : tree.at? q = some .directory := by
  cases hlookup : tree.entries.lookup p with
  | some node => exact at?_of_below h (mem_of_lookup hlookup) hq
  | none =>
    rw [at?_of_none hlookup] at hp
    split at hp
    · rename_i hbelow
      rcases hbelow with rfl | hbelow
      · rw [at?_of_none h, if_pos (.inl (List.prefix_nil.1 hq))]
      · obtain ⟨e, he, hpe⟩ := List.any_eq_true.1 hbelow
        exact at?_of_below h he (hq.trans (List.isPrefixOf_iff_prefix.1 hpe))
    · cases hp

theorem prefix_dropLast {p q : Path} (h : q <+: p) (hne : q ≠ p) : q <+: p.dropLast := by
  obtain ⟨t, rfl⟩ := h
  have ht : t ≠ [] := fun h => hne (by rw [h, List.append_nil])
  rw [List.dropLast_append_of_ne_nil ht]
  exact List.prefix_append _ _

/-- Whether something is listed at a path or below it. -/
def HasBelow (tree : FileTree) (p : Path) : Prop := ∃ e ∈ tree.entries, p <+: e.1

/-- What stands at a path is told by what is listed there and whether something is below it. -/
theorem at?_congr {tree tree' : FileTree} {p : Path}
    (hlookup : tree'.entries.lookup p = tree.entries.lookup p)
    (hbelow : tree.entries.lookup p = none → p ≠ [] → (tree'.HasBelow p ↔ tree.HasBelow p)) :
    tree'.at? p = tree.at? p := by
  cases hfound : tree.entries.lookup p with
  | some found =>
    rw [hfound] at hlookup
    rw [at?_of_lookup hlookup, at?_of_lookup hfound]
  | none =>
    rw [hfound] at hlookup
    rw [at?_of_none hlookup, at?_of_none hfound]
    by_cases hroot : p = []
    · rw [if_pos (.inl hroot), if_pos (.inl hroot)]
    · have hany : ∀ t : FileTree, (t.entries.any fun e => p.isPrefixOf e.1) = true ↔ t.HasBelow p := by
        intro t
        simp only [List.any_eq_true, List.isPrefixOf_iff_prefix, HasBelow]
      have hsame : (tree'.entries.any fun e => p.isPrefixOf e.1) =
          tree.entries.any fun e => p.isPrefixOf e.1 := by
        rw [Bool.eq_iff_iff, hany, hany]
        exact hbelow hfound hroot
      rw [hsame]

/-- A file put into a directory changes what stands at its path and nothing else. -/
theorem at?_set {tree : FileTree} {p : Path} {node : Node}
    (hparent : tree.at? p.dropLast = some .directory) (q : Path) :
    (tree.set p node).at? q = if q = p then some node else tree.at? q := by
  have hlookup := lookup_set tree p q node
  by_cases hq : q = p
  · rw [if_pos hq] at hlookup ⊢
    exact at?_of_lookup hlookup
  · rw [if_neg hq] at hlookup ⊢
    refine at?_congr hlookup fun hnone hroot => ⟨?_, ?_⟩
    · rintro ⟨e, he, hpre⟩
      rcases List.mem_cons.1 he with rfl | he
      · -- The path is on the way to the new file, so something is below it already.
        have hdir := at?_of_prefix hparent (prefix_dropLast hpre hq) hnone
        rw [at?_of_none hnone] at hdir
        split at hdir
        · rename_i hbelow
          obtain ⟨e, he, hpre⟩ := List.any_eq_true.1 (hbelow.resolve_left hroot)
          exact ⟨e, he, List.isPrefixOf_iff_prefix.1 hpre⟩
        · cases hdir
      · exact ⟨e, (List.mem_filter.1 he).1, hpre⟩
    · rintro ⟨e, he, hpre⟩
      by_cases hep : e.1 = p
      · exact ⟨_, List.mem_cons_self, hep ▸ hpre⟩
      · exact ⟨e, List.mem_cons_of_mem _ (List.mem_filter.2 ⟨he, by simpa using hep⟩), hpre⟩

/-- Taking away a file that is not the only entry of its directory changes what stands at its path
and nothing else. -/
theorem at?_erase {tree : FileTree} {p : Path} (hp : p ≠ [])
    (hleaf : ∀ e ∈ tree.entries, p <+: e.1 → e.1 = p)
    (hbeside : ∃ e ∈ tree.entries, e.1 ≠ p ∧ p.dropLast <+: e.1) (q : Path) :
    (tree.erase p).at? q = if q = p then none else tree.at? q := by
  by_cases hq : q = p
  · have hlookup : (tree.erase p).entries.lookup q = none := by
      rw [List.lookup_eq_none_iff]
      intro e he
      have hne : e.1 ≠ p := by simpa using (List.mem_filter.1 he).2
      simpa [hq] using Ne.symm hne
    rw [if_pos hq, at?_of_none hlookup, if_neg]
    rintro (h | h)
    · exact hp (hq ▸ h)
    · obtain ⟨e, he, hqe⟩ := List.any_eq_true.1 h
      obtain ⟨hmem, hne⟩ := List.mem_filter.1 he
      have heq := hleaf e hmem (hq ▸ List.isPrefixOf_iff_prefix.1 hqe)
      simp [heq] at hne
  · rw [if_neg hq]
    refine at?_congr (lookup_filter_ne hq _) fun _ _ => ⟨?_, ?_⟩
    · rintro ⟨e, he, hpre⟩
      exact ⟨e, (List.mem_filter.1 he).1, hpre⟩
    · rintro ⟨e, he, hpre⟩
      by_cases hep : e.1 = p
      · obtain ⟨e', he', hne, hpre'⟩ := hbeside
        have hq' := prefix_dropLast (hep ▸ hpre) hq
        exact ⟨e', List.mem_filter.2 ⟨he', by simpa using hne⟩, hq'.trans hpre'⟩
      · exact ⟨e, List.mem_filter.2 ⟨he, by simpa using hep⟩, hpre⟩

theorem write_eq_ok_iff {tree tree' : FileTree} {name : Text} {content : Bytes} {now : Int} :
    tree.write name content now = .ok tree' ↔ ∃ p, tree.locate name = .ok p ∧
      tree.at? p ≠ some .directory ∧ tree.at? p.dropLast = some .directory ∧
      tree' = tree.set p (.file content now) := by
  unfold write
  cases hp : tree.locate name with
  | error e => simp [bind, Except.bind]
  | ok p =>
    simp only [bind, Except.bind, Except.ok.injEq, exists_eq_left']
    split
    · rename_i hdir
      exact iff_of_false (by simp) fun h => h.1 hdir
    · rename_i hparent hnot
      constructor
      · intro h
        exact ⟨hnot, hparent, (Except.ok.inj h).symm⟩
      · rintro ⟨-, -, rfl⟩
        rfl
    · rename_i node hother hparent _
      refine iff_of_false (by simp) fun h => hother ?_
      exact Option.some.inj (hparent.symm.trans h.2.1)
    · rename_i hparent _
      refine iff_of_false (by simp) fun h => ?_
      exact absurd (hparent.symm.trans h.2.1) (by simp)

/-- Writing a file changes what stands at its path and nothing else. -/
theorem at?_write {tree tree' : FileTree} {name : Text} {content : Bytes} {now : Int}
    (h : tree.write name content now = .ok tree') :
    tree'.workingDirectory = tree.workingDirectory ∧
      ∃ p, tree.locate name = .ok p ∧ tree.at? p ≠ some .directory ∧
        ∀ q, tree'.at? q = if q = p then some (.file content now) else tree.at? q := by
  obtain ⟨p, hp, hnot, hparent, rfl⟩ := write_eq_ok_iff.1 h
  exact ⟨rfl, p, hp, hnot, at?_set hparent⟩

theorem step_eq_ok_iff {tree : FileTree} {p q : Path} {part : Text} :
    tree.step p part = .ok q ↔ tree.at? p = some .directory ∧
      q = if part = [] ∨ part = "." then p else if part = ".." then p.dropLast else p ++ [part] := by
  unfold step
  split
  · rename_i h
    rw [h]
    constructor
    · intro heq
      exact ⟨rfl, (Except.ok.inj heq).symm⟩
    · rintro ⟨-, rfl⟩
      rfl
  · rename_i node hne h
    refine iff_of_false (by simp) fun hd => ?_
    rw [h] at hd
    exact hne (Option.some.inj hd.1)
  · rename_i h
    refine iff_of_false (by simp) fun hd => ?_
    rw [h] at hd
    cases hd.1

section

variable {tree tree' : FileTree}

/-- Where a name leads is told by the directories. -/
theorem foldlM_step_congr (hdir : ∀ p, tree.at? p = some .directory ↔ tree'.at? p = some .directory)
    {q : Path} : ∀ {parts : List Text} {p : Path},
      parts.foldlM tree.step p = .ok q ↔ parts.foldlM tree'.step p = .ok q
  | [], _ => Iff.rfl
  | part :: parts, p => by
    rw [List.foldlM_cons, List.foldlM_cons]
    cases hp : tree.step p part with
    | ok r =>
      have hr := step_eq_ok_iff.1 hp
      have hp' : tree'.step p part = .ok r := step_eq_ok_iff.2 ⟨(hdir p).1 hr.1, hr.2⟩
      rw [hp']
      exact foldlM_step_congr hdir
    | error e =>
      cases hp' : tree'.step p part with
      | ok r =>
        have hr := step_eq_ok_iff.1 hp'
        rw [step_eq_ok_iff.2 ⟨(hdir p).2 hr.1, hr.2⟩] at hp
        cases hp
      | error e' => exact iff_of_false (by simp [bind, Except.bind]) (by simp [bind, Except.bind])

theorem locate_congr (hdir : ∀ p, tree.at? p = some .directory ↔ tree'.at? p = some .directory)
    (hwork : tree'.workingDirectory = tree.workingDirectory) {name : Text} {p : Path} :
    tree.locate name = .ok p ↔ tree'.locate name = .ok p := by
  unfold locate
  rw [hwork]
  split
  · exact Iff.rfl
  · exact foldlM_step_congr hdir

end

theorem find_eq_ok_iff {tree : FileTree} {name : Text} {node : Node} :
    tree.find name = .ok node ↔ ∃ p, tree.locate name = .ok p ∧ tree.at? p = some node := by
  unfold find
  cases hp : tree.locate name with
  | error e => simp [bind, Except.bind]
  | ok p =>
    simp only [bind, Except.bind]
    cases hn : tree.at? p with
    | none => simp [hn]
    | some found => simp [hn]

theorem directories_of_write {tree tree' : FileTree} {name : Text} {content : Bytes} {now : Int}
    (h : tree.write name content now = .ok tree') (q : Path) :
    tree.at? q = some .directory ↔ tree'.at? q = some .directory := by
  obtain ⟨-, p, -, hnot, hat⟩ := at?_write h
  rw [hat]
  split
  · rename_i hq
    subst hq
    exact iff_of_false hnot (by simp)
  · exact Iff.rfl

/-- What is found once a file has been written. -/
theorem find_of_write {tree tree' : FileTree} {name : Text} {content : Bytes} {now : Int}
    (h : tree.write name content now = .ok tree') :
    ∃ p, tree.locate name = .ok p ∧ ∀ name' node, tree'.find name' = .ok node ↔
      ∃ q, tree.locate name' = .ok q ∧
        (if q = p then some (.file content now) else tree.at? q) = some node := by
  obtain ⟨hwork, p, hp, -, hat⟩ := at?_write h
  refine ⟨p, hp, fun name' node => ?_⟩
  simp only [find_eq_ok_iff, hat, ← locate_congr (directories_of_write h) hwork]

theorem find_written {tree tree' : FileTree} {name : Text} {content : Bytes} {now : Int}
    (h : tree.write name content now = .ok tree') : tree'.find name = .ok (.file content now) := by
  obtain ⟨p, hp, hfind⟩ := find_of_write h
  exact (hfind name _).2 ⟨p, hp, if_pos rfl⟩

/-- A file that has been written can be written again. -/
theorem exists_write_of_write {tree tree' : FileTree} {name : Text} {content : Bytes} {now : Int}
    (h : tree.write name content now = .ok tree') (content' : Bytes) (now' : Int) :
    ∃ tree'', tree'.write name content' now' = .ok tree'' := by
  obtain ⟨p, hp, hnot, hparent, -⟩ := write_eq_ok_iff.1 h
  have hdir := directories_of_write h
  obtain ⟨hwork, -⟩ := at?_write h
  exact ⟨_, write_eq_ok_iff.2 ⟨p, (locate_congr hdir hwork).1 hp, fun hp' => hnot ((hdir p).2 hp'),
    (hdir _).1 hparent, rfl⟩⟩

theorem isFile_iff {tree : FileTree} {name : Text} :
    tree.isFile name = true ↔ ∃ node, tree.find name = .ok node ∧ node ≠ .directory := by
  unfold isFile
  cases hn : tree.find name with
  | error e => simp
  | ok node => cases node <;> simp

theorem isFile_of_readLossy {tree : FileTree} {name content : Text}
    (h : tree.readLossy name = .ok content) : tree.isFile name = true := by
  unfold readLossy read at h
  cases hn : tree.find name with
  | error e =>
    rw [hn] at h
    cases h
  | ok node =>
    rw [hn] at h
    cases node with
    | directory => cases h
    | file => exact isFile_iff.2 ⟨_, hn, by simp⟩
    | failing => cases h

/-- The parts of a name that go down. -/
def downward (parts : List Text) : List Text := parts.filter fun part => part ≠ [] ∧ part ≠ "."

/-- The parts of a file's name in a directory: those of the directory, and the file. -/
theorem splitOn_join (directory : Text) {file : Text} (hfile : '/' ∉ file) :
    ∃ parts, (Path.join directory file).splitOn '/' = parts ++ [file] ∧
      parts ⊆ directory.splitOn '/' ∧ downward parts = downward (directory.splitOn '/') := by
  have hsplit : ∀ d : Text, (d ++ '/' :: file).splitOn '/' = d.splitOn '/' ++ [file] := by
    intro d
    rw [List.splitOn_append_cons_self, List.splitOn_eq_singleton hfile]
  unfold Path.join
  split
  · rename_i hs
    obtain ⟨t, ht⟩ := List.isPrefixOf_iff_prefix.1 hs
    exact absurd (by rw [← ht]; exact List.mem_cons_self) hfile
  · split
    · rename_i hd
      rcases hd with rfl | hd
      · exact ⟨[], List.splitOn_eq_singleton hfile, List.nil_subset _, rfl⟩
      · obtain ⟨d, rfl⟩ := List.isSuffixOf_iff_suffix.1 hd
        have hparts : (d ++ "/".toList).splitOn '/' = d.splitOn '/' ++ [[]] :=
          List.splitOn_append_cons_self ..
        refine ⟨d.splitOn '/', ?_, ?_, ?_⟩
        · rw [List.append_assoc]
          exact hsplit d
        · rw [hparts]
          exact List.subset_append_left _ _
        · rw [hparts, downward, downward, List.filter_append]
          simp
    · refine ⟨directory.splitOn '/', ?_, List.Subset.refl _, rfl⟩
      rw [List.append_assoc]
      exact hsplit directory

/-- The last part of a name that goes down is the last part of its path. -/
theorem getLast?_of_locate {tree : FileTree} {directory file : Text} {p : Path}
    (hfile : '/' ∉ file) (hne : file ≠ [] ∧ file ≠ "." ∧ file ≠ "..")
    (h : tree.locate (Path.join directory file) = .ok p) : p.getLast? = some file := by
  obtain ⟨parts, hparts, -⟩ := splitOn_join directory hfile
  unfold locate at h
  split at h
  · cases h
  · rw [hparts, List.foldlM_append] at h
    cases hq : parts.foldlM tree.step
        (if Text.startsWith (Path.join directory file) "/" then [] else tree.workingDirectory) with
    | error e =>
      rw [hq] at h
      cases h
    | ok q =>
      rw [hq] at h
      have hstep : tree.step q file >>= pure = .ok p := h
      rw [bind_pure] at hstep
      obtain ⟨-, rfl⟩ := step_eq_ok_iff.1 hstep
      have hstay : ¬ (file = [] ∨ file = ".") := fun hor => hor.elim hne.1 hne.2.1
      rw [if_neg hstay, if_neg hne.2.2]
      simp

/-- Making directories touches no file. -/
theorem file_of_makeFrom {tree' : FileTree} {q : Path} {node : Node} (hnode : node ≠ .directory) :
    ∀ {parts : List Text} {tree : FileTree} {p : Path}, tree.makeFrom p parts = .ok tree' →
      tree'.at? q = some node → tree.at? q = some node
  | [], tree, p, h, hq => by
    obtain rfl := Except.ok.inj h
    exact hq
  | part :: rest, tree, p, h, hq => by
    unfold makeFrom at h
    split at h
    · exact file_of_makeFrom hnode h hq
    · split at h
      · have hset := file_of_makeFrom hnode h hq
        rw [at?_eq_some_iff hnode, lookup_set] at hset
        split at hset
        · exact absurd (Option.some.inj hset).symm hnode
        · exact (at?_eq_some_iff hnode).2 hset
      · exact file_of_makeFrom hnode h hq
      · cases h

end FileTree

end SqlBuild
