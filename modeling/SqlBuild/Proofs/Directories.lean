import SqlBuild.Proofs.FileTrees
import SqlBuild.Proofs.Words

/-!
# Making directories

Making a directory brings the directories on the way to it and changes nothing else (`Extends`). A
name without `..` goes straight down, so where it leads is read off it (`locate_join`); what is
found in the directory of such a name is the same before and after that directory is made
(`Extends.find_join`). The parts of a path are names again and can be told from the name of the
path, so a file has one identity for itself (`find_congr_of_identity`).
-/

namespace SqlBuild

namespace FileTree

variable {tree tree' : FileTree}

/-- What is on the way to something is there. -/
theorem at?_ne_none_above {p q : Path} (hp : tree.at? p ≠ none) (hq : q <+: p) :
    tree.at? q ≠ none := by
  intro hnone
  cases hlookup : tree.entries.lookup q with
  | some node =>
    rw [at?_of_lookup hlookup] at hnone
    cases hnone
  | none =>
    cases hfound : tree.entries.lookup p with
    | some node =>
      rw [at?_of_below hlookup (mem_of_lookup hfound) hq] at hnone
      cases hnone
    | none =>
      rw [at?_of_none hfound] at hp
      split at hp
      · rename_i hbelow
        have hdir : tree.at? p = some .directory := by rw [at?_of_none hfound, if_pos hbelow]
        have habove := at?_of_prefix hdir hq hlookup
        rw [habove] at hnone
        cases hnone
      · exact hp rfl

/-- A directory that is made brings itself and the directories on the way to it. -/
theorem at?_set_directory {p : Path} (hp : tree.at? p = none) (q : Path) :
    (tree.set p .directory).at? q = tree.at? q ∨
      (tree.at? q = none ∧ (tree.set p .directory).at? q = some .directory ∧ q <+: p) := by
  have hlookup := lookup_set tree p q .directory
  by_cases hq : q = p
  · subst hq
    rw [if_pos rfl] at hlookup
    exact .inr ⟨hp, at?_of_lookup hlookup, List.prefix_refl q⟩
  rw [if_neg hq] at hlookup
  by_cases hpre : q <+: p
  · cases hfound : tree.entries.lookup q with
    | some node =>
      rw [hfound] at hlookup
      exact .inl ((at?_of_lookup hlookup).trans (at?_of_lookup hfound).symm)
    | none =>
      rw [hfound] at hlookup
      have hnew : (tree.set p .directory).at? q = some .directory :=
        at?_of_below hlookup List.mem_cons_self hpre
      rw [hnew, at?_of_none hfound]
      split
      · exact .inl rfl
      · exact .inr ⟨rfl, rfl, hpre⟩
  · refine .inl (at?_congr hlookup fun _ _ => ⟨?_, ?_⟩)
    · rintro ⟨e, he, hqe⟩
      rcases List.mem_cons.1 he with rfl | he
      · exact absurd hqe hpre
      · exact ⟨e, (List.mem_filter.1 he).1, hqe⟩
    · rintro ⟨e, he, hqe⟩
      have hne : e.1 ≠ p := fun heq => hpre (heq ▸ hqe)
      exact ⟨e, List.mem_cons_of_mem _ (List.mem_filter.2 ⟨he, by simpa using hne⟩), hqe⟩

/-- Only directories on the way to `p` are new. -/
structure Extends (tree tree' : FileTree) (p : Path) : Prop where
  working : tree'.workingDirectory = tree.workingDirectory
  at? : ∀ q, tree'.at? q = tree.at? q ∨
    (tree.at? q = none ∧ tree'.at? q = some .directory ∧ q <+: p)

theorem Extends.trans {tree'' : FileTree} {p : Path} (h : Extends tree tree' p)
    (h' : Extends tree' tree'' p) : Extends tree tree'' p := by
  refine ⟨h'.working.trans h.working, fun q => ?_⟩
  rcases h'.at? q with heq | ⟨hnone, hdir, hpre⟩
  · rw [heq]
    exact h.at? q
  · rcases h.at? q with hold | ⟨-, hcon, -⟩
    · exact .inr ⟨hold ▸ hnone, hdir, hpre⟩
    · rw [hnone] at hcon
      cases hcon

theorem Extends.eq_of_ne_none {p q : Path} (h : Extends tree tree' p) (hq : tree.at? q ≠ none) :
    tree'.at? q = tree.at? q :=
  (h.at? q).resolve_right fun hnew => hq hnew.1

theorem Extends.eq_beside {p q : Path} (h : Extends tree tree' p) (hq : ¬ q <+: p) :
    tree'.at? q = tree.at? q :=
  (h.at? q).resolve_right fun hnew => hq hnew.2.2

/-- Without `..` a name leads straight down. -/
def Straight (parts : List Text) : Prop := (".." : Text) ∉ parts

theorem straight_cons {part : Text} {parts : List Text} :
    Straight (part :: parts) ↔ part ≠ ".." ∧ Straight parts := by
  rw [Straight, List.mem_cons, not_or, ne_comm]
  rfl

theorem extends_makeFrom : ∀ {parts : List Text} {tree : FileTree} {p : Path}, Straight parts →
    tree.makeFrom p parts = .ok tree' → Extends tree tree' (p ++ parts)
  | [], tree, p, _, h => by
    obtain rfl := Except.ok.inj h
    exact ⟨rfl, fun q => .inl rfl⟩
  | part :: rest, tree, p, hup, h => by
    obtain ⟨hpart, hrest⟩ := straight_cons.1 hup
    rw [List.append_cons]
    rw [makeFrom, if_neg hpart] at h
    split at h
    · rename_i hnone
      -- What is on the way to the directory made here is on the way to the last one as well.
      have hnew : Extends tree (tree.set (p ++ [part]) .directory) (p ++ [part] ++ rest) := by
        refine ⟨rfl, fun q => ?_⟩
        rcases at?_set_directory hnone q with heq | ⟨hq, hdir, hpre⟩
        · exact .inl heq
        · exact .inr ⟨hq, hdir, hpre.trans (List.prefix_append _ _)⟩
      exact hnew.trans (extends_makeFrom hrest h)
    · exact extends_makeFrom hrest h
    · cases h

theorem step_straight {p q : Path} {part : Text} (hup : part ≠ "..")
    (h : tree.step p part = .ok q) :
    tree.at? p = some .directory ∧ q = p ++ downward [part] := by
  obtain ⟨hdir, rfl⟩ := step_eq_ok_iff.1 h
  refine ⟨hdir, ?_⟩
  by_cases hstay : part = [] ∨ part = "."
  · have hskip : ¬ (part ≠ [] ∧ part ≠ ".") := fun hd => hstay.elim hd.1 hd.2
    rw [if_pos hstay, downward, List.filter_cons_of_neg (by rw [decide_eq_true_eq]; exact hskip)]
    simp
  · have hkeep : part ≠ [] ∧ part ≠ "." := not_or.1 hstay
    rw [if_neg hstay, if_neg hup, downward,
      List.filter_cons_of_pos (by rw [decide_eq_true_eq]; exact hkeep)]
    simp

theorem foldlM_step_straight : ∀ {parts : List Text} {p q : Path}, Straight parts →
    parts.foldlM tree.step p = .ok q → q = p ++ downward parts
  | [], p, q, _, h => by
    rw [← Except.ok.inj h]
    exact (List.append_nil p).symm
  | part :: parts, p, q, hup, h => by
    obtain ⟨hpart, hrest⟩ := straight_cons.1 hup
    rw [List.foldlM_cons] at h
    cases hstep : tree.step p part with
    | error e =>
      rw [hstep] at h
      cases h
    | ok r =>
      rw [hstep] at h
      obtain ⟨-, rfl⟩ := step_straight hpart hstep
      rw [foldlM_step_straight hrest h, List.append_assoc]
      unfold downward
      rw [← List.filter_append]
      rfl

/-- A walk straight down goes the same way where the directories on the way are the same. -/
theorem foldlM_step_mono : ∀ {parts : List Text} {p q : Path}, Straight parts →
    (∀ r, r <+: q → tree.at? r = some .directory → tree'.at? r = some .directory) →
    parts.foldlM tree.step p = .ok q → parts.foldlM tree'.step p = .ok q
  | [], _, _, _, _, h => h
  | part :: parts, p, q, hup, hdir, h => by
    have hq := foldlM_step_straight hup h
    rw [List.foldlM_cons] at h ⊢
    cases hstep : tree.step p part with
    | error e =>
      rw [hstep] at h
      cases h
    | ok r =>
      rw [hstep] at h
      obtain ⟨hp, hr⟩ := step_eq_ok_iff.1 hstep
      have hstep' : tree'.step p part = .ok r :=
        step_eq_ok_iff.2 ⟨hdir p (hq ▸ List.prefix_append _ _) hp, hr⟩
      rw [hstep']
      exact foldlM_step_mono (straight_cons.1 hup).2 hdir h

/-- Where a name that goes straight down leads. -/
def spelled (tree : FileTree) (name : Text) : Path :=
  (if Text.startsWith name "/" then [] else tree.workingDirectory) ++ downward (name.splitOn '/')

theorem extends_makeDirectories {directory : Text} (hdir : Straight (directory.splitOn '/'))
    (h : tree.makeDirectories directory = .ok tree') :
    Extends tree tree' (tree.spelled directory) :=
  extends_makeFrom (fun hm => hdir (List.mem_filter.1 hm).1) h

theorem startsWith_join {directory file : Text} (hfile : '/' ∉ file) :
    Text.startsWith (Path.join directory file) "/" = Text.startsWith directory "/" := by
  have hplain : Text.startsWith file "/" = false := by
    refine Bool.eq_false_iff.2 fun hs => hfile ?_
    obtain ⟨t, ht⟩ := List.isPrefixOf_iff_prefix.1 hs
    rw [← ht]
    exact List.mem_cons_self
  unfold Path.join
  rw [hplain, if_neg Bool.false_ne_true]
  cases directory with
  | nil => exact hplain
  | cons c d => split <;> rfl

variable {directory file : Text}

/-- A file name that stands for itself in a path. -/
structure IsName (file : Text) : Prop where
  plain : '/' ∉ file
  down : file ≠ [] ∧ file ≠ "." ∧ file ≠ ".."

theorem straight_join (hdir : Straight (directory.splitOn '/')) (hfile : IsName file) :
    ∃ parts, (Path.join directory file).splitOn '/' = parts ++ [file] ∧
      Straight (parts ++ [file]) ∧
      downward (parts ++ [file]) = downward (directory.splitOn '/') ++ [file] := by
  obtain ⟨parts, hparts, hsub, hdown⟩ := splitOn_join directory hfile.plain
  refine ⟨parts, hparts, ?_, ?_⟩
  · rw [Straight, List.mem_append, List.mem_singleton, not_or]
    exact ⟨fun hm => hdir (hsub hm), Ne.symm hfile.down.2.2⟩
  · have hlast : downward [file] = [file] :=
      List.filter_cons_of_pos (by simpa using ⟨hfile.down.1, by simpa using hfile.down.2.1⟩)
    have happend : downward (parts ++ [file]) = downward parts ++ downward [file] :=
      List.filter_append ..
    rw [happend, hlast, hdown]

theorem locate_join (hdir : Straight (directory.splitOn '/')) (hfile : IsName file) {p : Path}
    (h : tree.locate (Path.join directory file) = .ok p) :
    p = tree.spelled directory ++ [file] := by
  obtain ⟨parts, hparts, hstraight, hdown⟩ := straight_join hdir hfile
  unfold locate at h
  split at h
  · cases h
  · rw [hparts, startsWith_join hfile.plain] at h
    rw [foldlM_step_straight hstraight h, hdown, spelled, List.append_assoc]

/-- A walk to a file of the directory is not changed by directories on the way to it. -/
theorem locate_join_congr (hdir : Straight (directory.splitOn '/')) (hfile : IsName file)
    (hwork : tree'.workingDirectory = tree.workingDirectory)
    (hway : ∀ r, r <+: tree.spelled directory ++ [file] →
      tree.at? r = some .directory → tree'.at? r = some .directory) {p : Path}
    (h : tree.locate (Path.join directory file) = .ok p) :
    tree'.locate (Path.join directory file) = .ok p := by
  obtain ⟨parts, hparts, hstraight, -⟩ := straight_join hdir hfile
  have hp := locate_join hdir hfile h
  unfold locate at h ⊢
  rw [hwork]
  split at h
  · cases h
  · rename_i hne
    rw [if_neg hne]
    rw [hparts] at h ⊢
    exact foldlM_step_mono hstraight (fun r hr => hway r (hp ▸ hr)) h

theorem Extends.find_join (h : Extends tree tree' (tree.spelled directory))
    (hdir : Straight (directory.splitOn '/')) (hfile : IsName file) {node : Node} :
    tree'.find (Path.join directory file) = .ok node ↔
      tree.find (Path.join directory file) = .ok node := by
  have hspelled : tree'.spelled directory = tree.spelled directory := by
    unfold spelled
    rw [h.working]
  have hbeside : ¬ tree.spelled directory ++ [file] <+: tree.spelled directory := by
    intro hpre
    have hle := hpre.length_le
    rw [List.length_append, List.length_singleton] at hle
    omega
  simp only [find_eq_ok_iff]
  constructor
  · rintro ⟨p, hp, hnode⟩
    obtain rfl := hspelled ▸ locate_join hdir hfile hp
    have hold : tree.at? (tree.spelled directory ++ [file]) = some node :=
      (h.eq_beside hbeside).symm.trans hnode
    refine ⟨_, locate_join_congr hdir hfile h.working.symm (fun r hr hd => ?_) hp, hold⟩
    -- The file is there in the old tree, so what is on the way to it is not new.
    rw [hspelled] at hr
    have hthere := at?_ne_none_above (by rw [hold]; simp) hr
    rw [← h.eq_of_ne_none hthere, hd]
  · rintro ⟨p, hp, hnode⟩
    refine ⟨p, locate_join_congr hdir hfile h.working (fun r _ hd => ?_) hp, ?_⟩
    · rw [h.eq_of_ne_none (by rw [hd]; simp), hd]
    · rw [h.eq_of_ne_none (by rw [hnode]; simp), hnode]

/-! ### Names of paths -/

/-- The parts of the working directory are names, as they are of every directory there is. -/
def WellNamed (tree : FileTree) : Prop := ∀ part ∈ tree.workingDirectory, IsName part

theorem intercalate_cons (part : Text) : ∀ rest : Path,
    ['/'].intercalate (part :: rest) = part ++ rest.flatMap ('/' :: ·)
  | [] => by simp
  | next :: rest => by
    have ih := intercalate_cons next rest
    rw [List.intercalate_cons_cons, ih]
    simp

theorem splitOn_flatMap {p : Path} (h : ∀ part ∈ p, IsName part) :
    (p.flatMap ('/' :: ·)).splitOn '/' = [] :: p := by
  rw [← List.nil_append (p.flatMap _), ← intercalate_cons]
  refine List.splitOn_intercalate '/' ?_ (by simp)
  simpa using fun part hpart => (h part hpart).plain

/-- Paths of one name are one path. -/
theorem name_injective {p q : Path} (hp : ∀ part ∈ p, IsName part) (hq : ∀ part ∈ q, IsName part)
    (h : p.name = q.name) : p = q := by
  have hroot : ∀ {q : Path}, (∀ part ∈ q, IsName part) → "/".toList ≠ q.flatMap ('/' :: ·) := by
    intro q hq heq
    have hsplit := splitOn_flatMap hq
    rw [← heq] at hsplit
    obtain rfl : q = [[]] := (List.cons.inj hsplit).2.symm
    exact (hq [] List.mem_cons_self).down.1 rfl
  unfold Path.name at h
  split at h
  · rename_i hnil
    split at h
    · rename_i hnil'
      rw [hnil, hnil']
    · exact absurd h (hroot hq)
  · split at h
    · exact absurd h.symm (hroot hp)
    · have hsplit := splitOn_flatMap hp
      rw [h, splitOn_flatMap hq] at hsplit
      exact (List.cons.inj hsplit).2.symm

theorem isName_of_foldlM {q : Path} : ∀ {parts : List Text} {p : Path},
    (∀ part ∈ parts, '/' ∉ part) → (∀ part ∈ p, IsName part) → parts.foldlM tree.step p = .ok q →
      ∀ part ∈ q, IsName part
  | [], p, _, hp, h => by
    obtain rfl := Except.ok.inj h
    exact hp
  | part :: rest, p, hparts, hp, h => by
    rw [List.foldlM_cons] at h
    cases hstep : tree.step p part with
    | error e =>
      rw [hstep] at h
      cases h
    | ok r =>
      rw [hstep] at h
      refine isName_of_foldlM (fun a ha => hparts a (List.mem_cons_of_mem _ ha)) ?_ h
      obtain ⟨-, rfl⟩ := step_eq_ok_iff.1 hstep
      split
      · exact hp
      · rename_i hstay
        split
        · exact fun a ha => hp a (List.dropLast_subset _ ha)
        · rename_i hup
          intro a ha
          rcases List.mem_append.1 ha with ha | ha
          · exact hp a ha
          · obtain rfl := List.mem_singleton.1 ha
            rw [not_or] at hstay
            exact ⟨hparts a List.mem_cons_self, hstay.1, hstay.2, hup⟩

theorem isName_of_locate (h : tree.WellNamed) {name : Text} {p : Path}
    (hp : tree.locate name = .ok p) : ∀ part ∈ p, IsName part := by
  unfold locate at hp
  split at hp
  · cases hp
  · refine isName_of_foldlM (fun part hpart hm => ?_) ?_ hp
    · rw [List.splitOn_eq_splitOnP] at hpart
      simpa using Text.not_mem_splitOnP hpart _ hm
    · split
      · simp
      · exact h

/-- Files of one identity are one file. -/
theorem find_congr_of_identity (h : tree.WellNamed) {a b : Text} (ha : tree.isFile a = true)
    (hb : tree.isFile b = true) (hid : tree.identity a = tree.identity b) :
    tree.find a = tree.find b := by
  obtain ⟨node, hnode, -⟩ := isFile_iff.1 ha
  obtain ⟨node', hnode', -⟩ := isFile_iff.1 hb
  obtain ⟨p, hp, -⟩ := find_eq_ok_iff.1 hnode
  obtain ⟨q, hq, -⟩ := find_eq_ok_iff.1 hnode'
  have hpath : p = q := by
    refine name_injective (isName_of_locate h hp) (isName_of_locate h hq) ?_
    simpa [identity, hp, hq] using hid
  unfold find
  rw [hp, hq, hpath]

end FileTree

end SqlBuild
