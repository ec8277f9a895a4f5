import SqlBuild.Proofs.ScriptPieces

/-!
# The batches of a text

The lines that end batches cut the lines of a text into groups, and there is one way to do so
(`Batch.Grouped`). The batches are the groups that are not blank, line for line. Read the other way
round, batches with such lines between them are the batches of what they make up
(`Batch.split_lossless`).
-/

namespace SqlBuild

namespace Text

variable {t : Text}

theorem map_dropReturn_splitOn (h : '\r' ∉ t) :
    (t.splitOn '\n').map dropReturn = t.splitOn '\n' := by
  refine (List.map_congr_left fun piece hpiece => ?_).trans (List.map_id _)
  rw [List.splitOn_eq_splitOnP] at hpiece
  exact dropReturn_eq_self fun hmem => h ((infix_of_mem_splitOnP hpiece).subset hmem)

theorem lines_feed (h : '\r' ∉ t) : lines (t ++ ['\n']) = t.splitOn '\n' := by
  have hpieces : (t ++ ['\n']).splitOn '\n' = t.splitOn '\n' ++ [[]] :=
    List.splitOn_append_cons_self t []
  rw [lines, hpieces, List.dropLast_concat, map_dropReturn_splitOn h]
  simp

theorem unlines_splitOn (t : Text) : unlines (t.splitOn '\n') = t ++ ['\n'] := by
  have hjoin : ∀ (ls : List Text) (l : Text),
      unlines (l :: ls) = join "\n" (l :: ls) ++ ['\n'] := by
    intro ls
    induction ls with
    | nil => simp [unlines, join]
    | cons next ls ih =>
      intro l
      have hrest : unlines (l :: next :: ls) = l ++ '\n' :: unlines (next :: ls) := by
        simp [unlines]
      rw [hrest, ih next]
      simp [join, List.intercalate_cons_cons]
  have hsplit : join "\n" (t.splitOn '\n') = t := List.intercalate_splitOn '\n'
  obtain ⟨l, ls, hls⟩ := List.exists_cons_of_ne_nil (List.splitOn_ne_nil '\n' t)
  rw [hls] at hsplit ⊢
  rw [hjoin, hsplit]

/-- A text that ends its last line is made up of its lines. -/
theorem unlines_lines (h : '\r' ∉ t) (hends : t.getLast? = some '\n') : unlines (lines t) = t := by
  obtain ⟨s, rfl⟩ := List.getLast?_eq_some_iff.1 hends
  rw [lines_feed fun hmem => h (List.mem_append_left _ hmem), unlines_splitOn]

theorem isAllBlank_unlines (ls : List Text) : isAllBlank (unlines ls) = ls.all isAllBlank := by
  have hfeed : isBlank '\n' = true := by decide
  induction ls with
  | nil => rfl
  | cons l ls ih =>
    have hl : unlines (l :: ls) = l ++ '\n' :: unlines ls := by simp [unlines]
    rw [hl, isAllBlank, List.all_append, List.all_cons, hfeed, Bool.true_and, List.all_cons, ← ih]
    rfl

end Text

namespace Batch

/-- The lines are these groups, each with the line behind it that ends it, and then the last
group. -/
structure Grouped (lines : List Text) (closed : List (List Text × Text)) (last : List Text) :
    Prop where
  whole : lines = closed.flatMap (fun group => group.1 ++ [group.2]) ++ last
  ended : ∀ group ∈ closed, isTerminator group.2 = true
  unended : ∀ group ∈ closed, ∀ line ∈ group.1, isTerminator line = false
  unendedLast : ∀ line ∈ last, isTerminator line = false

variable {lines : List Text} {closed : List (List Text × Text)} {last : List Text}

theorem Grouped.groups_eq (h : Grouped lines closed last) :
    groups lines = closed.map Prod.fst ++ [last] := by
  obtain ⟨rfl, hended, hunended, hlast⟩ := h
  induction closed with
  | nil => exact List.splitOnP_eq_singleton hlast
  | cons group closed ih =>
    obtain ⟨hgo, hended⟩ := List.forall_mem_cons.1 hended
    obtain ⟨hgroup, hunended⟩ := List.forall_mem_cons.1 hunended
    have hfirst := List.splitOnP_append_cons_of_forall_mem hgroup group.2 hgo
      (closed.flatMap (fun group => group.1 ++ [group.2]) ++ last)
    rw [List.flatMap_cons, List.append_assoc, List.append_assoc, List.singleton_append, groups,
      hfirst]
    exact congrArg (group.1 :: ·) (ih hended hunended)

theorem exists_grouped : ∀ lines : List Text, ∃ closed last, Grouped lines closed last
  | [] => ⟨[], [], rfl, by simp, by simp, by simp⟩
  | line :: rest => by
    obtain ⟨closed, last, rfl, hended, hunended, hlast⟩ := exists_grouped rest
    by_cases hline : isTerminator line = true
    · exact ⟨([], line) :: closed, last, rfl, List.forall_mem_cons.2 ⟨hline, hended⟩,
        List.forall_mem_cons.2 ⟨by simp, hunended⟩, hlast⟩
    · have hopen : isTerminator line = false := eq_false_of_ne_true hline
      -- The line joins the group that starts behind it.
      cases closed with
      | nil =>
        exact ⟨[], line :: last, rfl, hended, hunended, List.forall_mem_cons.2 ⟨hopen, hlast⟩⟩
      | cons group closed =>
        obtain ⟨hgo, hended⟩ := List.forall_mem_cons.1 hended
        obtain ⟨hgroup, hunended⟩ := List.forall_mem_cons.1 hunended
        refine ⟨(line :: group.1, group.2) :: closed, last, by simp,
          List.forall_mem_cons.2 ⟨hgo, hended⟩, List.forall_mem_cons.2 ⟨?_, hunended⟩, hlast⟩
        exact List.forall_mem_cons.2 ⟨hopen, hgroup⟩

theorem isTerminator_of_mem_groups {group : List Text} (h : group ∈ groups lines) :
    ∀ line ∈ group, isTerminator line = false := by
  obtain ⟨closed, last, hgrouped⟩ := exists_grouped lines
  rw [hgrouped.groups_eq, List.mem_append, List.mem_singleton] at h
  rcases h with h | rfl
  · obtain ⟨pair, hpair, rfl⟩ := List.mem_map.1 h
    exact hgrouped.unended pair hpair
  · exact hgrouped.unendedLast

theorem split_eq (sql : Text) : split sql =
    ((groups (Text.lines sql)).filter fun g => !g.all Text.isAllBlank).map Text.unlines := by
  rw [split, List.filter_map]
  exact congrArg _ (List.filter_congr fun group _ => by simp [Text.isAllBlank_unlines])

theorem isTerminator_dropReturn (line : Text) :
    isTerminator (Text.dropReturn line) = isTerminator line := by
  rw [isTerminator, isTerminator, Text.trim_dropReturn]

/-- A batch is not blank and has no line that would end it. -/
theorem of_mem_split {sql batch : Text} (h : batch ∈ split sql) :
    Text.isAllBlank batch = false ∧ ∀ line ∈ Text.lines batch, isTerminator line = false := by
  obtain ⟨hbatch, hblank⟩ := List.mem_filter.1 h
  refine ⟨by simpa using hblank, fun line hline => ?_⟩
  obtain ⟨group, hgroup, rfl⟩ := List.mem_map.1 hbatch
  have hfeed : ∀ l ∈ group, '\n' ∉ l :=
    fun l hl => Text.not_mem_lines ((infix_of_mem_splitOnP hgroup).subset hl)
  rw [Text.lines_unlines hfeed] at hline
  obtain ⟨l, hl, rfl⟩ := List.mem_map.1 hline
  rw [isTerminator_dropReturn]
  exact isTerminator_of_mem_groups hgroup l hl

/-! ### Joining batches -/

/-- A text that is one batch: not blank, its last line ended, and no line in it that would end
it. -/
structure IsBatch (batch : Text) : Prop where
  visible : Text.isAllBlank batch = false
  feed : batch.getLast? = some '\n'
  noReturn : '\r' ∉ batch
  unended : ∀ line ∈ Text.lines batch, isTerminator line = false

instance (batch : Text) : Decidable (IsBatch batch) :=
  decidable_of_iff (Text.isAllBlank batch = false ∧ batch.getLast? = some '\n' ∧ '\r' ∉ batch ∧
      ∀ line ∈ Text.lines batch, isTerminator line = false)
    ⟨fun ⟨h1, h2, h3, h4⟩ => ⟨h1, h2, h3, h4⟩, fun ⟨h1, h2, h3, h4⟩ => ⟨h1, h2, h3, h4⟩⟩

theorem IsBatch.split_self {batch : Text} (h : IsBatch batch) : split batch = [batch] := by
  have htext := Text.unlines_lines h.noReturn h.feed
  have hlines : split batch = _ := ofLines_unterminated h.unended
  rw [hlines, htext, h.visible]
  rfl

/-- A batch in front of a line that ends it. -/
theorem IsBatch.split_append {batch go : Text} (h : IsBatch batch) (hgo : isTerminator go = true)
    (hfeed : '\n' ∉ go) (rest : Text) :
    split (batch ++ (go ++ ['\n']) ++ rest) = batch :: split rest := by
  have hline : Text.lines (Text.unlines [go]) = [Text.dropReturn go] :=
    Text.lines_unlines (by simpa using hfeed)
  have hgo' : Text.unlines [go] = go ++ ['\n'] := by simp [Text.unlines]
  have hlines : Text.lines (batch ++ (go ++ ['\n']) ++ rest) =
      Text.lines batch ++ Text.dropReturn go :: Text.lines rest := by
    rw [← Text.unlines_lines h.noReturn h.feed, ← hgo', List.append_assoc,
      Text.lines_unlines_append, Text.lines_unlines_append, hline,
      Text.unlines_lines h.noReturn h.feed]
    rfl
  have hends : isTerminator (Text.dropReturn go) = true := by rw [isTerminator_dropReturn, hgo]
  have hparts : split (batch ++ (go ++ ['\n']) ++ rest) =
      ofLines (Text.lines batch) ++ ofLines (Text.lines rest) := by
    rw [← ofLines_terminator hends, ← hlines]
    rfl
  rw [hparts]
  exact congrArg (· ++ split rest) h.split_self

theorem split_join {go : Text} (hgo : isTerminator go = true) (hfeed : '\n' ∉ go) :
    ∀ {batches : List Text}, (∀ batch ∈ batches, IsBatch batch) →
      split (Text.join (go ++ ['\n']) batches) = batches
  | [], _ => rfl
  | [batch], h => by
    have hone : Text.join (go ++ ['\n']) [batch] = batch := by simp [Text.join]
    rw [hone]
    exact (h batch (List.mem_singleton_self _)).split_self
  | batch :: next :: rest, h => by
    obtain ⟨hbatch, hrest⟩ := List.forall_mem_cons.1 h
    rw [Text.join, List.intercalate_cons_cons, hbatch.split_append hgo hfeed]
    exact congrArg (batch :: ·) (split_join hgo hfeed hrest)

/-- Splitting loses nothing. The lines of a text form groups between the lines that end batches, and
however they are found to do so, the batches are the groups that are not blank, in order, each line
as it stands and with one line feed behind it. No batch is blank or has a line that would end it.
And batches with such lines between them are split into just these batches. -/
theorem split_lossless :
    (∀ sql, (∃ closed last, Grouped (Text.lines sql) closed last) ∧
      (∀ closed last, Grouped (Text.lines sql) closed last →
        split sql = ((closed.map Prod.fst ++ [last]).filter fun group =>
          !group.all Text.isAllBlank).map Text.unlines) ∧
      ∀ batch ∈ split sql,
        Text.isAllBlank batch = false ∧ ∀ line ∈ Text.lines batch, isTerminator line = false) ∧
    ∀ go, isTerminator go = true → '\n' ∉ go → ∀ batches, (∀ batch ∈ batches, IsBatch batch) →
      split (Text.join (go ++ ['\n']) batches) = batches := by
  refine ⟨fun sql => ⟨exists_grouped _, fun closed last hgrouped => ?_,
    fun batch hbatch => of_mem_split hbatch⟩, fun go hgo hfeed batches h => split_join hgo hfeed h⟩
  rw [split_eq, hgrouped.groups_eq]

/-- A text that starts with a line that ends a batch, has a blank group, and does not end its last
line. -/
theorem split_lossless_ragged :
    let sql : Text := "GO\nselect 1\r\n go x\n\n Go \n \ngo\nselect 2"
    let closed : List (List Text × Text) :=
      [([], "GO"), (["select 1", " go x", []], " Go "), ([" "], "go")]
    let batches : List Text := ["select 1\n go x\n\n", "select 2\n"]
    Grouped (Text.lines sql) closed ["select 2"] ∧ split sql = batches ∧
      isTerminator " gO\r" = true ∧ (∀ batch ∈ batches, IsBatch batch) ∧
      split (Text.join (" gO\r" ++ ['\n']) batches) = batches := by
  intro sql closed batches
  obtain ⟨hcut, hjoin⟩ := split_lossless
  have hgrouped : Grouped (Text.lines sql) closed ["select 2"] :=
    ⟨by decide +kernel, by decide +kernel, by decide +kernel, by decide +kernel⟩
  have hgo : isTerminator " gO\r" = true := by decide +kernel
  have hbatches : ∀ batch ∈ batches, IsBatch batch := by decide +kernel
  refine ⟨hgrouped, ?_, hgo, hbatches, hjoin _ hgo (by decide) batches hbatches⟩
  rw [(hcut sql).2.1 closed _ hgrouped]
  decide +kernel

end Batch

end SqlBuild
