import Mathlib.Data.List.Chain
import Mathlib.Data.List.Infix
import SqlBuild.Proofs.BuildArguments
import SqlBuild.Proofs.UpgradeParts

/-!
# The stretches of an upgrade file

The lines before a command to leave fall into stretches: SQL lines in a row, and control lines
between them. Nothing is lost by that, and the lines of a stretch stand together (`cuts_stretches`).
The parts that the walk runs are those of the stretches, one after the other, each in the database
that is in force where its stretch starts (`filterMap_plan`). A stretch has a part unless it is
blank or only tells the walk something (`Stretch.part?_eq_none`).
-/

namespace SqlBuild

namespace UpgradeName

/-- The letters of a word are found one by one. -/
theorem exists_of_afterWord? : ∀ {p t r : Text}, afterWord? p t = some r →
    ∃ q, t = q ++ r ∧ q.length = p.length ∧ ∀ c ∈ q, ∃ a ∈ p, sameCaseless a c = true
  | [], _, _, h => ⟨[], Option.some.inj h, rfl, by simp⟩
  | a :: p, [], _, h => nomatch h
  | a :: p, c :: t, _, h => by
    obtain ⟨hc, hrest⟩ := Option.ite_none_right_eq_some.1 h
    obtain ⟨q, rfl, hlength, hq⟩ := exists_of_afterWord? hrest
    refine ⟨c :: q, rfl, congrArg (· + 1) hlength, ?_⟩
    refine List.forall_mem_cons.2 ⟨⟨a, List.mem_cons_self, hc⟩, fun d hd => ?_⟩
    obtain ⟨b, hb, hsame⟩ := hq d hd
    exact ⟨b, List.mem_cons_of_mem a hb, hsame⟩

end UpgradeName

/-- Of the commands only the script command has a name of six letters. -/
theorem BuildCommand.ofName?_of_length {word : Text} (h : word.length = 6) :
    ofName? word = if Text.sameIgnoringCase "runsql" word then some runSql else none := by
  split
  · rename_i hword
    exact ofName?_of_sameIgnoringCase hword
  · rename_i hword
    have hnames : ∀ command ∈ all, command.name.length = 6 → command = runSql := by decide
    refine List.find?_eq_none.2 fun command hmem hsame => hword ?_
    obtain rfl := hnames command hmem ((Text.length_of_sameIgnoringCase hsame).trans h)
    exact hsame

namespace UpgradeLine

/-- What a line is like when it is of a kind. -/
def Fits (line : Text) : UpgradeLine → Prop
  | exit => Batch.isExit line = true
  | use database => Batch.isExit line = false ∧ useDatabase? line = some database
  | embedded command => Batch.isExit line = false ∧ embedded? line = some command
  | rename => Batch.isExit line = false ∧ isRename line = true
  | terminator => Batch.isExit line = false ∧ Batch.isTerminator line = true
  | sql => Batch.isExit line = false ∧ Batch.isTerminator line = false

theorem fits_of_ofLine {line : Text} {kind : UpgradeLine} (h : ofLine line = kind) :
    Fits line kind := by
  subst h
  unfold ofLine
  split
  · assumption
  · rename_i hexit
    have hstays : Batch.isExit line = false := eq_false_of_ne_true hexit
    split
    · exact ⟨hstays, ‹_›⟩
    · split
      · exact ⟨hstays, ‹_›⟩
      · split
        · exact ⟨hstays, ‹_›⟩
        · split
          · exact ⟨hstays, ‹_›⟩
          · rename_i hopen
            exact ⟨hstays, eq_false_of_ne_true hopen⟩

theorem isExit_eq_false {line : Text} (h : ofLine line ≠ .exit) : Batch.isExit line = false := by
  cases hline : ofLine line with
  | exit => exact absurd hline h
  | _ => exact (fits_of_ofLine hline).1

/-- A character of the script command's word, also where a long s stands for an `s`. -/
theorem plain_of_sameCaseless {c : Char}
    (h : ∃ a ∈ ("runsql" : Text), UpgradeName.sameCaseless a c = true) :
    isBlank c = false ∧ c ≠ '#' ∧ c ≠ '&' := by
  obtain ⟨a, ha, hsame⟩ := h
  have hmarks : (("runsql" : Text).all fun a => !isBlank a.toLower &&
      (!UpgradeName.sameCaseless a '#' && !UpgradeName.sameCaseless a '&')) = true := by decide
  have hmark := List.all_eq_true.1 hmarks a ha
  simp only [Bool.and_eq_true, Bool.not_eq_true'] at hmark
  obtain ⟨hvisible, hhash, hname⟩ := hmark
  refine ⟨?_, fun hc => ?_, fun hc => ?_⟩
  · rw [← Bool.not_eq_true]
    intro hblank
    simp only [UpgradeName.sameCaseless, Bool.or_eq_true, Bool.and_eq_true, beq_iff_eq] at hsame
    rcases hsame with heq | ⟨-, rfl⟩
    · rw [heq, toLower_of_isBlank hblank, hblank] at hvisible
      cases hvisible
    · exact absurd hblank (by decide)
  · rw [hc, hhash] at hsame
    cases hsame
  · rw [hc, hname] at hsame
    cases hsame

/-- A script command starts with its word, behind which comes a blank. -/
theorem exists_of_embedded {line command : Text} (h : ofLine line = .embedded command) :
    ∃ word c rest, command = word ++ c :: rest ∧ isBlank c = true ∧ word.length = 6 ∧
      ∀ c ∈ word, ∃ a ∈ ("runsql" : Text), UpgradeName.sameCaseless a c = true := by
  obtain ⟨-, hfound⟩ := fits_of_ofLine h
  unfold embedded? at hfound
  split at hfound
  · dsimp only at hfound
    split at hfound
    · rename_i c rest hafter
      obtain ⟨hblank, hcommand⟩ := Option.ite_none_right_eq_some.1 hfound
      rw [Option.some.inj hcommand] at hafter
      obtain ⟨word, hword, hlength, hletters⟩ := UpgradeName.exists_of_afterWord? hafter
      exact ⟨word, c, rest, hword, hblank, hlength, hletters⟩
    · cases hfound
  · cases hfound

/-- A script command in an upgrade file is one in a build script, too, unless it is spelt with a
long s; then it is inert. -/
theorem ofLine_embedded {line command : Text} (h : ofLine line = .embedded command)
    (resolve : Text → Text) (root : Text) : ParsedLine.ofLine resolve root command =
      match Text.afterIgnoringCase? "runsql" command with
      | some rest => .command (BuildLine.ofArguments resolve .runSql
          (BuildLine.readWords resolve root {} (Text.words rest)))
      | none => .inert (Text.trim command) := by
  obtain ⟨word, c, rest, rfl, hblank, hlength, hletters⟩ := exists_of_embedded h
  have hplain : ∀ c ∈ word, isBlank c = false ∧ c ≠ '#' ∧ c ≠ '&' :=
    fun c hc => plain_of_sameCaseless (hletters c hc)
  have hwhole : Text.Whole word :=
    ⟨List.ne_nil_of_length_pos (by omega), fun c hc => (hplain c hc).1⟩
  have hwords : Text.words (word ++ c :: rest) = word :: Text.words (c :: rest) :=
    Text.words_append_of_whole hwhole hblank
  have hafter : Text.afterIgnoringCase? "runsql" (word ++ c :: rest) =
      if Text.sameIgnoringCase "runsql" word then some (c :: rest) else none := by
    have hsix : ("runsql" : Text).length = word.length := hlength.symm
    rw [Text.afterIgnoringCase?, hsix, List.take_left, List.drop_left, Text.sameIgnoringCase,
      Text.sameIgnoringCase, BEq.comm]
  rw [BuildLine.ofLine_of_words hwords
      (fun hhead => (hplain _ (List.mem_of_head? hhead)).2.1 rfl)
      (fun hhead => (hplain _ (List.mem_of_head? hhead)).2.2 rfl),
    BuildCommand.ofName?_of_length hlength, hafter]
  cases Text.sameIgnoringCase "runsql" word <;> rfl

end UpgradeLine

namespace Upgrade

/-- A stretch of an upgrade file: SQL lines in a row, or a control line. -/
inductive Stretch
  | sql (lines : List Text)
  | control (line : Text)
deriving DecidableEq, Repr

namespace Stretch

def lines : Stretch → List Text
  | sql lines => lines
  | control line => [line]

def isSql : Stretch → Bool
  | sql _ => true
  | control _ => false

/-- The database that a `use` line names. -/
def use? : Stretch → Option Text
  | sql _ => none
  | control line =>
    match UpgradeLine.ofLine line with
    | .use name => some name
    | _ => none

/-- What runs of a stretch in a database. -/
def part? (ctx : Context) (database : Option Text) : Stretch → Option Part
  | sql lines =>
    if Text.isAllBlank (Text.unlines lines) then none
    else some (.batch database (Text.unlines lines))
  | control line =>
    match UpgradeLine.ofLine line with
    | .embedded command =>
      match ParsedLine.ofLine ctx.resolveWord ctx.env.root command with
      | .command found => some (.embedded database found)
      | _ => none
    | .rename => some (.statement database line)
    | _ => none

end Stretch

/-- One more SQL line before other stretches. -/
def extend (line : Text) : List Stretch → List Stretch
  | .sql lines :: rest => .sql (line :: lines) :: rest
  | rest => .sql [line] :: rest

/-- The stretches of an upgrade file, up to a command to leave. -/
def stretches : List Text → List Stretch
  | [] => []
  | line :: rest =>
    match UpgradeLine.ofLine line with
    | .exit => []
    | .sql => extend line (stretches rest)
    | _ => .control line :: stretches rest

/-- The database in force behind stretches: the one named last, resolved, or the one before them. -/
def databaseAfter (ctx : Context) (database : Option Text) (before : List Stretch) : Option Text :=
  match (before.filterMap Stretch.use?).getLast? with
  | some name => some (ctx.resolveWord name)
  | none => database

/-- The parts of stretches, each in the database in force behind those before it. -/
def partsOf (ctx : Context) (database : Option Text) (cut : List Stretch) : List Part :=
  (cut.inits.zip cut).filterMap fun (before, stretch) =>
    stretch.part? ctx (databaseAfter ctx database before)

/-- Whether there is nothing to run: the SQL is blank, or the line names a database or ends a
batch. -/
def Stretch.isDropped : Stretch → Bool
  | sql lines => Text.isAllBlank (Text.unlines lines)
  | control line =>
    match UpgradeLine.ofLine line with
    | .use _ | .terminator => true
    | _ => false

/-- If the stretch is a script command, its word is spelt in letters of ASCII. A long s is taken for
an `s` where the lines are told apart, but not where a command is read. -/
def Stretch.Spelt : Stretch → Prop
  | sql _ => True
  | control line =>
    ∀ command, UpgradeLine.ofLine line = .embedded command →
      (Text.afterIgnoringCase? "runsql" command).isSome = true

/-- SQL lines in a row are SQL lines and at least one; a control line is neither one nor a command
to leave. -/
def Stretch.Sound : Stretch → Prop
  | sql lines => lines ≠ [] ∧ ∀ line ∈ lines, UpgradeLine.ofLine line = .sql
  | control line => UpgradeLine.ofLine line ≠ .sql ∧ UpgradeLine.ofLine line ≠ .exit

/-- A cutting of lines in which nothing is lost, repeated or moved: put back together it is the
lines before a command to leave, and SQL lines in a row stand together. -/
structure Cuts (lines : List Text) (cut : List Stretch) : Prop where
  whole : cut.flatMap Stretch.lines = lines.takeWhile (!Batch.isExit ·)
  sound : ∀ stretch ∈ cut, stretch.Sound
  longest : cut.IsChain fun s t => ¬ (s.isSql = true ∧ t.isSql = true)

section Cutting

variable {ctx : Context} {database : Option Text} {line : Text} {lines : List Text}
variable {cut : List Stretch}

theorem flatMap_extend (line : Text) : ∀ cut : List Stretch,
    (extend line cut).flatMap Stretch.lines = line :: cut.flatMap Stretch.lines
  | [] => rfl
  | .sql _ :: _ => rfl
  | .control _ :: _ => rfl

theorem stretches_cons_exit (h : UpgradeLine.ofLine line = .exit) :
    stretches (line :: lines) = [] := by
  simp only [stretches, h]

theorem stretches_cons_sql (h : UpgradeLine.ofLine line = .sql) :
    stretches (line :: lines) = extend line (stretches lines) := by
  simp only [stretches, h]

theorem stretches_cons_control (hsql : UpgradeLine.ofLine line ≠ .sql)
    (hexit : UpgradeLine.ofLine line ≠ .exit) :
    stretches (line :: lines) = .control line :: stretches lines := by
  rw [stretches]
  split <;> simp_all

namespace Cuts

/-- One more stretch before a cutting. -/
theorem cons {stretch : Stretch} (h : Cuts lines cut) (hsound : stretch.Sound)
    (hlines : stretch.lines = [line]) (hexit : UpgradeLine.ofLine line ≠ .exit)
    (hnext : ∀ next ∈ cut.head?, ¬ (stretch.isSql = true ∧ next.isSql = true)) :
    Cuts (line :: lines) (stretch :: cut) where
  whole := by
    rw [List.flatMap_cons, hlines, h.whole]
    simp [UpgradeLine.isExit_eq_false hexit]
  sound := List.forall_mem_cons.2 ⟨hsound, h.sound⟩
  longest := List.isChain_cons.2 ⟨hnext, h.longest⟩

theorem cons_control (h : Cuts lines cut) (hsql : UpgradeLine.ofLine line ≠ .sql)
    (hexit : UpgradeLine.ofLine line ≠ .exit) : Cuts (line :: lines) (.control line :: cut) :=
  h.cons ⟨hsql, hexit⟩ rfl hexit (by simp [Stretch.isSql])

/-- An SQL line before a cutting joins the first stretch if that is one of SQL lines. -/
theorem extend (h : Cuts lines cut) (hsql : UpgradeLine.ofLine line = .sql) :
    Cuts (line :: lines) (extend line cut) := by
  have hexit : UpgradeLine.ofLine line ≠ .exit := by simp [hsql]
  have hsound : (Stretch.sql [line]).Sound := by simpa [Stretch.Sound] using hsql
  match cut, h with
  | [], h => exact h.cons hsound rfl hexit (by simp)
  | .control other :: rest, h => exact h.cons hsound rfl hexit (by simp [Stretch.isSql])
  | .sql run :: rest, h =>
    obtain ⟨hrun, hrest⟩ := List.forall_mem_cons.1 h.sound
    obtain ⟨hnext, hlongest⟩ := List.isChain_cons.1 h.longest
    have hlonger : (Stretch.sql (line :: run)).Sound :=
      ⟨by simp, List.forall_mem_cons.2 ⟨hsql, hrun.2⟩⟩
    refine ⟨?_, List.forall_mem_cons.2 ⟨hlonger, hrest⟩, List.isChain_cons.2 ⟨hnext, hlongest⟩⟩
    rw [flatMap_extend, h.whole]
    simp [UpgradeLine.isExit_eq_false hexit]

end Cuts

theorem cuts_stretches : ∀ lines : List Text, Cuts lines (stretches lines)
  | [] => ⟨rfl, by simp [stretches], .nil⟩
  | line :: lines => by
    have ih := cuts_stretches lines
    by_cases hexit : UpgradeLine.ofLine line = .exit
    · rw [stretches_cons_exit hexit]
      have hleaves : Batch.isExit line = true := UpgradeLine.fits_of_ofLine hexit
      exact ⟨by simp [hleaves], by simp, .nil⟩
    · by_cases hsql : UpgradeLine.ofLine line = .sql
      · rw [stretches_cons_sql hsql]
        exact ih.extend hsql
      · rw [stretches_cons_control hsql hexit]
        exact ih.cons_control hsql hexit

end Cutting

section Parts

variable {ctx : Context} {database : Option Text} {line : Text} {lines : List Text}
variable {cut : List Stretch}

theorem Stretch.part?_eq_none {stretch : Stretch} (h : stretch.Sound) (hspelt : stretch.Spelt) :
    stretch.part? ctx database = none ↔ stretch.isDropped = true := by
  cases stretch with
  | sql lines => simp [part?, isDropped]
  | control line =>
    cases hline : UpgradeLine.ofLine line with
    | sql => exact absurd hline h.1
    | exit => exact absurd hline h.2
    | embedded command =>
      obtain ⟨rest, hrest⟩ := Option.isSome_iff_exists.1 (hspelt command hline)
      simp only [part?, isDropped, hline, UpgradeLine.ofLine_embedded hline, hrest]
      simp
    | _ => simp [part?, isDropped, hline]

theorem databaseAfter_append (before after : List Stretch) :
    databaseAfter ctx database (before ++ after) =
      databaseAfter ctx (databaseAfter ctx database before) after := by
  unfold databaseAfter
  rw [List.filterMap_append, List.getLast?_append]
  cases (after.filterMap Stretch.use?).getLast? <;> rfl

theorem partsOf_cons (stretch : Stretch) (cut : List Stretch) :
    partsOf ctx database (stretch :: cut) = (stretch.part? ctx database).toList ++
      partsOf ctx (databaseAfter ctx database [stretch]) cut := by
  have hlater : ((cut.inits.map (stretch :: ·)).zip cut).filterMap (fun (before, later) =>
      later.part? ctx (databaseAfter ctx database before)) =
        partsOf ctx (databaseAfter ctx database [stretch]) cut := by
    rw [List.zip_map_left, List.filterMap_map]
    refine List.filterMap_congr fun (before, later) _ => ?_
    exact congrArg (later.part? ctx) (databaseAfter_append [stretch] before)
  rw [partsOf, List.inits_cons, List.zip_cons_cons, List.filterMap_cons, hlater]
  have hfirst : databaseAfter ctx database [] = database := rfl
  simp only [hfirst]
  cases stretch.part? ctx database <;> rfl

theorem partsOf_append (before after : List Stretch) :
    partsOf ctx database (before ++ after) = partsOf ctx database before ++
      partsOf ctx (databaseAfter ctx database before) after := by
  induction before generalizing database with
  | nil => rfl
  | cons stretch before ih =>
    rw [List.cons_append, partsOf_cons, ih, partsOf_cons, List.append_assoc,
      ← databaseAfter_append]
    rfl

/-- The stretch that gathered lines come to, the last line first. -/
def heldBack (pending : List Text) : List Stretch :=
  if pending = [] then [] else [.sql pending.reverse]

theorem foldl_extend_sql (run : List Text) (cut : List Stretch) : ∀ pending : List Text,
    pending.foldl (fun cut line => extend line cut) (.sql run :: cut) =
      .sql (pending.reverse ++ run) :: cut
  | [] => rfl
  | line :: pending => by
    rw [List.foldl_cons, extend, foldl_extend_sql (line :: run) cut pending, List.reverse_cons,
      List.append_assoc]
    rfl

/-- Gathered lines make a stretch of their own before a control line and at the end. -/
theorem foldl_extend (hfirst : ∀ stretch ∈ cut.head?, stretch.isSql = false)
    (pending : List Text) :
    pending.foldl (fun cut line => extend line cut) cut = heldBack pending ++ cut := by
  cases pending with
  | nil => rfl
  | cons line pending =>
    have hone : extend line cut = .sql [line] :: cut := by
      match cut, hfirst with
      | [], _ => rfl
      | .control _ :: _, _ => rfl
      | .sql run :: _, h => cases h _ rfl
    rw [List.foldl_cons, hone, foldl_extend_sql]
    simp [heldBack]

theorem filterMap_gathered (ctx : Context) (database : Option Text) (pending : List Text) :
    (gathered database pending).filterMap Step.part? =
      partsOf ctx database (heldBack pending) := by
  unfold heldBack gathered
  cases pending with
  | nil => rfl
  | cons line pending =>
    simp only [reduceCtorEq, if_false, partsOf_cons, Stretch.part?]
    split <;> rfl

theorem databaseAfter_heldBack (pending : List Text) :
    databaseAfter ctx database (heldBack pending) = database := by
  unfold heldBack
  split <;> rfl

/-- The steps of a control line. -/
theorem filterMap_plan_control (hsql : UpgradeLine.ofLine line ≠ .sql)
    (hexit : UpgradeLine.ofLine line ≠ .exit) (pending : List Text) :
    (plan ctx database pending (line :: lines)).filterMap Step.part? =
      (gathered database pending).filterMap Step.part? ++
        (((Stretch.control line).part? ctx database).toList ++
          (plan ctx (databaseAfter ctx database [.control line]) [] lines).filterMap
            Step.part?) := by
  rw [plan, List.filterMap_cons]
  cases hstep : UpgradeLine.ofLine line with
  | sql => exact absurd hstep hsql
  | exit => exact absurd hstep hexit
  | use name => simp [Step.part?, Stretch.part?, databaseAfter, Stretch.use?, hstep]
  | embedded command =>
    simp only [Step.part?, Stretch.part?, databaseAfter, Stretch.use?, hstep, commanded]
    cases ParsedLine.ofLine ctx.resolveWord ctx.env.root command <;>
      simp [Step.part?, Stretch.use?, hstep]
  | rename => simp [Step.part?, Stretch.part?, databaseAfter, Stretch.use?, hstep, alone]
  | terminator => simp [Step.part?, Stretch.part?, databaseAfter, Stretch.use?, hstep]

/-- The parts of the walk are those of the stretches. -/
theorem filterMap_plan : ∀ (lines : List Text) (database : Option Text) (pending : List Text),
    (plan ctx database pending lines).filterMap Step.part? =
      partsOf ctx database (pending.foldl (fun cut line => extend line cut) (stretches lines))
  | [], database, pending => by
    rw [plan, stretches, foldl_extend (by simp), List.append_nil, filterMap_gathered ctx]
  | line :: lines, database, pending => by
    by_cases hexit : UpgradeLine.ofLine line = .exit
    · rw [stretches_cons_exit hexit, foldl_extend (by simp), List.append_nil, plan, hexit]
      exact filterMap_gathered ctx database pending
    · by_cases hsql : UpgradeLine.ofLine line = .sql
      · rw [stretches_cons_sql hsql, plan, hsql]
        exact filterMap_plan lines database (line :: pending)
      · rw [stretches_cons_control hsql hexit, foldl_extend (by simp [Stretch.isSql]),
          partsOf_append, databaseAfter_heldBack, partsOf_cons, filterMap_plan_control hsql hexit,
          filterMap_gathered ctx, filterMap_plan lines]
        rfl

end Parts

end Upgrade

end SqlBuild
