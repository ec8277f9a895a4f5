import SqlBuild.Proofs.Conditionals
import SqlBuild.Proofs.LetterCase
import SqlBuild.Proofs.Lines
import SqlBuild.Run.Build

/-!
# Conditional build lines

A placeholder at the start of a build line is replaced before anything else is read off the line
(`ofLine_placeholder`). A comment opening in its place leaves no command on the line, since no
command is spelt like one (`ofName?_commentOpen`), and nothing in its place leaves the line that
stands behind it. So a conditional turns build lines on and off (`conditional_switches_lines`).
-/

namespace SqlBuild

/-- No command is spelt like the opening of a comment. -/
theorem BuildCommand.ofName?_commentOpen (t : Text) :
    BuildCommand.ofName? (Dictionary.commentOpen ++ t) = none := by
  refine List.find?_eq_none.2 fun command hcommand hsame => ?_
  have hletter : ∀ command ∈ all, command.name.head?.map Char.toLower ≠ some '/' := by decide
  exact hletter command hcommand (Text.head?_of_sameIgnoringCase hsame)

namespace ParsedLine

variable {resolve : Text → Text} {root name line t : Text} {c : Char}

theorem resolveHead_placeholder (free : '&' ∉ name) (rest : Text) :
    resolveHead resolve ('&' :: name ++ '&' :: rest) =
      Text.trim (resolve ('&' :: name ++ ['&']) ++ rest) := by
  have hname : (name ++ '&' :: rest).takeWhile (fun c => decide (c ≠ '&')) = name := by
    rw [List.takeWhile_append_of_pos fun c hc => by simpa using ne_of_mem_of_not_mem hc free]
    simp
  have hrest : (name ++ '&' :: rest).drop (name.length + 1) = rest := by simp
  have hclosed : '&' ∈ name ++ '&' :: rest := by simp
  rw [List.cons_append, resolveHead]
  simp only [hclosed, if_true, hname, hrest]

theorem resolveHead_of_ne (hc : c ≠ '&') (t : Text) : resolveHead resolve (c :: t) = c :: t := by
  unfold resolveHead
  split
  · rename_i h
    exact absurd (List.cons.inj h).1 hc
  · rfl

/-- A line that is not blank and does not start with `#`. -/
theorem ofLine_of_trim (htrim : Text.trim line = c :: t) (hc : c ≠ '#') :
    ofLine resolve root line = ofResolved resolve root (resolveHead resolve (c :: t)) := by
  have hnt : Text.afterIgnoringCase? "#NT" (c :: t) = none :=
    Text.afterIgnoringCase?_cons_of_ne (fun h => hc (eq_of_toLower_eq h (by decide))) "NT" t
  have htext : ¬ (c :: t = [] ∨ Text.startsWith (c :: t) "#" = true) := by
    simp [Text.startsWith, Ne.symm hc]
  unfold ofLine
  simp only [htrim, hnt]
  exact if_neg htext

/-- A line whose first word is no placeholder. -/
theorem ofLine_of_trim_of_ne (htrim : Text.trim line = c :: t) (hc : c ≠ '#') (hname : c ≠ '&') :
    ofLine resolve root line = ofResolved resolve root (c :: t) := by
  rw [ofLine_of_trim htrim hc, resolveHead_of_ne hname]

theorem ofLine_placeholder (free : '&' ∉ name) (rest : Text) :
    ofLine resolve root ('&' :: name ++ '&' :: rest) = ofResolved resolve root
      (Text.trim (resolve ('&' :: name ++ ['&']) ++ Text.trimEnd rest)) := by
  have htrim : Text.trim ('&' :: name ++ '&' :: rest) =
      '&' :: (name ++ '&' :: Text.trimEnd rest) := by
    rw [List.cons_append, Text.trim_cons (by decide), Text.trimEnd_append_cons (by decide)]
  rw [ofLine_of_trim htrim (by decide), ← List.cons_append, resolveHead_placeholder free]

/-- Behind a comment opening a line has no command. -/
theorem ofResolved_commentOpen (t : Text) :
    ofResolved resolve root (Dictionary.commentOpen ++ t) =
      .inert (Dictionary.commentOpen ++ t) := by
  have hvisible : Dictionary.commentOpen.all (!isBlank ·) = true := by decide
  have hword : ((Dictionary.commentOpen ++ t).span (!isBlank ·)).1 =
      Dictionary.commentOpen ++ t.takeWhile (!isBlank ·) := by
    rw [List.span_eq_takeWhile_dropWhile,
      List.takeWhile_append_of_pos (List.all_eq_true.1 hvisible)]
  unfold ofResolved
  simp only [hword, BuildCommand.ofName?_commentOpen]

end ParsedLine

namespace Build

variable {ctx : Context} {line line' text : Text}

/-- Lines that are read alike are run alike. -/
theorem runLines_cons_congr
    (h : ParsedLine.ofLine ctx.resolveWord ctx.env.root line =
      ParsedLine.ofLine ctx.resolveWord ctx.env.root line') (vars : RunVariables)
    (enter : RunVariables → Exec Outcome) (rest : List Text) (total : Outcome) :
    runLines ctx vars enter (line :: rest) total =
      runLines ctx vars enter (line' :: rest) total := by
  rw [runLines, runLines, h]

theorem runLines_cons_inert
    (h : ParsedLine.ofLine ctx.resolveWord ctx.env.root line = .inert text) (vars : RunVariables)
    (enter : RunVariables → Exec Outcome) (rest : List Text) (total : Outcome) :
    runLines ctx vars enter (line :: rest) total = (do
      Exec.checkCancelled
      runLines ctx vars enter rest total) := by
  rw [runLines, h]

end Build

/-- What a context resolves texts with. -/
theorem Context.resolveWord_of_dictionary {ctx : Context} {d : Dictionary}
    (hraw : ctx.env.rawMode = false) (hd : ctx.options.dictionary = some d) :
    ctx.resolveWord = d.resolve := by
  funext t
  simp [resolveWord, resolve, OptionSet.resolve, OptionSet.resolveWord, hraw, hd]

namespace Dictionary

variable {d : Dictionary} {name value opening : Text} {live : Bool}

/-- A value without `&` is what its placeholder resolves to. -/
theorem resolve_placeholder (free : '&' ∉ name)
    (defined : d.get? ('&' :: name ++ ['&']) = some value) (hvalue : '&' ∉ value) :
    d.resolve ('&' :: name ++ ['&']) = value := by
  have hpass : d.pass ('&' :: name ++ ['&']) = value := by
    rw [pass_placeholder free defined, pass_eq_self List.not_mem_nil, List.append_nil]
  calc d.resolve ('&' :: name ++ ['&'])
      = d.pass^[10] ('&' :: name ++ ['&']) := resolveWithin_eq_iterate maxPasses _
    _ = d.pass^[9] value := by rw [Function.iterate_succ_apply, hpass]
    _ = value := Function.iterate_fixed (pass_eq_self hvalue) 9

/-- A build line that the reader neither skips nor resolves at its start. -/
def Ordinary (line : Text) : Prop :=
  Text.trim line ≠ [] ∧ Text.startsWith (Text.trim line) "#" = false ∧
    Text.startsWith (Text.trim line) "&" = false

instance (line : Text) : Decidable (Ordinary line) := inferInstanceAs (Decidable (_ ∧ _))

/-- Build lines that start with `opening` stand for the lines behind it when they are live, and for
no command at all when they are not; and a build does with them what it does with the lines behind
it, or nothing. -/
structure Switches (d : Dictionary) (opening : Text) (live : Bool) : Prop where
  on (hlive : live = true) (root : Text) {rest : Text} (hrest : Ordinary rest) :
    ParsedLine.ofLine d.resolve root (opening ++ rest) = ParsedLine.ofLine d.resolve root rest
  off (hlive : live = false) (root rest : Text) :
    ParsedLine.ofLine d.resolve root (opening ++ rest) = .inert ("/*" ++ Text.trimEnd rest)
  runs_on (hlive : live = true) {ctx : Context} (hraw : ctx.env.rawMode = false)
    (hd : ctx.options.dictionary = some d) (vars : RunVariables)
    (enter : RunVariables → Exec Outcome) {rest : Text} (hrest : Ordinary rest)
    (lines : List Text) (total : Outcome) :
    Build.runLines ctx vars enter ((opening ++ rest) :: lines) total =
      Build.runLines ctx vars enter (rest :: lines) total
  runs_off (hlive : live = false) {ctx : Context} (hraw : ctx.env.rawMode = false)
    (hd : ctx.options.dictionary = some d) (vars : RunVariables)
    (enter : RunVariables → Exec Outcome) (rest : Text) (lines : List Text) (total : Outcome) :
    Build.runLines ctx vars enter ((opening ++ rest) :: lines) total = (do
      Exec.checkCancelled
      Build.runLines ctx vars enter lines total)

/-- The text behind a placeholder without a value of its own is the line. -/
theorem ofLine_emptied (free : '&' ∉ name) (defined : d.get? ('&' :: name ++ ['&']) = some [])
    (root : Text) {rest : Text} (hrest : Ordinary rest) :
    ParsedLine.ofLine d.resolve root ('&' :: name ++ '&' :: rest) =
      ParsedLine.ofLine d.resolve root rest := by
  obtain ⟨hne, hhash, hname⟩ := hrest
  obtain ⟨c, t, htrim⟩ := List.exists_cons_of_ne_nil hne
  have hstart : ∀ a : Char, Text.startsWith (Text.trim rest) [a] = false → c ≠ a := by
    rintro a h rfl
    simp [htrim, Text.startsWith] at h
  calc ParsedLine.ofLine d.resolve root ('&' :: name ++ '&' :: rest)
      = ParsedLine.ofResolved d.resolve root (Text.trim ([] ++ Text.trimEnd rest)) := by
        rw [ParsedLine.ofLine_placeholder free, resolve_placeholder free defined List.not_mem_nil]
    _ = ParsedLine.ofResolved d.resolve root (c :: t) := by
        rw [List.nil_append, Text.trim_trimEnd, htrim]
    _ = ParsedLine.ofLine d.resolve root rest :=
        (ParsedLine.ofLine_of_trim_of_ne htrim (hstart '#' hhash) (hstart '&' hname)).symm

theorem ofLine_commented (free : '&' ∉ name)
    (defined : d.get? ('&' :: name ++ ['&']) = some commentOpen) (root rest : Text) :
    ParsedLine.ofLine d.resolve root ('&' :: name ++ '&' :: rest) =
      .inert (commentOpen ++ Text.trimEnd rest) := by
  have htrim : Text.trim (commentOpen ++ Text.trimEnd rest) = commentOpen ++ Text.trimEnd rest := by
    have hslash : commentOpen ++ Text.trimEnd rest = '/' :: ([] ++ '*' :: Text.trimEnd rest) := rfl
    rw [hslash, Text.trim_cons (by decide), Text.trimEnd_append_cons (by decide),
      Text.trimEnd_trimEnd]
  rw [ParsedLine.ofLine_placeholder free, resolve_placeholder free defined (by decide), htrim,
    ParsedLine.ofResolved_commentOpen]

theorem switches_of_get? (free : '&' ∉ name)
    (defined : d.get? ('&' :: name ++ ['&']) = some (if live then [] else commentOpen)) :
    d.Switches ('&' :: name ++ ['&']) live := by
  have hon : live = true → ∀ root {rest : Text}, Ordinary rest →
      ParsedLine.ofLine d.resolve root (('&' :: name ++ ['&']) ++ rest) =
        ParsedLine.ofLine d.resolve root rest := by
    rintro rfl root rest hrest
    rw [List.append_assoc]
    exact ofLine_emptied free defined root hrest
  have hoff : live = false → ∀ root rest,
      ParsedLine.ofLine d.resolve root (('&' :: name ++ ['&']) ++ rest) =
        .inert (commentOpen ++ Text.trimEnd rest) := by
    rintro rfl root rest
    rw [List.append_assoc]
    exact ofLine_commented free defined root rest
  refine ⟨hon, hoff, ?_, ?_⟩
  · intro hlive ctx hraw hd vars enter rest hrest lines total
    refine Build.runLines_cons_congr ?_ vars enter lines total
    rw [Context.resolveWord_of_dictionary hraw hd]
    exact hon hlive ctx.env.root hrest
  · intro hlive ctx hraw hd vars enter rest lines total
    have hinert : ParsedLine.ofLine ctx.resolveWord ctx.env.root
        (('&' :: name ++ ['&']) ++ rest) = .inert (commentOpen ++ Text.trimEnd rest) := by
      rw [Context.resolveWord_of_dictionary hraw hd]
      exact hoff hlive ctx.env.root rest
    exact Build.runLines_cons_inert hinert vars enter lines total

/-- Whatever the dictionary held before a conditional was recorded, the placeholder that opens it
turns build lines on when it is enabled and off when it is not, and the one that opens its negation
the other way round. -/
theorem conditional_switches_lines (d : Dictionary) (name : Text) (free : '&' ∉ name)
    (hfits : Text.byteLength ("&endifn_" ++ name ++ "&") ≤ 40) (enabled : Bool) {d' : Dictionary}
    (hd' : d' = d.insertConditional name enabled) :
    d'.Switches ("&if_" ++ name ++ "&") enabled ∧
      d'.Switches ("&ifn_" ++ name ++ "&") (!enabled) := by
  have hbrackets : d'.Brackets name enabled := by
    rw [hd']
    exact brackets_insertConditional (decide_eq_true hfits) enabled
  have hfree : ∀ marker : Text, '&' ∉ marker → '&' ∉ marker ++ name :=
    fun marker h hmem => (List.mem_append.1 hmem).elim h free
  refine ⟨switches_of_get? (hfree "if_" (by decide)) hbrackets.opening,
    switches_of_get? (hfree "ifn_" (by decide)) ?_⟩
  have hnot := hbrackets.openingNot
  cases enabled with
  | true => exact hnot
  | false => exact hnot

theorem conditional_switches_lines_onceLive :
    Text.byteLength "&endifn_live&" ≤ 40 ∧ Ordinary " runsql &sum&.sql -d sbn -F3 " ∧
      ParsedLine.ofLine (onceLive.insertConditional "live" false).resolve "/ibs"
        "&if_live& runsql &sum&.sql -d sbn -F3 " = .inert "/* runsql &sum&.sql -d sbn -F3" ∧
      ParsedLine.ofLine (onceLive.insertConditional "live" false).resolve "/ibs"
        "&ifn_live& runsql &sum&.sql -d sbn -F3 " = .command
          { command := .runSql
            source := some "(1 & 2).sql"
            args := []
            sequence := some ⟨3, 3⟩
            databases := ["sbn"] } := by
  have hordinary : Ordinary " runsql &sum&.sql -d sbn -F3 " := by decide
  obtain ⟨hlive, hnot⟩ :=
    conditional_switches_lines onceLive "live" (by decide) (by decide) false rfl
  refine ⟨by decide, hordinary, (hlive.off rfl "/ibs" _).trans (by decide +kernel), ?_⟩
  exact (hnot.on rfl "/ibs" hordinary).trans (by decide +kernel)

end Dictionary

end SqlBuild
