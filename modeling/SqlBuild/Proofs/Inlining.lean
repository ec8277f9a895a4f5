import Mathlib.Data.List.Basic
import SqlBuild.Proofs.BuildParts
import SqlBuild.Proofs.Compilation
import SqlBuild.Proofs.Directories
import SqlBuild.Proofs.Lines
import SqlBuild.Proofs.Plays
import SqlBuild.Rehearsal.MemoryServer

/-!
# One script in place of many

When nobody cancels, a run does not depend on its looks at the token (`Run.undisturbed`), and a
build depends on its parts alone (`Build.alike_of_parts`). The parts of a build script are those of
its lines with every line that includes another script replaced by the lines of that script, as long
as no script is refused for being on the stack or too deep (`Build.parts_of_clear`).
-/

namespace SqlBuild

/-- The host when nobody cancels. -/
def Host.uncancelled {σ : Type} (host : Host σ) : Host σ where
  answer
    | .poll, s => (false, s)
    | action, s => host.answer action s

/-- What is done and said, and what comes back: everything but the looks at the token. -/
def doings (events : List Event) : List Event := events.filter (·.action != .poll)

namespace Run

variable {α β : Type}

/-- The run without its looks at the token, none of which finds it set. -/
def undisturbed : Run α → Run α
  | done a => done a
  | ask .poll next => (next false).undisturbed
  | ask action next => ask action fun reply => (next reply).undisturbed

theorem undisturbed_ask {action : Action} (h : action ≠ .poll) (next : action.Reply → Run α) :
    (ask action next).undisturbed = ask action fun reply => (next reply).undisturbed := by
  cases action with
  | poll => exact absurd rfl h
  | _ => rfl

theorem answer_uncancelled {σ : Type} (host : Host σ) {action : Action} (h : action ≠ .poll)
    (s : σ) : host.uncancelled.answer action s = host.answer action s := by
  cases action with
  | poll => exact absurd rfl h
  | _ => rfl

theorem undisturbed_bind (f : α → Run β) (r : Run α) :
    (r >>= f).undisturbed = r.undisturbed >>= fun a => (f a).undisturbed := by
  induction r with
  | done a => rfl
  | ask action next ih =>
    by_cases h : action = .poll
    · subst h
      exact ih false
    · rw [ask_bind, undisturbed_ask h, undisturbed_ask h, ask_bind]
      exact congrArg _ (funext ih)

theorem exec_uncancelled {σ : Type} (host : Host σ) (r : Run α) (s : σ) :
    r.exec host.uncancelled s = r.undisturbed.exec host s := by
  induction r generalizing s with
  | done a => rfl
  | ask action next ih =>
    by_cases h : action = .poll
    · subst h
      exact ih false s
    · rw [undisturbed_ask h, exec_ask, exec_ask, answer_uncancelled host h]
      exact ih _ _

theorem doings_trace_uncancelled {σ : Type} (host : Host σ) (r : Run α) (s : σ) :
    doings (r.trace host.uncancelled s) = r.undisturbed.trace host s := by
  induction r generalizing s with
  | done a => rfl
  | ask action next ih =>
    by_cases h : action = .poll
    · subst h
      exact ih false s
    · rw [undisturbed_ask h, trace, trace, answer_uncancelled host h, doings,
        List.filter_cons_of_pos (by simpa using h)]
      exact congrArg _ (ih _ _)

end Run

namespace Exec

variable {α β : Type}

/-- The two do the same when nobody cancels. -/
def Alike (x y : Exec α) : Prop := x.run.undisturbed = y.run.undisturbed

theorem Alike.bind {x y : Exec α} {f g : α → Exec β} (h : Alike x y)
    (hnext : ∀ a, Alike (f a) (g a)) : Alike (x >>= f) (y >>= g) := by
  rw [Alike, ExceptT.run_bind, ExceptT.run_bind, Run.undisturbed_bind, Run.undisturbed_bind, h]
  refine congrArg _ (funext fun result => ?_)
  cases result with
  | ok a => exact hnext a
  | error e => rfl

theorem alike_checkCancelled_bind (f : Unit → Exec α) : Alike (checkCancelled >>= f) (f ()) := rfl

end Exec

namespace Build

variable {ctx : Context} {vars : RunVariables}

theorem alike_runSteps : ∀ (steps : List Step) (total : Outcome),
    Exec.Alike (runSteps ctx steps total)
      (runSteps ctx ((steps.filterMap Step.part?).map .part) total)
  | [], _ => rfl
  | .poll :: rest, total => (Exec.alike_checkCancelled_bind _).trans (alike_runSteps rest total)
  | .part p :: rest, total =>
    Exec.Alike.bind (x := p.run ctx) rfl fun outcome => alike_runSteps rest (total + outcome)

/-- When nobody cancels, a build is told by its parts and its audit entry. -/
theorem alike_of_parts {vars' : RunVariables} (hparts : parts ctx vars = parts ctx vars')
    (hentry : Audit.writeIfDue ctx "runcreate" vars = Audit.writeIfDue ctx "runcreate" vars') :
    Exec.Alike (run ctx vars) (run ctx vars') := by
  have hsteps : Exec.Alike (runSteps ctx (plan ctx maxDepth [] vars) {})
      (runSteps ctx (plan ctx maxDepth [] vars') {}) := by
    refine (alike_runSteps _ _).trans (Eq.trans ?_ (alike_runSteps _ _).symm)
    rw [show (plan ctx maxDepth [] vars).filterMap Step.part? =
      (plan ctx maxDepth [] vars').filterMap Step.part? from hparts]
  rw [run_eq, run_eq, hentry]
  exact Exec.Alike.bind rfl fun _ => hsteps.bind fun outcome => rfl

/-! ### Scripts that include scripts -/

def identityOf (ctx : Context) (source : Text) : Text := ctx.files.identity (ctx.locate source)

def isReadable (ctx : Context) (source : Text) : Bool :=
  (ctx.files.readLossy (ctx.locate source)).toBool

/-- The lines of a script, none if it cannot be read. -/
def linesOf (ctx : Context) (source : Text) : List Text :=
  match ctx.files.readLossy (ctx.locate source) with
  | .ok content => Text.lines content
  | .error _ => []

/-- The script that a line includes: that of a build command, if there is such a file. -/
def included? (ctx : Context) (line : Text) : Option Text :=
  match ParsedLine.ofLine ctx.resolveWord ctx.env.root line with
  | .command found =>
    if found.command = .runCreate then
      found.source.filter fun source => ctx.files.isFile (ctx.locate source)
    else none
  | _ => none

def included (ctx : Context) (source : Text) : List Text :=
  (linesOf ctx source).filterMap (included? ctx)

/-- The lines of a script with the lines of every script it includes in place of the line that
includes it, `levels` scripts deep. A file that cannot be read has no lines to put there. -/
def inlined (ctx : Context) : Nat → Text → List Text
  | 0, _ => []
  | levels + 1, source => (linesOf ctx source).flatMap fun line =>
    match included? ctx line with
    | some inner => if isReadable ctx inner then inlined ctx levels inner else [line]
    | none => [line]

/-- Each script of the way includes the next one. -/
def IsWay (ctx : Context) (way : List Text) : Prop :=
  way.IsChain fun outer inner => inner ∈ included ctx outer

/-- The scripts below a root include one another without cycles and to a depth that is allowed. -/
structure Nests (ctx : Context) (root : Text) : Prop where
  acyclic : ∀ way, IsWay ctx (root :: way) → ((root :: way).map (identityOf ctx)).Nodup
  shallow : ∀ way, IsWay ctx (root :: way) → (root :: way).length ≤ maxDepth

/-- Whether no script is refused for being on the stack, or for being too deep. -/
def clear (ctx : Context) : Nat → List Text → Text → Bool
  | 0, _, _ => false
  | depth + 1, stack, source => !stack.contains (identityOf ctx source) &&
      (included ctx source).all (clear ctx depth (identityOf ctx source :: stack))

theorem clear_succ {depth : Nat} {stack : List Text} {source : Text} :
    clear ctx (depth + 1) stack source = true ↔ identityOf ctx source ∉ stack ∧
      ∀ inner ∈ included ctx source,
        clear ctx depth (identityOf ctx source :: stack) inner = true := by
  simp [clear]

theorem clear_iff : ∀ {depth : Nat} {stack : List Text} {source : Text},
    clear ctx depth stack source = true ↔ ∀ way, IsWay ctx (source :: way) →
      (source :: way).length ≤ depth ∧ ((source :: way).map (identityOf ctx)).Nodup ∧
        ∀ s ∈ source :: way, identityOf ctx s ∉ stack
  | 0, stack, source => by
    refine iff_of_false (by simp [clear]) fun h => ?_
    simpa using (h [] (.singleton _)).1
  | depth + 1, stack, source => by
    rw [clear_succ]
    constructor
    · rintro ⟨hstack, hinner⟩ way hway
      -- The rest of the way starts at an included script, with the first script on its stack.
      cases way with
      | nil => simpa using hstack
      | cons inner way =>
        obtain ⟨hmem, hrest⟩ := List.isChain_cons_cons.1 hway
        obtain ⟨hlength, hnodup, hbelow⟩ := clear_iff.1 (hinner inner hmem) way hrest
        refine ⟨Nat.succ_le_succ hlength, ?_, ?_⟩
        · rw [List.map_cons, List.nodup_cons]
          refine ⟨fun hm => ?_, hnodup⟩
          obtain ⟨s, hs, heq⟩ := List.mem_map.1 hm
          exact hbelow s hs (heq ▸ List.mem_cons_self)
        · intro s hs
          rcases List.mem_cons.1 hs with rfl | hs
          · exact hstack
          · exact fun hm => hbelow s hs (List.mem_cons_of_mem _ hm)
    · intro h
      refine ⟨(h [] (.singleton _)).2.2 source List.mem_cons_self, fun inner hmem => ?_⟩
      refine clear_iff.2 fun way hway => ?_
      obtain ⟨hlength, hnodup, hstack⟩ := h (inner :: way) (List.isChain_cons_cons.2 ⟨hmem, hway⟩)
      rw [List.map_cons, List.nodup_cons] at hnodup
      refine ⟨Nat.le_of_succ_le_succ hlength, hnodup.2, fun s hs hm => ?_⟩
      rcases List.mem_cons.1 hm with heq | hm
      · exact hnodup.1 (List.mem_map.2 ⟨s, hs, heq⟩)
      · exact hstack s (List.mem_cons_of_mem _ hs) hm

theorem nests_iff {root : Text} : Nests ctx root ↔ clear ctx maxDepth [] root = true := by
  rw [clear_iff]
  constructor
  · intro h way hway
    exact ⟨h.shallow way hway, h.acyclic way hway, by simp⟩
  · intro h
    exact ⟨fun way hway => (h way hway).2.1, fun way hway => (h way hway).1⟩

instance (root : Text) : Decidable (Nests ctx root) := decidable_of_iff _ nests_iff.symm

/-! ### The lines that stay -/

/-- The parts of a line that includes no script. -/
def keptParts (ctx : Context) (vars : RunVariables) (line : Text) : List Part :=
  (lineSteps ctx vars (plan ctx 1 []) line).filterMap Step.part?

theorem isFile_of_isReadable {source : Text} (h : isReadable ctx source = true) :
    ctx.files.isFile (ctx.locate source) = true :=
  let ⟨_, hcontent⟩ := exists_eq_ok h
  FileTree.isFile_of_readLossy hcontent

theorem plan_of_isFile {depth : Nat} {stack : List Text}
    (hfile : ctx.files.isFile (ctx.locate vars.source) = true)
    (hstack : identityOf ctx vars.source ∉ stack) :
    plan ctx (depth + 1) stack vars = match ctx.files.readLossy (ctx.locate vars.source) with
      | .error cause => [.part (.refused (.unreadable (ctx.locate vars.source) cause))]
      | .ok content => (Text.lines content).flatMap
          (lineSteps ctx vars (plan ctx depth (identityOf ctx vars.source :: stack))) := by
  rw [plan_succ, if_neg (by simp [hfile])]
  exact if_neg hstack

/-- A script that cannot be read comes to the same refusal wherever it is included. -/
theorem plan_of_not_isReadable {depth : Nat} {stack : List Text}
    (h : ctx.files.isFile (ctx.locate vars.source) = true → depth ≠ 0 ∧
      isReadable ctx vars.source = false ∧ identityOf ctx vars.source ∉ stack) :
    plan ctx depth stack vars = plan ctx 1 [] vars := by
  by_cases hfile : ctx.files.isFile (ctx.locate vars.source) = true
  · obtain ⟨hdepth, hread, hstack⟩ := h hfile
    obtain ⟨fewer, rfl⟩ := Nat.exists_eq_succ_of_ne_zero hdepth
    rw [plan_of_isFile hfile hstack, plan_of_isFile hfile List.not_mem_nil]
    cases hcontent : ctx.files.readLossy (ctx.locate vars.source) with
    | error cause => rfl
    | ok content => simp [isReadable, hcontent, Except.toBool] at hread
  · cases depth <;> simp [plan_zero, plan_succ, hfile]

theorem lineSteps_kept {depth : Nat} {stack : List Text} {line : Text}
    (h : ∀ inner, included? ctx line = some inner → depth ≠ 0 ∧ isReadable ctx inner = false ∧
      identityOf ctx inner ∉ stack) :
    lineSteps ctx vars (plan ctx depth stack) line = lineSteps ctx vars (plan ctx 1 []) line := by
  unfold lineSteps
  unfold included? at h
  cases hparsed : ParsedLine.ofLine ctx.resolveWord ctx.env.root line with
  | command found =>
    rw [hparsed] at h
    refine congrArg _ ?_
    dsimp only at h ⊢
    unfold commandSteps
    cases hcommand : found.command <;> cases hsource : found.source <;> try rfl
    rename_i source
    refine plan_of_not_isReadable fun hfile => h source ?_
    rw [if_pos hcommand, hsource]
    exact Option.filter_eq_some_iff.2 ⟨rfl, hfile⟩
  | _ => rfl

theorem lineSteps_included {enter : RunVariables → List Step} {line inner : Text}
    (h : included? ctx line = some inner) :
    lineSteps ctx vars enter line = .poll :: enter (vars.nested inner) := by
  unfold included? at h
  unfold lineSteps
  cases hparsed : ParsedLine.ofLine ctx.resolveWord ctx.env.root line with
  | command found =>
    rw [hparsed] at h
    dsimp only at h ⊢
    split at h
    · rename_i hcommand
      rw [commandSteps, hcommand, (Option.filter_eq_some_iff.1 h).1]
    · cases h
  | _ =>
    rw [hparsed] at h
    cases h

theorem ofLine_dropReturn (resolve : Text → Text) (root line : Text) :
    ParsedLine.ofLine resolve root (Text.dropReturn line) =
      ParsedLine.ofLine resolve root line := by
  rw [ParsedLine.ofLine, ParsedLine.ofLine, Text.trim_dropReturn]

theorem mem_inlined {line : Text} : ∀ {levels : Nat} {source : Text},
    line ∈ inlined ctx levels source → '\n' ∉ line ∧
      ∀ inner, included? ctx line = some inner → isReadable ctx inner = false
  | 0, _, h => by simp [inlined] at h
  | levels + 1, source, h => by
    obtain ⟨outer, houter, hmem⟩ := List.mem_flatMap.1 h
    have hfeed : '\n' ∉ outer := by
      unfold linesOf at houter
      split at houter
      · exact Text.not_mem_lines houter
      · cases houter
    split at hmem
    · rename_i inner hinner
      split at hmem
      · exact mem_inlined hmem
      · rename_i hread
        obtain rfl := List.mem_singleton.1 hmem
        refine ⟨hfeed, fun other hother => ?_⟩
        obtain rfl := Option.some.inj (hinner.symm.trans hother)
        simpa using hread
    · rename_i hnone
      obtain rfl := List.mem_singleton.1 hmem
      exact ⟨hfeed, fun other hother => absurd (hnone.symm.trans hother) (by simp)⟩

/-- The parts of a script are those of its lines with every included script in place. -/
theorem parts_of_clear : ∀ {depth levels : Nat} {stack : List Text} {vars : RunVariables},
    clear ctx depth stack vars.source = true → isReadable ctx vars.source = true →
      depth ≤ levels → (plan ctx depth stack vars).filterMap Step.part? =
        (inlined ctx levels vars.source).flatMap (keptParts ctx vars)
  | 0, _, _, _, hclear, _, _ => by simp [clear] at hclear
  | depth + 1, 0, _, _, _, _, hlevels => by omega
  | depth + 1, levels + 1, stack, vars, hclear, hread, hlevels => by
    obtain ⟨hstack, hinner⟩ := clear_succ.1 hclear
    obtain ⟨content, hcontent⟩ := exists_eq_ok hread
    have hplan : plan ctx (depth + 1) stack vars = (linesOf ctx vars.source).flatMap
        (lineSteps ctx vars (plan ctx depth (identityOf ctx vars.source :: stack))) := by
      rw [plan_of_isFile (isFile_of_isReadable hread) hstack, linesOf, hcontent]
    -- Line by line; stack and depth show only where a script that cannot be read is included.
    rw [hplan, inlined, List.filterMap_flatMap, List.flatMap_assoc]
    refine List.flatMap_congr fun line hline => ?_
    have hmem : ∀ inner, included? ctx line = some inner → inner ∈ included ctx vars.source :=
      fun inner h => List.mem_filterMap.2 ⟨line, hline, h⟩
    have hkept : (∀ inner, included? ctx line = some inner → isReadable ctx inner = false) →
        (lineSteps ctx vars (plan ctx depth (identityOf ctx vars.source :: stack)) line).filterMap
          Step.part? = [line].flatMap (keptParts ctx vars) := by
      intro hunread
      rw [List.flatMap_singleton, keptParts, lineSteps_kept fun inner h => ?_]
      have hnext := hinner inner (hmem inner h)
      cases depth with
      | zero => simp [clear] at hnext
      | succ depth => exact ⟨by simp, hunread inner h, (clear_succ.1 hnext).1⟩
    cases hincluded : included? ctx line with
    | none => exact hkept fun inner h => absurd (hincluded.symm.trans h) (by simp)
    | some inner =>
      dsimp only
      cases hinnerRead : isReadable ctx inner with
      | false =>
        refine hkept fun other h => ?_
        obtain rfl := Option.some.inj (hincluded.symm.trans h)
        exact hinnerRead
      | true =>
        have ih : (plan ctx depth (identityOf ctx vars.source :: stack)
            (vars.nested inner)).filterMap Step.part? =
              (inlined ctx levels inner).flatMap (keptParts ctx (vars.nested inner)) :=
          parts_of_clear (hinner inner (hmem inner hincluded)) hinnerRead
            (Nat.le_of_succ_le_succ hlevels)
        rw [lineSteps_included hincluded, if_pos rfl]
        exact ih

/-- The parts of a script that is made of lines of others. -/
theorem parts_of_unlines {lines : List Text}
    (hflat : ctx.files.readLossy (ctx.locate vars.source) = .ok (Text.unlines lines))
    (hkept : ∀ line ∈ lines, '\n' ∉ line ∧ ∀ inner, included? ctx line = some inner →
      isReadable ctx inner = false ∧ identityOf ctx inner ≠ identityOf ctx vars.source) :
    parts ctx vars = lines.flatMap (keptParts ctx vars) := by
  have hlines := Text.lines_unlines fun line hline => (hkept line hline).1
  have hplan : plan ctx maxDepth [] vars = (lines.map Text.dropReturn).flatMap
      (lineSteps ctx vars (plan ctx 31 [identityOf ctx vars.source])) := by
    have hfile := FileTree.isFile_of_readLossy hflat
    rw [show maxDepth = 31 + 1 from rfl, plan_of_isFile hfile List.not_mem_nil, hflat, ← hlines]
  rw [parts, hplan, List.filterMap_flatMap, List.flatMap_map]
  refine List.flatMap_congr fun line hline => ?_
  have hreturn : ∀ enter, lineSteps ctx vars enter (Text.dropReturn line) =
      lineSteps ctx vars enter line := by
    intro enter
    rw [lineSteps, lineSteps, ofLine_dropReturn]
  rw [hreturn, keptParts, lineSteps_kept fun inner h => ?_]
  obtain ⟨hread, hother⟩ := (hkept line hline).2 inner h
  exact ⟨by simp, hread, by simpa using hother⟩

/-- A file that can be read and one that cannot are two files. -/
theorem identityOf_ne (hnamed : ctx.files.WellNamed) {a b : Text}
    (ha : ctx.files.isFile (ctx.locate a) = true) (hread : isReadable ctx a = false)
    (hb : isReadable ctx b = true) : identityOf ctx a ≠ identityOf ctx b := by
  intro hid
  have hfind := FileTree.find_congr_of_identity hnamed ha (isFile_of_isReadable hb) hid
  have hsame : ctx.files.readLossy (ctx.locate a) = ctx.files.readLossy (ctx.locate b) := by
    unfold FileTree.readLossy FileTree.read
    rw [hfind]
  rw [isReadable, hsame] at hread
  exact absurd (hread.symm.trans hb) (by simp)

theorem isFile_of_included {line inner : Text} (h : included? ctx line = some inner) :
    ctx.files.isFile (ctx.locate inner) = true := by
  unfold included? at h
  split at h
  · split at h
    · exact (Option.filter_eq_some_iff.1 h).2
    · cases h
  · cases h

/-- Where build scripts include one another without cycles and no deeper than is allowed, a build
does, says and returns what it does for the one script of all their lines, on every host and as long
as nobody cancels: the same is asked of the server in the same order, the same is written, and the
outcome and what the host is left in are the same. -/
theorem nesting_is_inlining (ctx : Context) (vars : RunVariables) {flat : Text} {levels : Nat}
    (hnamed : ctx.files.WellNamed) (hroot : isReadable ctx vars.source = true)
    (hnests : Nests ctx vars.source) (hlevels : maxDepth ≤ levels)
    (hflat : ctx.files.readLossy (ctx.locate flat) =
      .ok (Text.unlines (inlined ctx levels vars.source)))
    {σ : Type} (host : Host σ) (s : σ) :
    let nested := (run ctx vars).run
    let single := (run ctx { vars with source := flat }).run
    doings (nested.trace host.uncancelled s) = doings (single.trace host.uncancelled s) ∧
      nested.exec host.uncancelled s = single.exec host.uncancelled s := by
  have hflatRead : isReadable ctx flat = true := by
    rw [isReadable, hflat]
    rfl
  have hnested : parts ctx vars = (inlined ctx levels vars.source).flatMap (keptParts ctx vars) :=
    parts_of_clear (nests_iff.1 hnests) hroot hlevels
  have hsingle : parts ctx { vars with source := flat } =
      (inlined ctx levels vars.source).flatMap (keptParts ctx { vars with source := flat }) := by
    refine parts_of_unlines hflat fun line hline => ?_
    obtain ⟨hfeed, hleft⟩ := mem_inlined hline
    refine ⟨hfeed, fun inner h => ⟨hleft inner h, ?_⟩⟩
    exact identityOf_ne hnamed (isFile_of_included h) (hleft inner h) hflatRead
  have halike : Exec.Alike (run ctx vars) (run ctx { vars with source := flat }) :=
    alike_of_parts (hnested.trans hsingle.symm) rfl
  intro nested single
  constructor
  · rw [Run.doings_trace_uncancelled, Run.doings_trace_uncancelled, halike]
  · rw [Run.exec_uncancelled, Run.exec_uncancelled, halike]

open Rehearsal

/-- A script that includes another one twice, which includes a third, and a file that is not there.
All their lines stand in `/flat` as well. -/
def threeScripts : Context :=
  let env : Environment :=
    { name := "dev", host := "dbhost", port := none, user := "sa", password := "secret",
      platform := .mssql, company := "101", language := "1", root := "/sql", rawMode := false,
      named := true }
  { env
    options := { env, maxAge := 0 }
    files := { entries := [
      (["outer"], .file (Utf8.encode
        "runcreate /b\nrunsql /x -Dm\nruncreate /no\nruncreate /b\n") 0),
      (["b"], .file (Utf8.encode "# b\r\nruncreate /c") 0),
      (["c"], .file (Utf8.encode "runsql /x -F1 -L2\n") 0),
      (["flat"], .file (Utf8.encode
        "# b\nrunsql /x -F1 -L2\nrunsql /x -Dm\nruncreate /no\n# b\nrunsql /x -F1 -L2\n") 0),
      (["x"], .file (Utf8.encode "@sequence@\ngo\n") 0)] } }

theorem nesting_is_inlining_threeScripts :
    let vars : RunVariables := { source := "/outer", database := some "db", echo := true }
    let left := fun vars => (run threeScripts vars).run.exec MemoryServer.host.uncancelled {}
    threeScripts.files.WellNamed ∧ Nests threeScripts vars.source ∧ maxDepth ≤ 32 ∧
      left vars = left { vars with source := "/flat" } ∧
      (left vars).1.toOption = some { executed := 4, failed := 1 } ∧
      (left vars).2.log.length = 15 := by
  intro vars left
  have hnests : Nests threeScripts "/outer" := by decide +kernel
  have hnamed : threeScripts.files.WellNamed := by simp [FileTree.WellNamed, threeScripts]
  have hflat : threeScripts.files.readLossy (threeScripts.locate "/flat") =
      .ok (Text.unlines (inlined threeScripts 32 "/outer")) := by decide +kernel
  have hsame := (nesting_is_inlining threeScripts vars hnamed (by decide +kernel) hnests
    (Nat.le_refl 32) hflat MemoryServer.host {}).2
  exact ⟨hnamed, hnests, Nat.le_refl 32, hsame, by decide +kernel, by decide +kernel⟩

end Build

end SqlBuild
