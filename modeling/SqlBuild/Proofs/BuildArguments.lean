import SqlBuild.Proofs.ConditionalLines
import SqlBuild.Proofs.Words

/-!
# The arguments of a build line

The words behind a command come in arguments: a flag with its value, words that are passed over, or
a word of its own. Reading one argument changes only what has been read so far
(`readWords_append`), so what a line says does not depend on where its flags stand among its other
words (`readWords_arguments`, `arguments_in_any_order`).
-/

namespace SqlBuild

namespace Text

theorem words_trimStart : ∀ t : Text, words (trimStart t) = words t
  | [] => rfl
  | c :: t => by
    by_cases hc : isBlank c = true
    · rw [trimStart, List.dropWhile_cons_of_pos hc, words_blank_cons hc]
      exact words_trimStart t
    · rw [trimStart, List.dropWhile_cons_of_neg hc]

theorem words_trim (t : Text) : words (trim t) = words t := by
  obtain ⟨blanks, hsplit, hblank⟩ := exists_trimEnd_append (trimStart t)
  calc words (trim t)
      = words (trim t ++ blanks) := (words_append_blanks hblank _).symm
    _ = words (trimStart t) := by rw [trim, ← hsplit]
    _ = words t := words_trimStart t

/-- The text up to the first blank. -/
theorem span_of_unbroken {word behind : Text} (hword : Unbroken word)
    (hbehind : behind.head?.all isBlank = true) :
    (word ++ behind).span (!isBlank ·) = (word, behind) := by
  have hvisible : ∀ c ∈ word, (!isBlank c) = true := fun c hc => by simp [hword c hc]
  have hstop : behind.takeWhile (!isBlank ·) = [] ∧ behind.dropWhile (!isBlank ·) = behind := by
    cases behind with
    | nil => exact ⟨rfl, rfl⟩
    | cons c t =>
      have hc : isBlank c = true := hbehind
      exact ⟨by simp [hc], by simp [hc]⟩
  rw [List.span_eq_takeWhile_dropWhile, List.takeWhile_append_of_pos hvisible,
    List.dropWhile_append_of_pos hvisible, hstop.1, hstop.2, List.append_nil]

theorem trimEnd_append_whole {word : Text} (hword : Whole word) (s behind : Text) :
    trimEnd (s ++ word ++ behind) = s ++ word ++ trimEnd behind := by
  obtain ⟨front, c, rfl⟩ := (List.eq_nil_or_concat' word).resolve_left hword.1
  have hc : isBlank c = false := hword.2 c (by simp)
  simpa using trimEnd_append_cons hc (s ++ front) behind

theorem trimStart_append_whole {word : Text} (hword : Whole word) (behind : Text) :
    trimStart (word ++ behind) = word ++ behind := by
  obtain ⟨c, rest, rfl⟩ := List.exists_cons_of_ne_nil hword.1
  have hc : isBlank c = false := hword.2 c List.mem_cons_self
  rw [List.cons_append, trimStart, List.dropWhile_cons_of_neg (by simp [hc])]

theorem trim_of_unbroken {word : Text} (hword : Unbroken word) : trim word = word := by
  by_cases hnil : word = []
  · rw [hnil]
    rfl
  · have hstart := trimStart_append_whole ⟨hnil, hword⟩ []
    have hend := trimEnd_append_whole ⟨hnil, hword⟩ [] []
    rw [List.append_nil] at hstart
    rw [trim, hstart]
    simpa [trimEnd, dropEndWhile] using hend

/-- What follows a text of the length of a prefix. -/
theorem afterIgnoringCase?_append {p p' q : Text} (hq : sameIgnoringCase q p' = true)
    (hlength : p'.length = p.length) (r : Text) :
    afterIgnoringCase? p (q ++ r) = if sameIgnoringCase p' p then some r else none := by
  have hlen : p.length = q.length := (length_of_sameIgnoringCase hq).trans hlength |>.symm
  have hsame : sameIgnoringCase q p = sameIgnoringCase p' p := by
    rw [sameIgnoringCase, sameIgnoringCase, lower, sameIgnoringCase_iff.1 hq, lower, lower]
  rw [afterIgnoringCase?, hlen, List.take_left, List.drop_left, hsame]

end Text

namespace BuildCommand

theorem mem_all (command : BuildCommand) : command ∈ all := by
  cases command with
  | compile kind => cases kind <;> decide
  | _ => decide

/-- The commands are told apart in whatever case they are spelt. -/
theorem ofName?_of_sameIgnoringCase {command : BuildCommand} {word : Text}
    (h : Text.sameIgnoringCase command.name word = true) : ofName? word = some command := by
  have hlower : Text.lower word = Text.lower command.name := (Text.sameIgnoringCase_iff.1 h).symm
  have hfind : ofName? word =
      all.find? fun found => Text.lower found.name == Text.lower command.name := by
    rw [← hlower]
    rfl
  rw [hfind]
  cases command with
  | compile kind => cases kind <;> decide
  | _ => decide

end BuildCommand

namespace BuildLine

/-- The letters of a flag. -/
def Flag.name : Flag → Text
  | first => "-F"
  | last => "-L"
  | database => "-D"

/-- An argument of a build line. -/
inductive Argument
  /-- A flag with its value, attached to it or as the next word. -/
  | flagged (flag : Flag) (spelling value : Text) (attached : Bool)
  /-- A word that is passed over. -/
  | legacy (word : Text)
  /-- A `-S` that is passed over together with the name of the server behind it. -/
  | server (word : Text)
  /-- The source, or a word that is left to the command. -/
  | plain (word : Text)

namespace Argument

def words : Argument → List Text
  | flagged _ spelling value true => [spelling ++ value]
  | flagged _ spelling value false => [spelling, value]
  | legacy word => [word]
  | server word => ["-S", word]
  | plain word => [word]

/-- Flags are spelt in either case, and bounds are 64-bit numbers. The words that are passed over
are `$1`, `-o` and the name of the server. Other words are none of these and start with no flag. -/
def WellFormed : Argument → Prop
  | flagged flag spelling value attached =>
    Text.sameIgnoringCase spelling flag.name = true ∧ (attached = true → value ≠ []) ∧
      (flag ≠ .database → (Text.signed? 64 value).isSome = true)
  | legacy word => isLegacy word = true
  | server word => isServer word = true
  | plain word =>
    isLegacy word = false ∧ word ≠ "-S" ∧
      ∀ flag : Flag, Text.afterIgnoringCase? flag.name word = none

instance (p : Flag → Prop) [DecidablePred p] : Decidable (∀ flag, p flag) :=
  decidable_of_iff (p .first ∧ p .last ∧ p .database)
    ⟨fun ⟨hfirst, hlast, hdatabase⟩ flag => by cases flag <;> assumption,
      fun h => ⟨h .first, h .last, h .database⟩⟩

instance : DecidablePred WellFormed
  | flagged .. => inferInstanceAs (Decidable (_ ∧ _))
  | legacy word => inferInstanceAs (Decidable (isLegacy word = true))
  | server word => inferInstanceAs (Decidable (isServer word = true))
  | plain _ => inferInstanceAs (Decidable (_ ∧ _))

/-- What has been read after one more argument. -/
def put (resolve : Text → Text) (root : Text) (a : Arguments) : Argument → Arguments
  | flagged flag _ value _ => a.put resolve flag (some value)
  | legacy _ => a
  | server _ => a
  | plain word => a.push root word

/-- The value that an argument gives a flag. -/
def value? (flag : Flag) : Argument → Option Text
  | flagged flag' _ value _ => if flag = flag' then some value else none
  | _ => none

def plain? : Argument → Option Text
  | plain word => some word
  | _ => none

end Argument

/-- The value of a bound that counts. -/
def bound (flag : Flag) (arguments : List Argument) : Option Int :=
  (arguments.filterMap (Argument.value? flag)).getLast?.bind (Text.signed? 64)

/-- The databases that are named, each once. -/
def named (resolve : Text → Text) (arguments : List Argument) : List Text :=
  (((arguments.filterMap (Argument.value? .database)).map resolve).filter (· ≠ [])).eraseDups

variable {resolve : Text → Text} {root : Text} {argument : Argument} {arguments : List Argument}

section Step

variable {flag : Flag} {spelling : Text}

theorem flag?_of_spelling (h : Text.sameIgnoringCase spelling flag.name = true) (value : Text) :
    flag? (spelling ++ value) = some (flag, if value = [] then none else some value) := by
  have hafter : ∀ other : Flag, Text.afterIgnoringCase? other.name (spelling ++ value) =
      if Text.sameIgnoringCase flag.name other.name = true then some value else none :=
    fun other => Text.afterIgnoringCase?_append h (by cases flag <;> cases other <;> decide) value
  have hfirst : Text.afterIgnoringCase? "-F" (spelling ++ value) = _ := hafter .first
  have hlast : Text.afterIgnoringCase? "-L" (spelling ++ value) = _ := hafter .last
  have hdatabase : Text.afterIgnoringCase? "-D" (spelling ++ value) = _ := hafter .database
  unfold flag?
  simp only [hfirst, hlast, hdatabase]
  cases flag <;> rfl

/-- A word that starts with a flag is not passed over. -/
theorem not_legacy_of_spelling (h : Text.sameIgnoringCase spelling flag.name = true)
    (value : Text) : isLegacy (spelling ++ value) = false ∧ spelling ++ value ≠ "-S" := by
  have hlower : (Text.lower (spelling ++ value)).take 2 = Text.lower flag.name := by
    rw [Text.lower, List.map_append, Text.sameIgnoringCase_iff.1 h]
    cases flag <;> rfl
  have hne : ∀ t ∈ ([("$1" : Text), "-o", "&sv&", "-s&sv&", "-s"] : List Text),
      Text.lower (spelling ++ value) ≠ t := by
    have htake : ∀ t ∈ ([("$1" : Text), "-o", "&sv&", "-s&sv&", "-s"] : List Text),
        t.take 2 ≠ Text.lower flag.name := by
      cases flag <;> decide
    rintro t ht rfl
    exact htake _ ht hlower
  have hspelt : ∀ t : Text, Text.lower t ∈ ([("$1" : Text), "-o", "&sv&", "-s&sv&", "-s"] :
      List Text) → spelling ++ value ≠ t := by
    rintro t ht rfl
    exact hne _ ht rfl
  refine ⟨?_, hspelt "-S" (by decide)⟩
  simp only [isLegacy, isServer, Bool.or_eq_false_iff, beq_eq_false_iff_ne]
  exact ⟨⟨hspelt "$1" (by decide), hspelt "-o" (by decide)⟩,
    hne "&sv&" (by decide), hne "-s&sv&" (by decide)⟩

/-- Reading an argument. -/
theorem readWords_append (h : argument.WellFormed) (a : Arguments) (rest : List Text) :
    readWords resolve root a (argument.words ++ rest) =
      readWords resolve root (argument.put resolve root a) rest := by
  cases argument with
  | flagged flag spelling value attached =>
    obtain ⟨hspelling, hattached, -⟩ := h
    cases attached with
    | true =>
      obtain ⟨hlegacy, hserver⟩ := not_legacy_of_spelling hspelling value
      have hflag := flag?_of_spelling hspelling value
      rw [if_neg (hattached rfl)] at hflag
      rw [Argument.words, List.singleton_append, readWords.eq_def]
      simp only [hlegacy, hserver, hflag, Bool.false_eq_true, false_and, if_false,
        Argument.put]
    | false =>
      obtain ⟨hlegacy, hserver⟩ := not_legacy_of_spelling hspelling []
      have hflag := flag?_of_spelling hspelling []
      rw [List.append_nil] at hlegacy hserver hflag
      rw [Argument.words, List.cons_append, List.singleton_append, readWords.eq_def]
      simp only [hlegacy, hserver, hflag, Bool.false_eq_true, false_and, if_false, if_true,
        Argument.put]
  | legacy word =>
    have hlegacy : isLegacy word = true := h
    rw [Argument.words, List.singleton_append, readWords.eq_def]
    simp only [hlegacy, if_true, Argument.put]
  | server word =>
    have hdash : isLegacy "-S" = false := by decide
    have hserver : isServer word = true := h
    have hnext : readWords resolve root a (word :: rest) = readWords resolve root a rest := by
      rw [readWords.eq_def]
      simp only [isLegacy, hserver, Bool.or_true, if_true]
    rw [Argument.words, List.cons_append, List.singleton_append, readWords.eq_def]
    simp only [hdash, Bool.false_eq_true, if_false, List.head?_cons, Option.any_some, hserver,
      and_self, if_true, hnext, Argument.put]
  | plain word =>
    obtain ⟨hlegacy, hserver, hflag⟩ := h
    have hnone : flag? word = none := by
      unfold flag?
      rw [show Text.afterIgnoringCase? "-F" word = none from hflag .first,
        show Text.afterIgnoringCase? "-L" word = none from hflag .last,
        show Text.afterIgnoringCase? "-D" word = none from hflag .database]
    rw [Argument.words, List.singleton_append, readWords.eq_def]
    simp only [hlegacy, hserver, hnone, Bool.false_eq_true, false_and, if_false, Argument.put]

theorem readWords_arguments (h : ∀ argument ∈ arguments, argument.WellFormed) (a : Arguments) :
    readWords resolve root a (arguments.flatMap Argument.words) =
      arguments.foldl (Argument.put resolve root) a := by
  induction arguments generalizing a with
  | nil => rfl
  | cons argument arguments ih =>
    rw [List.forall_mem_cons] at h
    rw [List.flatMap_cons, readWords_append h.1, ih h.2, List.foldl_cons]

end Step

section Reading

/-- Naming one more database. -/
theorem named_append_singleton (arguments : List Argument) (argument : Argument) :
    named resolve (arguments ++ [argument]) =
      match argument.value? .database with
      | none => named resolve arguments
      | some value =>
        if resolve value = [] ∨ resolve value ∈ named resolve arguments then named resolve arguments
        else named resolve arguments ++ [resolve value] := by
  cases hvalue : argument.value? .database with
  | none => simp [named, hvalue]
  | some value =>
    by_cases hempty : resolve value = []
    · simp [named, hvalue, hempty]
    · have hmore : (((arguments ++ [argument]).filterMap (Argument.value? .database)).map
          resolve).filter (· ≠ []) =
            ((arguments.filterMap (Argument.value? .database)).map resolve).filter (· ≠ []) ++
              [resolve value] := by
        simp [hvalue, hempty]
      have hmem : resolve value ∈ named resolve arguments ↔ resolve value ∈
          ((arguments.filterMap (Argument.value? .database)).map resolve).filter (· ≠ []) :=
        List.mem_eraseDups
      simp only [hempty, false_or, hmem]
      rw [named, hmore, eraseDups_append_singleton]
      rfl

/-- What arguments come to, whatever their order. -/
theorem foldl_put (arguments : List Argument) :
    arguments.foldl (Argument.put resolve root) {} =
      { args := (arguments.filterMap Argument.plain?).map (Reference.expandMarker root)
        databases := named resolve arguments
        first := bound .first arguments
        last := bound .last arguments } := by
  induction arguments using List.reverseRecOn with
  | nil => rfl
  | append_singleton arguments argument ih =>
    rw [List.foldl_append, ih, List.foldl_cons, List.foldl_nil, named_append_singleton]
    cases argument with
    | flagged flag spelling value attached =>
      cases flag with
      | database =>
        simp only [Argument.put, Arguments.put, Argument.value?, if_true]
        split <;> simp [*, Argument.value?, Argument.plain?, bound]
      | _ => simp [Argument.put, Arguments.put, Argument.value?, Argument.plain?, bound]
    | legacy word => simp [Argument.put, Argument.value?, Argument.plain?, bound]
    | server word => simp [Argument.put, Argument.value?, Argument.plain?, bound]
    | plain word => simp [Argument.put, Arguments.push, Argument.value?, Argument.plain?, bound]

end Reading

end BuildLine

theorem Text.startsWith_dash (t : Text) : startsWith t "-" = (t.head? == some '-') :=
  startsWith_singleton t '-'

/-- The marker of the source root starts with no dash, and what stands for it neither. -/
theorem Reference.startsWith_expandMarker {root : Text} (hroot : Text.startsWith root "-" = false)
    (word : Text) :
    Text.startsWith (expandMarker root word) "-" = Text.startsWith word "-" := by
  simp only [Text.startsWith_dash] at hroot ⊢
  have hbelow : ∀ t : Text, t.head? ≠ some '-' → (dropSlashes root ++ t).head? ≠ some '-' := by
    intro t ht
    cases hdropped : dropSlashes root with
    | nil => exact ht
    | cons c rest =>
      obtain ⟨slashes, hslashes⟩ := Text.dropEndWhile_isPrefix (fun c => c == '/' || c == '\\') root
      rw [← hslashes, show Text.dropEndWhile _ root = c :: rest from hdropped] at hroot
      simpa using hroot
  unfold expandMarker
  split
  · rfl
  · rename_i rest hmarker
    obtain ⟨marker, rfl, hsame⟩ := Text.afterIgnoringCase?_eq_some.1 hmarker
    have hdollar : (marker ++ rest).head? ≠ some '-' := by
      cases marker with
      | nil => simp [Text.sameIgnoringCase, Text.lower] at hsame
      | cons c marker =>
        have hc : c.toLower = '$' := by simpa using Text.head?_of_sameIgnoringCase hsame
        rw [eq_of_toLower_eq hc (by decide)]
        simp
    split
    · rw [beq_eq_false_iff_ne.2 hdollar, beq_eq_false_iff_ne]
      simp only []
      split
      · simpa using hbelow [] (by simp)
      · rw [List.append_assoc]
        exact hbelow _ (by simp)
    · rfl

namespace BuildLine

/-- Whether a word may be the source. -/
def isOperand (word : Text) : Bool := !Text.startsWith word "-"

/-- What a command with its arguments says. -/
def declared (resolve : Text → Text) (root : Text) (command : BuildCommand)
    (arguments : List Argument) : BuildLine where
  command
  source := ((arguments.filterMap Argument.plain?).find? isOperand).map fun word =>
    resolve (Reference.expandMarker root word)
  args := ((arguments.filterMap Argument.plain?).eraseP isOperand).map (Reference.expandMarker root)
  sequence :=
    match bound .first arguments, bound .last arguments with
    | none, none => none
    | some first, some last => some ⟨first, last⟩
    | some first, none => some ⟨first, first⟩
    | none, some last => some ⟨1, last⟩
  databases := named resolve arguments

theorem ofArguments_eq_declared (hroot : Text.startsWith root "-" = false) (command : BuildCommand)
    (arguments : List Argument) :
    ofArguments resolve command (arguments.foldl (Argument.put resolve root) {}) =
      declared resolve root command arguments := by
  have hoperand : isOperand ∘ Reference.expandMarker root = isOperand := by
    funext word
    simp only [Function.comp, isOperand, Reference.startsWith_expandMarker hroot]
  have hsource : ((arguments.filterMap Argument.plain?).map (Reference.expandMarker root)).find?
      isOperand = ((arguments.filterMap Argument.plain?).find? isOperand).map
        (Reference.expandMarker root) := by
    rw [List.find?_map, hoperand]
  have hargs : ((arguments.filterMap Argument.plain?).map (Reference.expandMarker root)).eraseP
      isOperand = ((arguments.filterMap Argument.plain?).eraseP isOperand).map
        (Reference.expandMarker root) := by
    rw [List.eraseP_map, hoperand]
  rw [foldl_put, ofArguments, declared]
  congr 1
  exact (congrArg (Option.map resolve) hsource).trans (Option.map_map ..)

/-- A line is what its first word says, in any number of blanks, unless that starts with a mark. -/
theorem ofLine_of_words {word line : Text} {rest : List Text}
    (hline : Text.words line = word :: rest) (hhash : word.head? ≠ some '#')
    (hname : word.head? ≠ some '&') :
    ParsedLine.ofLine resolve root line = match BuildCommand.ofName? word with
      | none => .inert (Text.trim line)
      | some command =>
        .command (ofArguments resolve command (readWords resolve root {} rest)) := by
  rw [← Text.words_trim] at hline
  obtain ⟨behind, htrim, hbehind, hrest⟩ := Text.exists_of_words hline
  rw [Text.trimStart_trim] at htrim
  obtain ⟨hne, hunbroken⟩ : Text.Whole word :=
    Text.whole_of_mem_words (hline ▸ List.mem_cons_self)
  obtain ⟨c, t, rfl⟩ := List.exists_cons_of_ne_nil hne
  have hletter : ∀ a : Char, (c :: t).head? ≠ some a → c ≠ a := fun a h heq => h (congrArg some heq)
  calc ParsedLine.ofLine resolve root line
      = ParsedLine.ofResolved resolve root (c :: t ++ behind) :=
        ParsedLine.ofLine_of_trim_of_ne htrim (hletter '#' hhash) (hletter '&' hname)
    _ = _ := by
        rw [ParsedLine.ofResolved, Text.span_of_unbroken hunbroken hbehind, htrim]
        cases hfound : BuildCommand.ofName? (c :: t) <;> simp only [hfound, hrest]

/-- A command line. -/
theorem ofLine_of_command {command : BuildCommand} {word : Text}
    (hword : Text.sameIgnoringCase command.name word = true) {line : Text} {rest : List Text}
    (hline : Text.words line = word :: rest) :
    ParsedLine.ofLine resolve root line =
      .command (ofArguments resolve command (readWords resolve root {} rest)) := by
  have hnames : ∀ command ∈ BuildCommand.all,
      command.name.head?.map Char.toLower ≠ some '#' ∧
        command.name.head?.map Char.toLower ≠ some '&' := by decide
  obtain ⟨hhash, hname⟩ := hnames command command.mem_all
  rw [Text.head?_of_sameIgnoringCase hword] at hhash hname
  rw [ofLine_of_words hline (fun h => hhash (by rw [h]; rfl)) (fun h => hname (by rw [h]; rfl)),
    BuildCommand.ofName?_of_sameIgnoringCase hword]

end BuildLine

/-- The script of a build line runs once for each database, one after the other. -/
theorem Script.forDatabases_eq_mapM (ctx : Context) (vars : RunVariables) (line : BuildLine)
    (source : Text) : ∀ (databases : List (Option Text)) (total : Outcome),
    forDatabases ctx vars line source databases total = (do
      let outcomes ← databases.mapM fun database => run ctx { vars.nested source with
        database
        sequence := line.sequence
        echo := vars.echo || line.hasFlag "-e" }
      return outcomes.foldl (· + ·) total)
  | [], total => by simp [forDatabases]
  | database :: databases, total => by
    simp only [forDatabases, List.mapM_cons, bind_assoc, pure_bind, List.foldl_cons]
    exact congrArg _ (funext fun outcome => forDatabases_eq_mapM ctx vars line source databases _)

namespace BuildLine

/-- A build line is read the same wherever the flags and the words that are passed over stand among
its other words; and its script runs once for each database that is named, or for the caller's. -/
theorem arguments_in_any_order (resolve : Text → Text) {root : Text}
    (hroot : Text.startsWith root "-" = false) (command : BuildCommand) {word : Text}
    (hword : Text.sameIgnoringCase command.name word = true) {arguments : List Argument}
    (harguments : ∀ argument ∈ arguments, argument.WellFormed) {line : Text}
    (hline : Text.words line = word :: arguments.flatMap Argument.words) :
    ParsedLine.ofLine resolve root line = .command (declared resolve root command arguments) ∧
      ∀ (ctx : Context) (vars : RunVariables) (source : Text),
        (declared resolve root command arguments).source = some source →
        Script.runLine ctx vars (declared resolve root command arguments) = (do
          let databases := if named resolve arguments = [] then [vars.database]
            else (named resolve arguments).map some
          let outcomes ← databases.mapM fun database => Script.run ctx { vars.nested source with
            database
            sequence := (declared resolve root command arguments).sequence
            echo := vars.echo || (declared resolve root command arguments).hasFlag "-e" }
          return outcomes.foldl (· + ·) {}) := by
  constructor
  · rw [ofLine_of_command hword hline, readWords_arguments harguments,
      ofArguments_eq_declared hroot]
  · intro ctx vars source hsource
    rw [Script.runLine, hsource]
    exact Script.forDatabases_eq_mapM ctx vars _ source _ {}

/-- Flags on both sides of the source, values that look like words that are passed over, and the
name of the server in three places. -/
def mixed : List Argument :=
  [.flagged .database "-d" "&db&" true, .plain "-e", .server "-s&SV&",
    .flagged .first "-f" "+7" false, .plain "$IR>css>x.sql", .flagged .last "-L" "-2" true,
    .legacy "$1", .flagged .database "-D" "$1" false, .plain "y.sql",
    .flagged .first "-F" "-3" false, .legacy "&sv&", .flagged .database "-D" "&db&" false]

def mixedLine : Text :=
  "\tRunSQL -d&db&  -e -S -s&SV& -f +7 $IR>css>x.sql -L-2 $1 -D $1 y.sql -F -3 &sv& -D &db& "

theorem arguments_in_any_order_mixed :
    (∀ argument ∈ mixed, argument.WellFormed) ∧
      Text.words mixedLine = ("RunSQL" : Text) :: mixed.flatMap Argument.words ∧
      ParsedLine.ofLine (Dictionary.resolve ⟨[("&db&", "sbn")]⟩) "/ibs/" mixedLine =
        .command
          { command := .runSql
            source := some "/ibs/css/x.sql"
            args := ["-e", "y.sql"]
            sequence := some ⟨-3, -2⟩
            databases := ["sbn", "$1"] } := by
  have hroot : Text.startsWith ("/ibs/" : Text) "-" = false := by decide
  have hword : Text.sameIgnoringCase BuildCommand.runSql.name "RunSQL" = true := by decide
  have hmixed : ∀ argument ∈ mixed, argument.WellFormed := by decide +kernel
  have hline : Text.words mixedLine = ("RunSQL" : Text) :: mixed.flatMap Argument.words := by
    decide +kernel
  have hread := (arguments_in_any_order (Dictionary.resolve ⟨[("&db&", "sbn")]⟩) hroot .runSql
    hword hmixed hline).1
  exact ⟨hmixed, hline, hread.trans (by decide +kernel)⟩

end BuildLine

end SqlBuild
