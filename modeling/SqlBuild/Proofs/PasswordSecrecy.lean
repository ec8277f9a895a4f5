import Mathlib.Tactic.SplitIfs
import SqlBuild.CommandLine.Arguments
import SqlBuild.Run.Audit
import SqlBuild.Proofs.Words

/-!
# What the audit entry tells of the password

The mask reads the words of the command line from left to right and remembers one thing: whether the
word before was a `-P` that still waits for its value (`maskFrom`). So a password is hidden when its
flag is written `-P`, apart or attached, and it has no white space in it; behind `--password` it is
recorded as it stands. `entry_eq_iff` says which passwords leave the same entry, for every flag that
gives one (`read_args`) and all that stands around it.
-/

namespace SqlBuild

namespace Legacy

theorem toUpper_eq_dash {c : Char} (h : c.toUpper = '-') : c = '-' := by
  unfold Char.toUpper at h
  split at h
  · have hv := congrArg Char.val h
    simp only [] at hv
    grind
  · exact h

theorem modernize_plain {word : Text} (h : word.head? ≠ some '-') : modernize word = [word] := by
  unfold modernize
  cases word with
  | nil => rfl
  | cons c rest =>
    have hc : c ≠ '-' := by simpa using h
    have hu : ¬ c.toUpper = '-' := fun he => hc (toUpper_eq_dash he)
    simp only [Text.upper, List.map_cons]
    split
    · simp_all
    · split
      · simp_all
      · split <;> simp_all

end Legacy

namespace Grammar

theorem step_plain (g : Grammar) (r : Reading) {word : Text} (h : word.head? ≠ some '-')
    (ht : r.trailing = false) : g.step r word = g.plain r word := by
  unfold step
  rw [if_neg (by simp [ht])]
  split <;> simp_all

end Grammar

namespace Audit

/-- The ways to give a password on a command line. -/
inductive PasswordFlag
  | short
  | shortAttached
  | long
  | longAttached
deriving DecidableEq, Repr

namespace PasswordFlag

/-- The arguments that give a password. -/
def args : PasswordFlag → Text → List Text
  | short, password => ["-P", password]
  | shortAttached, password => ["-P" ++ password]
  | long, password => ["--password", password]
  | longAttached, password => ["--password=" ++ password]

/-- Whether the password is an argument of its own. -/
def isApart : PasswordFlag → Bool
  | short | long => true
  | _ => false

/-- A password that the flag can give: one that stands apart must not look like the flag itself. -/
def Gives (flag : PasswordFlag) (password : Text) : Prop :=
  password ≠ [] ∧ (flag.isApart = true → Text.startsWith password "-P" = false)

instance (flag : PasswordFlag) (password : Text) : Decidable (flag.Gives password) :=
  inferInstanceAs (Decidable (_ ∧ _))

/-- Whether the mask covers a password without white space; `isOpen` tells whether the words before
the flag end in a `-P` that waits for its value. -/
def IsMasked : PasswordFlag → Bool → Prop
  | short, isOpen => isOpen = false
  | shortAttached, _ => True
  | long, _ => False
  | longAttached, isOpen => isOpen = true

instance : (flag : PasswordFlag) → (isOpen : Bool) → Decidable (flag.IsMasked isOpen)
  | short, isOpen => inferInstanceAs (Decidable (isOpen = false))
  | shortAttached, _ => isTrue trivial
  | long, _ => isFalse id
  | longAttached, isOpen => inferInstanceAs (Decidable (isOpen = true))

theorem normalize_args (flag : PasswordFlag) {source password : Text} (hs : source.head? ≠ some '-')
    (hd : password.head? ≠ some '-') :
    Legacy.normalize (source :: flag.args password) = source :: flag.args password := by
  rw [Legacy.normalize, List.flatMap_cons, Legacy.modernize_plain hs]
  cases flag with
  | short =>
    rw [args, List.flatMap_cons, List.flatMap_cons, Legacy.modernize_plain hd]
    rfl
  | long =>
    rw [args, List.flatMap_cons, List.flatMap_cons, Legacy.modernize_plain hd]
    rfl
  | shortAttached =>
    simp [args, Legacy.modernize, Text.upper, Text.after?]
  | longAttached =>
    simp [args, Legacy.modernize, Text.upper, Text.after?]

/-- The flag of the grammar that all spellings name. -/
def grammarFlag : Flag := ⟨some 'P', "password", .text⟩

theorem foldlM_args (flag : PasswordFlag) (source : Text) {password : Text} (hp : password ≠ [])
    (hd : password.head? ≠ some '-') (he : password.head? ≠ some '=') :
    ∃ r : Grammar.Reading,
      (flag.args password).foldlM ScriptArguments.grammar.step { positionals := [source] } = .ok r ∧
        r.settle = .ok { given := [("password", password)], positionals := [source] } := by
  cases flag with
  | short =>
    refine ⟨{ pending := some (grammarFlag, some password), positionals := [source] }, ?_, rfl⟩
    show (ScriptArguments.grammar.step _ password >>= pure) = _
    rw [Grammar.step_plain _ _ hd rfl]
    rfl
  | long =>
    refine ⟨{ pending := some (grammarFlag, some password), positionals := [source] }, ?_, rfl⟩
    show (ScriptArguments.grammar.step _ password >>= pure) = _
    rw [Grammar.step_plain _ _ hd rfl]
    rfl
  | shortAttached =>
    obtain ⟨c, rest, rfl⟩ := List.exists_cons_of_ne_nil hp
    have hc : c ≠ '=' := by simpa using he
    refine ⟨{ given := [("password", c :: rest)], positionals := [source] }, ?_, rfl⟩
    show (ScriptArguments.grammar.shorts _ ('P' :: c :: rest) >>= pure) = _
    have hfind : ScriptArguments.grammar.findShort? 'P' = some grammarFlag := rfl
    rw [Grammar.shorts, hfind]
    -- What does not start with an equals sign is the value as it stands.
    · rfl
    · exact List.cons_ne_nil c rest
    · exact fun value h => hc (List.cons.inj h).1
  | longAttached => exact ⟨_, rfl, rfl⟩

/-- Every spelling gives the password. -/
theorem read_args (flag : PasswordFlag) {source password : Text} (hs : source.head? ≠ some '-')
    (hp : password ≠ []) (hd : password.head? ≠ some '-') (he : password.head? ≠ some '=') :
    (ScriptArguments.read (source :: flag.args password)).map (·.connection.password) =
      .ok (some password) := by
  obtain ⟨r, hr, hset⟩ := flag.foldlM_args source hp hd he
  have hsource : ScriptArguments.grammar.plain {} source = .ok { positionals := [source] } := rfl
  rw [ScriptArguments.read, normalize_args flag hs hd, Grammar.read, List.foldlM_cons,
    Grammar.step_plain _ _ hs rfl, hsource]
  simp only [bind, Except.bind] at hr ⊢
  rw [hr]
  simp only [hset]
  rfl
end PasswordFlag

/-- An argument as it stands on the recorded command line. -/
def quoted (arg : Text) : Text := if arg.any isBlank then "\"" ++ arg ++ "\"" else arg

/-- The entry of a program whose arguments give a password. -/
def entry (program : Text) (before : List Text) (flag : PasswordFlag) (password : Text)
    (after : List Text) (user : Text) : Text :=
  statement program (commandLine program (before ++ flag.args password ++ after)) user

/-- The mask of one word; `isOpen` tells whether the word is the value of a `-P` before it. -/
def maskWord (isOpen : Bool) (word : Text) : Text :=
  if isOpen then stars
  else if word ≠ "-P" ∧ Text.startsWith word "-P" then "-P" ++ stars
  else word

/-- The mask of words in a row. -/
def maskFrom : Bool → List Text → List Text
  | _, [] => []
  | isOpen, word :: rest => maskWord isOpen word :: maskFrom (!isOpen && word == "-P".toList) rest

/-- Whether words end in a `-P` that waits for its value. -/
def openAfter : Bool → List Text → Bool
  | isOpen, [] => isOpen
  | isOpen, word :: rest => openAfter (!isOpen && word == "-P".toList) rest

theorem maskWords_cons {word : Text} (h : word ≠ "-P") (rest : List Text) :
    maskWords (word :: rest) = maskWord false word :: maskWords rest := by
  rw [maskWords.eq_def]
  simp only [if_neg h]
  by_cases hs : Text.startsWith word "-P" = true
  · rw [if_pos hs, maskWord, if_neg (by simp), if_pos ⟨h, hs⟩]
  · rw [if_neg hs, maskWord, if_neg (by simp), if_neg fun hw => hs hw.2]

theorem maskWords_eq : ∀ words : List Text, maskWords words = maskFrom false words
  | [] => rfl
  | word :: rest => by
    by_cases h : word = "-P"
    · subst h
      cases rest with
      | nil => rfl
      | cons value rest =>
        have hw : maskWords ("-P".toList :: value :: rest)
            = "-P".toList :: stars :: maskWords rest := rfl
        rw [hw, maskWords_eq rest]
        rfl
    · have hb : (word == "-P".toList) = false := beq_eq_false_iff_ne.2 h
      rw [maskWords_cons h, maskWords_eq rest, maskFrom, hb]
      rfl

theorem maskFrom_append : ∀ (isOpen : Bool) (us ws : List Text),
    maskFrom isOpen (us ++ ws) = maskFrom isOpen us ++ maskFrom (openAfter isOpen us) ws
  | _, [], _ => rfl
  | isOpen, u :: us, ws => by
    rw [List.cons_append, maskFrom, maskFrom_append]
    rfl

theorem openAfter_append : ∀ (isOpen : Bool) (us ws : List Text),
    openAfter isOpen (us ++ ws) = openAfter (openAfter isOpen us) ws
  | _, [], _ => rfl
  | isOpen, u :: us, ws => by
    rw [List.cons_append, openAfter, openAfter_append]
    rfl

theorem openAfter_singleton (isOpen : Bool) (word : Text) :
    openAfter isOpen [word] = (!isOpen && word == "-P".toList) := rfl

@[simp] theorem length_maskFrom : ∀ (isOpen : Bool) (ws : List Text),
    (maskFrom isOpen ws).length = ws.length
  | _, [] => rfl
  | isOpen, w :: ws => by
    rw [maskFrom, List.length_cons, length_maskFrom, List.length_cons]

theorem whole_maskWord (isOpen : Bool) {word : Text} (h : Text.Whole word) :
    Text.Whole (maskWord isOpen word) := by
  unfold maskWord
  split_ifs
  · decide
  · decide
  · exact h

theorem whole_of_mem_maskFrom : ∀ (isOpen : Bool) {ws : List Text}, (∀ w ∈ ws, Text.Whole w) →
    ∀ m ∈ maskFrom isOpen ws, Text.Whole m
  | _, [], _, m, hm => by simp [maskFrom] at hm
  | isOpen, w :: ws, h, m, hm => by
    rcases List.mem_cons.1 hm with rfl | hm
    · exact whole_maskWord isOpen (h w List.mem_cons_self)
    · exact whole_of_mem_maskFrom _ (fun v hv => h v (List.mem_cons_of_mem _ hv)) m hm

theorem mask_eq_iff (c c' : Text) :
    mask c = mask c' ↔ maskFrom false (Text.words c) = maskFrom false (Text.words c') := by
  rw [mask, mask, maskWords_eq, maskWords_eq]
  exact Text.join_inj (whole_of_mem_maskFrom _ fun _ => Text.whole_of_mem_words)
    (whole_of_mem_maskFrom _ fun _ => Text.whole_of_mem_words)

theorem doubleQuotes_cons (c : Char) (t : Text) : Text.doubleQuotes (c :: t) =
    (if c = '\x27' then ['\x27', '\x27'] else [c]) ++ Text.doubleQuotes t := rfl

theorem doubleQuotes_inj : ∀ {s t : Text}, Text.doubleQuotes s = Text.doubleQuotes t → s = t
  | [], [], _ => rfl
  | [], d :: t, h => by
    rw [doubleQuotes_cons] at h
    split_ifs at h <;> exact absurd h (by simp [Text.doubleQuotes, Text.replaceChar])
  | c :: s, [], h => by
    rw [doubleQuotes_cons] at h
    split_ifs at h <;> exact absurd h (by simp [Text.doubleQuotes, Text.replaceChar])
  | c :: s, d :: t, h => by
    rw [doubleQuotes_cons, doubleQuotes_cons] at h
    split_ifs at h with hc hd hd
    · rw [hc, hd, doubleQuotes_inj (List.append_cancel_left h)]
    · exact absurd (List.cons.inj h).1.symm hd
    · exact absurd (List.cons.inj h).1 hc
    · rw [(List.cons.inj h).1, doubleQuotes_inj (List.cons.inj h).2]

theorem literal_inj {s t : Text} (h : literal s = literal t) : s = t := by
  unfold literal at h
  exact doubleQuotes_inj (List.append_cancel_left (List.append_cancel_right h))

theorem around_inj {a b c s t : Text} (h : a ++ literal s ++ b ++ c = a ++ literal t ++ b ++ c) :
    s = t :=
  literal_inj (List.append_cancel_left (List.append_cancel_right (List.append_cancel_right h)))

theorem statement_eq_iff (program user c c' : Text) :
    statement program c user = statement program c' user ↔ mask c = mask c' := by
  constructor
  · intro h
    unfold statement at h
    exact around_inj h
  · intro h
    unfold statement
    rw [h]

/-- The words that arguments come to on the recorded command line. -/
def argWords (args : List Text) : List Text := args.flatMap fun arg => Text.words (quoted arg)

theorem words_commandLine (program : Text) (args : List Text) :
    Text.words (commandLine program args) = Text.words program ++ argWords args := by
  rw [commandLine, Text.words_join, List.flatMap_cons, List.flatMap_map]
  rfl

theorem argWords_append (us ws : List Text) : argWords (us ++ ws) = argWords us ++ argWords ws :=
  List.flatMap_append

theorem argWords_of_whole : ∀ {args : List Text}, (∀ arg ∈ args, Text.Whole arg) →
    argWords args = args
  | [], _ => rfl
  | arg :: args, h => by
    have harg := h arg List.mem_cons_self
    have hq : quoted arg = arg := by
      rw [quoted, if_neg (by simpa using Text.unbroken_iff.1 harg.2)]
    have ih := argWords_of_whole fun a ha => h a (List.mem_cons_of_mem _ ha)
    rw [argWords, List.flatMap_cons, hq, Text.words_of_whole harg]
    exact congrArg (arg :: ·) ih

/-- An argument with white space comes to more than one word, because of the quotes around it. -/
theorem one_lt_words_quoted {arg : Text} (h : arg.any isBlank = true) :
    1 < (Text.words (quoted arg)).length := by
  obtain ⟨c, hc, hb⟩ := List.any_eq_true.1 h
  obtain ⟨s, t, rfl⟩ := List.append_of_mem hc
  have hq : quoted (s ++ c :: t) = ('"' :: s) ++ c :: (t ++ ['"']) := by
    rw [quoted, if_pos h]
    simp
  have hs : Text.words ('"' :: s) ≠ [] := Text.words_ne_nil List.mem_cons_self (by decide)
  have ht : Text.words (t ++ ['"']) ≠ [] := Text.words_ne_nil (c := '"') (by simp) (by decide)
  rw [hq, Text.words_append_blank _ _ hb, List.length_append]
  have := List.length_pos_iff.2 hs
  have := List.length_pos_iff.2 ht
  omega

namespace PasswordFlag

/-- What the entry shows of the arguments that give a password. -/
def shown (flag : PasswordFlag) (isOpen : Bool) (password : Text) : List Text :=
  maskFrom isOpen (argWords (flag.args password))

theorem whole_args {flag : PasswordFlag} {password : Text} (h : flag.Gives password)
    (hp : Text.Unbroken password) : ∀ arg ∈ flag.args password, Text.Whole arg := by
  intro arg harg
  cases flag <;> simp only [args, List.mem_cons, List.not_mem_nil, or_false] at harg
  · rcases harg with rfl | rfl
    · decide
    · exact ⟨h.1, hp⟩
  · subst harg
    exact ⟨by simp, Text.Unbroken.append (by decide) hp⟩
  · rcases harg with rfl | rfl
    · decide
    · exact ⟨h.1, hp⟩
  · subst harg
    exact ⟨by simp, Text.Unbroken.append (by decide) hp⟩

/-- The last argument ends in the password; what stands before it is fixed by the flag. -/
theorem args_eq (flag : PasswordFlag) : ∃ (ws : List Text) (start : Text),
    (∀ w ∈ ws, Text.Whole w) ∧ ∀ password, flag.args password = ws ++ [start ++ password] := by
  cases flag
  · exact ⟨["-P"], [], by decide, fun _ => rfl⟩
  · exact ⟨[], "-P", by decide, fun _ => rfl⟩
  · exact ⟨["--password"], [], by decide, fun _ => rfl⟩
  · exact ⟨[], "--password=", by decide, fun _ => rfl⟩

theorem length_args (flag : PasswordFlag) (password password' : Text) :
    (flag.args password).length = (flag.args password').length := by
  cases flag <;> rfl

/-- A password with white space comes to more words than the flag has arguments. -/
theorem length_args_lt {flag : PasswordFlag} {password : Text} (hp : ¬ Text.Unbroken password) :
    (flag.args password).length < (argWords (flag.args password)).length := by
  obtain ⟨ws, start, hws, hargs⟩ := flag.args_eq
  have hb := Text.any_blank_append start hp
  have h := one_lt_words_quoted hb
  rw [hargs, argWords_append, argWords_of_whole hws, List.length_append, List.length_append]
  simp only [argWords, List.flatMap_cons, List.flatMap_nil, List.append_nil, List.length_singleton]
  omega

theorem Gives.ne_flag {flag : PasswordFlag} {password : Text} (h : flag.Gives password)
    (ha : flag.isApart = true) : (password == "-P".toList) = false := by
  refine beq_eq_false_iff_ne.2 fun hpw => ?_
  have hstart := h.2 ha
  rw [hpw] at hstart
  exact absurd hstart (by decide)

/-- The words of a flag and its password never leave a `-P` that waits for its value. -/
theorem openAfter_args {flag : PasswordFlag} {password : Text} (h : flag.Gives password)
    (isOpen : Bool) : openAfter isOpen (argWords (flag.args password)) = false := by
  by_cases hp : Text.Unbroken password
  · rw [argWords_of_whole (whole_args h hp)]
    cases flag with
    | short =>
      show (!(!isOpen && _) && password == "-P".toList) = false
      rw [h.ne_flag rfl, Bool.and_false]
    | long =>
      show (!(!isOpen && _) && password == "-P".toList) = false
      rw [h.ne_flag rfl, Bool.and_false]
    | shortAttached =>
      have hne : ("-P" ++ password == "-P".toList) = false :=
        beq_eq_false_iff_ne.2 fun hpw => h.1 (by simpa using hpw)
      show (!isOpen && "-P" ++ password == "-P".toList) = false
      rw [hne, Bool.and_false]
    | longAttached =>
      have hne : ("--password=" ++ password == "-P".toList) = false :=
        beq_eq_false_iff_ne.2 fun hpw => by simp at hpw
      show (!isOpen && "--password=" ++ password == "-P".toList) = false
      rw [hne, Bool.and_false]
  · obtain ⟨ws, start, hws, hargs⟩ := flag.args_eq
    have hb := Text.any_blank_append start hp
    obtain ⟨us, w, hw⟩ :=
      Text.words_append_singleton (c := '"') (by decide) ('"' :: (start ++ password))
    -- The word that ends in the closing quote is not the flag.
    have hq : argWords [start ++ password] = us ++ [w ++ ['"']] := by
      rw [← hw, argWords, List.flatMap_cons, List.flatMap_nil, List.append_nil, quoted, if_pos hb]
      rfl
    have hlast : (w ++ ['"'] == "-P".toList) = false := by
      refine beq_eq_false_iff_ne.2 fun hwp => ?_
      have := congrArg List.getLast? hwp
      simp at this
    rw [hargs, argWords_append, hq, ← List.append_assoc, openAfter_append, openAfter_singleton,
      hlast, Bool.and_false]

theorem length_shown (flag : PasswordFlag) (isOpen : Bool) (password : Text) :
    (flag.shown isOpen password).length = (argWords (flag.args password)).length :=
  length_maskFrom _ _

/-- A password that stands apart is a word the mask passes over. -/
theorem Gives.maskWord_eq {flag : PasswordFlag} {password : Text} (h : flag.Gives password)
    (ha : flag.isApart = true) : maskWord false password = password := by
  rw [maskWord, if_neg (by simp), if_neg]
  rintro ⟨-, hstart⟩
  rw [h.2 ha] at hstart
  exact absurd hstart (by simp)

theorem maskWord_attached {password : Text} (h : password ≠ []) :
    maskWord false ("-P" ++ password) = "-P" ++ stars := by
  rw [maskWord, if_neg (by simp), if_pos]
  refine ⟨fun hp => h (by simpa using hp), ?_⟩
  rw [Text.startsWith, List.isPrefixOf_iff_prefix]
  exact List.prefix_append _ _

theorem maskWord_long (value : Text) :
    maskWord false ("--password" ++ value) = "--password" ++ value := by
  rw [maskWord, if_neg (by simp), if_neg]
  rintro ⟨-, hstart⟩
  simp [Text.startsWith] at hstart

/-- What the entry shows of a password without white space. -/
def shownWord : PasswordFlag → Bool → Text → List Text
  | short, false, _ => ["-P", stars]
  | shortAttached, false, _ => ["-P" ++ stars]
  | long, false, password => ["--password", password]
  | longAttached, false, password => ["--password=" ++ password]
  | short, true, password | long, true, password => [stars, password]
  | shortAttached, true, _ | longAttached, true, _ => [stars]

theorem shown_of_unbroken {flag : PasswordFlag} {password : Text} (h : flag.Gives password)
    (hp : Text.Unbroken password) (isOpen : Bool) :
    flag.shown isOpen password = flag.shownWord isOpen password := by
  rw [shown, argWords_of_whole (whole_args h hp)]
  cases flag <;> cases isOpen
  · rfl
  · exact congrArg (fun w => [stars, w]) (h.maskWord_eq rfl)
  · exact congrArg (fun w => [w]) (maskWord_attached h.1)
  · rfl
  · exact congrArg (fun w => ["--password".toList, w]) (h.maskWord_eq rfl)
  · exact congrArg (fun w => [stars, w]) (h.maskWord_eq rfl)
  · exact congrArg (fun w => [w]) (maskWord_long ('=' :: password))
  · rfl

/-- Of passwords without white space the entry shows the same when the flag is covered. -/
theorem shown_eq_iff {flag : PasswordFlag} {password password' : Text} (h : flag.Gives password)
    (h' : flag.Gives password') (hp : Text.Unbroken password) (hp' : Text.Unbroken password')
    (isOpen : Bool) : flag.shown isOpen password = flag.shown isOpen password' ↔
      password = password' ∨ flag.IsMasked isOpen := by
  rw [shown_of_unbroken h hp, shown_of_unbroken h' hp']
  cases flag <;> cases isOpen <;> simp [IsMasked, shownWord]

end PasswordFlag

/-- Whether the words before a flag end in a `-P` that waits for its value. -/
def openBefore (program : Text) (before : List Text) : Bool :=
  openAfter false (Text.words program ++ argWords before)

/-- Two entries differ in nothing but what they show of the password. -/
theorem entry_eq_iff_shown (program user : Text) (before after : List Text) {flag : PasswordFlag}
    {password password' : Text} (h : flag.Gives password) (h' : flag.Gives password') :
    entry program before flag password after user = entry program before flag password' after user ↔
      flag.shown (openBefore program before) password =
        flag.shown (openBefore program before) password' := by
  have hw : ∀ p, flag.Gives p →
      maskFrom false (Text.words (commandLine program (before ++ flag.args p ++ after))) =
        maskFrom false (Text.words program ++ argWords before) ++
          (flag.shown (openBefore program before) p ++ maskFrom false (argWords after)) := by
    intro p hg
    rw [words_commandLine, argWords_append, argWords_append, List.append_assoc (argWords before),
      ← List.append_assoc, maskFrom_append _ (_ ++ _), maskFrom_append _ (argWords (flag.args p)),
      PasswordFlag.openAfter_args hg]
    rfl
  rw [entry, entry, statement_eq_iff, mask_eq_iff, hw _ h, hw _ h', List.append_cancel_left_eq,
    List.append_cancel_right_eq]

/-- Which passwords leave the same audit entry: two without white space when they are the same or
the mask covers the flag, two with white space when the words of their arguments have the same
mask, and no others. -/
theorem entry_eq_iff (program user : Text) (before after : List Text) {flag : PasswordFlag}
    {password password' : Text} (h : flag.Gives password) (h' : flag.Gives password') :
    entry program before flag password after user = entry program before flag password' after user ↔
      (Text.Unbroken password ∧ Text.Unbroken password' ∧
        (password = password' ∨ flag.IsMasked (openBefore program before))) ∨
      (¬ Text.Unbroken password ∧ ¬ Text.Unbroken password' ∧
        flag.shown (openBefore program before) password =
          flag.shown (openBefore program before) password') := by
  rw [entry_eq_iff_shown program user before after h h']
  -- A password with white space is shown in more words than one without.
  have longer : ∀ {p q : Text}, flag.Gives p → Text.Unbroken p → ¬ Text.Unbroken q →
      (flag.shown (openBefore program before) p).length <
        (flag.shown (openBefore program before) q).length := by
    intro p q hg hu hb
    rw [PasswordFlag.length_shown, PasswordFlag.length_shown,
      argWords_of_whole (PasswordFlag.whole_args hg hu), PasswordFlag.length_args flag p q]
    exact PasswordFlag.length_args_lt hb
  by_cases hp : Text.Unbroken password <;> by_cases hp' : Text.Unbroken password'
  · rw [PasswordFlag.shown_eq_iff h h' hp hp']
    simp [hp, hp']
  · have hlt := longer h hp hp'
    simp only [hp, hp', not_true, false_and, and_false, or_false, iff_false]
    intro heq
    rw [heq] at hlt
    exact Nat.lt_irrefl _ hlt
  · have hlt := longer h' hp' hp
    simp only [hp, hp', not_true, false_and, and_false, or_false, iff_false]
    intro heq
    rw [heq] at hlt
    exact Nat.lt_irrefl _ hlt
  · simp [hp, hp']

theorem entry_short_plain :
    entry "runsql" ["a.sql"] .short "secret" ["gonzo"] "sa" =
      entry "runsql" ["a.sql"] .short "o\x27hara" ["gonzo"] "sa" :=
  (entry_eq_iff "runsql" "sa" ["a.sql"] ["gonzo"] (by decide) (by decide)).2 (by decide +kernel)

/-- Behind the long flag a password is recorded as it stands, and so is what follows the first blank
of a password behind the short one. -/
theorem entry_shows_password :
    entry "runsql" ["a.sql"] .long "secret" [] "sa" ≠
        entry "runsql" ["a.sql"] .long "hidden" [] "sa" ∧
      entry "runsql" ["a.sql"] .short "my secret" [] "sa" ≠
        entry "runsql" ["a.sql"] .short "my hidden" [] "sa" := by
  decide +kernel

end Audit

end SqlBuild
