import SqlBuild.Proofs.BuildArguments
import SqlBuild.Proofs.Conditionals

/-!
# Names with and without delimiters

The name of an option, of a conditional or of a database may be written with `&` around it: the
line is read as before (`Directive.onLine?_delimited`). The name of a table is read as it is written
(`Directive.onLine?_table_delimited`).
-/

namespace SqlBuild

namespace Text

variable {gap word behind : Text}

theorem firstWord_blanks_append (hgap : ∀ c ∈ gap, isBlank c = true) (t : Text) :
    firstWord (gap ++ t) = firstWord t := by
  rw [firstWord, trimStart, List.dropWhile_append_of_pos hgap]
  rfl

theorem blank_head?_trimEnd (h : behind.head?.all isBlank = true) :
    (trimEnd behind).head?.all isBlank = true := by
  obtain ⟨blanks, hsplit⟩ := trimEnd_isPrefix behind
  cases hend : trimEnd behind with
  | nil => rfl
  | cons c t =>
    rw [← hsplit, hend] at h
    exact h

theorem firstWord_whole (hword : Whole word) (hbehind : behind.head?.all isBlank = true) :
    firstWord (word ++ behind) = (word, trim behind) := by
  rw [firstWord, trimStart_append_whole hword, span_of_unbroken hword.2 hbehind]

/-- The first word of a line that was trimmed. -/
theorem firstWord_trimEnd (hgap : ∀ c ∈ gap, isBlank c = true) (hword : Whole word)
    (hbehind : behind.head?.all isBlank = true) :
    firstWord (trimEnd (gap ++ word ++ behind)) = (word, trim behind) := by
  rw [trimEnd_append_whole hword, List.append_assoc, firstWord_blanks_append hgap,
    firstWord_whole hword (blank_head?_trimEnd hbehind), trim_trimEnd]

/-- The first word of what was trimmed on both sides. -/
theorem firstWord_trim (hgap : ∀ c ∈ gap, isBlank c = true) (hword : Whole word)
    (hbehind : behind.head?.all isBlank = true) :
    firstWord (trim (gap ++ word ++ behind)) = (word, trim behind) := by
  have htrim : trim (gap ++ word ++ behind) = trimEnd ([] ++ word ++ behind) := by
    rw [List.append_assoc, trim_blanks_append hgap, trim, trimStart_append_whole hword]
    rfl
  rw [htrim, firstWord_trimEnd (List.forall_mem_nil _) hword hbehind]

/-- A text is split where its separator stands for the first time. -/
theorem splitAt?_append {p : Text} {c : Char} (behind : Text) : ∀ {before : Text},
    ¬ p ++ [c] <:+: before ++ p → splitAt? (p ++ [c]) (before ++ p ++ c :: behind) =
      some (before, behind)
  | [], _ => by
    obtain ⟨x, rest, hp⟩ := List.exists_cons_of_ne_nil (List.concat_ne_nil c p)
    have hafter : after? (p ++ [c]) (p ++ c :: behind) = some behind := by simp
    have hsplit : p ++ c :: behind = x :: (rest ++ behind) := by
      rw [← List.cons_append, ← hp]
      simp
    rw [List.nil_append, hsplit, splitAt?, ← hsplit, hafter]
  | x :: before, h => by
    have hlater : ¬ p ++ [c] <:+: before ++ p :=
      fun hin => h (hin.trans (List.suffix_cons x _).isInfix)
    have hnone : after? (p ++ [c]) (x :: (before ++ p ++ c :: behind)) = none := by
      refine Option.eq_none_iff_forall_not_mem.2 fun rest hrest => h ?_
      -- The separator would stand at the start, and end before its own last character.
      have hstart : p ++ [c] <+: (x :: before ++ p) ++ c :: behind :=
        ⟨rest, (after?_eq_some.1 hrest).symm⟩
      have hfront : x :: before ++ p <+: (x :: before ++ p) ++ c :: behind :=
        List.prefix_append _ _
      refine (List.prefix_of_prefix_length_le hstart hfront ?_).isInfix
      simp
    rw [List.cons_append, List.cons_append, splitAt?, hnone, splitAt?_append behind hlater]
    rfl

theorem prefix_of_prefix_append_cons {p a b : Text} {c : Char} (hc : c ∉ p)
    (h : p <+: a ++ c :: b) : p <+: a := by
  rcases List.prefix_or_prefix_of_prefix h (List.prefix_append a _) with hin | ⟨s, rfl⟩
  · exact hin
  · cases s with
    | nil => simp
    | cons x s =>
      obtain ⟨rfl, -⟩ := List.cons_prefix_cons.1 ((List.prefix_append_right_inj a).1 h)
      simp at hc

/-- What has no `c` in it does not reach over a `c`. -/
theorem infix_append_cons {p b : Text} {c : Char} (hc : c ∉ p) : ∀ {a : Text},
    p <:+: a ++ c :: b → p <:+: a ∨ p <:+: b
  | [], h => by
    rcases List.infix_cons_iff.1 h with h | h
    · exact .inl (prefix_of_prefix_append_cons (a := []) hc h).isInfix
    · exact .inr h
  | x :: a, h => by
    rcases List.infix_cons_iff.1 h with h | h
    · exact .inl (prefix_of_prefix_append_cons (a := x :: a) hc h).isInfix
    · exact (infix_append_cons hc h).imp_left fun h => h.trans (List.suffix_cons x a).isInfix

end Text

/-- A name with `&` around it. -/
def delimited (name : Text) : Text := '&' :: name ++ ['&']

section Names

variable {name written : Text}

theorem trim_delimited (name : Text) : Text.trim (delimited name) = delimited name := by
  have hmark : isBlank '&' = false := by decide
  rw [delimited, List.cons_append, Text.trim_cons hmark, Text.trimEnd_append_singleton hmark]

theorem whole_delimited (h : Text.Unbroken name) : Text.Whole (delimited name) := by
  refine ⟨by simp [delimited], fun c hc => ?_⟩
  simp only [delimited, List.cons_append, List.mem_cons, List.mem_append, List.not_mem_nil,
    or_false] at hc
  rcases hc with rfl | hc | rfl
  · decide
  · exact h c hc
  · decide

/-- Without `&` on both sides. -/
def Bare (name : Text) : Prop := ∀ inner, name ≠ delimited inner

instance : DecidablePred Bare := fun name =>
  decidable_of_iff (name ≠ delimited name.tail.dropLast) <| by
    constructor
    · rintro h inner rfl
      exact h (by simp [delimited])
    · exact fun h => h _

theorem bare_of_free (hfree : '&' ∉ name) : Bare name := by
  rintro inner rfl
  simp [delimited] at hfree

theorem bareName_of_trim_bare (hbare : Bare name) (h : Text.trim written = name) :
    bareName written = name := by
  unfold bareName
  rw [h]
  split
  · rename_i rest
    refine if_neg fun hlast => ?_
    obtain ⟨inner, rfl⟩ := List.getLast?_eq_some_iff.1 hlast
    exact hbare inner rfl
  · rfl

theorem bareName_of_trim (hfree : '&' ∉ name) (h : Text.trim written = name) :
    bareName written = name :=
  bareName_of_trim_bare (bare_of_free hfree) h

theorem bareName_of_trim_delimited (h : Text.trim written = delimited name) :
    bareName written = name := by
  have hlast : (name ++ ['&']).getLast? = some '&' := by simp
  unfold bareName
  rw [h, delimited, List.cons_append]
  simp

theorem placeholder_delimited (hfree : '&' ∉ name) (h : Text.trim name = name) :
    placeholder (delimited name) = placeholder name := by
  rw [placeholder, placeholder, bareName_of_trim hfree h,
    bareName_of_trim_delimited (trim_delimited name)]

end Names

namespace Directive

/-- What the names on a line are the names of. -/
inductive Role
  | option
  | conditional
  | table
  | database
deriving DecidableEq

/-- A place for a name on a line. -/
structure Place where
  before : Text
  behind : Text

def Place.line (place : Place) (written : Text) : Text := place.before ++ written ++ place.behind

/-- Nothing but white space. -/
def Blanks (t : Text) : Prop := ∀ c ∈ t, isBlank c = true

instance (t : Text) : Decidable (Blanks t) :=
  decidable_of_iff (t.all isBlank = true) List.all_eq_true

/-- The name that stands at a place of a line. -/
inductive Names : Role → Place → Text → Prop
  | option {letter : Char} (hletter : letter = 'v' ∨ letter = 'V') {lead gap gap' name : Text}
      (hlead : Blanks lead) (hgap : Blanks gap) (hgap' : Blanks gap')
      (hname : Text.trim name = name)
      (hfirst : ¬ ['<', '<'] <:+: gap ++ name ++ gap' ++ ['<']) (rest : Text) :
      Names .option ⟨lead ++ letter :: ':' :: gap, gap' ++ '<' :: '<' :: rest⟩ name
  | conditional {letter : Char} (hletter : letter = 'c' ∨ letter = 'C')
      {lead gap name behind : Text} (hlead : Blanks lead) (hgap : Blanks gap)
      (hname : Text.Whole name) (hbehind : behind.head?.all isBlank = true) :
      Names .conditional ⟨lead ++ letter :: ':' :: gap, behind⟩ name
  | table {lead gap name behind : Text} (hlead : Blanks lead) (hgap : Blanks gap)
      (hname : Text.Whole name) (hbehind : behind.head?.all isBlank = true) :
      Names .table ⟨lead ++ '-' :: '>' :: gap, behind⟩ name
  | database {lead gap table gap' name behind : Text} (hlead : Blanks lead) (hgap : Blanks gap)
      (htable : Text.Whole table) (hgap' : Blanks gap') (hne : gap' ≠ [])
      (hname : Text.Whole name) (hbehind : behind.head?.all isBlank = true) :
      Names .database ⟨lead ++ '-' :: '>' :: (gap ++ table ++ gap'), behind⟩ name

variable {line lead gap gap' name table behind body written written' : Text} {place : Place}

theorem trim_lead (hlead : Blanks lead) {a b : Char} (ha : isBlank a = false)
    (hb : isBlank b = false) (body : Text) :
    Text.trim (lead ++ a :: b :: body) = a :: b :: Text.trimEnd body := by
  rw [Text.trim_blanks_append hlead, Text.trim_cons ha]
  exact congrArg (a :: ·) (Text.trimEnd_append_cons hb [] body)

theorem ofValueBody_written (dynamic : Bool) (hfirst : ¬ ['<', '<'] <:+: written ++ ['<'])
    (rest : Text) : (ofValueBody dynamic (Text.trimEnd (written ++ '<' :: '<' :: rest))).toOption =
      (Text.splitAt? ">>" (Text.trimEnd rest)).bind fun parts =>
        if bareName written = [] ∨ (bareName written).any isBlank then none
        else some (.value (bareName written) parts.1 (Text.trim parts.2) dynamic) := by
  have hmark : Text.Whole ['<', '<'] := by decide
  have hend : Text.trimEnd (written ++ '<' :: '<' :: rest) =
      written ++ ['<'] ++ '<' :: Text.trimEnd rest := by
    simpa using Text.trimEnd_append_whole hmark written rest
  have hopening : ("<<" : Text) = ['<'] ++ ['<'] := by decide
  rw [ofValueBody, hend, hopening, Text.splitAt?_append _ hfirst]
  dsimp only
  cases Text.splitAt? ">>" (Text.trimEnd rest) with
  | none => rfl
  | some parts =>
    rw [Option.bind_some]
    dsimp only
    split_ifs <;> rfl

theorem onLine?_of_ofLine? {read : Except DirectiveError Directive}
    (h : ofLine? line = read.map some) : onLine? line = read.toOption := by
  rw [onLine?, h]
  cases read <;> rfl

/-- A value line says nothing about how its name was written. -/
theorem onLine?_option {letter : Char} (hletter : letter = 'v' ∨ letter = 'V')
    (hlead : Blanks lead) (hfirst : ¬ ['<', '<'] <:+: written ++ ['<']) (rest : Text) :
    onLine? (lead ++ letter :: ':' :: (written ++ '<' :: '<' :: rest)) =
      (Text.splitAt? ">>" (Text.trimEnd rest)).bind fun parts =>
        if bareName written = [] ∨ (bareName written).any isBlank then none
        else some (.value (bareName written) parts.1 (Text.trim parts.2) (letter = 'V')) := by
  rcases hletter with rfl | rfl
  · refine (onLine?_of_ofLine? ?_).trans (ofValueBody_written false hfirst rest)
    rw [ofLine?, trim_lead hlead (by decide) (by decide)]
    rfl
  · refine (onLine?_of_ofLine? ?_).trans (ofValueBody_written true hfirst rest)
    rw [ofLine?, trim_lead hlead (by decide) (by decide)]
    rfl

theorem onLine?_conditional {letter : Char} (hletter : letter = 'c' ∨ letter = 'C')
    (hlead : Blanks lead) (hgap : Blanks gap) (hname : Text.Whole name)
    (hbehind : behind.head?.all isBlank = true) :
    onLine? (lead ++ letter :: ':' :: (gap ++ name ++ behind)) =
      match Text.firstWord (Text.trim behind) with
      | (switch, description) =>
        if switch = "+" then some (.conditional (bareName name) true description (letter = 'C'))
        else if switch = "-" then
          some (.conditional (bareName name) false description (letter = 'C'))
        else none := by
  have hword := Text.firstWord_trimEnd hgap hname hbehind
  rcases hletter with rfl | rfl
  · rw [onLine?, ofLine?, trim_lead hlead (by decide) (by decide)]
    simp only [ofConditionalBody, hword]
    split_ifs <;> rfl
  · rw [onLine?, ofLine?, trim_lead hlead (by decide) (by decide)]
    simp only [ofConditionalBody, hword]
    split_ifs <;> rfl

theorem onLine?_table (hlead : Blanks lead) (hgap : Blanks gap) (hname : Text.Whole name)
    (hbehind : behind.head?.all isBlank = true) :
    onLine? (lead ++ '-' :: '>' :: (gap ++ name ++ behind)) =
      match Text.firstWord (Text.trim behind) with
      | (database, description) =>
        if database = [] then none else some (.table name (placeholder database) description) := by
  have hword := Text.firstWord_trimEnd hgap hname hbehind
  rw [onLine?, ofLine?, trim_lead hlead (by decide) (by decide)]
  simp only [ofTableBody, hword, hname.1, false_or]
  split_ifs <;> rfl

theorem onLine?_database (hlead : Blanks lead) (hgap : Blanks gap) (htable : Text.Whole table)
    (hgap' : Blanks gap') (hne : gap' ≠ []) (hname : Text.Whole name)
    (hbehind : behind.head?.all isBlank = true) :
    onLine? (lead ++ '-' :: '>' :: (gap ++ table ++ (gap' ++ name ++ behind))) =
      some (.table table (placeholder name) (Text.trim behind)) := by
  have hhead : (gap' ++ name ++ behind).head?.all isBlank = true := by
    obtain ⟨c, rest, rfl⟩ := List.exists_cons_of_ne_nil hne
    exact hgap' c List.mem_cons_self
  rw [onLine?_table hlead hgap htable hhead, Text.firstWord_trim hgap' hname hbehind]
  exact if_neg hname.1

theorem not_opening_delimited
    (h : ¬ ['<', '<'] <:+: gap ++ name ++ gap' ++ ['<']) :
    ¬ ['<', '<'] <:+: gap ++ delimited name ++ gap' ++ ['<'] := by
  have hmark : '&' ∉ ['<', '<'] := by decide
  have hparts : gap ++ name ++ gap' ++ ['<'] = gap ++ (name ++ (gap' ++ ['<'])) := by simp
  rw [hparts] at h
  intro hin
  have hsplit : gap ++ delimited name ++ gap' ++ ['<'] =
      gap ++ '&' :: (name ++ '&' :: (gap' ++ ['<'])) := by simp [delimited]
  rw [hsplit] at hin
  rcases Text.infix_append_cons hmark hin with hin | hin
  · exact h (hin.trans (List.prefix_append _ _).isInfix)
  · refine h (List.IsInfix.trans ?_ (List.suffix_append gap _).isInfix)
    rcases Text.infix_append_cons hmark hin with hin | hin
    · exact hin.trans (List.prefix_append _ _).isInfix
    · exact hin.trans (List.suffix_append _ _).isInfix

/-- With or without delimiters around the name of an option, a conditional or a database, a line
says the same. -/
theorem onLine?_delimited {role : Role} (h : Names role place name) (hfree : '&' ∉ name)
    (hrole : role ≠ .table) :
    onLine? (place.line (delimited name)) = onLine? (place.line name) := by
  have hbare : Text.trim name = name → bareName (delimited name) = bareName name := fun htrim =>
    (bareName_of_trim_delimited (trim_delimited name)).trans (bareName_of_trim hfree htrim).symm
  cases h with
  | table => exact absurd rfl hrole
  | @option letter hletter lead gap gap' name hlead hgap hgap' htrim hfirst rest =>
    have hwritten : ∀ written : Text, (Place.mk (lead ++ letter :: ':' :: gap)
        (gap' ++ '<' :: '<' :: rest)).line written =
          lead ++ letter :: ':' :: (gap ++ written ++ gap' ++ '<' :: '<' :: rest) := by
      simp [Place.line]
    have hgaps : ∀ written : Text, Text.trim (gap ++ written ++ gap') = Text.trim written := by
      intro written
      rw [Text.trim_append hgap', Text.trim_blanks_append hgap]
    have hname : bareName (gap ++ name ++ gap') = name :=
      bareName_of_trim hfree ((hgaps name).trans htrim)
    have hdelimited : bareName (gap ++ delimited name ++ gap') = name :=
      bareName_of_trim_delimited ((hgaps _).trans (trim_delimited name))
    rw [hwritten, hwritten, onLine?_option hletter hlead hfirst,
      onLine?_option hletter hlead (not_opening_delimited hfirst), hname, hdelimited]
  | @conditional letter hletter lead gap name behind hlead hgap hname hbehind =>
    have hwritten : ∀ written : Text,
        (Place.mk (lead ++ letter :: ':' :: gap) behind).line written =
          lead ++ letter :: ':' :: (gap ++ written ++ behind) := by
      simp [Place.line]
    rw [hwritten, hwritten, onLine?_conditional hletter hlead hgap hname hbehind,
      onLine?_conditional hletter hlead hgap (whole_delimited hname.2) hbehind,
      hbare (Text.trim_of_unbroken hname.2)]
  | @database lead gap table gap' name behind hlead hgap htable hgap' hne hname hbehind =>
    have hwritten : ∀ written : Text,
        (Place.mk (lead ++ '-' :: '>' :: (gap ++ table ++ gap')) behind).line written =
          lead ++ '-' :: '>' :: (gap ++ table ++ (gap' ++ written ++ behind)) := by
      simp [Place.line]
    rw [hwritten, hwritten, onLine?_database hlead hgap htable hgap' hne hname hbehind,
      onLine?_database hlead hgap htable hgap' hne (whole_delimited hname.2) hbehind,
      placeholder_delimited hfree (Text.trim_of_unbroken hname.2)]

/-- A directive, and the one that is read when its line has `&` around the name of a table. -/
inductive TableDelimited : Directive → Directive → Prop
  | same (directive : Directive) : TableDelimited directive directive
  | table {name : Text} (hname : Text.Unbroken name) (hfree : '&' ∉ name)
      (database description : Text) :
      TableDelimited (.table name database description)
        (.table (delimited name) database description)

theorem TableDelimited.trans {a b c : Directive} (h : TableDelimited a b)
    (h' : TableDelimited b c) : TableDelimited a c := by
  cases h with
  | same => exact h'
  | table hname hfree =>
    cases h' with
    | same => exact .table hname hfree _ _
    | table _ hfree' => simp [delimited] at hfree'

theorem TableDelimited.rel_trans : ∀ {x y z : Option Directive}, Option.Rel TableDelimited x y →
    Option.Rel TableDelimited y z → Option.Rel TableDelimited x z
  | _, _, _, .none, .none => .none
  | _, _, _, .some h, .some h' => .some (h.trans h')

/-- The name of a table is read as it is written. -/
theorem onLine?_table_delimited (h : Names .table place name) (hfree : '&' ∉ name) :
    Option.Rel TableDelimited (onLine? (place.line name)) (onLine? (place.line (delimited name))) :=
  match h with
  | @Names.table lead gap name behind hlead hgap hname hbehind => by
    have hwritten : ∀ written : Text, (Place.mk (lead ++ '-' :: '>' :: gap) behind).line written =
        lead ++ '-' :: '>' :: (gap ++ written ++ behind) := by
      simp [Place.line]
    rw [hwritten, hwritten, onLine?_table hlead hgap hname hbehind,
      onLine?_table hlead hgap (whole_delimited hname.2) hbehind]
    dsimp only
    split_ifs
    · exact .none
    · exact .some (.table hname.2 hfree _ _)

/-- A line, and the line with `&` around names on it that have none. -/
inductive Redelimited : Text → Text → Prop
  | same (line : Text) : Redelimited line line
  | around {role : Role} {place : Place} {name : Text} (h : Names role place name)
      (hfree : '&' ∉ name) : Redelimited (place.line name) (place.line (delimited name))
  | trans {line line' line'' : Text} (h : Redelimited line line') (h' : Redelimited line' line'') :
      Redelimited line line''

theorem Redelimited.onLine? {line line' : Text} (h : Redelimited line line') :
    Option.Rel TableDelimited (onLine? line) (onLine? line') := by
  have hsame : ∀ found : Option Directive, Option.Rel TableDelimited found found
    | none => .none
    | some directive => .some (.same directive)
  induction h with
  | same line => exact hsame _
  | @around role place name h hfree =>
    by_cases hrole : role = .table
    · subst hrole
      exact onLine?_table_delimited h hfree
    · rw [onLine?_delimited h hfree hrole]
      exact hsame _
  | trans _ _ ih ih' => exact TableDelimited.rel_trans ih ih'

end Directive

namespace Dictionary

variable {name written : Text}

theorem placeholder_eq (hfree : '&' ∉ name) (h : Text.trim name = name) :
    placeholder name = delimited name := by
  rw [placeholder, bareName_of_trim hfree h, delimited]

/-- The placeholder for a database is longer than that for the table. -/
theorem fits_databasePlaceholder (hfits : fits (delimited name) = false)
    (hlength : Text.byteLength name ≤ Text.byteLength written) :
    fits (databasePlaceholder written) = false := by
  have hmark : Text.byteLength ['&'] ≤ Text.byteLength ("&db-" : Text) := by decide
  have hsplit : delimited name = ['&'] ++ name ++ ['&'] := rfl
  have hsplit' : databasePlaceholder written = ("&db-" : Text) ++ written ++ ['&'] := rfl
  unfold fits at *
  rw [hsplit, decide_eq_false_iff_not, byteLength_append, byteLength_append] at hfits
  rw [hsplit', decide_eq_false_iff_not, byteLength_append, byteLength_append]
  omega

end Dictionary

end SqlBuild
