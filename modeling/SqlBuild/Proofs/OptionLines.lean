import SqlBuild.Proofs.Delimiters

/-!
# Written directives

The written forms of a directive (`Directive.Written`): its parts in order with white space between
them, and white space around the line. Every written form is read as the directive it was written
for (`Directive.ofLine?_written`), since no part before a marker holds the marker.
-/

namespace SqlBuild

namespace Directive

/-- White space between two parts of a line. -/
def Gap (t : Text) : Prop := t ≠ [] ∧ Blanks t

instance : DecidablePred Gap := fun _ => inferInstanceAs (Decidable (_ ∧ _))

/-- What stands behind the other parts of a line: a description, with a gap before it. -/
inductive Ending (description : Text) : Text → Prop
  | of {gap blanks : Text} (hgap : Blanks gap) (hblanks : Blanks blanks)
      (hparted : description ≠ [] → gap ≠ []) (htrim : Text.trim description = description) :
      Ending description (gap ++ description ++ blanks)

/-- The lines that a directive is written as. The name of a database may stand between
delimiters. -/
inductive Written : Directive → Text → Prop
  | value {lead gap name gap' content description ending : Text} (dynamic : Bool)
      (hlead : Blanks lead) (hgap : Blanks gap) (hname : Text.Whole name) (hbare : Bare name)
      (hopening : ¬ ['<', '<'] <:+: name) (hgap' : Gap gap') (hclosing : ¬ ['>', '>'] <:+: content)
      (hlast : content.getLast? ≠ some '>') (hending : Ending description ending) :
      Written (.value name content description dynamic)
        (lead ++ (if dynamic then 'V' else 'v') :: ':' ::
          (gap ++ name ++ gap' ++ '<' :: '<' :: (content ++ '>' :: '>' :: ending)))
  | conditional {lead gap name gap' description ending : Text} (dynamic enabled : Bool)
      (hlead : Blanks lead) (hgap : Blanks gap) (hname : Text.Whole name) (hbare : Bare name)
      (hgap' : Gap gap') (hending : Ending description ending) :
      Written (.conditional name enabled description dynamic)
        (lead ++ (if dynamic then 'C' else 'c') :: ':' ::
          (gap ++ name ++ (gap' ++ (if enabled then ['+'] else ['-']) ++ ending)))
  | table {lead gap table gap' database written description ending : Text}
      (hlead : Blanks lead) (hgap : Blanks gap) (htable : Text.Whole table) (hgap' : Gap gap')
      (hwritten : Text.Whole written)
      (hdatabase : written = delimited database ∨ written = database ∧ Bare database)
      (hending : Ending description ending) :
      Written (.table table (delimited database) description)
        (lead ++ '-' :: '>' :: (gap ++ table ++ (gap' ++ written ++ ending)))

section Parts

variable {description ending gap gap' name content t : Text}

theorem Blanks.head (h : Blanks t) : t.head?.all isBlank = true := by
  cases t with
  | nil => rfl
  | cons c rest => exact h c List.mem_cons_self

theorem Gap.head (h : Gap gap) (behind : Text) : (gap ++ behind).head?.all isBlank = true := by
  obtain ⟨c, rest, rfl⟩ := List.exists_cons_of_ne_nil h.1
  exact h.2 c List.mem_cons_self

theorem Ending.trim (h : Ending description ending) : Text.trim ending = description := by
  obtain ⟨hgap, hblanks, -, htrim⟩ := h
  rw [List.append_assoc, Text.trim_blanks_append hgap, Text.trim_append hblanks, htrim]

theorem Ending.head (h : Ending description ending) : ending.head?.all isBlank = true := by
  obtain ⟨hgap, hblanks, hparted, -⟩ := h
  by_cases hnone : description = []
  · subst hnone
    rw [List.append_nil]
    exact Blanks.head fun c hc => (List.mem_append.1 hc).elim (hgap c) (hblanks c)
  · rw [List.append_assoc]
    exact Gap.head ⟨hparted hnone, hgap⟩ _

/-- White space before a text adds no mark to it. -/
theorem infix_of_blanks_append {mark : Text} (hmark : Text.Whole mark) :
    ∀ {gap : Text}, Blanks gap → mark <:+: gap ++ t → mark <:+: t
  | [], _, h => h
  | c :: gap, hgap, h => by
    rw [Blanks, List.forall_mem_cons] at hgap
    have hc : c ∉ mark := by
      intro hmem
      have hvisible := hmark.2 c hmem
      rw [hgap.1] at hvisible
      cases hvisible
    rcases Text.infix_append_cons (a := []) hc h with hnil | hrest
    · exact absurd (List.infix_nil.1 hnil) hmark.1
    · exact infix_of_blanks_append hmark hgap.2 hrest

/-- The mark behind a name and a gap is the first one. -/
theorem not_opening_before (hgap : Blanks gap) (hopening : ¬ ['<', '<'] <:+: name)
    (hgap' : Gap gap') : ¬ ['<', '<'] <:+: gap ++ name ++ gap' ++ ['<'] := by
  have hmark : Text.Whole ['<', '<'] := by decide
  intro h
  rw [List.append_assoc, List.append_assoc] at h
  have hbehind := infix_of_blanks_append hmark hgap h
  obtain ⟨c, rest, rfl⟩ := List.exists_cons_of_ne_nil hgap'.1
  obtain ⟨hc, hrest⟩ := List.forall_mem_cons.1 hgap'.2
  have hne : c ∉ ['<', '<'] := by
    intro hmem
    obtain rfl : c = '<' := by simpa using hmem
    exact absurd hc (by decide)
  rcases Text.infix_append_cons hne hbehind with hname | hlone
  · exact hopening hname
  · have hlength := (infix_of_blanks_append hmark hrest hlone).length_le
    simp at hlength

/-- The mark behind a value is the first one, unless the value holds it or ends in half of it. -/
theorem not_closing_before (hclosing : ¬ ['>', '>'] <:+: content)
    (hlast : content.getLast? ≠ some '>') : ¬ ['>', '>'] <:+: content ++ ['>'] := by
  rw [List.infix_concat_iff]
  rintro (hsuffix | hinfix)
  · obtain ⟨front, hfront⟩ := hsuffix
    have hmarks : front ++ ['>'] ++ ['>'] = content ++ ['>'] := by
      rw [← hfront]
      simp
    exact hlast (by rw [← List.append_cancel_right hmarks, List.getLast?_concat])
  · exact hclosing hinfix

end Parts

theorem ofLine?_of_onLine? {line : Text} {directive : Directive}
    (h : onLine? line = some directive) : ofLine? line = .ok (some directive) := by
  unfold onLine? at h
  split at h
  · rw [‹ofLine? line = _›, h]
  · cases h

/-- A directive that the server resolves itself. -/
def isDynamic : Directive → Bool
  | .value _ _ _ dynamic | .conditional _ _ _ dynamic => dynamic
  | .table .. => false

section Reading

variable {lead gap gap' name content description ending table written : Text}

theorem trim_between (hgap : Blanks gap) (hname : Text.Unbroken name) (hgap' : Blanks gap') :
    Text.trim (gap ++ name ++ gap') = name := by
  rw [Text.trim_append hgap', Text.trim_blanks_append hgap, Text.trim_of_unbroken hname]

theorem splitAt?_content (hclosing : ¬ ['>', '>'] <:+: content)
    (hlast : content.getLast? ≠ some '>') (ending : Text) :
    Text.splitAt? ">>" (Text.trimEnd (content ++ '>' :: '>' :: ending)) =
      some (content, Text.trimEnd ending) := by
  have hmark : Text.Whole ['>', '>'] := by decide
  have hend : Text.trimEnd (content ++ '>' :: '>' :: ending) =
      content ++ ['>'] ++ '>' :: Text.trimEnd ending := by
    simpa using Text.trimEnd_append_whole hmark content ending
  have hmarks : (">>" : Text) = ['>'] ++ ['>'] := by decide
  rw [hend, hmarks, Text.splitAt?_append _ (not_closing_before hclosing hlast)]

theorem onLine?_value (dynamic : Bool) (hlead : Blanks lead) (hgap : Blanks gap)
    (hname : Text.Whole name) (hbare : Bare name) (hopening : ¬ ['<', '<'] <:+: name)
    (hgap' : Gap gap') (hclosing : ¬ ['>', '>'] <:+: content)
    (hlast : content.getLast? ≠ some '>') (hending : Ending description ending) :
    onLine? (lead ++ (if dynamic then 'V' else 'v') :: ':' ::
        (gap ++ name ++ gap' ++ '<' :: '<' :: (content ++ '>' :: '>' :: ending))) =
      some (.value name content description dynamic) := by
  have hletter : (if dynamic then 'V' else 'v') = 'v' ∨ (if dynamic then 'V' else 'v') = 'V' := by
    cases dynamic <;> simp
  have hbareName := bareName_of_trim_bare hbare (trim_between hgap hname.2 hgap'.2)
  have hsound : ¬ (name = [] ∨ name.any isBlank = true) := by
    rintro (hnil | hblank)
    · exact hname.1 hnil
    · rw [Text.unbroken_iff.1 hname.2] at hblank
      cases hblank
  rw [onLine?_option hletter hlead (not_opening_before hgap hopening hgap'),
    splitAt?_content hclosing hlast, Option.bind_some, hbareName, if_neg hsound,
    Text.trim_trimEnd, hending.trim]
  cases dynamic <;> rfl

theorem onLine?_switch (dynamic enabled : Bool) (hlead : Blanks lead) (hgap : Blanks gap)
    (hname : Text.Whole name) (hbare : Bare name) (hgap' : Gap gap')
    (hending : Ending description ending) :
    onLine? (lead ++ (if dynamic then 'C' else 'c') :: ':' ::
        (gap ++ name ++ (gap' ++ (if enabled then ['+'] else ['-']) ++ ending))) =
      some (.conditional name enabled description dynamic) := by
  have hletter : (if dynamic then 'C' else 'c') = 'c' ∨ (if dynamic then 'C' else 'c') = 'C' := by
    cases dynamic <;> simp
  have hswitch : Text.Whole (if enabled then ['+'] else ['-']) := by
    cases enabled <;> decide
  have hbehind : (gap' ++ (if enabled then ['+'] else ['-']) ++ ending).head?.all isBlank =
      true := by
    rw [List.append_assoc]
    exact hgap'.head _
  rw [onLine?_conditional hletter hlead hgap hname hbehind,
    Text.firstWord_trim hgap'.2 hswitch hending.head, hending.trim,
    bareName_of_trim_bare hbare (Text.trim_of_unbroken hname.2)]
  cases dynamic <;> cases enabled <;> rfl

theorem onLine?_mapping {database : Text} (hlead : Blanks lead) (hgap : Blanks gap)
    (htable : Text.Whole table) (hgap' : Gap gap') (hwritten : Text.Whole written)
    (hdatabase : written = delimited database ∨ written = database ∧ Bare database)
    (hending : Ending description ending) :
    onLine? (lead ++ '-' :: '>' :: (gap ++ table ++ (gap' ++ written ++ ending))) =
      some (.table table (delimited database) description) := by
  have hbareName : bareName written = database := by
    rcases hdatabase with rfl | ⟨rfl, hbare⟩
    · exact bareName_of_trim_delimited (trim_delimited database)
    · exact bareName_of_trim_bare hbare (Text.trim_of_unbroken hwritten.2)
  rw [onLine?_database hlead hgap htable hgap'.2 hgap'.1 hwritten hending.head, hending.trim,
    placeholder, hbareName, delimited]

end Reading

/-- A written directive is read as it was meant; a capital letter says that it is dynamic. -/
theorem ofLine?_written {directive : Directive} {line : Text} (h : Written directive line) :
    ofLine? line = .ok (some directive) ∧
      (directive.isDynamic = true ↔ ∃ letter ∈ (Text.trim line).head?, letter.isUpper = true) := by
  cases h with
  | value dynamic hlead hgap hname hbare hopening hgap' hclosing hlast hending =>
    refine ⟨ofLine?_of_onLine? (onLine?_value dynamic hlead hgap hname hbare hopening hgap'
      hclosing hlast hending), ?_⟩
    rw [trim_lead hlead (by cases dynamic <;> decide) (by decide)]
    cases dynamic <;> simp [isDynamic]
  | conditional dynamic enabled hlead hgap hname hbare hgap' hending =>
    refine ⟨ofLine?_of_onLine? (onLine?_switch dynamic enabled hlead hgap hname hbare hgap'
      hending), ?_⟩
    rw [trim_lead hlead (by cases dynamic <;> decide) (by decide)]
    cases dynamic <;> simp [isDynamic]
  | table hlead hgap htable hgap' hwritten hdatabase hending =>
    refine ⟨ofLine?_of_onLine? (onLine?_mapping hlead hgap htable hgap' hwritten hdatabase
      hending), ?_⟩
    rw [trim_lead hlead (by decide) (by decide)]
    simp [isDynamic]

/-- A value and a name with halves of the marks in them, a description with whole ones. -/
def markedLine : Text := "\t V: a<&b  << <x&>y >> >> see <<b>>\n"

def marked : Directive := .value "a<&b" " <x&>y " ">> see <<b>>" true

theorem written_marked : Written marked markedLine := by
  have hline : markedLine = ['\t', ' '] ++ 'V' :: ':' :: ([' '] ++ "a<&b" ++ [' ', ' '] ++
      '<' :: '<' :: (" <x&>y " ++ '>' :: '>' :: ([' '] ++ ">> see <<b>>" ++ ['\n']))) := by decide
  rw [hline]
  exact .value true (by decide) (by decide) (by decide) (by decide) (by decide +kernel)
    (by decide) (by decide +kernel) (by decide)
    (.of (by decide) (by decide) (by decide) (by decide))

/-- A conditional that is called like a switch. -/
theorem written_switch : Written (.conditional "+" false [] false) "\tc: + - \r" := by
  have hline : ("\tc: + - \r" : Text) = ['\t'] ++ 'c' :: ':' :: ([' '] ++ ['+'] ++
      ([' '] ++ ['-'] ++ ([' '] ++ [] ++ ['\r']))) := by decide
  rw [hline]
  exact .conditional false false (by decide) (by decide) (by decide) (by decide) (by decide)
    (.of (by decide) (by decide) (by decide) (by decide))

/-- A database between delimiters, behind a table whose name keeps its own. -/
theorem written_mapping :
    Written (.table "&t&" (delimited "main") "other accounts")
      " -> &t& &main&  other accounts " := by
  have hline : (" -> &t& &main&  other accounts " : Text) = [' '] ++ '-' :: '>' ::
      ([' '] ++ "&t&" ++ ([' '] ++ "&main&" ++ ([' ', ' '] ++ "other accounts" ++ [' ']))) := by
    decide
  rw [hline]
  exact .table (by decide) (by decide) (by decide) (by decide) (by decide) (.inl (by decide))
    (.of (by decide) (by decide) (by decide) (by decide))

theorem ofLine?_written_marked :
    Written marked markedLine ∧ ofLine? markedLine = .ok (some marked) ∧
      ofLine? "\tc: + - \r" = .ok (some (.conditional "+" false [] false)) ∧
      ofLine? " -> &t& &main&  other accounts " =
        .ok (some (.table "&t&" (delimited "main") "other accounts")) :=
  ⟨written_marked, (ofLine?_written written_marked).1, (ofLine?_written written_switch).1,
    (ofLine?_written written_mapping).1⟩

end Directive

end SqlBuild
