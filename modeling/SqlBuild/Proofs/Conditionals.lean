import SqlBuild.Proofs.Expansion
import SqlBuild.Proofs.Precedence

/-!
# Conditional blocks

The four placeholders of a conditional are recorded together (`brackets_insertConditional`). No
conditional shares a placeholder with another one (`marker_inj`), so no other conditional changes
them (`Brackets.insertConditionals`). A pass replaces the two placeholders around a text, and
whatever it makes of the text, later passes never see a placeholder reach out of it
(`iterate_enclosed`).
-/

namespace SqlBuild

namespace Dictionary

/-- How the names of the four placeholders of a conditional begin. -/
def markers : List Text := ["&if_", "&endif_", "&ifn_", "&endifn_"]

def insertConditionals (d : Dictionary) (conditionals : List (Text × Bool)) : Dictionary :=
  conditionals.foldl (fun d c => d.insertConditional c.1 c.2) d

/-- The four placeholders of a conditional say whether it is enabled. -/
structure Brackets (d : Dictionary) (name : Text) (enabled : Bool) : Prop where
  opening : d.get? ("&if_" ++ name ++ "&") = some (if enabled then [] else commentOpen)
  closing : d.get? ("&endif_" ++ name ++ "&") = some (if enabled then [] else commentClose)
  openingNot : d.get? ("&ifn_" ++ name ++ "&") = some (if enabled then commentOpen else [])
  closingNot : d.get? ("&endifn_" ++ name ++ "&") = some (if enabled then commentClose else [])

section Records

variable {d : Dictionary} {name other marker marker' value : Text} {enabled : Bool}

/-- No marker begins another one, so a placeholder tells its conditional. -/
theorem marker_inj (hmarker : marker ∈ markers) (hmarker' : marker' ∈ markers)
    (h : marker ++ name ++ "&" = marker' ++ other ++ "&") : marker = marker' ∧ name = other := by
  have hbegins : ∀ a ∈ markers, ∀ b ∈ markers, a <+: b → a = b := by decide
  have happend : marker ++ name = marker' ++ other := List.append_cancel_right h
  have hmark : marker = marker' := by
    rcases List.append_eq_append_iff.1 happend with ⟨rest, heq, -⟩ | ⟨rest, heq, -⟩
    · exact hbegins _ hmarker _ hmarker' ⟨rest, heq.symm⟩
    · exact (hbegins _ hmarker' _ hmarker ⟨rest, heq.symm⟩).symm
  exact ⟨hmark, List.append_cancel_left (hmark ▸ happend)⟩

theorem get?_insert_self (hfits : fits name = true) (value : Text) :
    (d.insert name value).get? name = some value := by
  rw [Dictionary.insert, if_pos hfits, get?, lookup_assign, if_pos rfl]

theorem get?_insert_other (h : name ≠ other) (value : Text) :
    (d.insert other value).get? name = d.get? name := by
  unfold Dictionary.insert
  split
  · rw [get?, lookup_assign, if_neg h]
    rfl
  · rfl

/-- A conditional changes no placeholder but its own four. -/
theorem get?_insertConditional_of_ne {placeholder : Text}
    (hne : ∀ marker ∈ markers, placeholder ≠ marker ++ name ++ "&") (enabled : Bool) :
    (d.insertConditional name enabled).get? placeholder = d.get? placeholder := by
  unfold insertConditional
  split
  · rw [get?_insert_other (hne "&endifn_" (by decide)), get?_insert_other (hne "&ifn_" (by decide)),
      get?_insert_other (hne "&endif_" (by decide)), get?_insert_other (hne "&if_" (by decide))]
  · rfl

theorem get?_insertConditional_other (hmarker : marker ∈ markers) (h : name ≠ other)
    (enabled : Bool) : (d.insertConditional other enabled).get? (marker ++ name ++ "&") =
      d.get? (marker ++ name ++ "&") :=
  get?_insertConditional_of_ne
    (fun _ hmarker' heq => h (marker_inj hmarker hmarker' heq).2) enabled

/-- All four names fit when the widest does. -/
theorem fits_of_mem_markers (hfits : fits (widest name) = true) (hmarker : marker ∈ markers) :
    fits (marker ++ name ++ "&") = true := by
  have hlength : ∀ m ∈ markers, Text.byteLength m ≤ Text.byteLength ("&endifn_" : Text) := by
    decide
  exact fits_of_widest hfits (hlength marker hmarker)

theorem brackets_insertConditional (hfits : fits (widest name) = true) (enabled : Bool) :
    (d.insertConditional name enabled).Brackets name enabled := by
  have hshort : ∀ marker ∈ markers, fits (marker ++ name ++ "&") = true :=
    fun marker => fits_of_mem_markers hfits
  have hne : ∀ marker ∈ markers, ∀ marker' ∈ markers, marker ≠ marker' →
      marker ++ name ++ "&" ≠ marker' ++ name ++ "&" :=
    fun marker hmarker marker' hmarker' h heq => h (marker_inj hmarker hmarker' heq).1
  unfold insertConditional
  rw [if_pos hfits]
  constructor
  · rw [get?_insert_other (hne "&if_" (by decide) "&endifn_" (by decide) (by decide)),
      get?_insert_other (hne "&if_" (by decide) "&ifn_" (by decide) (by decide)),
      get?_insert_other (hne "&if_" (by decide) "&endif_" (by decide) (by decide)),
      get?_insert_self (hshort "&if_" (by decide))]
  · rw [get?_insert_other (hne "&endif_" (by decide) "&endifn_" (by decide) (by decide)),
      get?_insert_other (hne "&endif_" (by decide) "&ifn_" (by decide) (by decide)),
      get?_insert_self (hshort "&endif_" (by decide))]
  · rw [get?_insert_other (hne "&ifn_" (by decide) "&endifn_" (by decide) (by decide)),
      get?_insert_self (hshort "&ifn_" (by decide))]
    cases enabled <;> rfl
  · rw [get?_insert_self (hshort "&endifn_" (by decide))]
    cases enabled <;> rfl

/-- Another conditional leaves the four placeholders alone. -/
theorem Brackets.insertConditional (h : d.Brackets name enabled) (hne : name ≠ other)
    (enabled' : Bool) : (d.insertConditional other enabled').Brackets name enabled where
  opening := (get?_insertConditional_other (by decide) hne enabled').trans h.opening
  closing := (get?_insertConditional_other (by decide) hne enabled').trans h.closing
  openingNot := (get?_insertConditional_other (by decide) hne enabled').trans h.openingNot
  closingNot := (get?_insertConditional_other (by decide) hne enabled').trans h.closingNot

theorem Brackets.insertConditionals (h : d.Brackets name enabled)
    {conditionals : List (Text × Bool)} (hne : ∀ c ∈ conditionals, c.1 ≠ name) :
    (d.insertConditionals conditionals).Brackets name enabled := by
  induction conditionals generalizing d with
  | nil => exact h
  | cons c rest ih =>
    rw [List.forall_mem_cons] at hne
    exact ih (h.insertConditional hne.1.symm c.2) hne.2

end Records

section Enclosed

variable {d : Dictionary} {o c t opening closing : Text}

/-- A text without `&` closes no placeholder. -/
theorem opened?_append_free (hc : '&' ∉ c) (t : Text) : d.opened? (t ++ c) = d.opened? t := by
  refine opened?_append (fun front more hsplit => absurd ?_ hc) t
  rw [hsplit]
  simp

/-- A pass leaves texts without `&` around another text as they are. -/
theorem pass_enclosed (ho : '&' ∉ o) (hc : '&' ∉ c) (t : Text) :
    d.pass (o ++ t ++ c) = o ++ d.pass t ++ c := by
  have hbehind : d.pass (t ++ c) = d.pass t ++ d.pass c :=
    passFrom_append (opened?_append_free hc) t 0 (Nat.zero_le _)
  rw [List.append_assoc, pass_append (.of_free ho), pass_eq_self ho, hbehind, pass_eq_self hc,
    List.append_assoc]

theorem iterate_enclosed (ho : '&' ∉ o) (hc : '&' ∉ c) : ∀ (k : Nat) (t : Text),
    d.pass^[k] (o ++ t ++ c) = o ++ d.pass^[k] t ++ c
  | 0, _ => rfl
  | k + 1, t => by
    rw [Function.iterate_succ_apply, Function.iterate_succ_apply, pass_enclosed ho hc]
    exact iterate_enclosed ho hc k (d.pass t)

/-- Two placeholders with values without `&`, around a text whose placeholders are written in full.
The first pass replaces the two. -/
theorem resolve_enclosed (hopening : '&' ∉ opening) (hclosing : '&' ∉ closing)
    (hopen : d.get? ('&' :: opening ++ ['&']) = some o)
    (hclose : d.get? ('&' :: closing ++ ['&']) = some c) (ho : '&' ∉ o) (hc : '&' ∉ c)
    (ht : Composed d.Defines t) :
    d.resolve (('&' :: opening ++ ['&']) ++ t ++ ('&' :: closing ++ ['&'])) =
      o ++ d.resolve t ++ c := by
  have hfirst : d.pass (('&' :: opening ++ ['&']) ++ t ++ ('&' :: closing ++ ['&'])) =
      o ++ d.pass t ++ c := by
    have hbracket : ∀ {name value : Text}, '&' ∉ name →
        d.get? ('&' :: name ++ ['&']) = some value → Composed d.Defines ('&' :: name ++ ['&']) ∧
          d.pass ('&' :: name ++ ['&']) = value := by
      intro name value free hget
      refine ⟨.placeholder name free ⟨value, hget⟩ .nil, ?_⟩
      rw [pass_placeholder free hget, pass_eq_self List.not_mem_nil, List.append_nil]
    obtain ⟨hcomposed, hpassOpen⟩ := hbracket hopening hopen
    rw [List.append_assoc, pass_append hcomposed, pass_append ht, hpassOpen,
      (hbracket hclosing hclose).2, List.append_assoc]
  have hten : ∀ t, d.resolve t = d.pass^[9] (d.pass t) := resolveWithin_eq_iterate maxPasses
  rw [hten, hten, hfirst, iterate_enclosed ho hc]

end Enclosed

/-- Text between the placeholders of a conditional is live or a comment, whatever the dictionary
held before the conditional, and whichever other conditionals came after it. -/
theorem resolve_conditional (d : Dictionary) (name : Text) (free : '&' ∉ name)
    (hfits : Text.byteLength ("&endifn_" ++ name ++ "&") ≤ 40) (enabled : Bool)
    (later : List (Text × Bool)) (hlater : ∀ c ∈ later, c.1 ≠ name) {d' : Dictionary}
    (hd' : d' = (d.insertConditional name enabled).insertConditionals later) {x : Text}
    (hx : Composed d'.Defines x) :
    d'.resolve (("&if_" ++ name ++ "&") ++ x ++ ("&endif_" ++ name ++ "&")) =
        (if enabled then d'.resolve x else "/*" ++ d'.resolve x ++ "*/") ∧
      d'.resolve (("&ifn_" ++ name ++ "&") ++ x ++ ("&endifn_" ++ name ++ "&")) =
        (if enabled then "/*" ++ d'.resolve x ++ "*/" else d'.resolve x) := by
  have hbrackets : d'.Brackets name enabled := by
    rw [hd']
    exact (brackets_insertConditional (decide_eq_true hfits) enabled).insertConditionals hlater
  have hfree : ∀ marker : Text, '&' ∉ marker → '&' ∉ marker ++ name :=
    fun marker h hmem => (List.mem_append.1 hmem).elim h free
  have hlive := resolve_enclosed (hfree "if_" (by decide)) (hfree "endif_" (by decide))
    hbrackets.opening hbrackets.closing (by cases enabled <;> decide)
    (by cases enabled <;> decide) hx
  have hnot := resolve_enclosed (hfree "ifn_" (by decide)) (hfree "endifn_" (by decide))
    hbrackets.openingNot hbrackets.closingNot (by cases enabled <;> decide)
    (by cases enabled <;> decide) hx
  refine ⟨hlive.trans ?_, hnot.trans ?_⟩
  · cases enabled <;> simp [commentOpen, commentClose]
  · cases enabled <;> simp [commentOpen, commentClose]

/-- A value with another placeholder, a value with a lone `&`, and a conditional that was once
enabled. -/
def onceLive : Dictionary :=
  insertConditional ⟨[("&sum&", "(&pair&)"), ("&pair&", "1 & 2")]⟩ "live" true

/-- Disabled since, and followed by other conditionals. -/
def disabled : Dictionary :=
  (onceLive.insertConditional "live" false).insertConditionals [("lively", true), ("n_live", true)]

theorem resolve_conditional_disabled :
    Text.byteLength "&endifn_live&" ≤ 40 ∧ Composed disabled.Defines "select &sum&" ∧
      disabled.resolve "&if_live&select &sum&&endif_live&" = "/*select (1 & 2)*/" ∧
      disabled.resolve "&ifn_live&select &sum&&endifn_live&" = "select (1 & 2)" := by
  have hsum : Composed disabled.Defines "select &sum&" :=
    Composed.append (s := "select ") (.of_free (by decide))
      (.placeholder "sum" (by decide) ⟨"(&pair&)", by decide⟩ .nil)
  have hresolve : disabled.resolve "select &sum&" = "select (1 & 2)" := by decide
  obtain ⟨hlive, hnot⟩ := resolve_conditional onceLive "live" (by decide) (by decide) false
    [("lively", true), ("n_live", true)] (by decide) (show disabled = _ from rfl) hsum
  rw [hresolve] at hlive hnot
  exact ⟨by decide, hsum, hlive, hnot⟩

end Dictionary

end SqlBuild
