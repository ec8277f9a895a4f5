import SqlBuild.Proofs.Locality

/-!
# The tokens reported as undefined

Between each `&` of a text and the next one stands a name. A pass that misses a name goes on with
the `&` behind it, the report goes on behind that `&` (`asksFrom_eq`, `undefinedFrom_eq`). So the
two look at the same names until a token that is missed shares its `&` with the next token. They
agree all the same as long as no two missed tokens are linked by tokens between them that are found,
and as long as nothing is found that is no token (`unresolved_eq_missed`).
-/

namespace SqlBuild

namespace Dictionary

/-- The placeholder of a name. -/
def token (name : Text) : Text := '&' :: name ++ ['&']

/-- A name that is reported. -/
def IsName (name : Text) : Prop := name ≠ [] ∧ name.all isNameChar = true

instance (name : Text) : Decidable (IsName name) := inferInstanceAs (Decidable (_ ∧ _))

/-- A name that is reported, between two `&`. -/
def isToken (t : Text) : Bool := t == token t.tail.dropLast && decide (IsName t.tail.dropLast)

theorem isToken_token (name : Text) : isToken (token name) = decide (IsName name) := by
  have hname : (token name).tail.dropLast = name := List.dropLast_concat
  rw [isToken, hname, beq_self_eq_true, Bool.true_and]

/-- The tokens that one pass looks up and does not find. -/
def missed (d : Dictionary) (t : Text) : List Text :=
  (d.asksFrom 0 t).filter fun token => isToken token && (d.get? token).isNone

/-- The names between each `&` of a text and the next one. -/
def between : Text → List Text
  | [] => []
  | c :: rest =>
    match if c = '&' then closed? rest else none with
    | some name => name :: between rest
    | none => between rest

theorem between_append {a : Text} (ha : '&' ∉ a) (t : Text) : between (a ++ t) = between t := by
  induction a with
  | nil => rfl
  | cons c a ih =>
    rw [List.mem_cons, not_or] at ha
    rw [List.cons_append, between, if_neg (Ne.symm ha.1), ih ha.2]

theorem between_eq_nil {t : Text} (h : '&' ∉ t) : between t = [] := by
  rw [← List.append_nil t, between_append h, between]

theorem tail_between (rest : Text) : (between ('&' :: rest)).tail = between rest := by
  rw [between, if_pos rfl]
  cases hclosed : closed? rest with
  | some name => rfl
  | none =>
    have hrest : '&' ∉ rest := fun hmem => by simp [closed?, hmem] at hclosed
    simp only []
    rw [between_eq_nil hrest, List.tail_nil]

/-- Behind a name that is closed the names of the text go on. -/
theorem tail_between_append {name : Text} (h : '&' ∉ name) (more : Text) :
    (between (name ++ '&' :: more)).tail = between more := by
  rw [between_append h, tail_between]

/-- What a pass looks up, told by the names of a text. -/
def asksIn (d : Dictionary) : List Text → List Text
  | [] => []
  | [name] => [token name]
  | name :: next :: names =>
    token name :: if (d.get? (token name)).isSome then asksIn d names else asksIn d (next :: names)

theorem asksIn_cons (d : Dictionary) (name : Text) (names : List Text) :
    d.asksIn (name :: names) =
      token name :: d.asksIn (if (d.get? (token name)).isSome then names.tail else names) := by
  cases names with
  | nil => simp [asksIn]
  | cons next names =>
    rw [asksIn]
    split_ifs <;> rfl

/-- What is reported, told by the names of a text. -/
def undefinedIn (d : Dictionary) : List Text → List Text
  | [] => []
  | [name] => if IsName name ∧ d.get? (token name) = none then [token name] else []
  | name :: next :: names =>
    if IsName name then
      (if d.get? (token name) = none then [token name] else []) ++ undefinedIn d names
    else undefinedIn d (next :: names)

theorem undefinedIn_cons (d : Dictionary) (name : Text) (names : List Text) :
    d.undefinedIn (name :: names) =
      if IsName name then
        (if d.get? (token name) = none then [token name] else []) ++ d.undefinedIn names.tail
      else d.undefinedIn names := by
  cases names with
  | nil => by_cases h : IsName name <;> simp [undefinedIn, h]
  | cons next names => rfl

section Scans

variable (d : Dictionary)

theorem asksFrom_skip (a t : Text) : d.asksFrom a.length (a ++ t) = d.asksFrom 0 t := by
  induction a with
  | nil => rfl
  | cons c a ih => rw [List.length_cons, List.cons_append, asksFrom, ih]

theorem undefinedFrom_skip (a t : Text) :
    d.undefinedFrom a.length (a ++ t) = d.undefinedFrom 0 t := by
  induction a with
  | nil => rfl
  | cons c a ih => rw [List.length_cons, List.cons_append, undefinedFrom, ih]

theorem asksFrom_eq : ∀ t : Text, d.asksFrom 0 t = d.asksIn (between t)
  | [] => rfl
  | c :: rest => by
    have hrest := asksFrom_eq rest
    rw [asksFrom, between]
    cases hclosed : if c = '&' then closed? rest else none with
    | none => exact hrest
    | some name =>
      obtain ⟨-, hclosed⟩ := Option.ite_none_right_eq_some.1 hclosed
      obtain ⟨hfree, more, rfl⟩ := closed?_eq_some.1 hclosed
      have hmore := asksFrom_eq more
      simp only []
      rw [asksIn_cons]
      refine congrArg (token name :: ·) ?_
      change d.asksFrom (if (d.get? (token name)).isSome then name.length + 1 else 0) _ = _
      split_ifs
      · rw [tail_between_append hfree, ← hmore, ← asksFrom_skip d (name ++ ['&']) more]
        simp
      · exact hrest
termination_by t => t.length

theorem undefinedFrom_eq : ∀ t : Text, d.undefinedFrom 0 t = d.undefinedIn (between t)
  | [] => rfl
  | c :: rest => by
    have hrest := undefinedFrom_eq rest
    rw [undefinedFrom, between]
    cases hclosed : if c = '&' then closed? rest else none with
    | none => exact hrest
    | some name =>
      obtain ⟨-, hclosed⟩ := Option.ite_none_right_eq_some.1 hclosed
      obtain ⟨hfree, more, rfl⟩ := closed?_eq_some.1 hclosed
      have hmore := undefinedFrom_eq more
      have hskip : d.undefinedFrom (name.length + 1) (name ++ '&' :: more) =
          d.undefinedFrom 0 more := by
        simpa using undefinedFrom_skip d (name ++ ['&']) more
      simp only []
      rw [undefinedIn_cons, tail_between_append hfree, ← hmore, ← hskip]
      change (if IsName name then if (d.get? (token name)).isNone then _ else _ else _) = _
      by_cases hname : IsName name
      · rw [if_pos hname, if_pos hname]
        cases d.get? (token name) <;> rfl
      · rw [if_neg hname, if_neg hname]
        exact hrest
termination_by t => t.length

end Scans

section Conditions

variable (d : Dictionary)

/-- The dictionary has a value for the placeholder of the name. -/
def Finds (name : Text) : Prop := d.get? (token name) ≠ none

/-- A token without a value. -/
def Misses (name : Text) : Prop := IsName name ∧ d.get? (token name) = none

/-- The names begin with tokens that are found, and behind these one that is missed. -/
def Reaches : List Text → Prop
  | [] => False
  | name :: names => d.Misses name ∨ (IsName name ∧ d.Finds name ∧ Reaches names)

/-- Two tokens are missed, and between them stand tokens only, which are found. -/
def Linked : List Text → Prop
  | [] => False
  | name :: names => (d.Misses name ∧ d.Reaches names) ∨ Linked names

instance (name : Text) : Decidable (d.Finds name) := inferInstanceAs (Decidable (_ ≠ _))

instance (name : Text) : Decidable (d.Misses name) := inferInstanceAs (Decidable (_ ∧ _))

instance decidableReaches : ∀ names, Decidable (d.Reaches names)
  | [] => inferInstanceAs (Decidable False)
  | _ :: names =>
    have := decidableReaches names
    inferInstanceAs (Decidable (_ ∨ (_ ∧ _ ∧ _)))

instance decidableLinked : ∀ names, Decidable (d.Linked names)
  | [] => inferInstanceAs (Decidable False)
  | _ :: names =>
    have := decidableLinked names
    inferInstanceAs (Decidable ((_ ∧ _) ∨ _))

end Conditions

section Agreement

variable {d : Dictionary} {name : Text} {names : List Text}

/-- The tokens among the placeholders a pass looks up that it does not find. -/
def missedIn (d : Dictionary) (names : List Text) : List Text :=
  (d.asksIn names).filter fun token => isToken token && (d.get? token).isNone

theorem missedIn_of_found (h : d.Finds name) :
    d.missedIn (name :: names) = d.missedIn names.tail := by
  have hsome : (d.get? (token name)).isSome = true := Option.isSome_iff_ne_none.2 h
  rw [missedIn, asksIn_cons, if_pos hsome,
    List.filter_cons_of_neg (by simp [show d.get? (token name) ≠ none from h])]
  rfl

theorem missedIn_of_missed (h : d.Misses name) :
    d.missedIn (name :: names) = token name :: d.missedIn names := by
  rw [missedIn, asksIn_cons, if_neg (by simp [h.2]),
    List.filter_cons_of_pos (by simp [isToken_token, h.1, h.2])]
  rfl

theorem missedIn_of_not_name (h : ¬ IsName name) (hfound : ¬ d.Finds name) :
    d.missedIn (name :: names) = d.missedIn names := by
  have hnone : d.get? (token name) = none := not_not.1 hfound
  rw [missedIn, asksIn_cons, if_neg (by simp [hnone]),
    List.filter_cons_of_neg (by simp [isToken_token, h])]
  rfl

theorem undefinedIn_of_found (h : IsName name) (hfound : d.Finds name) :
    d.undefinedIn (name :: names) = d.undefinedIn names.tail := by
  rw [undefinedIn_cons, if_pos h, if_neg hfound, List.nil_append]

theorem undefinedIn_of_missed (h : d.Misses name) :
    d.undefinedIn (name :: names) = token name :: d.undefinedIn names.tail := by
  rw [undefinedIn_cons, if_pos h.1, if_pos h.2, List.singleton_append]

theorem undefinedIn_of_not_name (h : ¬ IsName name) :
    d.undefinedIn (name :: names) = d.undefinedIn names := by
  rw [undefinedIn_cons, if_neg h]

/-- The two scans agree from one `&` on. They agree, too, when one of them stands one name behind
the other, unless tokens that are found lead from there to one that is missed. -/
theorem scans_agree (hnames : ∀ name ∈ names, d.Finds name → IsName name)
    (hlinked : ¬ d.Linked names) :
    d.undefinedIn names = d.missedIn names ∧ d.undefinedIn names.tail = d.missedIn names.tail ∧
      (¬ d.Reaches names → d.undefinedIn names.tail = d.missedIn names ∧
        d.undefinedIn names = d.missedIn names.tail) := by
  induction names with
  | nil => exact ⟨rfl, rfl, fun _ => ⟨rfl, rfl⟩⟩
  | cons name names ih =>
    rw [Linked, not_or, not_and] at hlinked
    rw [List.forall_mem_cons] at hnames
    obtain ⟨hsame, hbehind, happart⟩ := ih hnames.2 hlinked.2
    have hother : ¬ IsName name → d.undefinedIn (name :: names) = d.undefinedIn names ∧
        d.missedIn (name :: names) = d.missedIn names := fun hname =>
      ⟨undefinedIn_of_not_name hname, missedIn_of_not_name hname fun hfound =>
        hname (hnames.1 hfound)⟩
    refine ⟨?_, hsame, fun hreach => ?_⟩
    · by_cases hname : IsName name
      · by_cases hfound : d.Finds name
        · rw [undefinedIn_of_found hname hfound, missedIn_of_found hfound, hbehind]
        · have hmissed : d.Misses name := ⟨hname, not_not.1 hfound⟩
          rw [undefinedIn_of_missed hmissed, missedIn_of_missed hmissed,
            (happart (hlinked.1 hmissed)).1]
      · rw [(hother hname).1, (hother hname).2, hsame]
    · rw [Reaches, not_or] at hreach
      rw [List.tail_cons]
      by_cases hname : IsName name
      · have hfound : d.Finds name := fun hnone => hreach.1 ⟨hname, hnone⟩
        have hbeyond := happart fun hnext => hreach.2 ⟨hname, hfound, hnext⟩
        rw [undefinedIn_of_found hname hfound, missedIn_of_found hfound]
        exact ⟨hbeyond.2, hbeyond.1⟩
      · rw [(hother hname).1, (hother hname).2]
        exact ⟨hsame, hsame⟩

/-- Of tokens that are found and a missed one behind them, each scan comes to the latter from the
first `&` or from the second one, and not from both. -/
theorem scans_of_found {found : List Text} (hfound : ∀ y ∈ found, IsName y ∧ d.Finds y)
    (h : d.Misses name) :
    d.undefinedIn (found ++ [name]) = d.missedIn (found ++ [name]) ∧
      d.undefinedIn (found ++ [name]).tail = d.missedIn (found ++ [name]).tail ∧
      (d.missedIn (found ++ [name]) = [token name] ∧ d.missedIn (found ++ [name]).tail = [] ∨
        d.missedIn (found ++ [name]) = [] ∧ d.missedIn (found ++ [name]).tail = [token name]) := by
  induction found with
  | nil =>
    have hreported : d.undefinedIn [name] = [token name] := undefinedIn_of_missed h
    have hmissed : d.missedIn [name] = [token name] := missedIn_of_missed h
    exact ⟨hreported.trans hmissed.symm, rfl, .inl ⟨hmissed, rfl⟩⟩
  | cons y found ih =>
    rw [List.forall_mem_cons] at hfound
    obtain ⟨hsame, hbehind, hends⟩ := ih hfound.2
    rw [List.cons_append, List.tail_cons, undefinedIn_of_found hfound.1.1 hfound.1.2,
      missedIn_of_found hfound.1.2]
    exact ⟨hbehind, hsame, hends.symm.imp And.symm And.symm⟩

theorem unresolved_eq (d : Dictionary) (t : Text) :
    d.unresolved t = (d.undefinedIn (between t)).eraseDups := by
  rw [unresolved, undefinedFrom_eq]

theorem missed_eq (d : Dictionary) (t : Text) : d.missed t = d.missedIn (between t) := by
  rw [missed, asksFrom_eq, missedIn]

/-- The report names what one pass misses, each token once and in the order of its first
occurrence, unless two missed tokens are linked by tokens that are found, or something is found
that is no token. Where there is nothing else between the `&` of a text, each of the two makes the
report differ from what the pass misses. -/
theorem unresolved_eq_missed (d : Dictionary) (t : Text) :
    ((∀ name ∈ between t, d.Finds name → IsName name) → ¬ d.Linked (between t) →
      d.unresolved t = (d.missed t).eraseDups) ∧
    (∀ first found last, between t = first :: (found ++ [last]) → d.Misses first →
      (∀ name ∈ found, IsName name ∧ d.Finds name) → d.Misses last → first ≠ last →
      d.unresolved t ≠ (d.missed t).eraseDups) ∧
    (∀ name last, between t = [name, last] → d.Finds name → ¬ IsName name → d.Misses last →
      d.unresolved t ≠ (d.missed t).eraseDups) := by
  rw [unresolved_eq, missed_eq]
  refine ⟨fun hnames hlinked => ?_, fun first found last hbetween hfirst hfound hlast hne => ?_,
    fun name last hbetween hname hother hlast => ?_⟩
  · rw [(scans_agree hnames hlinked).1]
  · obtain ⟨-, hbehind, hends⟩ := scans_of_found hfound hlast
    have htokens : token last ≠ token first := fun heq =>
      hne (List.append_cancel_right (List.cons.inj heq).2).symm
    rw [hbetween, undefinedIn_of_missed hfirst, missedIn_of_missed hfirst, hbehind]
    rcases hends with ⟨hone, htwo⟩ | ⟨hone, htwo⟩
    · rw [hone, htwo]
      simp [List.eraseDups_cons, htokens]
    · rw [hone, htwo]
      simp [List.eraseDups_cons, htokens]
  · rw [hbetween, undefinedIn_of_not_name hother, undefinedIn_of_missed hlast,
      missedIn_of_found hname]
    simp [undefinedIn, missedIn, asksIn, List.eraseDups_cons]

/-- A dictionary with a name that is no token. -/
def brief : Dictionary := ⟨[("&b&", "1"), ("&x y&", "2")]⟩

/-- A missed token with one that is found behind it, two missed tokens with such a token between
them, and a name that is no token. -/
theorem unresolved_eq_missed_brief :
    (∀ name ∈ between "R&D &a&b&c d&e& &a&", brief.Finds name → IsName name) ∧
      ¬ brief.Linked (between "R&D &a&b&c d&e& &a&") ∧
      brief.unresolved "R&D &a&b&c d&e& &a&" = (brief.missed "R&D &a&b&c d&e& &a&").eraseDups ∧
    between "&a&b&c&" = [("a" : Text), "b", "c"] ∧ brief.Misses "a" ∧ IsName "b" ∧
      brief.Finds "b" ∧ brief.Misses "c" ∧
      brief.unresolved "&a&b&c&" ≠ (brief.missed "&a&b&c&").eraseDups ∧
    between "&x y&c&" = [("x y" : Text), "c"] ∧ brief.Finds "x y" ∧ ¬ IsName "x y" ∧
      brief.unresolved "&x y&c&" ≠ (brief.missed "&x y&c&").eraseDups := by
  have hnames : ∀ name ∈ between "R&D &a&b&c d&e& &a&", brief.Finds name → IsName name := by
    decide +kernel
  have hlinked : ¬ brief.Linked (between "R&D &a&b&c d&e& &a&") := by decide +kernel
  have hthree : between "&a&b&c&" = [("a" : Text), "b", "c"] := by decide +kernel
  have htwo : between "&x y&c&" = [("x y" : Text), "c"] := by decide +kernel
  have ha : brief.Misses "a" := by decide +kernel
  have hb : IsName "b" ∧ brief.Finds "b" := by decide +kernel
  have hc : brief.Misses "c" := by decide +kernel
  have hx : brief.Finds "x y" ∧ ¬ IsName "x y" := by decide +kernel
  exact ⟨hnames, hlinked, (unresolved_eq_missed brief _).1 hnames hlinked, hthree, ha, hb.1, hb.2,
    hc, (unresolved_eq_missed brief _).2.1 "a" ["b"] "c" hthree ha (by simpa using hb) hc
      (by decide), htwo, hx.1, hx.2,
    (unresolved_eq_missed brief _).2.2 "x y" "c" htwo hx.1 hx.2 hc⟩

/-- Of two tokens that share an `&` the second is not reported, though a pass looks it up; and what
is found but is no token makes something be reported that no pass looks up. -/
theorem unresolved_of_shared : unresolved ⟨[]⟩ "&a&b&" = [("&a&" : Text)] ∧
    (missed ⟨[]⟩ "&a&b&").eraseDups = [("&a&" : Text), "&b&"] ∧
    brief.unresolved "&x y&c&" = [("&c&" : Text)] ∧ brief.missed "&x y&c&" = [] := by
  decide +kernel

end Agreement

end Dictionary

end SqlBuild
