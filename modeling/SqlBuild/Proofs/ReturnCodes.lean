import SqlBuild.Proofs.Conversations
import SqlBuild.Proofs.Digits

/-!
# Return codes among notices

A return code is looked for in what is left of the lines of a batch without the notices of a changed
context. A notice goes on to the next blank line or header, and the line of the code is neither, so
while one is under way (`Sybase.NoticeUnderWay`) the code is taken for a part of it. That is the one
way to lose the code; behind all other lines it comes back (`Sybase.Desk.returnCode_eq`).
-/

namespace SqlBuild

namespace Text

/-- A number that fits is read as it was written. -/
theorem signed?_ofInt {bits : Nat} {i : Int} (hlow : -(Nat.pow 2 (bits - 1) : Int) ≤ i)
    (hhigh : i < (Nat.pow 2 (bits - 1) : Int)) : signed? bits (ofInt i) = some i := by
  have hfits : (some i).filter (fun i : Int => decide
      (-(Nat.pow 2 (bits - 1) : Int) ≤ i ∧ i < (Nat.pow 2 (bits - 1) : Int))) = some i :=
    Option.filter_some_pos (decide_eq_true ⟨hlow, hhigh⟩)
  cases i with
  | negSucc n =>
    have hread : (digits? (ofNat (n + 1))).map (fun n => -(n : Int)) = some (.negSucc n) := by
      rw [digits?_ofNat]
      rfl
    rw [← hread] at hfits
    exact hfits.trans hread
  | ofNat n =>
    have hread : (digits? (ofNat n)).map Int.ofNat = some (.ofNat n) := by
      rw [digits?_ofNat]
      rfl
    rw [← hread] at hfits
    -- No sign stands in front of a digit.
    rw [ofInt, signed?]
    · exact hfits.trans hread
    · intro r heq
      exact absurd (isDigit_of_mem_ofNat (heq ▸ List.mem_cons_self)) (by decide)
    · intro r heq
      exact absurd (isDigit_of_mem_ofNat (heq ▸ List.mem_cons_self)) (by decide)

theorem trim_ofInt (i : Int) : trim (ofInt i) = ofInt i := by
  have hdigit : ∀ {n : Nat} {c : Char}, c ∈ ofNat n → isBlank c = false := by
    intro n c hc
    have hrange := isDigit_of_mem_ofNat hc
    simp only [Char.isDigit, Bool.and_eq_true, decide_eq_true_eq] at hrange
    have hlow : 48 ≤ c.toNat := hrange.1
    have hhigh : c.toNat ≤ 57 := hrange.2
    simp only [isBlank, Bool.or_eq_false_iff, Bool.and_eq_false_iff, beq_eq_false_iff_ne,
      decide_eq_false_iff_not]
    omega
  have hvisible : ∀ c ∈ ofInt i, isBlank c = false := by
    cases i with
    | ofNat n => exact fun c => hdigit
    | negSucc n => exact List.forall_mem_cons.2 ⟨by decide, fun c => hdigit⟩
  have hstart : trimStart (ofInt i) = ofInt i := by
    cases h : ofInt i with
    | nil => rfl
    | cons c t =>
      exact List.dropWhile_cons_of_neg (by simp [hvisible c (h ▸ List.mem_cons_self)])
  rw [trim, hstart]
  exact dropEndWhile_eq_self hvisible

/-- A search that overlooks carriage returns and empty lines may look at the pieces between line
feeds. -/
theorem findSome?_lines {α : Type} {f : Text → Option α} (hnil : f [] = none)
    (hreturn : ∀ t, f (dropReturn t) = f t) (t : Text) :
    (lines t).findSome? f = (t.splitOn '\n').findSome? f := by
  obtain ⟨before, last, hpieces⟩ :=
    (List.eq_nil_or_concat' (t.splitOn '\n')).resolve_left (List.splitOn_ne_nil '\n' t)
  have hlast : (if last = [] then [] else [last]).findSome? f = [last].findSome? f := by
    split
    · rename_i hempty
      rw [hempty, List.findSome?_singleton, hnil]
      rfl
    · rfl
  have hbefore : (before.map dropReturn).findSome? f = before.findSome? f := by
    rw [List.findSome?_map]
    exact congrArg (before.findSome? ·) (funext hreturn)
  rw [lines, hpieces, List.dropLast_concat, List.getLast?_concat, Option.getD_some,
    List.findSome?_append, List.findSome?_append, hlast, hbefore]

end Text

namespace Sybase

/-- The text of a printed line. -/
def shown (t : Text) : Text :=
  dropPrompts (Text.dropEndWhile (fun c => c == '\r' || c == '\n') t)

theorem lineOf_encode (t : Text) : lineOf? (Utf8.encode t) = some (shown t) := by
  rw [lineOf?, Utf8.decode_encode]
  rfl

theorem dropPrompts_subset (t : Text) : dropPrompts t ⊆ t := by
  have hafter : ∀ {t rest : Text}, afterPrompt? t = some rest → rest ⊆ t := by
    intro t rest h
    have hdrop : t.dropWhile isDecimalDigit ⊆ t := (List.dropWhile_sublist _).subset
    unfold afterPrompt? at h
    split at h
    · cases h
    · rename_i hrest _
      obtain rfl := Option.some.inj h
      exact fun c hc => hdrop (hrest ▸ List.mem_cons_of_mem _ (List.mem_cons_of_mem _ hc))
    · rename_i hrest _
      obtain rfl := Option.some.inj h
      exact fun c hc => hdrop (hrest ▸ List.mem_cons_of_mem _ hc)
    · cases h
  induction t using dropPrompts.induct with
  | case1 t hnone =>
    rw [dropPrompts, hnone]
    exact List.Subset.refl t
  | case2 t rest hsome ih =>
    rw [dropPrompts, hsome]
    exact List.Subset.trans ih (hafter hsome)

/-- What is shown of a line has no line feed either. -/
theorem feed_not_mem_shown {t : Text} (h : '\n' ∉ t) : '\n' ∉ shown t := fun hmem =>
  h ((Text.dropEndWhile_isPrefix _ t).subset (dropPrompts_subset _ hmem))

/-! ### The code -/

variable {lines : List Text} {line : Text} {c : Int32}

theorem returnCodeIn?_join {kept : List Text} (hfeed : ∀ t ∈ kept, '\n' ∉ t) :
    returnCodeIn? (Text.join "\n" kept) =
      (kept.findSome? fun t => Text.after? returnMark (Text.trim t)).bind
        fun code => Text.signed? 32 (Text.trim code) := by
  have hlines := Text.findSome?_lines (f := fun t => Text.after? returnMark (Text.trim t)) rfl
    (fun t => by rw [Text.trim_dropReturn]) (Text.join "\n" kept)
  rw [returnCodeIn?, hlines]
  by_cases hempty : kept = []
  · subst hempty
    rfl
  · rw [show (Text.join "\n" kept).splitOn '\n' = kept from
      List.splitOn_intercalate '\n' hfeed hempty]

/-- Behind lines without a code of their own the code is found unless a notice is under way. -/
theorem returnCodeIn?_withoutNotices (hfeed : ∀ t ∈ lines ++ [line], '\n' ∉ t)
    (hmark : ∀ t ∈ lines, Text.after? returnMark (Text.trim t) = none)
    (hline : Text.trim line = returnMark ++ Text.ofInt c.toInt) :
    returnCodeIn? (Text.join "\n" (withoutNotices false (lines ++ [line]))) =
      if NoticeUnderWay lines then none else some c.toInt := by
  obtain ⟨hheader, -, hnotice⟩ := plain_of_trim hline
  have hbefore : (withoutNotices false lines).findSome?
      (fun t => Text.after? returnMark (Text.trim t)) = none :=
    List.findSome?_eq_none_iff.2 fun t ht =>
      hmark t ((withoutNotices_sublist lines false).subset ht)
  have hcode : Text.after? returnMark (Text.trim line) = some (Text.ofInt c.toInt) :=
    Text.after?_eq_some.2 hline
  rw [returnCodeIn?_join fun t ht =>
    hfeed t ((withoutNotices_sublist (lines ++ [line]) false).subset ht)]
  rw [withoutNotices_append, List.findSome?_append, hbefore, Option.none_or]
  simp only [noticeUnderWay_iff]
  cases lines.foldl skipsBehind false with
  | true => simp [withoutNotices, hheader]
  | false =>
    have hkept : withoutNotices false [line] = [line] := by
      simp [withoutNotices, hheader, hnotice]
    rw [hkept, List.findSome?_singleton, hcode, Option.bind_some, Text.trim_ofInt,
      Text.signed?_ofInt c.le_toInt c.toInt_lt]
    rfl

/-- A client that prints these texts, each on a line. -/
theorem texts_encode {reply : Reply} {texts : List Text}
    (h : reply.lines = texts.map Utf8.encode) :
    reply.IsText ∧ reply.texts = texts.map shown := by
  rw [Reply.IsText, Reply.texts, h]
  constructor
  · intro line hline
    obtain ⟨t, -, rfl⟩ := List.mem_map.1 hline
    simp [lineOf_encode]
  · rw [List.filterMap_map, ← List.filterMap_eq_map]
    exact List.filterMap_congr fun t _ => lineOf_encode t

theorem feed_mem_encode {t : Text} (h : '\n' ∈ t) : 10 ∈ Utf8.encode t :=
  List.mem_flatMap.2 ⟨'\n', h, by decide⟩

namespace Desk

variable {σ : Type} {programs : Programs σ} {session : Session} {reply : Reply} {s : σ}

theorem returnCode_of_interpret {call : Text} {output : Text}
    (hclean : session.unread = []) (hanswers : reply.Answers (session.sent + 1))
    (htext : reply.IsText) (houtput : interpret reply.texts = .ok output)
    (hprints : (programs.feed (session.request (returnCodeBatch call)) s).1 =
      (reply.sent, reply.bytes)) :
    (returnCode programs call ⟨s, some session⟩).1 =
      match returnCodeIn? output with
      | some code => .ok code
      | none => .error (.protocol (ReturnCode.noStatus call)) := by
  have hbatch : (batch programs (returnCodeBatch call) ⟨s, some session⟩).1 = .ok output := by
    simp only [batch, exchange, hprints, receive_of_isText hclean hanswers htext, houtput]
  rw [returnCode, query]
  cases hresult : batch programs (returnCodeBatch call) ⟨s, some session⟩ with
  | mk result desk =>
    rw [hresult] at hbatch
    obtain rfl : result = .ok output := hbatch
    rfl

/-- A call gets the code that is printed for it, whatever is printed before, unless a notice of a
changed context is under way where the code is printed. Then the code passes for a part of the
notice and the call fails. -/
theorem returnCode_eq (programs : Programs σ) (session : Session) (s : σ) (call : Text) (c : Int32)
    {reply : Reply} {lines : List Text} {line : Text} (hclean : session.unread = [])
    (hanswers : reply.Answers (session.sent + 1))
    (hprints : (programs.feed (session.request (returnCodeBatch call)) s).1 =
      (reply.sent, reply.bytes))
    (hlines : reply.lines = (lines ++ [line]).map Utf8.encode)
    (hline : Text.trim (shown line) = returnMark ++ Text.ofInt c.toInt)
    (hfailure : ∀ t ∈ lines.map shown, (Header.ofLine? t).any Header.isFailure = false)
    (hmark : ∀ t ∈ lines.map shown, Text.after? returnMark (Text.trim t) = none) :
    (returnCode programs call ⟨s, some session⟩).1 =
      if NoticeUnderWay (lines.map shown) then .error (.protocol (ReturnCode.noStatus call))
      else .ok c.toInt := by
  obtain ⟨htext, htexts⟩ := texts_encode hlines
  rw [List.map_append, List.map_singleton] at htexts
  have hfeed : ∀ t ∈ lines.map shown ++ [shown line], '\n' ∉ t := by
    intro u hu
    rw [← List.map_singleton, ← List.map_append] at hu
    obtain ⟨t, ht, rfl⟩ := List.mem_map.1 hu
    have hprinted : Utf8.encode t ∈ reply.lines := hlines ▸ List.mem_map_of_mem ht
    exact feed_not_mem_shown fun hmem =>
      hanswers.lines_unbroken _ hprinted (feed_mem_encode hmem)
  have hinterpret : interpret reply.texts =
      .ok (Text.join "\n" (withoutNotices false (lines.map shown ++ [shown line]))) := by
    rw [htexts]
    refine interpret_of_unfailed (List.forall_mem_append.2 ⟨hfailure, ?_⟩)
    rw [List.forall_mem_singleton, (plain_of_trim hline).1]
    rfl
  have hcode := returnCodeIn?_withoutNotices hfeed hmark hline
  rw [returnCode_of_interpret hclean hanswers htext hinterpret hprints, hcode]
  by_cases hunder : NoticeUnderWay (lines.map shown)
  · rw [if_pos hunder, if_pos hunder]
  · rw [if_neg hunder, if_neg hunder]

/-- A client that prints these bytes for every batch. -/
def repeating (output : Bytes) : Programs Unit where
  start _ s := (.ok (), s)
  feed _ s := ((.ok (), output), s)
  drop s := s
  staging _ := []
  transfer _ content s := ((.ok none, content), s)

/-- A reply to the first batch that prints these lines and then another one. -/
def firstReply (lines : List Text) (line : Text) : Reply :=
  .printing 1 ((lines ++ [line]).map Utf8.encode)

/-- A notice that a blank line ends, one without a header, and a message that only informs. -/
def ended : List Text :=
  ["1> 2> Msg 5701, Level 10, State 2:", "Server 'SYB', Line 1:",
    "Changed database context to 'x'.", " ", "Changed language setting to 'us_english'.",
    "Msg 0, Level 10, State 1:", "checked"]

/-- A notice right before what is printed next. -/
def unended : List Text :=
  ["Msg 5701, Level 10, State 2:", "Server 'SYB', Line 1:", "Changed database context to 'x'."]

theorem returnCode_ended :
    let reply := firstReply ended "1> __IBS_RC__-6 \r"
    (returnCode (repeating reply.bytes) "exec p" ⟨(), some {}⟩).1 = .ok (-6) := by
  intro reply
  have hanswers : reply.Answers 1 := by decide +kernel
  have hlines : reply.lines = (ended ++ [("1> __IBS_RC__-6 \r" : Text)]).map Utf8.encode := rfl
  have hover : ¬ NoticeUnderWay (ended.map shown) := by decide +kernel
  rw [returnCode_eq (repeating reply.bytes) {} () "exec p" (-6) rfl hanswers rfl hlines
    (by decide +kernel) (by decide +kernel) (by decide +kernel), if_neg hover]
  rfl

/-- Behind a notice the code 1 is lost, though no line before it is a failure, a marker or a
code. -/
theorem returnCode_lost :
    let reply := firstReply unended "__IBS_RC__1"
    reply.Answers 1 ∧ (∀ t ∈ unended, (Header.ofLine? t).any (10 < ·.level) = false) ∧
      (∀ t ∈ unended, Text.after? returnMark (Text.trim t) = none) ∧
      (returnCode (repeating reply.bytes) "i_upgrade_check '5'" ⟨(), some {}⟩).1 =
        .error (.protocol "No return status from 'i_upgrade_check '5''") :=
  ⟨by decide +kernel, by decide +kernel, by decide +kernel, by decide +kernel⟩

end Desk

end Sybase

end SqlBuild
