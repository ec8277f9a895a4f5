import Mathlib.Data.List.TakeWhile
import SqlBuild.Proofs.Encoding
import SqlBuild.Proofs.Notices
import SqlBuild.Sybase.Server

/-!
# Batches kept apart

A client answers a batch with lines and the line of its marker. While everything it prints is text,
a reading uses up one reply (`read_reply`), and the results of a session are those of its replies
one by one (`run_of_isText`). A line that is no text stops the reading, and the lines after it are
read for the next batch (`read_reply_unreadable`), which can tell (`isText_of_apart`). So text is
what keeps batches apart, and nothing less does (`results_own_iff`). What else a client does plays no
part (`Desk.batches_eq_run`).
-/

namespace SqlBuild

namespace Sybase

/-- Lines of bytes, each with its line feed. -/
def feedLines (lines : List Bytes) : Bytes := lines.flatMap (· ++ [10])

/-- What a client does with a batch: whether it takes all of it, the lines it prints, and the line
of the marker. -/
structure Reply where
  sent : Except IoError Unit := .ok ()
  lines : List Bytes
  last : Bytes

namespace Reply

def bytes (reply : Reply) : Bytes := feedLines (reply.lines ++ [reply.last])

/-- A reply to batch number `n`, with its marker at the end and nowhere before. -/
structure Answers (n : Nat) (reply : Reply) : Prop where
  unbroken : ∀ line ∈ reply.lines ++ [reply.last], 10 ∉ line
  unmarked : ∀ line ∈ reply.lines, (lineOf? line).map Text.trim ≠ some (marker n)
  marked : (lineOf? reply.last).map Text.trim = some (marker n)

/-- Everything printed is text. -/
def IsText (reply : Reply) : Prop := ∀ line ∈ reply.lines, lineOf? line ≠ none

def texts (reply : Reply) : List Text := reply.lines.filterMap lineOf?

end Reply

/-- Replies to the batches after number `n`. -/
def AnswersFrom : Nat → List Reply → Prop
  | _, [] => True
  | n, reply :: rest => reply.Answers (n + 1) ∧ AnswersFrom (n + 1) rest

namespace Session

/-- The results of batches with these replies, and the session after them. -/
def run (session : Session) : List Reply → List BatchResult × Session
  | [] => ([], session)
  | reply :: rest =>
    let (result, session) := session.receive reply.sent reply.bytes
    let (results, session) := session.run rest
    (result :: results, session)

/-- The result of the next batch. -/
def result (session : Session) (reply : Reply) : BatchResult :=
  (session.receive reply.sent reply.bytes).1

end Session

/-! ### Reading -/

section Reading

variable {marker : Text} {before : List Text}

theorem feedLines_cons (line : Bytes) (lines : List Bytes) (rest : Bytes) :
    feedLines (line :: lines) ++ rest = line ++ 10 :: (feedLines lines ++ rest) := by
  simp [feedLines]

/-- A line is read as a whole. -/
theorem readFrom_line {line : Bytes} (h : 10 ∉ line) (start rest : Bytes) :
    readFrom marker before start (line ++ 10 :: rest) =
      match lineOf? (start.reverse ++ line) with
      | none => (.unreadable, rest)
      | some text =>
        if Text.trim text = marker then (.complete before.reverse, rest)
        else readFrom marker (text :: before) [] rest := by
  induction line generalizing start with
  | nil =>
    rw [List.nil_append, List.append_nil]
    exact if_pos rfl
  | cons b line ih =>
    rw [List.mem_cons, not_or] at h
    rw [List.cons_append, readFrom, if_neg (Ne.symm h.1), ih h.2, List.reverse_cons,
      List.append_assoc, List.singleton_append]

/-- Text without the marker is passed over. -/
theorem readFrom_lines {lines : List Bytes} (hunbroken : ∀ line ∈ lines, 10 ∉ line)
    (hunmarked : ∀ line ∈ lines, (lineOf? line).map Text.trim ≠ some marker)
    (htext : ∀ line ∈ lines, lineOf? line ≠ none) (rest : Bytes) :
    readFrom marker before [] (feedLines lines ++ rest) =
      readFrom marker ((lines.filterMap lineOf?).reverse ++ before) [] rest := by
  induction lines generalizing before with
  | nil => rfl
  | cons line lines ih =>
    obtain ⟨hline, hunbroken⟩ := List.forall_mem_cons.1 hunbroken
    obtain ⟨hmark, hunmarked⟩ := List.forall_mem_cons.1 hunmarked
    obtain ⟨hread, htext⟩ := List.forall_mem_cons.1 htext
    obtain ⟨text, ht⟩ := Option.ne_none_iff_exists'.1 hread
    have hne : Text.trim text ≠ marker := fun heq => hmark (by rw [ht, ← heq]; rfl)
    rw [feedLines_cons, readFrom_line hline]
    simp only [List.reverse_nil, List.nil_append, ht, if_neg hne]
    rw [ih hunbroken hunmarked htext, List.filterMap_cons_some ht, List.reverse_cons,
      List.append_assoc, List.singleton_append]

/-- A line that is no text ends the reading; the lines after it are left. -/
theorem readFrom_unreadable {lines : List Bytes} (hunbroken : ∀ line ∈ lines, 10 ∉ line)
    (hunmarked : ∀ line ∈ lines, (lineOf? line).map Text.trim ≠ some marker)
    (hno : ¬ ∀ line ∈ lines, lineOf? line ≠ none) :
    ∃ left, left ⊆ lines ∧ ∀ before rest,
      readFrom marker before [] (feedLines lines ++ rest) = (.unreadable, feedLines left ++ rest) := by
  induction lines with
  | nil => exact absurd (by simp) hno
  | cons line lines ih =>
    obtain ⟨hline, hunbroken⟩ := List.forall_mem_cons.1 hunbroken
    obtain ⟨hmark, hunmarked⟩ := List.forall_mem_cons.1 hunmarked
    simp only [feedLines_cons, readFrom_line hline, List.reverse_nil, List.nil_append]
    cases ht : lineOf? line with
    | none => exact ⟨lines, List.subset_cons_self _ _, fun _ _ => rfl⟩
    | some text =>
      have hne : Text.trim text ≠ marker := fun heq => hmark (by rw [ht, ← heq]; rfl)
      have hrest : ¬ ∀ line ∈ lines, lineOf? line ≠ none := fun hall =>
        hno (List.forall_mem_cons.2 ⟨by simp [ht], hall⟩)
      obtain ⟨left, hleft, hread⟩ := ih hunbroken hunmarked hrest
      refine ⟨left, List.subset_cons_of_subset _ hleft, fun before rest => ?_⟩
      simp only [if_neg hne, hread]

/-- Lines are either passed over or stop the reading, whatever follows. -/
theorem passed_or_stops (marker : Text) {lines : List Bytes} (hunbroken : ∀ line ∈ lines, 10 ∉ line) :
    (∀ line ∈ lines, (lineOf? line).map Text.trim ≠ some marker ∧ lineOf? line ≠ none) ∨
      ∀ before, ∃ answer, ∀ rest,
        (readFrom marker before [] (feedLines lines ++ rest)).1 = answer := by
  induction lines with
  | nil => exact .inl (by simp)
  | cons line lines ih =>
    obtain ⟨hline, hunbroken⟩ := List.forall_mem_cons.1 hunbroken
    simp only [feedLines_cons, readFrom_line hline, List.reverse_nil, List.nil_append]
    cases ht : lineOf? line with
    | none => exact .inr fun before => ⟨.unreadable, fun _ => rfl⟩
    | some text =>
      by_cases hmark : Text.trim text = marker
      · exact .inr fun before => ⟨.complete before.reverse, fun _ => by simp [hmark]⟩
      · rcases ih hunbroken with hpass | hstop
        · exact .inl (List.forall_mem_cons.2 ⟨by simp [ht, hmark], hpass⟩)
        · refine .inr fun before => ?_
          obtain ⟨answer, hanswer⟩ := hstop (text :: before)
          exact ⟨answer, fun rest => by simp only [if_neg hmark, hanswer rest]⟩

end Reading

section Replies

variable {n : Nat} {reply : Reply}

theorem Reply.Answers.lines_unbroken (h : reply.Answers n) : ∀ line ∈ reply.lines, 10 ∉ line :=
  fun line hline => h.unbroken line (List.mem_append_left _ hline)

theorem Reply.bytes_append (reply : Reply) (rest : Bytes) :
    reply.bytes ++ rest = feedLines reply.lines ++ (reply.last ++ 10 :: rest) := by
  simp [bytes, feedLines]

theorem read_reply (h : reply.Answers n) (htext : reply.IsText) (rest : Bytes) :
    read (marker n) (reply.bytes ++ rest) = (.complete reply.texts, rest) := by
  obtain ⟨text, ht, htrim⟩ := Option.map_eq_some_iff.1 h.marked
  have hlast : 10 ∉ reply.last := h.unbroken _ (List.mem_append_right _ (List.mem_singleton_self _))
  rw [read, reply.bytes_append, readFrom_lines h.lines_unbroken h.unmarked htext,
    readFrom_line hlast]
  simp [ht, htrim, Reply.texts]

theorem read_reply_unreadable (h : reply.Answers n) (htext : ¬ reply.IsText) :
    ∃ left, left ⊆ reply.lines ∧ ∀ rest, read (marker n) (reply.bytes ++ rest) =
      (.unreadable, feedLines (left ++ [reply.last]) ++ rest) := by
  obtain ⟨left, hleft, hread⟩ := readFrom_unreadable h.lines_unbroken h.unmarked htext
  refine ⟨left, hleft, fun rest => ?_⟩
  rw [read, reply.bytes_append, hread]
  simp [feedLines]

end Replies

/-! ### Sessions -/

section Sessions

variable {session : Session} {reply : Reply}

theorem receive_of_isText (hclean : session.unread = []) (h : reply.Answers (session.sent + 1))
    (htext : reply.IsText) : session.receive reply.sent reply.bytes =
      (interpret reply.texts, { session with sent := session.sent + 1 }) := by
  have hread := read_reply h htext []
  rw [List.append_nil] at hread
  unfold Session.receive
  simp only [hclean, List.nil_append, hread, Answer.result]

/-- The results of replies that are text are those of their own lines, and nothing stays unread. -/
theorem run_of_isText {replies : List Reply} (hclean : session.unread = [])
    (h : AnswersFrom session.sent replies) (htext : ∀ reply ∈ replies, reply.IsText) :
    session.run replies = (replies.map fun reply => interpret reply.texts,
      { session with sent := session.sent + replies.length }) := by
  induction replies generalizing session with
  | nil => rfl
  | cons reply rest ih =>
    obtain ⟨hreply, hrest⟩ := List.forall_mem_cons.1 htext
    have hafter : Session.run { session with sent := session.sent + 1 } rest = _ :=
      ih hclean h.2 hrest
    rw [Session.run, receive_of_isText hclean h.1 hreply]
    simp only [hafter, List.map_cons, List.length_cons, Nat.add_assoc, Nat.add_comm 1]

end Sessions

namespace Desk

variable {σ : Type} {programs : Programs σ} {session : Session} {sqls : List Text}
  {replies : List Reply} {s : σ}

/-- Batches one after the other. -/
def batches (programs : Programs σ) : List Text → Desk σ → List BatchResult × Desk σ
  | [], desk => ([], desk)
  | sql :: rest, desk =>
    let (result, desk) := desk.batch programs sql
    let (results, desk) := batches programs rest desk
    (result :: results, desk)

/-- The client answers the batches after number `n` with these replies. -/
def Prints (programs : Programs σ) : Nat → List Text → List Reply → σ → Prop
  | _, [], [], _ => True
  | n, sql :: sqls, reply :: replies, s =>
    (programs.feed (frame (n + 1) sql) s).1 = (reply.sent, reply.bytes) ∧
      Prints programs (n + 1) sqls replies (programs.feed (frame (n + 1) sql) s).2
  | _, _, _, _ => False

/-- Of the client a session sees the replies only. -/
theorem batches_eq_run (h : Prints programs session.sent sqls replies s) :
    (batches programs sqls ⟨s, some session⟩).1 = (session.run replies).1 ∧
      (batches programs sqls ⟨s, some session⟩).2.session = some (session.run replies).2 := by
  induction sqls generalizing session replies s with
  | nil =>
    cases replies with
    | nil => exact ⟨rfl, rfl⟩
    | cons => cases h
  | cons sql sqls ih =>
    cases replies with
    | nil => cases h
    | cons reply replies =>
      obtain ⟨hfeed, hrest⟩ := h
      have hbatch : batch programs sql ⟨s, some session⟩ =
          ((session.receive reply.sent reply.bytes).1,
            ⟨(programs.feed (frame (session.sent + 1) sql) s).2,
              some (session.receive reply.sent reply.bytes).2⟩) := by
        simp only [batch, exchange, Session.request, hfeed]
      obtain ⟨hresults, hsession⟩ := @ih (session.receive reply.sent reply.bytes).2 _ _ hrest
      simp only [batches, Session.run, hbatch, hresults, hsession, and_self]

end Desk

/-! ### Markers -/

section Markers

theorem marker_eq (n : Nat) :
    marker n = '_' :: (("_IBS_BATCH_END_" ++ Text.ofNat n ++ ['_']) ++ ['_'] : Text) := by
  have hstart : ("__IBS_BATCH_END_" : Text) = '_' :: ("_IBS_BATCH_END_" : Text) := by decide
  have hend : ("__" : Text) = ['_'] ++ ['_'] := by decide
  unfold marker
  rw [hstart, hend]
  simp only [List.cons_append, List.append_assoc]

theorem trim_marker (n : Nat) : Text.trim (marker n) = marker n := by
  rw [marker_eq, Text.trim_cons (by decide), Text.trimEnd_append_singleton (by decide)]

theorem feed_not_mem_marker (n : Nat) : '\n' ∉ marker n := by
  have hdigits : '\n' ∉ Text.ofNat n := fun h =>
    absurd (Nat.isDigit_of_mem_toDigits (by decide) (by decide) h) (by decide)
  unfold marker
  rw [List.mem_append, List.mem_append, not_or, not_or]
  exact ⟨⟨by decide, hdigits⟩, by decide⟩

/-- A client that prints the marker prints a line that ends the batch. -/
theorem lineOf_marker (n : Nat) : lineOf? (Utf8.encode (marker n)) = some (marker n) := by
  have hend : Text.dropEndWhile (fun c => c == '\r' || c == '\n') (marker n) = marker n := by
    rw [marker_eq, ← List.cons_append, Text.dropEndWhile, List.reverse_append]
    simp
  have hprompt : afterPrompt? (marker n) = none := by
    rw [marker_eq, afterPrompt?, List.takeWhile_cons_of_neg (by decide)]
  rw [lineOf?, Utf8.decode_encode, Option.map_some, hend, dropPrompts]
  split
  · rfl
  · rename_i h
    rw [hprompt] at h
    cases h

end Markers

/-! ### Lines of another batch -/

/-- A plain line is kept, or a notice is under way that goes on behind it. -/
theorem mem_or_skipped {t : Text} (hheader : Header.ofLine? t = none)
    (hblank : Text.isAllBlank t = false) (hnotice : isContextNotice t = false) {u : Text}
    (hheader' : Header.ofLine? u = none) (skipping : Bool) (before : List Text) :
    t ∈ withoutNotices skipping (before ++ [t]) ∨
      withoutNotices skipping (before ++ [t, u]) = withoutNotices skipping (before ++ [t]) := by
  rw [withoutNotices_append, withoutNotices_append]
  cases before.foldl skipsBehind skipping with
  | true => exact .inr (by simp [withoutNotices, hheader, hblank, hheader'])
  | false => exact .inl (by simp [withoutNotices, hheader, hnotice])

theorem interpret_ok {lines : List Text} {text : Text} (h : interpret lines = .ok text) :
    Text.join "\n" (withoutNotices false lines) = text := by
  unfold interpret at h
  dsimp only at h
  split at h
  · exact Except.ok.inj h
  · cases h

theorem join_ne_nil {t : Text} (ht : t ≠ []) {ts : List Text} (h : t ∈ ts) :
    Text.join "\n" ts ≠ [] := by
  obtain ⟨before, after, rfl⟩ := List.append_of_mem h
  cases before with
  | nil => cases after <;> simp [Text.join, List.intercalate_cons_cons, ht]
  | cons u before =>
    cases hrest : before ++ t :: after with
    | nil => simp at hrest
    | cons v rest => simp [Text.join, List.intercalate_cons_cons, hrest]

/-- Behind the lines and the marker of another batch, no output and one line of output are not both
taken for what they are. -/
theorem interpret_behind {t : Text} {n : Nat} (h : Text.trim t = marker n) (before : List Text)
    {u : Text} (hheader : Header.ofLine? u = none) (hu : u ≠ []) :
    ¬ (interpret (before ++ [t]) = .ok [] ∧ interpret (before ++ [t, u]) = .ok u) := by
  rintro ⟨hempty, hfull⟩
  obtain ⟨hplain, hblank, hnotice⟩ := plain_of_trim (h.trans (marker_eq n))
  have hjoin := interpret_ok hempty
  rcases mem_or_skipped hplain hblank hnotice hheader false before with hmem | hskipped
  · have ht : t ≠ [] := by
      rintro rfl
      cases hblank
    exact join_ne_nil ht hmem hjoin
  · have hjoin' := interpret_ok hfull
    rw [hskipped, hjoin] at hjoin'
    exact hu hjoin'.symm

/-! ### Kept apart -/

section Apart

variable {session : Session} {reply : Reply}

/-- A reply to batch number `n` with these lines. -/
def Reply.printing (n : Nat) (lines : List Bytes) : Reply where
  lines
  last := Utf8.encode (marker n)

theorem answers_printing {n : Nat} {lines : List Bytes} (hunbroken : ∀ line ∈ lines, 10 ∉ line)
    (hunmarked : ∀ line ∈ lines, (lineOf? line).map Text.trim ≠ some (marker n)) :
    (Reply.printing n lines).Answers n where
  unbroken := by
    refine List.forall_mem_append.2 ⟨hunbroken, List.forall_mem_singleton.2 fun hfeed => ?_⟩
    obtain ⟨c, hc, hmem⟩ := List.mem_flatMap.1 hfeed
    refine Utf8.feed_not_mem_encodeChar (fun heq => ?_) hmem
    exact feed_not_mem_marker n (heq ▸ hc)
  unmarked := hunmarked
  marked := by
    rw [Reply.printing, lineOf_marker, Option.map_some, trim_marker]

theorem printing_nothing (n : Nat) : (Reply.printing n []).Answers n ∧
    (Reply.printing n []).IsText ∧ (Reply.printing n []).texts = [] :=
  ⟨answers_printing (by simp) (by simp), by simp [Reply.IsText, Reply.printing], rfl⟩

theorem printing_line (n : Nat) : (Reply.printing n [[120]]).Answers n ∧
    (Reply.printing n [[120]]).IsText ∧ (Reply.printing n [[120]]).texts = [['x']] := by
  have hx : lineOf? [120] = some ['x'] := by decide +kernel
  have htrim : Text.trim ['x'] = ['x'] := by decide
  refine ⟨answers_printing (by decide) ?_, ?_, ?_⟩
  · rw [List.forall_mem_singleton, hx, Option.map_some, htrim, marker_eq]
    simp
  · rw [Reply.IsText, Reply.printing, List.forall_mem_singleton, hx]
    simp
  · rw [Reply.texts, Reply.printing, List.filterMap_cons_some hx]
    rfl

/-- What is left of a batch and passed over counts as printed for the next one. -/
theorem result_of_left {left : List Bytes} (hunread : session.unread = feedLines left)
    (hunbroken : ∀ line ∈ left, 10 ∉ line)
    (hpass : ∀ line ∈ left, (lineOf? line).map Text.trim ≠ some (marker (session.sent + 1)) ∧
      lineOf? line ≠ none)
    (h : reply.Answers (session.sent + 1)) (htext : reply.IsText) :
    session.result reply = interpret (left.filterMap lineOf? ++ reply.texts) := by
  have hall : ({ reply with lines := left ++ reply.lines } : Reply).Answers (session.sent + 1) :=
    { unbroken := by
        rw [List.append_assoc]
        exact List.forall_mem_append.2 ⟨hunbroken, h.unbroken⟩
      unmarked := List.forall_mem_append.2 ⟨fun line hline => (hpass line hline).1, h.unmarked⟩
      marked := h.marked }
  have htexts : ({ reply with lines := left ++ reply.lines } : Reply).IsText :=
    List.forall_mem_append.2 ⟨fun line hline => (hpass line hline).2, htext⟩
  have hread := read_reply hall htexts []
  have hbytes : session.unread ++ reply.bytes =
      ({ reply with lines := left ++ reply.lines } : Reply).bytes := by
    rw [hunread]
    simp [Reply.bytes, feedLines]
  rw [List.append_nil, ← hbytes] at hread
  unfold Session.result Session.receive
  simp only [hread, Answer.result, Reply.texts, List.filterMap_append]

/-- A reply that leaves the next result alone, whatever is printed for it, is text. -/
theorem isText_of_apart (hclean : session.unread = []) (h : reply.Answers (session.sent + 1))
    (happart : ∀ next : Reply, next.Answers (session.sent + 2) →
      (session.run [reply]).2.result next = { session with sent := session.sent + 1 }.result next) :
    reply.IsText := by
  by_cases htext : reply.IsText
  · exact htext
  exfalso
  obtain ⟨left, hleft, hread⟩ := read_reply_unreadable h htext
  have hlines : ∀ line ∈ left ++ [reply.last], 10 ∉ line := by
    obtain ⟨hunbroken, hlast⟩ := List.forall_mem_append.1 h.unbroken
    exact List.forall_mem_append.2 ⟨fun line hline => hunbroken line (hleft hline), hlast⟩
  have hafter : (session.run [reply]).2 = { session with
      sent := session.sent + 1, unread := feedLines (left ++ [reply.last]) } := by
    have hreply := hread []
    rw [List.append_nil, List.append_nil] at hreply
    simp only [Session.run, Session.receive, hclean, List.nil_append, hreply]
  rw [hafter] at happart
  obtain ⟨text, ht, htrim⟩ := Option.map_eq_some_iff.1 h.marked
  -- Of two next replies, one prints nothing and the other one line.
  obtain ⟨hnone, hnoneText, hnothing⟩ := printing_nothing (session.sent + 2)
  obtain ⟨hline, hlineText, hone⟩ := printing_line (session.sent + 2)
  have hown : ∀ next : Reply, next.Answers (session.sent + 2) → next.IsText →
      { session with sent := session.sent + 1 }.result next = interpret next.texts := by
    intro next hnext hnextText
    have hreceive : Session.receive { session with sent := session.sent + 1 } _ _ = _ :=
      receive_of_isText hclean hnext hnextText
    exact congrArg Prod.fst hreceive
  have hnoneOwn := happart _ hnone
  have hlineOwn := happart _ hline
  rw [hown _ hnone hnoneText, hnothing] at hnoneOwn
  rw [hown _ hline hlineText, hone] at hlineOwn
  rcases passed_or_stops (marker (session.sent + 2)) hlines with hpass | hstop
  · have hmixed : ∀ next : Reply, next.Answers (session.sent + 2) → next.IsText →
        Session.result { session with
          sent := session.sent + 1, unread := feedLines (left ++ [reply.last]) } next =
            interpret (left.filterMap lineOf? ++ text :: next.texts) := by
      intro next hnext hnextText
      have hresult : Session.result { session with
          sent := session.sent + 1, unread := feedLines (left ++ [reply.last]) } next = _ :=
        result_of_left rfl hlines hpass hnext hnextText
      rw [hresult, List.filterMap_append, List.filterMap_cons_some ht, List.filterMap_nil,
        List.append_assoc, List.singleton_append]
    rw [hmixed _ hnone hnoneText, hnothing] at hnoneOwn
    rw [hmixed _ hline hlineText, hone] at hlineOwn
    exact interpret_behind htrim _ (by decide) (by decide) ⟨hnoneOwn, hlineOwn⟩
  · obtain ⟨answer, hanswer⟩ := hstop []
    have hresult : ∀ next : Reply, next.sent = .ok () →
        Session.result { session with
          sent := session.sent + 1, unread := feedLines (left ++ [reply.last]) } next =
            answer.result (.ok ()) := by
      intro next hsent
      unfold Session.result Session.receive read
      rw [← hanswer next.bytes, hsent]
    rw [hresult _ rfl] at hnoneOwn hlineOwn
    rw [hnoneOwn] at hlineOwn
    exact absurd hlineOwn (by decide)

theorem AnswersFrom.of_isPrefix {n : Nat} {before replies : List Reply}
    (h : AnswersFrom n replies) (hbefore : before <+: replies) : AnswersFrom n before := by
  induction before generalizing n replies with
  | nil => trivial
  | cons reply before ih =>
    obtain ⟨rest, rfl⟩ := hbefore
    exact ⟨h.1, ih h.2 ⟨rest, rfl⟩⟩

/-- After any of the replies the next batch has the result of its own lines, whatever is printed for
it, exactly when the replies are text. -/
theorem results_own_iff (session : Session) (replies : List Reply) (hclean : session.unread = [])
    (h : AnswersFrom session.sent replies) :
    (∀ before, before <+: replies → ∀ next : Reply,
        next.Answers (session.sent + before.length + 1) →
      (session.run before).2.result next =
        { session with sent := session.sent + before.length }.result next) ↔
    ∀ reply ∈ replies, reply.IsText := by
  constructor
  · intro happart
    induction replies generalizing session with
    | nil => simp
    | cons reply rest ih =>
      have htext : reply.IsText :=
        isText_of_apart hclean h.1 fun next hnext => happart [reply] ⟨rest, rfl⟩ next hnext
      refine List.forall_mem_cons.2 ⟨htext, ih { session with sent := session.sent + 1 } hclean h.2
        fun before hbefore next hnext => ?_⟩
      have hcount : session.sent + (reply :: before).length = session.sent + 1 + before.length := by
        rw [List.length_cons]
        omega
      have hnext' := happart (reply :: before) (List.cons_prefix_cons.2 ⟨rfl, hbefore⟩) next
        (by rw [hcount]; exact hnext)
      rw [Session.run, receive_of_isText hclean h.1 htext, hcount] at hnext'
      exact hnext'
  · intro htext before hbefore next _
    rw [run_of_isText hclean (h.of_isPrefix hbefore) fun reply hreply =>
      htext reply (hbefore.subset hreply)]

/-- A row with a name that is no UTF-8, then an error. -/
def latin : Reply where
  lines := [Utf8.encode "Caf" ++ [0xe9], Utf8.encode "Msg 208, Level 16, State 1:",
    Utf8.encode "x not found"]
  last := Utf8.encode (marker 2)

/-- Prompts, the marker of another batch, and blanks around the own one. -/
def prompted : Reply where
  lines := [Utf8.encode "1> 2> (1 row affected)", Utf8.encode (marker 7)]
  last := Utf8.encode ("1> " ++ marker 2 ++ " \r")

def two : Reply where
  lines := [Utf8.encode "two"]
  last := Utf8.encode (marker 3)

instance (n : Nat) (reply : Reply) : Decidable (reply.Answers n) :=
  decidable_of_iff ((∀ line ∈ reply.lines ++ [reply.last], 10 ∉ line) ∧
      (∀ line ∈ reply.lines, (lineOf? line).map Text.trim ≠ some (marker n)) ∧
      (lineOf? reply.last).map Text.trim = some (marker n))
    ⟨fun ⟨hunbroken, hunmarked, hmarked⟩ => ⟨hunbroken, hunmarked, hmarked⟩,
      fun h => ⟨h.unbroken, h.unmarked, h.marked⟩⟩

instance (reply : Reply) : Decidable reply.IsText :=
  inferInstanceAs (Decidable (∀ line ∈ reply.lines, lineOf? line ≠ none))

theorem results_own_prompted :
    (∀ before, before <+: [prompted] → ∀ next : Reply, next.Answers (1 + before.length + 1) →
      (Session.run { sent := 1 } before).2.result next =
        Session.result { sent := 1 + before.length } next) ∧
    ¬ ∀ before, before <+: [latin] → ∀ next : Reply, next.Answers (1 + before.length + 1) →
      (Session.run { sent := 1 } before).2.result next =
        Session.result { sent := 1 + before.length } next := by
  have hprompted := results_own_iff { sent := 1 } [prompted] rfl ⟨by decide +kernel, trivial⟩
  have hlatin := results_own_iff { sent := 1 } [latin] rfl ⟨by decide +kernel, trivial⟩
  refine ⟨hprompted.2 (by decide +kernel), fun happart => ?_⟩
  exact absurd (hlatin.1 happart) (by decide +kernel)

/-- The error of one batch is the result of the next one. -/
theorem error_of_another :
    AnswersFrom 1 [latin, two] ∧
    (Session.run { sent := 1 } [latin, two]).1 =
      [.error ⟨"Failed to read from isql: stream did not contain valid UTF-8", []⟩,
        .error ⟨"Batch failed (Msg 208, Level 16, State 1:)",
          "Msg 208, Level 16, State 1:\nx not found\n__IBS_BATCH_END_2__\ntwo"⟩] ∧
    Session.result { sent := 2 } two = .ok "two" :=
  ⟨⟨by decide +kernel, by decide +kernel, trivial⟩, by decide +kernel, by decide +kernel⟩

end Apart

end Sybase

end SqlBuild
