import Mathlib.Data.List.Nodup
import SqlBuild.CommandLine.Arguments
import SqlBuild.Proofs.AddedFlags
import SqlBuild.Proofs.BuildArguments
import SqlBuild.Proofs.ReturnCodes

/-!
# Sequence flags in build scripts and on command lines

A bound of the sequence range is written `-F3` or `-L-1`, with the number attached. A build script
takes any number. A command line takes the flag and the number apart first, and a number with a
minus sign then is an argument of its own, which nothing there is named after. So the two readers
give a line the same range as long as no bound is negative, and the command line is refused as soon
as one is (`ScriptArguments.sequence_attached`).
-/

namespace SqlBuild

/-- The two bounds of a sequence range. -/
inductive Bound
  | first
  | last
deriving DecidableEq, Repr

namespace Bound

/-- The flag for the bound on a command line. -/
def flag : Bound → Flag
  | first => ⟨some 'F', "first", .number⟩
  | last => ⟨some 'L', "last", .number⟩

/-- The flag for the bound in a build script. -/
def buildFlag : Bound → BuildLine.Flag
  | first => .first
  | last => .last

def letter : Bound → Char
  | first => 'F'
  | last => 'L'

/-- The flag with a number attached. -/
def attached (b : Bound) (n : Int64) : Text := '-' :: b.letter :: Text.ofInt n.toInt

theorem isNumberFlag (b : Bound) : ScriptArguments.grammar.IsNumberFlag b.letter b.flag := by
  cases b <;> exact ⟨by decide, by decide, rfl⟩

theorem long_inj {b b' : Bound} (h : b.flag.long = b'.flag.long) : b = b' := by
  cases b <;> cases b' <;> first | rfl | exact absurd h (by decide)

end Bound

section Numbers

variable (n : Int64)

theorem Text.signed?_toInt : Text.signed? 64 (Text.ofInt n.toInt) = some n.toInt :=
  Text.signed?_ofInt n.le_toInt n.toInt_lt

theorem Text.head?_ofInt (i : Int) : (Text.ofInt i).head? = some '-' ↔ i < 0 := by
  cases i with
  | negSucc m => simp [Text.ofInt, Int.negSucc_lt_zero]
  | ofNat m =>
    refine ⟨fun h => ?_, fun h => absurd h (by simp)⟩
    have hdigit := Text.isDigit_of_mem_ofNat (List.mem_of_head? h)
    exact absurd hdigit (by decide)

theorem Legacy.isNumber_ofInt (i : Int) : Legacy.isNumber (Text.ofInt i) = true := by
  have hdigits : ∀ m : Nat, ((Text.ofNat m).dropWhile (· == '-')).all Char.isDigit = true :=
    fun m => List.all_eq_true.2 fun c hc =>
      Text.isDigit_of_mem_ofNat ((List.dropWhile_sublist _).subset hc)
  cases i with
  | negSucc m => simpa [Legacy.isNumber, Text.ofInt] using hdigits (m + 1)
  | ofNat m => simpa [Legacy.isNumber, Text.ofInt, Text.ofNat_ne_nil] using hdigits m

theorem Bound.modernize_attached (b : Bound) :
    Legacy.modernize (b.attached n) = [['-', b.letter], Text.ofInt n.toInt] := by
  have hnumber := Legacy.isNumber_ofInt n.toInt
  cases b <;> simp [Legacy.modernize, attached, letter, Text.upper, Text.after?, hnumber]

end Numbers

/-- A word of a line, or a bound among its words. -/
inductive Piece
  | word (text : Text)
  | bound (b : Bound) (n : Int64)

namespace Piece

def text : Piece → Text
  | word text => text
  | bound b n => b.attached n

def other? : Piece → Option Text
  | word text => some text
  | bound .. => none

def bound? : Piece → Option (Bound × Int)
  | word _ => none
  | bound b n => some (b, n.toInt)

/-- What a command line is read as: the words of today with the bounds among them. -/
def items : Piece → List Grammar.Item
  | word text => (Legacy.modernize text).map .word
  | bound b n => [.number b.letter b.flag (Text.ofInt n.toInt)]

theorem words_items (piece : Piece) :
    piece.items.flatMap Grammar.Item.words = Legacy.modernize piece.text := by
  cases piece with
  | word t => simp [items, text, List.flatMap_map, Grammar.Item.words]
  | bound b n => exact (b.modernize_attached n).symm

theorem kept_items (piece : Piece) : piece.items.filterMap Grammar.Item.kept? =
    (piece.other?.map Legacy.modernize).getD [] := by
  cases piece with
  | word text => simp [items, other?, List.filterMap_map, Function.comp_def, Grammar.Item.kept?]
  | bound b n => rfl

theorem given_items (piece : Piece) : piece.items.filterMap Grammar.Item.given? =
    (piece.bound?.map fun v => (v.1.flag.long, Text.ofInt v.2)).toList := by
  cases piece with
  | word text => simp [items, bound?, List.filterMap_map, Function.comp_def, Grammar.Item.given?]
  | bound b n => rfl

theorem items_wellFormed (piece : Piece) :
    ∀ item ∈ piece.items, item.WellFormed ScriptArguments.grammar := by
  cases piece with
  | word text =>
    intro item hitem
    obtain ⟨word, -, rfl⟩ := List.mem_map.1 hitem
    trivial
  | bound b n =>
    rw [items, List.forall_mem_singleton]
    exact ⟨b.isNumberFlag, by rw [Text.signed?_toInt]; rfl⟩

variable {pieces : List Piece}

theorem normalize_text :
    Legacy.normalize (pieces.map text) = (pieces.flatMap items).flatMap Grammar.Item.words := by
  rw [Legacy.normalize, List.flatMap_map, List.flatMap_assoc]
  exact List.flatMap_congr fun piece _ => piece.words_items.symm

theorem normalize_other : Legacy.normalize (pieces.filterMap other?) =
    (pieces.flatMap items).filterMap Grammar.Item.kept? := by
  induction pieces with
  | nil => rfl
  | cons piece pieces ih =>
    rw [List.flatMap_cons, List.filterMap_append, kept_items, ← ih]
    cases piece <;> rfl

theorem given_pieces : (pieces.flatMap items).filterMap Grammar.Item.given? =
    (pieces.filterMap bound?).map fun v => (v.1.flag.long, Text.ofInt v.2) := by
  induction pieces with
  | nil => rfl
  | cons piece pieces ih =>
    rw [List.flatMap_cons, List.filterMap_append, given_items, ih]
    cases piece <;> rfl

/-- A minus sign stands before the negative bounds. -/
theorem unsigned_iff : (∀ item ∈ pieces.flatMap items, item.isUnsigned = true) ↔
    ∀ v ∈ pieces.filterMap bound?, 0 ≤ v.2 := by
  induction pieces with
  | nil => simp
  | cons piece pieces ih =>
    rw [List.flatMap_cons, List.forall_mem_append, ih]
    cases piece with
    | word t =>
      have hwords : ∀ item ∈ (word t).items, item.isUnsigned = true := fun item hitem => by
        obtain ⟨today, -, rfl⟩ := List.mem_map.1 hitem
        rfl
      exact and_iff_right hwords
    | bound b n =>
      have hsign : (Grammar.Item.number b.letter b.flag (Text.ofInt n.toInt)).isUnsigned = true ↔
          0 ≤ n.toInt := by
        rw [Grammar.Item.isUnsigned, bne_iff_ne, Ne, Text.head?_ofInt, Int.not_lt]
      rw [items, List.forall_mem_singleton, hsign]
      rw [show (bound b n :: pieces).filterMap bound? = (b, n.toInt) :: pieces.filterMap bound?
        from rfl, List.forall_mem_cons]

/-- The value of a bound that stands in a line. -/
def value? (b : Bound) (pieces : List Piece) : Option Int := (pieces.filterMap bound?).lookup b

theorem exists_of_value? {b : Bound} {i : Int} (h : value? b pieces = some i) :
    ∃ n : Int64, n.toInt = i := by
  obtain ⟨before, after, hsplit, -⟩ := List.lookup_eq_some_iff.1 h
  have hmem : (b, i) ∈ pieces.filterMap bound? := by simp [hsplit]
  obtain ⟨piece, -, hpiece⟩ := List.mem_filterMap.1 hmem
  cases piece with
  | word t => cases hpiece
  | bound b' n => exact ⟨n, congrArg Prod.snd (Option.some.inj hpiece)⟩

theorem lookup_given (b : Bound) :
    ((pieces.flatMap items).filterMap Grammar.Item.given?).lookup b.flag.long =
      (value? b pieces).map Text.ofInt := by
  rw [given_pieces, value?]
  induction pieces.filterMap bound? with
  | nil => rfl
  | cons v values ih =>
    rw [List.map_cons, List.lookup_cons, List.lookup_cons, ih]
    by_cases hb : b = v.1
    · simp [hb]
    · have hlong : (b.flag.long == v.1.flag.long) = false :=
        beq_eq_false_iff_ne.2 fun h => hb (Bound.long_inj h)
      rw [hlong, beq_eq_false_iff_ne.2 hb]

end Piece

namespace ScriptArguments

variable {pieces : List Piece} {a : ScriptArguments}

theorem exists_reading {words : List Text} (h : ScriptArguments.read words = .ok a) :
    ∃ r, grammar.read (Legacy.normalize words) = .ok r ∧ ofReading r = a := by
  rw [ScriptArguments.read] at h
  cases hr : grammar.read (Legacy.normalize words) with
  | error e =>
    rw [hr] at h
    cases h
  | ok r =>
    rw [hr] at h
    exact ⟨r, rfl, Except.ok.inj h⟩

/-- What is given under the name of a bound is a number. -/
theorem lookup_bound_none {words : List Text} {r : Grammar.Reading} (b : Bound)
    (hread : grammar.read words = .ok r) (hnone : r.number? b.flag.long = none) :
    r.given.lookup b.flag.long = none := by
  obtain ⟨values, hs⟩ := Grammar.isStacking_finish words {} r nofun (Grammar.finish_of_read hread).1
  have hnumbers : ∀ flag ∈ grammar.flags, flag.long = b.flag.long → flag.takes = .number := by
    cases b <;> decide
  rw [hs.given, List.append_nil]
  by_contra hgiven
  obtain ⟨value, hvalue⟩ := Option.ne_none_iff_exists'.1 hgiven
  obtain ⟨before, after, hsplit, -⟩ := List.lookup_eq_some_iff.1 hvalue
  obtain ⟨flag, hflag, hlong, hnumber⟩ := hs.flag (b.flag.long, value) (by simp [hsplit])
  have hvalid := hnumber (hnumbers flag hflag hlong.symm)
  rw [Grammar.Reading.number?, Grammar.Reading.value?, hs.given, List.append_nil, hvalue,
    Option.bind_some] at hnone
  rw [hnone] at hvalid
  cases hvalid

/-- Readings that differ in the bounds only. -/
theorem ofReading_above {r r' : Grammar.Reading} (h : Grammar.IsAbove
    (((pieces.flatMap Piece.items).filterMap Grammar.Item.given?).lookup ·) r r')
    (hnone : ∀ b : Bound, r.given.lookup b.flag.long = none) :
    ofReading r' = { ofReading r with
      first := Piece.value? .first pieces
      last := Piece.value? .last pieces } := by
  have hpositionals : r'.positionals = r.positionals := by rw [h.same]
  have hbound : ∀ b : Bound, r'.number? b.flag.long = Piece.value? b pieces := fun b => by
    rw [Grammar.Reading.number?, Grammar.Reading.value?, h.lookup, Piece.lookup_given, hnone,
      Option.or_none]
    cases hvalue : Piece.value? b pieces with
    | none => rfl
    | some i =>
      obtain ⟨n, rfl⟩ := Piece.exists_of_value? hvalue
      exact Text.signed?_toInt n
  have hother : ∀ name, name ≠ Bound.first.flag.long → name ≠ Bound.last.flag.long →
      r'.value? name = r.value? name := fun name hfirst hlast => by
    have hnew : ((pieces.flatMap Piece.items).filterMap Grammar.Item.given?).lookup name =
        none := by
      rw [List.lookup_eq_none_iff, Piece.given_pieces]
      rintro v hv
      obtain ⟨⟨b, i⟩, -, rfl⟩ := List.mem_map.1 hv
      refine bne_iff_ne.2 ?_
      cases b
      · exact hfirst
      · exact hlast
    rw [Grammar.Reading.value?, h.lookup, hnew]
    rfl
  have hfirst : r'.number? "first" = _ := hbound .first
  have hlast : r'.number? "last" = _ := hbound .last
  simp (disch := decide) only [ofReading, ConnectionArguments.ofReading, Grammar.Reading.has,
    Grammar.Reading.positional?, hpositionals, hother, hfirst, hlast]

/-- No flag has a digit for its letter. -/
theorem findShort?_of_isDigit {c : Char} (hc : c.isDigit = true) :
    grammar.findShort? c = none := by
  refine List.find?_eq_none.2 fun flag hflag hshort => ?_
  have hletters : ∀ flag ∈ grammar.flags, flag.short.all (!·.isDigit) = true := by decide
  have hletter := hletters flag hflag
  rw [of_decide_eq_true hshort, Option.all_some, hc] at hletter
  cases hletter

/-- What a command line says with bounds attached to their flags. -/
theorem read_attached (hothers : ScriptArguments.read (pieces.filterMap Piece.other?) = .ok a)
    (hfirst : a.first = none) (hlast : a.last = none)
    (hopens : grammar.opens {} (pieces.flatMap Piece.items) = true)
    (honce : ((pieces.filterMap Piece.bound?).map Prod.fst).Nodup) :
    ((∀ v ∈ pieces.filterMap Piece.bound?, 0 ≤ v.2) →
        ScriptArguments.read (pieces.map Piece.text) = .ok { a with
          first := Piece.value? .first pieces
          last := Piece.value? .last pieces }) ∧
      ((∃ v ∈ pieces.filterMap Piece.bound?, v.2 < 0) →
        ScriptArguments.read (pieces.map Piece.text) = .error .unknownArgument) := by
  obtain ⟨r, hr, rfl⟩ := exists_reading hothers
  have hnone : ∀ b : Bound, r.given.lookup b.flag.long = none := fun b =>
    lookup_bound_none b hr (by cases b; exacts [hfirst, hlast])
  rw [Piece.normalize_other] at hr
  have hitems : ∀ item ∈ pieces.flatMap Piece.items, item.WellFormed grammar := fun item hitem => by
    obtain ⟨piece, -, hpiece⟩ := List.mem_flatMap.1 hitem
    exact piece.items_wellFormed item hpiece
  have hdistinct : (((pieces.flatMap Piece.items).filterMap Grammar.Item.given?).map
      Prod.fst).Nodup := by
    rw [Piece.given_pieces, List.map_map]
    have hlong := List.Nodup.map (f := fun b : Bound => b.flag.long)
      (fun b b' h => Bound.long_inj h) honce
    rwa [List.map_map] at hlong
  have hnew : ∀ v ∈ (pieces.flatMap Piece.items).filterMap Grammar.Item.given?,
      r.given.lookup v.1 = none := by
    rw [Piece.given_pieces]
    intro v hv
    obtain ⟨w, -, rfl⟩ := List.mem_map.1 hv
    exact hnone w.1
  refine ⟨fun hunsigned => ?_, fun ⟨v, hv, hsigned⟩ => ?_⟩
  · obtain ⟨r', hr', habove⟩ := Grammar.read_unsigned rfl hr hopens hitems hdistinct hnew
      (Piece.unsigned_iff.2 hunsigned)
    rw [ScriptArguments.read, Piece.normalize_text, hr']
    exact congrArg Except.ok (ofReading_above habove hnone)
  · have hminus : ∃ item ∈ pieces.flatMap Piece.items, item.isUnsigned = false := by
      by_contra hall
      have hunsigned : ∀ item ∈ pieces.flatMap Piece.items, item.isUnsigned = true :=
        fun item hitem => Bool.of_not_eq_false fun hminus => hall ⟨item, hitem, hminus⟩
      exact absurd (Piece.unsigned_iff.1 hunsigned v hv) (Int.not_le.2 hsigned)
    rw [ScriptArguments.read, Piece.normalize_text, Grammar.read_signed rfl hr hopens hitems
      hdistinct hnew (fun c => findShort?_of_isDigit) hminus]
    rfl

end ScriptArguments

namespace BuildLine

variable {resolve : Text → Text} {root : Text} {t : Text}

/-- A bare `-D`, in either case. -/
theorem spelling_of_flag? (h : flag? t = some (.database, none)) :
    Text.sameIgnoringCase t Flag.database.name = true := by
  have hattached : ∀ {value : Text} {flag flag' : Flag},
      some (flag, if value = [] then none else some value) = some (flag', none) →
        flag = flag' ∧ value = [] := fun {value flag flag'} heq => by
    obtain ⟨hflag, hvalue⟩ := Prod.mk.inj (Option.some.inj heq)
    split_ifs at hvalue with hnil
    exact ⟨hflag, hnil⟩
  unfold flag? at h
  simp only [] at h
  split at h
  · cases (hattached h).1
  · cases (hattached h).1
  · rename_i hafter
    rw [(hattached h).2] at hafter
    obtain ⟨q, hq, hspelling⟩ := Text.afterIgnoringCase?_eq_some.1 hafter
    rwa [hq, List.append_nil]
  · cases h

/-- The bound that has been read. -/
def Arguments.boundOf (a : Arguments) : Bound → Option Int
  | .first => a.first
  | .last => a.last

theorem boundOf_put_database (a : Arguments) (value : Option Text) (b : Bound) :
    (a.put resolve .database value).boundOf b = a.boundOf b := by
  cases value with
  | none => rfl
  | some value =>
    simp only [Arguments.put]
    split_ifs <;> cases b <;> rfl

theorem boundOf_push (a : Arguments) (word : Text) (b : Bound) :
    (a.push root word).boundOf b = a.boundOf b := by
  cases b <;> rfl

theorem boundOf_put_bound (a : Arguments) (b b' : Bound) (n : Int64) :
    (a.put resolve b'.buildFlag (some (Text.ofInt n.toInt))).boundOf b =
      if b = b' then some n.toInt else a.boundOf b := by
  have hread : (some (Text.ofInt n.toInt)).bind (Text.signed? 64) = some n.toInt :=
    Text.signed?_toInt n
  cases b <;> cases b' <;> simp [Arguments.put, Bound.buildFlag, Arguments.boundOf, hread]

variable (resolve root)

theorem readWords_attached (a : Arguments) (b : Bound) (n : Int64) (rest : List Text) :
    readWords resolve root a (b.attached n :: rest) =
      readWords resolve root (a.put resolve b.buildFlag (some (Text.ofInt n.toInt))) rest := by
  have hspelling : Text.sameIgnoringCase ['-', b.letter] b.buildFlag.name = true := by
    cases b <;> decide
  have hne : Text.ofInt n.toInt ≠ [] := fun h => by
    have hread := Text.signed?_toInt n
    rw [h] at hread
    cases hread
  have hformed : (Argument.flagged b.buildFlag ['-', b.letter] (Text.ofInt n.toInt)
      true).WellFormed :=
    ⟨hspelling, fun _ => hne, fun _ => by rw [Text.signed?_toInt]; rfl⟩
  exact readWords_append hformed a rest

/-- A bare `-D` takes the next word. -/
theorem readWords_database (ht : flag? t = some (.database, none)) (a : Arguments) (word : Text)
    (rest : List Text) : readWords resolve root a (t :: word :: rest) =
      readWords resolve root (a.put resolve .database (some word)) rest := by
  have hformed : (Argument.flagged .database t word false).WellFormed :=
    ⟨spelling_of_flag? ht, nofun, fun h => absurd rfl h⟩
  exact readWords_append hformed a rest

/-- No other word touches the bounds. -/
theorem readWords_other (ht : ∀ b : Bound, (flag? t).map Prod.fst ≠ some b.buildFlag)
    (a : Arguments) (rest : List Text) (hrest : flag? t = some (.database, none) → rest = []) :
    ∃ a', readWords resolve root a (t :: rest) = readWords resolve root a' rest ∧
      ∀ b, a'.boundOf b = a.boundOf b := by
  rw [readWords.eq_def]
  simp only []
  split_ifs
  · exact ⟨a, rfl, fun _ => rfl⟩
  · exact ⟨a, rfl, fun _ => rfl⟩
  · cases hflag : flag? t with
    | none => exact ⟨_, rfl, boundOf_push a t⟩
    | some found =>
      obtain ⟨flag, value⟩ := found
      cases flag with
      | first => exact absurd (congrArg (Option.map Prod.fst) hflag) (ht .first)
      | last => exact absurd (congrArg (Option.map Prod.fst) hflag) (ht .last)
      | database =>
        cases value with
        | some value => exact ⟨_, rfl, boundOf_put_database a _⟩
        | none =>
          obtain rfl := hrest hflag
          exact ⟨a.put resolve .database none, rfl, boundOf_put_database a none⟩

end BuildLine

/-- No bound is taken for the database of a bare `-D`. -/
def Piece.Apart : List Piece → Prop
  | .word t :: .bound b n :: pieces =>
    BuildLine.flag? t ≠ some (.database, none) ∧ Apart (.bound b n :: pieces)
  | _ :: pieces => Apart pieces
  | [] => True

theorem Piece.Apart.tail : ∀ {piece : Piece} {pieces : List Piece}, Apart (piece :: pieces) →
    Apart pieces
  | .bound .., _, h => h
  | .word _, [], _ => trivial
  | .word _, .bound .. :: _, h => h.2
  | .word _, .word _ :: _, h => h

/-- In a build script a line has the bounds that stand in it. -/
theorem BuildLine.boundOf_readWords (resolve : Text → Text) (root : Text) (b : Bound) :
    ∀ (pieces : List Piece) (a : Arguments), Piece.Apart pieces →
      (∀ t ∈ pieces.filterMap Piece.other?, ∀ b : Bound,
        (flag? t).map Prod.fst ≠ some b.buildFlag) →
      ((pieces.filterMap Piece.bound?).map Prod.fst).Nodup →
      (readWords resolve root a (pieces.map Piece.text)).boundOf b =
        (Piece.value? b pieces).or (a.boundOf b)
  | [], a, _, _, _ => rfl
  | .bound b' n :: pieces, a, hapart, hothers, honce => by
    obtain ⟨hnew, honce⟩ := List.nodup_cons.1 honce
    have hrest := boundOf_readWords resolve root b pieces
      (a.put resolve b'.buildFlag (some (Text.ofInt n.toInt))) hapart hothers honce
    show (readWords resolve root a (b'.attached n :: pieces.map Piece.text)).boundOf b = _
    rw [readWords_attached, hrest, boundOf_put_bound]
    show _ = (List.lookup b ((b', n.toInt) :: pieces.filterMap Piece.bound?)).or _
    by_cases hb : b = b'
    · have hnone : Piece.value? b pieces = none := List.lookup_eq_none_iff.2 fun v hv =>
        bne_iff_ne.2 fun heq => hnew (List.mem_map.2 ⟨v, hv, heq.symm.trans hb⟩)
      simp [hb ▸ hnone, hb]
    · rw [if_neg hb, List.lookup_cons, beq_eq_false_iff_ne.2 hb]
      rfl
  | .word t :: pieces, a, hapart, hothers, honce => by
    obtain ⟨ht, hrest⟩ := List.forall_mem_cons.1 hothers
    -- The word is read by itself, unless it is a bare `-D` with a word behind it.
    have hself : (flag? t = some (.database, none) → pieces.map Piece.text = []) →
        (readWords resolve root a (t :: pieces.map Piece.text)).boundOf b =
          (Piece.value? b pieces).or (a.boundOf b) := fun hlast => by
      obtain ⟨a', hread, hbounds⟩ := readWords_other resolve root ht a _ hlast
      rw [hread, boundOf_readWords resolve root b pieces a' hapart.tail hrest honce, hbounds]
    match pieces, hself with
    | [], hself => exact hself fun _ => rfl
    | .bound b' n :: pieces, hself => exact hself fun h => absurd h hapart.1
    | .word u :: pieces, hself =>
      by_cases hdatabase : flag? t = some (.database, none)
      · have hbehind := boundOf_readWords resolve root b pieces
          (a.put resolve .database (some u)) hapart.tail.tail (List.forall_mem_cons.1 hrest).2 honce
        show (readWords resolve root a (t :: u :: pieces.map Piece.text)).boundOf b = _
        rw [readWords_database resolve root hdatabase, hbehind, boundOf_put_database]
        rfl
      · exact hself fun h => absurd h hdatabase

namespace ScriptArguments

variable {pieces : List Piece} {a : ScriptArguments} {t : Text}

theorem modernize_database (ht : Text.sameIgnoringCase t "-D" = true) :
    ∃ c : Char, c.toLower = 'd' ∧ t = ['-', c] ∧ Legacy.modernize t = [t] := by
  have hlower := Text.sameIgnoringCase_iff.1 ht
  match t, hlower with
  | [x, c], hlower =>
    have hx : x.toLower = '-' := (List.cons.inj hlower).1
    have hc : c.toLower = 'd' := (List.cons.inj (List.cons.inj hlower).2).1
    obtain rfl := eq_of_toLower_eq hx (by decide)
    have hne : ∀ letter : Char, letter.toLower ≠ 'd' → c ≠ letter := fun letter hletter heq =>
      hletter (heq ▸ hc)
    refine ⟨c, hc, rfl, ?_⟩
    have hdash := hne '-' (by decide)
    have hfirst := hne 'F' (by decide)
    have hlast := hne 'L' (by decide)
    simp [Legacy.modernize, Text.upper, Text.after?, hfirst, hlast, hdash.symm]
  | [], hlower => cases hlower
  | [_], hlower => cases (List.cons.inj hlower).2
  | _ :: _ :: _ :: _, hlower => cases (List.cons.inj (List.cons.inj hlower).2).2

/-- Behind a bare `-D` no bound may stand. -/
theorem not_open_of_database (ht : Text.sameIgnoringCase t "-D" = true)
    {r r₁ : Grammar.Reading} (h : (Legacy.modernize t).foldlM grammar.step r = .ok r₁) :
    r₁.awaiting = true ∨ r₁.trailing = true := by
  obtain ⟨c, hc, rfl, hmodern⟩ := modernize_database ht
  simp only [hmodern, List.foldlM_cons, List.foldlM_nil, bind_pure] at h
  have hdash : c ≠ '-' := fun heq => by rw [heq] at hc; cases hc
  have hvalues : ∀ flag ∈ grammar.flags,
      flag.short.all (fun c => c.toLower != 'd' || flag.takesValue) = true := by decide
  refine Grammar.waits_of_single rfl hdash (fun flag hflag hshort => ?_) h
  simpa [hshort, hc] using hvalues flag hflag

/-- What a command line takes to be a place for a bound is one in a build script. -/
theorem apart_of_opens : ∀ (pieces : List Piece) {r s : Grammar.Reading},
    grammar.opens r (pieces.flatMap Piece.items) = true →
      grammar.finish r ((pieces.flatMap Piece.items).filterMap Grammar.Item.kept?) = .ok s →
        Piece.Apart pieces
  | [], _, _, _, _ => trivial
  | .bound b n :: pieces, r, s, hopens, hfinish => by
    have hrest : grammar.opens r (pieces.flatMap Piece.items) = true :=
      (Bool.and_eq_true_iff.1 hopens).2
    exact apart_of_opens pieces hrest hfinish
  | .word t :: pieces, r, s, hopens, hfinish => by
    rw [List.flatMap_cons] at hopens hfinish
    rw [List.filterMap_append, Piece.kept_items] at hfinish
    obtain ⟨r₁, hwords, hopens₁, hfinish₁⟩ := Grammar.opens_words hopens hfinish
    have hapart := apart_of_opens pieces hopens₁ hfinish₁
    match pieces, hapart with
    | [], _ => trivial
    | .word u :: pieces, hapart => exact hapart
    | .bound b n :: pieces, hapart =>
      refine ⟨fun hdatabase => ?_, hapart⟩
      have hplace := (Bool.and_eq_true_iff.1 (Bool.and_eq_true_iff.1 hopens₁).1)
      rcases not_open_of_database (BuildLine.spelling_of_flag? hdatabase) hwords with h | h
      · simp [h] at hplace
      · simp [h] at hplace

/-- A line with bounds attached to their flags, where no flag waits for its value, has the range of
these bounds in a build script. On a command line it has the same range and differs in nothing else
from the line without the bounds, unless a bound is negative: then it is refused. -/
theorem sequence_attached (hothers : read (pieces.filterMap Piece.other?) = .ok a)
    (hfirst : a.first = none) (hlast : a.last = none)
    (hquiet : ∀ t ∈ pieces.filterMap Piece.other?, ∀ b : Bound,
      (BuildLine.flag? t).map Prod.fst ≠ some b.buildFlag)
    (hopens : grammar.opens {} (pieces.flatMap Piece.items) = true)
    (honce : ((pieces.filterMap Piece.bound?).map Prod.fst).Nodup) {line word : Text}
    (hline : Text.words line = word :: pieces.map Piece.text)
    (hword : Text.sameIgnoringCase BuildCommand.runSql.name word = true)
    (resolve : Text → Text) (root : Text) :
    ∃ built : BuildLine, ParsedLine.ofLine resolve root line = .command built ∧
      built.command = .runSql ∧
      built.sequence =
        SequenceRange.ofBounds? (Piece.value? .first pieces) (Piece.value? .last pieces) ∧
      ((∀ v ∈ pieces.filterMap Piece.bound?, 0 ≤ v.2) →
        ∃ a', read (pieces.map Piece.text) = .ok a' ∧ a'.sequence = built.sequence ∧
          a' = { a with first := a'.first, last := a'.last }) ∧
      ((∃ v ∈ pieces.filterMap Piece.bound?, v.2 < 0) →
        read (pieces.map Piece.text) = .error .unknownArgument) := by
  obtain ⟨haccepted, hrefused⟩ := read_attached hothers hfirst hlast hopens honce
  have hapart : Piece.Apart pieces := by
    obtain ⟨r, hr, -⟩ := exists_reading hothers
    rw [Piece.normalize_other] at hr
    exact apart_of_opens pieces hopens (Grammar.finish_of_read hr).1
  have hbound : ∀ b, (BuildLine.readWords resolve root {} (pieces.map Piece.text)).boundOf b =
      Piece.value? b pieces := fun b => by
    rw [BuildLine.boundOf_readWords resolve root b pieces {} hapart hquiet honce]
    cases b <;> exact Option.or_none
  have hsequence : (BuildLine.ofArguments resolve .runSql (BuildLine.readWords resolve root {}
      (pieces.map Piece.text))).sequence =
        SequenceRange.ofBounds? (Piece.value? .first pieces) (Piece.value? .last pieces) :=
    congrArg₂ SequenceRange.ofBounds? (hbound .first) (hbound .last)
  refine ⟨_, BuildLine.ofLine_of_command hword hline, rfl, hsequence, fun hunsigned => ?_, hrefused⟩
  exact ⟨_, haccepted hunsigned, hsequence.symm, rfl⟩

/-- Bounds among other words, the last one first, with any number as the first one. -/
def mingled (n : Int64) : List Piece :=
  [.word "-Ddb", .bound .last 9, .word "a.sql", .word "-U", .word "sa", .bound .first n, .word "-e"]

theorem sequence_attached_mingled :
    let line := fun n => Text.join " " ("RunSQL" :: (mingled n).map Piece.text)
    (∃ built, ParsedLine.ofLine id "/ibs/" (line 3) = .command built ∧
      built.sequence = some ⟨3, 9⟩) ∧
    (∃ a, read ((mingled 3).map Piece.text) = .ok a ∧ a.sequence = some ⟨3, 9⟩ ∧
      a.database = some "db".toList) ∧
    (∃ built, ParsedLine.ofLine id "/ibs/" (line (-3)) = .command built ∧
      built.sequence = some ⟨-3, 9⟩) ∧
    read ((mingled (-3)).map Piece.text) = .error .unknownArgument := by
  intro line
  have hothers : read ["-Ddb", "a.sql", "-U", "sa", "-e"] = .ok
      { source := "a.sql", database := some "db", profile := none, echo := true, first := none
        last := none, changelog := none, preview := false
        connection := { user := some "sa", password := none, platform := none, output := none
                        rebuild := false } } := by
    decide +kernel
  have hquiet : ∀ t ∈ ([("-Ddb" : Text), "a.sql", "-U", "sa", "-e"] : List Text), ∀ b : Bound,
      (BuildLine.flag? t).map Prod.fst ≠ some b.buildFlag := by
    intro t ht b
    cases b
    all_goals
      revert t
      decide +kernel
  have hword : Text.sameIgnoringCase BuildCommand.runSql.name "RunSQL" = true := by decide
  obtain ⟨built, hbuilt, -, hsequence, haccepted, -⟩ := @sequence_attached (mingled 3) _
    hothers rfl rfl hquiet (by decide +kernel) (by decide) (line 3) _ (by decide +kernel) hword id
    "/ibs/"
  obtain ⟨built', hbuilt', -, hsequence', -, hrefused⟩ := @sequence_attached (mingled (-3)) _
    hothers rfl rfl hquiet (by decide +kernel) (by decide) (line (-3)) _ (by decide +kernel) hword
    id "/ibs/"
  obtain ⟨a, ha, hsame, hrest⟩ := haccepted (by decide)
  refine ⟨⟨built, hbuilt, hsequence⟩, ⟨a, ha, hsame.trans hsequence, ?_⟩,
    ⟨built', hbuilt', hsequence'⟩, hrefused ⟨(.first, -3), by decide, by decide⟩⟩
  rw [hrest]

/-- A command line refuses a bound below zero that a build script takes. -/
theorem read_negative :
    read ["a.sql", "-F-3"] = .error .unknownArgument ∧
      ParsedLine.ofLine id "/ibs/" "runsql a.sql -F-3" = .command
        { command := .runSql, source := some "a.sql", args := [], sequence := some ⟨-3, -3⟩
          databases := [] } := by
  decide +kernel

end ScriptArguments

end SqlBuild
