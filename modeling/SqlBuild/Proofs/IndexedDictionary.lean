import SqlBuild.Proofs.Conditionals
import SqlBuild.Proofs.RecordForm

/-!
# The index of a dictionary

A dictionary may be kept with an index of the places of its names, so that a lookup does not search
the entries (`IndexedDictionary`). List and index stay in step (`Coherent`), and the list is that of
the plain dictionary, so both give the same values (`Coherent.get?_eq`). After any changes the
entries follow the assignments that were accepted: one for each name, in the order of the first
assignment to it and with the value of the last (`in_step_through_changes`).
-/

namespace SqlBuild

/-- Texts are hashed as strings. -/
instance : Hashable Text := ⟨fun t => hash (String.ofList t)⟩

/-- A dictionary with the place of every name. -/
structure IndexedDictionary where
  entries : List (Text × Text) := []
  index : Std.HashMap Text Nat := {}

namespace Dictionary

/-- What a dictionary goes through: a value or a conditional is inserted, or it is read from
records. -/
inductive Change
  | insert (name value : Text)
  | conditional (name : Text) (enabled : Bool)
  | records (text : Text)

/-- One change; a text that is no list of records changes nothing. -/
def change (d : Dictionary) : Change → Dictionary
  | .insert name value => d.insert name value
  | .conditional name enabled => d.insertConditional name enabled
  | .records text =>
    match ofRecords? text with
    | .ok read => read
    | .error _ => d

def ofChanges (changes : List Change) : Dictionary := changes.foldl change {}

def insertAll (d : Dictionary) (made : List Assignment) : Dictionary :=
  made.foldl (fun d a => d.insert a.1 a.2) d

/-- The assignments that records stand for, in their order. -/
def recordsOn (number : Nat) : List Text → Except RecordError (List Assignment)
  | [] => .ok []
  | line :: rest =>
    if Text.isAllBlank line then recordsOn (number + 1) rest
    else
      match columns? line with
      | none => .error (.unaligned number)
      | some (name, value) =>
        if Text.startsWith name "&" ∧ Text.endsWith name "&" then
          (recordsOn (number + 1) rest).map ((name, value) :: ·)
        else .error (.unnamed number)

theorem readRecords_eq : ∀ (lines : List Text) (d : Dictionary) (number : Nat),
    readRecords d number lines = (recordsOn number lines).map d.insertAll
  | [], d, number => rfl
  | line :: rest, d, number => by
    rw [readRecords, recordsOn]
    by_cases hblank : Text.isAllBlank line = true
    · rw [if_pos hblank, if_pos hblank]
      exact readRecords_eq rest d (number + 1)
    · rw [if_neg hblank, if_neg hblank]
      cases columns? line with
      | none => rfl
      | some columns =>
        obtain ⟨name, value⟩ := columns
        dsimp only
        split
        · rw [readRecords_eq rest]
          cases recordsOn (number + 1) rest <;> rfl
        · rfl

theorem ofRecords?_eq (text : Text) :
    ofRecords? text = (recordsOn 1 (Text.lines text)).map (insertAll {}) :=
  readRecords_eq (Text.lines text) {} 1

theorem insertConditional_eq (d : Dictionary) (name : Text) (enabled : Bool) :
    d.insertConditional name enabled = d.insertAll (Assignment.ofConditional name enabled) := by
  unfold insertConditional Assignment.ofConditional
  split
  · cases enabled <;> rfl
  · rfl

theorem names_insert (d : Dictionary) (name value : Text) :
    names (d.insert name value).entries =
      if fits name = true ∧ name ∉ names d.entries then names d.entries ++ [name]
      else names d.entries := by
  unfold Dictionary.insert
  by_cases hfits : fits name = true
  · rw [if_pos hfits, names_assign]
    by_cases hmem : name ∈ names d.entries
    · rw [if_pos hmem, if_neg fun hnew => hnew.2 hmem]
    · rw [if_neg hmem, if_pos ⟨hfits, hmem⟩]
  · rw [if_neg hfits, if_neg fun hnew => hfits hnew.1]

end Dictionary

namespace Assignment

/-- The accepted assignments behind one more change; reading records starts again from none. -/
def accept (made : List Assignment) : Dictionary.Change → List Assignment
  | .insert name value => made ++ recorded [(name, value)]
  | .conditional name enabled => made ++ ofConditional name enabled
  | .records text =>
    match Dictionary.recordsOn 1 (Text.lines text) with
    | .ok read => recorded read
    | .error _ => made

/-- The assignments that changes make, oldest first, without those that were overruled by reading
records. -/
def accepted (changes : List Dictionary.Change) : List Assignment := changes.foldl accept []

theorem recorded_ofConditional (name : Text) (enabled : Bool) :
    recorded (ofConditional name enabled) = ofConditional name enabled := by
  unfold ofConditional
  split
  · rename_i hfits
    refine List.filter_eq_self.2 fun a ha => ?_
    simp only [List.mem_cons, List.not_mem_nil, or_false] at ha
    rcases ha with rfl | rfl | rfl | rfl <;>
      exact Dictionary.fits_of_mem_markers hfits (by decide)
  · rfl

end Assignment

namespace IndexedDictionary

open Dictionary (fits names assign)

/-- Records a value, in the place of the name or in a new one; a name that does not fit is left
out. -/
def insert (d : IndexedDictionary) (name value : Text) : IndexedDictionary :=
  if fits name then
    match d.index[name]? with
    | some place => { d with entries := d.entries.modify place fun e => (e.1, value) }
    | none => ⟨d.entries ++ [(name, value)], d.index.insert name d.entries.length⟩
  else d

def get? (d : IndexedDictionary) (name : Text) : Option Text :=
  d.index[name]?.bind fun place => d.entries[place]?.map Prod.snd

def insertAll (d : IndexedDictionary) (made : List Assignment) : IndexedDictionary :=
  made.foldl (fun d a => d.insert a.1 a.2) d

def insertConditional (d : IndexedDictionary) (name : Text) (enabled : Bool) : IndexedDictionary :=
  d.insertAll (Assignment.ofConditional name enabled)

def ofRecords? (text : Text) : Except RecordError IndexedDictionary :=
  (Dictionary.recordsOn 1 (Text.lines text)).map (insertAll {})

def toDictionary (d : IndexedDictionary) : Dictionary := ⟨d.entries⟩

/-- One change; a text that is no list of records changes nothing. -/
def change (d : IndexedDictionary) : Dictionary.Change → IndexedDictionary
  | .insert name value => d.insert name value
  | .conditional name enabled => d.insertConditional name enabled
  | .records text =>
    match ofRecords? text with
    | .ok read => read
    | .error _ => d

def ofChanges (changes : List Dictionary.Change) : IndexedDictionary := changes.foldl change {}

/-- Every name is recorded once, and the index tells its place. -/
structure Coherent (d : IndexedDictionary) : Prop where
  nodup : (names d.entries).Nodup
  index : ∀ (name : Text) (place : Nat),
    d.index[name]? = some place ↔ (names d.entries)[place]? = some name

section Places

variable {name value : Text} {place : Nat}

theorem assign_eq_modify : ∀ {entries : List (Text × Text)} {place : Nat},
    (names entries).Nodup → (names entries)[place]? = some name →
      assign name value entries = entries.modify place fun e => (e.1, value)
  | [], place, _, h => by simp [names] at h
  | (n, v) :: rest, 0, _, h => by
    obtain rfl : n = name := by simpa [names] using h
    rw [assign, if_pos rfl]
    rfl
  | (n, v) :: rest, place + 1, hnodup, h => by
    have hrest : (names rest)[place]? = some name := by simpa [names] using h
    obtain ⟨hn, hnodup⟩ := List.nodup_cons.1 hnodup
    have hne : n ≠ name := by
      rintro rfl
      exact hn (List.mem_of_getElem? hrest)
    rw [assign, if_neg hne, assign_eq_modify hnodup hrest]
    rfl

theorem lookup_of_place : ∀ {entries : List (Text × Text)} {place : Nat},
    (names entries).Nodup → (names entries)[place]? = some name →
      entries.lookup name = entries[place]?.map Prod.snd
  | [], place, _, h => by simp [names] at h
  | (n, v) :: rest, 0, _, h => by
    obtain rfl : n = name := by simpa [names] using h
    simp
  | (n, v) :: rest, place + 1, hnodup, h => by
    have hrest : (names rest)[place]? = some name := by simpa [names] using h
    obtain ⟨hn, hnodup⟩ := List.nodup_cons.1 hnodup
    have hne : name ≠ n := by
      rintro rfl
      exact hn (List.mem_of_getElem? hrest)
    rw [Dictionary.lookup_entry, if_neg hne, lookup_of_place hnodup hrest]
    rfl

/-- A new name at the end takes the first place behind the others, which keep theirs. -/
theorem place_concat {l : List Text} {other : Text} (hnew : name ∉ l) :
    (l ++ [name])[place]? = some other ↔
      if name = other then place = l.length else l[place]? = some other := by
  rcases Nat.lt_trichotomy place l.length with hlt | rfl | hgt
  · rw [List.getElem?_append_left hlt]
    split
    · rename_i heq
      have hne : l[place]? ≠ some other := fun h => hnew (heq ▸ List.mem_of_getElem? h)
      simp [hne, hlt.ne]
    · rfl
  · simp
  · have hbehind : (l ++ [name])[place]? = none := by simpa using Nat.succ_le_of_lt hgt
    rw [hbehind, List.getElem?_eq_none hgt.le]
    simp [hgt.ne']

end Places

section Coherence

variable {d : IndexedDictionary} {name : Text}

theorem coherent_empty : Coherent {} := ⟨List.nodup_nil, by simp [names]⟩

theorem Coherent.not_mem (h : d.Coherent) (hnone : d.index[name]? = none) :
    name ∉ names d.entries := by
  intro hmem
  obtain ⟨place, hplace⟩ := List.mem_iff_getElem?.1 hmem
  rw [(h.index name place).2 hplace] at hnone
  cases hnone

/-- The entries are those of the plain dictionary. -/
theorem Coherent.toDictionary_insert (h : d.Coherent) (name value : Text) :
    (d.insert name value).toDictionary = d.toDictionary.insert name value := by
  unfold insert Dictionary.insert toDictionary
  split
  · cases hplace : d.index[name]? with
    | some place => rw [assign_eq_modify h.nodup ((h.index name place).1 hplace)]
    | none => rw [Dictionary.assign_of_not_mem (h.not_mem hplace)]
  · rfl

theorem Coherent.names_insert (h : d.Coherent) (name value : Text) :
    names (d.insert name value).entries =
      if fits name = true ∧ name ∉ names d.entries then names d.entries ++ [name]
      else names d.entries := by
  have hentries := congrArg Dictionary.entries (h.toDictionary_insert name value)
  exact (congrArg names hentries).trans (Dictionary.names_insert d.toDictionary name value)

theorem Coherent.insert (h : d.Coherent) (name value : Text) : (d.insert name value).Coherent := by
  constructor
  · rw [h.names_insert]
    split
    · rename_i hnew
      exact (List.perm_append_singleton name _).nodup_iff.2 (List.nodup_cons.2 ⟨hnew.2, h.nodup⟩)
    · exact h.nodup
  · intro other place
    rw [h.names_insert]
    unfold IndexedDictionary.insert
    by_cases hfits : fits name = true
    · rw [if_pos hfits]
      cases hplace : d.index[name]? with
      | some old =>
        have hmem : name ∈ names d.entries := List.mem_of_getElem? ((h.index name old).1 hplace)
        rw [if_neg fun hnew => hnew.2 hmem]
        exact h.index other place
      | none =>
        rw [if_pos ⟨hfits, h.not_mem hplace⟩]
        have hlength : (names d.entries).length = d.entries.length := List.length_map _
        rw [place_concat (h.not_mem hplace), Std.HashMap.getElem?_insert, hlength]
        by_cases hother : name = other
        · rw [if_pos (beq_iff_eq.2 hother), if_pos hother, Option.some_inj, eq_comm]
        · rw [if_neg (by simpa using hother), if_neg hother]
          exact h.index other place
    · rw [if_neg hfits, if_neg fun hnew => hfits hnew.1]
      exact h.index other place

theorem Coherent.get?_eq (h : d.Coherent) (name : Text) :
    d.get? name = d.toDictionary.get? name := by
  unfold get? Dictionary.get? toDictionary
  cases hplace : d.index[name]? with
  | some place => exact (lookup_of_place h.nodup ((h.index name place).1 hplace)).symm
  | none =>
    refine (List.lookup_eq_none_iff.2 fun e he => ?_).symm
    have hne : name ≠ e.1 := fun heq => h.not_mem hplace (heq ▸ List.mem_map_of_mem he)
    simpa using hne

theorem Coherent.insertAll (h : d.Coherent) {made : List Assignment} :
    (d.insertAll made).Coherent :=
  List.foldlRecOn made _ h fun _ hd a _ => hd.insert a.1 a.2

theorem Coherent.toDictionary_insertAll : ∀ (made : List Assignment) {d : IndexedDictionary},
    d.Coherent → (d.insertAll made).toDictionary = d.toDictionary.insertAll made
  | [], _, _ => rfl
  | a :: made, d, h => by
    have hrest := Coherent.toDictionary_insertAll made (h.insert a.1 a.2)
    rw [h.toDictionary_insert] at hrest
    exact hrest

end Coherence

/-- A dictionary after the assignments `made`. -/
structure Follows (d : IndexedDictionary) (made : List Assignment) : Prop extends Coherent d where
  width : ∀ name ∈ names d.entries, Text.byteLength name ≤ 40
  /-- The places follow the first assignments. -/
  order : names d.entries = (made.map Prod.fst).eraseDups
  value : ∀ name, d.get? name = lastValue made name

section Histories

variable {d : IndexedDictionary} {made : List Assignment}

theorem follows_empty : Follows {} [] where
  toCoherent := coherent_empty
  width := by simp [names]
  order := rfl
  value name := coherent_empty.get?_eq name

theorem Follows.insert (h : d.Follows made) (name value : Text) :
    (d.insert name value).Follows (made ++ Assignment.recorded [(name, value)]) where
  toCoherent := h.toCoherent.insert name value
  width := by
    rw [h.names_insert]
    split
    · rename_i hnew
      intro n hn
      rcases List.mem_append.1 hn with hn | hn
      · exact h.width n hn
      · rw [List.mem_singleton.1 hn]
        exact of_decide_eq_true hnew.1
    · exact h.width
  order := by
    have hmem : name ∈ made.map Prod.fst ↔ name ∈ names d.entries := by
      rw [h.order, List.mem_eraseDups]
    rw [h.names_insert, Assignment.recorded_singleton]
    by_cases hfits : fits name = true
    · rw [if_pos hfits, List.map_append, List.map_singleton, eraseDups_append_singleton, ← h.order]
      by_cases hold : name ∈ names d.entries
      · rw [if_neg fun hnew => hnew.2 hold, if_pos (hmem.2 hold)]
      · rw [if_pos ⟨hfits, hold⟩, if_neg (mt hmem.1 hold)]
    · rw [if_neg hfits, List.append_nil, if_neg fun hnew => hfits hnew.1, h.order]
  value n := by
    have hagrees : d.toDictionary.Agrees made := fun n => (h.get?_eq n).symm.trans (h.value n)
    rw [(h.toCoherent.insert name value).get?_eq, h.toDictionary_insert]
    exact hagrees.insert name value n

theorem Follows.insertAll : ∀ (more : List Assignment) {made : List Assignment}
    {d : IndexedDictionary}, d.Follows made →
      (d.insertAll more).Follows (made ++ Assignment.recorded more)
  | [], made, d, h => by
    rw [Assignment.recorded, List.filter_nil, List.append_nil]
    exact h
  | a :: more, made, d, h => by
    have hrest := Follows.insertAll more (h.insert a.1 a.2)
    rw [List.append_assoc, Assignment.recorded, Assignment.recorded, ← List.filter_append] at hrest
    exact hrest

/-- What one change does. -/
theorem Follows.change (h : d.Follows made) (change : Dictionary.Change) :
    (d.change change).Follows (Assignment.accept made change) := by
  cases change with
  | insert name value => exact h.insert name value
  | conditional name enabled =>
    have hmore := Follows.insertAll (Assignment.ofConditional name enabled) h
    rw [Assignment.recorded_ofConditional] at hmore
    exact hmore
  | records text =>
    unfold IndexedDictionary.change Assignment.accept ofRecords?
    dsimp only
    cases Dictionary.recordsOn 1 (Text.lines text) with
    | ok read => exact Follows.insertAll read follows_empty
    | error => exact h

theorem insert_of_long {name : Text} (hlong : 40 < Text.byteLength name) (value : Text) :
    d.insert name value = d :=
  if_neg fun hfits => hlong.not_ge (of_decide_eq_true hfits)

theorem insertConditional_of_long {name : Text}
    (hlong : 40 < Text.byteLength (Dictionary.widest name)) (enabled : Bool) :
    d.insertConditional name enabled = d := by
  have hnone : Assignment.ofConditional name enabled = [] :=
    if_neg fun hfits => hlong.not_ge (of_decide_eq_true hfits)
  rw [insertConditional, hnone]
  rfl

theorem Coherent.toDictionary_insertConditional (h : d.Coherent) (name : Text) (enabled : Bool) :
    (d.insertConditional name enabled).toDictionary =
      d.toDictionary.insertConditional name enabled :=
  (Coherent.toDictionary_insertAll (Assignment.ofConditional name enabled) h).trans
    (Dictionary.insertConditional_eq _ name enabled).symm

/-- A conditional whose widest name fits sets all its four placeholders, and no others. -/
theorem Coherent.get?_insertConditional (h : d.Coherent) {name : Text}
    (hfits : Text.byteLength (Dictionary.widest name) ≤ 40) (enabled : Bool) :
    (Assignment.ofConditional name enabled).length = 4 ∧
      (∀ a ∈ Assignment.ofConditional name enabled,
        (d.insertConditional name enabled).get? a.1 = some a.2) ∧
      ∀ other ∉ names (Assignment.ofConditional name enabled),
        (d.insertConditional name enabled).get? other = d.get? other := by
  have hwidest : fits (Dictionary.widest name) = true := decide_eq_true hfits
  have hafter : (d.insertConditional name enabled).Coherent := h.insertAll
  have hget : ∀ n, (d.insertConditional name enabled).get? n =
      (d.toDictionary.insertConditional name enabled).get? n := fun n => by
    rw [hafter.get?_eq, h.toDictionary_insertConditional]
  have hbrackets : (d.toDictionary.insertConditional name enabled).Brackets name enabled :=
    Dictionary.brackets_insertConditional hwidest enabled
  unfold Assignment.ofConditional
  rw [if_pos hwidest]
  refine ⟨rfl, fun a ha => ?_, fun other hother => ?_⟩
  · rw [hget]
    simp only [List.mem_cons, List.not_mem_nil, or_false] at ha
    rcases ha with rfl | rfl | rfl | rfl
    · exact hbrackets.opening
    · exact hbrackets.closing
    · exact hbrackets.openingNot
    · exact hbrackets.closingNot
  · rw [hget, h.get?_eq]
    refine Dictionary.get?_insertConditional_of_ne (fun marker hmarker heq => hother ?_) enabled
    simp only [Dictionary.markers, List.mem_cons, List.not_mem_nil, or_false] at hmarker
    rcases hmarker with rfl | rfl | rfl | rfl <;> simp [names, heq]

theorem Coherent.toDictionary_change (h : d.Coherent) (change : Dictionary.Change) :
    (d.change change).toDictionary = d.toDictionary.change change := by
  cases change with
  | insert name value => exact h.toDictionary_insert name value
  | conditional name enabled => exact h.toDictionary_insertConditional name enabled
  | records text =>
    unfold IndexedDictionary.change Dictionary.change ofRecords?
    dsimp only
    rw [Dictionary.ofRecords?_eq]
    cases Dictionary.recordsOn 1 (Text.lines text) with
    | ok read => exact Coherent.toDictionary_insertAll read coherent_empty
    | error => rfl

/-- What any changes do. -/
theorem follows_ofChanges (changes : List Dictionary.Change) :
    (ofChanges changes).Follows (Assignment.accepted changes) ∧
      (ofChanges changes).toDictionary = Dictionary.ofChanges changes := by
  induction changes using List.reverseRecOn with
  | nil => exact ⟨follows_empty, rfl⟩
  | append_singleton changes change ih =>
    obtain ⟨hfollows, hplain⟩ := ih
    unfold ofChanges Assignment.accepted Dictionary.ofChanges at *
    rw [List.foldl_concat, List.foldl_concat, List.foldl_concat, ← hplain]
    exact ⟨hfollows.change change, hfollows.toDictionary_change change⟩

end Histories

/-- A dictionary through any changes: every name stands in it once, in the place that the index
tells, in the order of the first assignments and with the value of the last one; a name that is too
wide changes nothing; and a conditional sets all its four placeholders or changes nothing. -/
theorem in_step_through_changes (changes : List Dictionary.Change) :
    let d := ofChanges changes
    d.Follows (Assignment.accepted changes) ∧
      (d.toDictionary = Dictionary.ofChanges changes ∧
        ∀ name, d.get? name = (Dictionary.ofChanges changes).get? name) ∧
      (∀ name value, 40 < Text.byteLength name → d.insert name value = d) ∧
      ∀ name enabled,
        (40 < Text.byteLength (Dictionary.widest name) → d.insertConditional name enabled = d) ∧
        (Text.byteLength (Dictionary.widest name) ≤ 40 →
          (Assignment.ofConditional name enabled).length = 4 ∧
          (∀ a ∈ Assignment.ofConditional name enabled,
            (d.insertConditional name enabled).get? a.1 = some a.2) ∧
          ∀ other ∉ names (Assignment.ofConditional name enabled),
            (d.insertConditional name enabled).get? other = d.get? other) := by
  obtain ⟨hfollows, hplain⟩ := follows_ofChanges changes
  refine ⟨hfollows, ⟨hplain, fun name => ?_⟩, fun name value hlong => insert_of_long hlong value,
    fun name enabled => ⟨fun hlong => insertConditional_of_long hlong enabled,
      fun hfits => hfollows.get?_insertConditional hfits enabled⟩⟩
  rw [hfollows.get?_eq, hplain]

/-- Records, a name that is read again, a conditional, and one too wide for its four names. -/
def revised : List Dictionary.Change :=
  [.insert "&lost&" "0", .records "&a&\n&b&\n", .insert "&b&" "1", .conditional "live" true,
    .insert "&a&" "2", .conditional (List.replicate 32 'w') true, .conditional "live" false]

theorem in_step_through_changes_revised :
    (ofChanges revised).get? "&a&" = some "2" ∧ (ofChanges revised).get? "&lost&" = none ∧
      (ofChanges revised).index[("&if_live&" : Text)]? = some 2 ∧
      (ofChanges revised).insert (List.replicate 41 'w') "3" = ofChanges revised ∧
      ((ofChanges revised).insertConditional "live" true).get? "&ifn_live&" = some "/*" := by
  obtain ⟨hfollows, -, hlong, hconditional⟩ := in_step_through_changes revised
  obtain ⟨-, hset, -⟩ := (hconditional "live" true).2 (by decide)
  refine ⟨(hfollows.value _).trans (by decide), (hfollows.value _).trans (by decide),
    (hfollows.index _ _).2 ?_, hlong _ _ (by decide), hset ("&ifn_live&", "/*") (by decide)⟩
  rw [hfollows.order]
  decide

end IndexedDictionary

end SqlBuild
