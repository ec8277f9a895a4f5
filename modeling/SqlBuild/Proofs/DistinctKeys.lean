import Mathlib.Data.List.Nodup
import SqlBuild.Settings.Profile

/-!
# No key stands twice

A table takes a new key only when it does not have it yet, and whatever is added to it later goes
into the value that is there (`keepsKeys_of_place`). So in a document, and in every table and array
of it, all keys of a table differ (`keyedEntries_of_ofText?`), and a settings file has no two
profiles of one name (`Settings.nodup_of_ofText?`).
-/

namespace SqlBuild

namespace Toml

/-- No table in the value has a key twice. -/
inductive Keyed : Toml → Prop
  | text (content : Text) : Keyed (.text content)
  | integer (n : Int) : Keyed (.integer n)
  | boolean (b : Bool) : Keyed (.boolean b)
  | written (form : Text) : Keyed (.written form)
  | array (growing : Bool) {items : List Toml} (hitems : ∀ item ∈ items, Keyed item) :
      Keyed (.array growing items)
  | table (origin : Origin) {entries : Entries} (hkeys : (entries.map Prod.fst).Nodup)
      (hvalues : ∀ e ∈ entries, Keyed e.2) : Keyed (.table origin entries)

/-- The entries of a table with no key twice, nor in any table below. -/
structure KeyedEntries (entries : Entries) : Prop where
  keys : (entries.map Prod.fst).Nodup
  values : ∀ e ∈ entries, Keyed e.2

theorem keyedEntries_nil : KeyedEntries [] := ⟨List.nodup_nil, nofun⟩

theorem keyed_table_iff {origin : Origin} {entries : Entries} :
    Keyed (.table origin entries) ↔ KeyedEntries entries :=
  ⟨fun | .table _ hkeys hvalues => ⟨hkeys, hvalues⟩, fun h => .table origin h.keys h.values⟩

theorem keyed_array_iff {growing : Bool} {items : List Toml} :
    Keyed (.array growing items) ↔ ∀ item ∈ items, Keyed item :=
  ⟨fun | .array _ hitems => hitems, .array growing⟩

theorem keyedEntries_cons {key : Text} {value : Toml} {entries : Entries} :
    KeyedEntries ((key, value) :: entries) ↔
      Keyed value ∧ key ∉ entries.map Prod.fst ∧ KeyedEntries entries := by
  constructor
  · rintro ⟨hkeys, hvalues⟩
    rw [List.map_cons, List.nodup_cons] at hkeys
    rw [List.forall_mem_cons] at hvalues
    exact ⟨hvalues.1, hkeys.1, hkeys.2, hvalues.2⟩
  · rintro ⟨hvalue, hkey, hkeys, hvalues⟩
    exact ⟨List.nodup_cons.2 ⟨hkey, hkeys⟩, List.forall_mem_cons.2 ⟨hvalue, hvalues⟩⟩

/-- A change to the entries of a table gives no key to two of them. -/
def KeepsKeys (change : Entries → Option Entries) : Prop :=
  ∀ entries entries', change entries = some entries' → KeyedEntries entries → KeyedEntries entries'

section Changes

variable {key : Text} {value : Toml} {change : Entries → Option Entries}

/-- What changes the value under a key in its place, or adds one at the end when there is none. -/
theorem keepsKeys_of_place (key : Text) (start : Option Toml) (turn : Toml → Option Toml)
    (hnil : change [] = start.map fun v => [(key, v)])
    (hcons : ∀ k v rest, change ((k, v) :: rest) =
      if k = key then (turn v).map fun v => (k, v) :: rest
      else (change rest).map ((k, v) :: ·))
    (hstart : ∀ v, start = some v → Keyed v)
    (hturn : ∀ v v', turn v = some v' → Keyed v → Keyed v') : KeepsKeys change := by
  have hplace : ∀ entries entries', change entries = some entries' → KeyedEntries entries →
      KeyedEntries entries' ∧ ∀ k ∈ entries'.map Prod.fst, k = key ∨ k ∈ entries.map Prod.fst := by
    intro entries
    induction entries with
    | nil =>
      intro entries' h _
      rw [hnil] at h
      obtain ⟨v, hv, rfl⟩ := Option.map_eq_some_iff.1 h
      exact ⟨keyedEntries_cons.2 ⟨hstart v hv, by simp, keyedEntries_nil⟩, by simp⟩
    | cons e rest ih =>
      obtain ⟨k, v⟩ := e
      intro entries' h hkeyed
      obtain ⟨hv, hk, hrest⟩ := keyedEntries_cons.1 hkeyed
      rw [hcons] at h
      split_ifs at h with hkey
      · obtain ⟨v', hv', rfl⟩ := Option.map_eq_some_iff.1 h
        exact ⟨keyedEntries_cons.2 ⟨hturn v v' hv' hv, hk, hrest⟩,
          fun k hk => .inr (by simpa using hk)⟩
      · obtain ⟨rest', hrest', rfl⟩ := Option.map_eq_some_iff.1 h
        obtain ⟨hkeyed', hkeys⟩ := ih rest' hrest' hrest
        refine ⟨keyedEntries_cons.2 ⟨hv, fun hmem => ?_, hkeyed'⟩, fun k' hk' => ?_⟩
        · exact (hkeys k hmem).elim hkey hk
        · rcases List.mem_cons.1 hk' with rfl | hk'
          · exact .inr (by simp)
          · exact (hkeys k' hk').imp_right (List.mem_cons_of_mem _)
  exact fun entries entries' h hkeyed => (hplace entries entries' h hkeyed).1

theorem keyed_inside (hchange : KeepsKeys change) {entrance : Entrance} {value' : Toml}
    (h : inside entrance change value = some value') (hvalue : Keyed value) : Keyed value' := by
  unfold inside at h
  split at h
  · split_ifs at h
    obtain ⟨entries', hentries', rfl⟩ := Option.map_eq_some_iff.1 h
    exact keyed_table_iff.2 (hchange _ _ hentries' (keyed_table_iff.1 hvalue))
  · split at h
    · cases h
    · rename_i items _ _ origin entries _ hlast
      obtain ⟨entries', hentries', rfl⟩ := Option.map_eq_some_iff.1 h
      have hitems := keyed_array_iff.1 hvalue
      refine keyed_array_iff.2 (List.forall_mem_append.2
        ⟨fun item hitem => hitems item (List.dropLast_subset _ hitem), ?_⟩)
      rw [List.forall_mem_singleton]
      exact keyed_table_iff.2 (hchange _ _ hentries'
        (keyed_table_iff.1 (hitems _ (List.mem_of_getLast? hlast))))
    · cases h
  · cases h

theorem keepsKeys_under (hchange : KeepsKeys change) (entrance : Entrance) (key : Text) :
    KeepsKeys (under entrance key change) := by
  refine keepsKeys_of_place key ((change []).map (table entrance.makes ·)) (inside entrance change)
    ?_ (fun _ _ _ => rfl) ?_ fun _ _ => keyed_inside hchange
  · rw [under, Option.map_map]
    rfl
  · intro v hv
    obtain ⟨entries, hentries, rfl⟩ := Option.map_eq_some_iff.1 hv
    exact keyed_table_iff.2 (hchange _ _ hentries keyedEntries_nil)

theorem keepsKeys_add (hvalue : Keyed value) (key : Text) : KeepsKeys (add key value) := by
  intro entries entries' h hkeyed
  unfold add at h
  split_ifs at h with hnew
  obtain rfl := Option.some.inj h
  have hkey : key ∉ entries.map Prod.fst := by
    intro hmem
    obtain ⟨e, he, heq⟩ := List.mem_map.1 hmem
    have hother := List.lookup_eq_none_iff.1 (Option.not_isSome_iff_eq_none.1 hnew) e he
    exact bne_iff_ne.1 hother heq.symm
  refine ⟨?_, List.forall_mem_append.2 ⟨hkeyed.values, List.forall_mem_singleton.2 hvalue⟩⟩
  rw [List.map_append]
  exact (List.perm_append_singleton key _).nodup_iff.2 (List.nodup_cons.2 ⟨hkey, hkeyed.keys⟩)

theorem keepsKeys_assign (hvalue : Keyed value) : ∀ path, KeepsKeys (assign value path)
  | [] => fun _ _ h => by cases h
  | [key] => keepsKeys_add hvalue key
  | [parent, key] => keepsKeys_under (keepsKeys_add hvalue key) .dotted parent
  | parent :: key :: key' :: path =>
    keepsKeys_under (keepsKeys_assign hvalue (key :: key' :: path)) .passing parent

/-- A table that was only named so far, given its header. -/
def headed? : Toml → Option Toml
  | table .implied entries => some (table .header entries)
  | _ => none

/-- A growing array with one more table. -/
def grown? : Toml → Option Toml
  | array true items => some (array true (items ++ [table .header []]))
  | _ => none

theorem openTable_here_cons (key k : Text) (v : Toml) (rest : Entries) :
    openTable.openHere key ((k, v) :: rest) =
      if k = key then (headed? v).map fun v => (k, v) :: rest
      else (openTable.openHere key rest).map ((k, v) :: ·) := by
  rw [openTable.openHere.eq_def]
  refine if_congr Iff.rfl ?_ rfl
  cases v with
  | table origin entries => cases origin <;> rfl
  | _ => rfl

theorem openItem_here_cons (key k : Text) (v : Toml) (rest : Entries) :
    openItem.openHere key ((k, v) :: rest) =
      if k = key then (grown? v).map fun v => (k, v) :: rest
      else (openItem.openHere key rest).map ((k, v) :: ·) := by
  rw [openItem.openHere.eq_def]
  refine if_congr Iff.rfl ?_ rfl
  cases v with
  | array growing items => cases growing <;> rfl
  | _ => rfl

theorem keyed_headed {value' : Toml} (h : headed? value = some value') (hvalue : Keyed value) :
    Keyed value' := by
  unfold headed? at h
  split at h
  · obtain rfl := Option.some.inj h
    exact keyed_table_iff.2 (keyed_table_iff.1 hvalue)
  · cases h

theorem keyed_grown {value' : Toml} (h : grown? value = some value') (hvalue : Keyed value) :
    Keyed value' := by
  unfold grown? at h
  split at h
  · obtain rfl := Option.some.inj h
    refine keyed_array_iff.2 (List.forall_mem_append.2 ⟨keyed_array_iff.1 hvalue, ?_⟩)
    rw [List.forall_mem_singleton]
    exact keyed_table_iff.2 keyedEntries_nil
  · cases h

theorem keepsKeys_openTable : ∀ path, KeepsKeys (openTable path)
  | [] => fun _ _ h => by cases h
  | [key] => by
    refine keepsKeys_of_place key (some (table .header [])) headed? rfl (openTable_here_cons key)
      (fun v hv => ?_) fun _ _ => keyed_headed
    obtain rfl := Option.some.inj hv
    exact keyed_table_iff.2 keyedEntries_nil
  | parent :: key :: path => keepsKeys_under (keepsKeys_openTable (key :: path)) .header parent

theorem keepsKeys_openItem : ∀ path, KeepsKeys (openItem path)
  | [] => fun _ _ h => by cases h
  | [key] => by
    refine keepsKeys_of_place key (some (array true [table .header []])) grown? rfl
      (openItem_here_cons key) (fun v hv => ?_) fun _ _ => keyed_grown
    obtain rfl := Option.some.inj hv
    exact keyed_array_iff.2 (List.forall_mem_singleton.2 (keyed_table_iff.2 keyedEntries_nil))
  | parent :: key :: path => keepsKeys_under (keepsKeys_openItem (key :: path)) .header parent

theorem keepsKeys_assignIn (hvalue : Keyed value) (key : List Text) :
    ∀ header, KeepsKeys (assignIn value key header)
  | [] => keepsKeys_assign hvalue key
  | parent :: path => keepsKeys_under (keepsKeys_assignIn hvalue key path) .header parent

end Changes

section Readers

/-- A reader gives no value with a key twice in a table. -/
def ReadsKeyed (reader : Text → Option (Toml × Text)) : Prop :=
  ∀ t value rest, reader t = some (value, rest) → Keyed value

theorem keyed_ofWord {t : Text} {value : Toml} (h : ofWord? t = some value) : Keyed value := by
  unfold ofWord? at h
  split at h
  · exact Option.some.inj h ▸ .boolean true
  · split at h
    · exact Option.some.inj h ▸ .boolean false
    · split at h
      · exact Option.some.inj h ▸ .integer _
      · split_ifs at h
        exact Option.some.inj h ▸ .written t

theorem readsKeyed_word : ReadsKeyed word := by
  intro t value rest h
  obtain ⟨found, hfound, heq⟩ := Option.map_eq_some_iff.1 h
  obtain rfl := (Prod.mk.inj heq).1
  exact keyed_ofWord hfound

variable {reader : Text → Option (Toml × Text)}

theorem keyed_itemsWith (hreader : ReadsKeyed reader) : ∀ (count : Nat) (t : Text)
    (items : List Toml) (rest : Text), itemsWith reader count t = some (items, rest) →
      ∀ item ∈ items, Keyed item
  | 0, _, _, _, h => by cases h
  | count + 1, t, items, rest, h => by
    rw [itemsWith] at h
    split at h
    · obtain rfl := (Prod.mk.inj (Option.some.inj h)).1
      exact nofun
    · obtain ⟨⟨item, r⟩, hitem, h⟩ := Option.bind_eq_some_iff.1 h
      have hkeyed : Keyed item := hreader _ _ _ hitem
      simp only [] at h
      split at h
      · obtain ⟨⟨more, r'⟩, hmore, h⟩ := Option.bind_eq_some_iff.1 h
        obtain rfl := (Prod.mk.inj (Option.some.inj h)).1
        exact List.forall_mem_cons.2 ⟨hkeyed, keyed_itemsWith hreader count _ _ _ hmore⟩
      · obtain rfl := (Prod.mk.inj (Option.some.inj h)).1
        exact List.forall_mem_singleton.2 hkeyed
      · cases h

theorem keyed_entriesWith (hreader : ReadsKeyed reader) : ∀ (count : Nat) (entries : Entries)
    (t : Text) (entries' : Entries) (rest : Text),
      entriesWith reader count entries t = some (entries', rest) → KeyedEntries entries →
        KeyedEntries entries'
  | 0, _, _, _, _, h, _ => by cases h
  | count + 1, entries, t, entries', rest, h, hkeyed => by
    rw [entriesWith] at h
    obtain ⟨found, -, h⟩ := Option.bind_eq_some_iff.1 h
    split at h
    · obtain ⟨⟨content, r⟩, hcontent, h⟩ := Option.bind_eq_some_iff.1 h
      obtain ⟨more, hmore, h⟩ := Option.bind_eq_some_iff.1 h
      have hmore' := keepsKeys_assign (hreader _ _ _ hcontent) _ _ _ hmore hkeyed
      split at h
      · exact keyed_entriesWith hreader count _ _ _ _ h hmore'
      · obtain rfl := (Prod.mk.inj (Option.some.inj h)).1
        exact hmore'
      · cases h
    · cases h

theorem keyed_quoted {t : Text} {value : Toml} {rest : Text}
    (h : (quoted t).map (fun (content, r) => (text content, r)) = some (value, rest)) :
    Keyed value := by
  obtain ⟨⟨content, r⟩, -, heq⟩ := Option.map_eq_some_iff.1 h
  obtain rfl := (Prod.mk.inj heq).1
  exact .text content

/-- What stands within brackets and braces is one level less deep. -/
theorem readsKeyed_valueWithin : ∀ depth, ReadsKeyed (valueWithin depth)
  | 0, t, value, rest, h => by
    unfold valueWithin at h
    split at h
    · exact keyed_quoted h
    · exact keyed_quoted h
    · exact readsKeyed_word _ _ _ h
  | depth + 1, t, value, rest, h => by
    have hwithin := readsKeyed_valueWithin depth
    unfold valueWithin at h
    split at h
    · exact keyed_quoted h
    · exact keyed_quoted h
    · obtain ⟨⟨items, r⟩, hitems, heq⟩ := Option.map_eq_some_iff.1 h
      obtain rfl := (Prod.mk.inj heq).1
      exact keyed_array_iff.2 (keyed_itemsWith hwithin _ _ _ _ hitems)
    · split at h
      · obtain rfl := (Prod.mk.inj (Option.some.inj h)).1
        exact keyed_table_iff.2 keyedEntries_nil
      · obtain ⟨⟨entries, r⟩, hentries, heq⟩ := Option.map_eq_some_iff.1 h
        obtain rfl := (Prod.mk.inj heq).1
        exact keyed_table_iff.2 (keyed_entriesWith hwithin _ _ _ _ _ hentries keyedEntries_nil)
    · exact readsKeyed_word _ _ _ h

end Readers

section Documents

theorem keyedEntries_statement {draft draft' : Draft} {t rest : Text}
    (h : statement draft t = some (draft', rest)) (hkeyed : KeyedEntries draft.entries) :
    KeyedEntries draft'.entries := by
  unfold statement at h
  split at h
  all_goals
    obtain ⟨⟨path, r⟩, -, h⟩ := Option.bind_eq_some_iff.1 h
    split at h
  · obtain ⟨entries, hentries, h⟩ := Option.bind_eq_some_iff.1 h
    obtain rfl := (Prod.mk.inj (Option.some.inj h)).1
    exact keepsKeys_openItem _ _ _ hentries hkeyed
  · cases h
  · obtain ⟨entries, hentries, h⟩ := Option.bind_eq_some_iff.1 h
    obtain rfl := (Prod.mk.inj (Option.some.inj h)).1
    exact keepsKeys_openTable _ _ _ hentries hkeyed
  · cases h
  · obtain ⟨⟨content, r⟩, hcontent, h⟩ := Option.bind_eq_some_iff.1 h
    obtain ⟨entries, hentries, h⟩ := Option.bind_eq_some_iff.1 h
    obtain rfl := (Prod.mk.inj (Option.some.inj h)).1
    exact keepsKeys_assignIn (readsKeyed_valueWithin _ _ _ _ hcontent) _ _ _ _ hentries hkeyed
  · cases h

theorem keyedEntries_statements : ∀ (count : Nat) {draft : Draft} {t : Text} {entries : Entries},
    statements count draft t = some entries → KeyedEntries draft.entries → KeyedEntries entries
  | 0, _, _, _, h, _ => by cases h
  | count + 1, draft, t, entries, h, hkeyed => by
    rw [statements] at h
    split at h
    · exact Option.some.inj h ▸ hkeyed
    · obtain ⟨⟨draft', r⟩, hdraft, h⟩ := Option.bind_eq_some_iff.1 h
      obtain ⟨r', -, h⟩ := Option.bind_eq_some_iff.1 h
      exact keyedEntries_statements count h (keyedEntries_statement hdraft hkeyed)

/-- In a document no key stands twice, in no table of it. -/
theorem keyedEntries_of_ofText? {t : Text} {entries : Entries} (h : ofText? t = some entries) :
    KeyedEntries entries := by
  unfold ofText? at h
  simp only [] at h
  split_ifs at h
  exact keyedEntries_statements _ h keyedEntries_nil

end Documents

end Toml

/-- The profiles of a settings file have the names of their tables. -/
theorem Settings.names_of_mapM {tables : Toml.Entries} {profiles : List (Text × Profile)}
    (h : tables.mapM (fun e => (Profile.ofToml? e.2).map fun profile => (e.1, profile)) =
      some profiles) : profiles.map Prod.fst = tables.map Prod.fst := by
  induction tables generalizing profiles with
  | nil => exact Option.some.inj h ▸ rfl
  | cons e tables ih =>
    rw [List.mapM_cons] at h
    obtain ⟨named, hnamed, h⟩ := Option.bind_eq_some_iff.1 h
    obtain ⟨more, hmore, h⟩ := Option.bind_eq_some_iff.1 h
    obtain ⟨profile, -, rfl⟩ := Option.map_eq_some_iff.1 hnamed
    obtain rfl := Option.some.inj h
    rw [List.map_cons, List.map_cons, ih hmore]

/-- A settings file has no two profiles of one name. -/
theorem Settings.nodup_of_ofText? {t : Text} {settings : Settings}
    (h : Settings.ofText? t = some settings) : (settings.profiles.map Prod.fst).Nodup := by
  obtain ⟨entries, hentries, h⟩ := Option.bind_eq_some_iff.1 h
  have hkeyed := Toml.keyedEntries_of_ofText? hentries
  unfold Settings.ofEntries? at h
  split at h
  · exact Option.some.inj h ▸ List.nodup_nil
  · rename_i origin tables htables
    obtain ⟨before, after, rfl, -⟩ := List.lookup_eq_some_iff.1 htables
    have htables' : Toml.KeyedEntries tables :=
      Toml.keyed_table_iff.1 (hkeyed.values _ (List.mem_append_right before List.mem_cons_self))
    obtain ⟨profiles, hprofiles, rfl⟩ := Option.map_eq_some_iff.1 h
    rw [names_of_mapM hprofiles]
    exact htables'.keys
  · cases h

end SqlBuild
