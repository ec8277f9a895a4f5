import Mathlib.Data.List.Forall2
import SqlBuild.Output.ResultSet
import SqlBuild.Proofs.Columns
import SqlBuild.Proofs.Digits

/-!
# Tables are aligned

No cell is longer than its column is wide (`ResultSet.fits_row`), so a line is its cells, each
filled up to the width of its column, and only the blanks at its end are missing. The line of dashes
has the same widths. So it shows where each cell stands on every other line
(`ResultSet.render_aligned`).
-/

namespace SqlBuild

namespace ResultSet

/-- The places of the columns that a line of dashes shows. -/
def ruledPlaces (rule : Text) : List (Nat × Nat) :=
  Text.places 0 ((rule.splitOn ' ').map List.length)

/-- A line with these cells at these places. A cell is filled up with blanks, on the left under the
header of a number and on the right under any other; only the blanks at the end of the line are
missing, and a cell that is missing is empty. -/
def Aligned (headers : List Header) (places : List (Nat × Nat)) (cells : Row) (line : Text) :
    Prop :=
  ∃ whole : Text, line = Text.trimEnd whole ∧
    ∀ (i : Nat) (header : Header) (place : Nat × Nat), headers[i]? = some header →
      places[i]? = some place →
      let cell := cells[i]?.getD []
      let blanks := List.replicate (place.2 - cell.length) ' '
      cell.length ≤ place.2 ∧
        whole.stretch place = (if header.numeric then blanks ++ cell else cell ++ blanks) ∧
        Text.trim (line.stretch place) = Text.trim cell

/-- How a table stands in a text: the headers, a run of dashes for each column, the rows, an empty
line and the number of rows, each on a line of its own, with the cells at the places of the runs. -/
def Tabulates (set : ResultSet) (shown : Text) : Prop :=
  ∃ (widths : List Nat) (heading : Text) (body : List Text),
    widths.length = set.headers.length ∧
    shown = Text.unlines (heading ::
      Text.join " " (widths.map fun width => List.replicate width '-') ::
        (body ++ [[], rowsAffected set.rows.length])) ∧
    Aligned set.headers (Text.places 0 widths) (set.headers.map (·.name)) heading ∧
    List.Forall₂ (Aligned set.headers (Text.places 0 widths)) set.rows body

/-- No cell is longer than its column is wide. -/
def Fits (layout : List (Header × Nat)) (cells : Row) : Prop :=
  ∀ (i : Nat) (column : Header × Nat), layout[i]? = some column →
    (cells[i]?.getD []).length ≤ column.2

theorem le_foldl_max : ∀ (l : List Nat) {n a : Nat}, n = a ∨ n ∈ l → n ≤ l.foldl max a
  | [], n, a, h => by simp_all
  | b :: l, n, a, h => by
    rw [List.foldl_cons]
    rcases h with rfl | h
    · exact (le_max_left n b).trans (le_foldl_max l (.inl rfl))
    · rcases List.mem_cons.1 h with rfl | h
      · exact (le_max_right a n).trans (le_foldl_max l (.inl rfl))
      · exact le_foldl_max l (.inr h)

section

variable {set : ResultSet} {i : Nat}

theorem getElem?_layout :
    set.layout[i]? = set.headers[i]?.map fun header => (header, set.width header i) := by
  simp [layout, List.getElem?_zipIdx]
  cases set.headers[i]? <;> rfl

theorem minWidth_le_width (set : ResultSet) (header : Header) (i : Nat) :
    minWidth ≤ set.width header i :=
  (le_max_right header.name.length minWidth).trans (le_foldl_max _ (.inl rfl))

theorem fits_names (set : ResultSet) : Fits set.layout (set.headers.map (·.name)) := by
  intro i column h
  rw [getElem?_layout] at h
  obtain ⟨header, hheader, rfl⟩ := Option.map_eq_some_iff.1 h
  rw [List.getElem?_map, hheader]
  exact (le_max_left header.name.length minWidth).trans (le_foldl_max _ (.inl rfl))

theorem fits_row {row : Row} (hrow : row ∈ set.rows) : Fits set.layout row := by
  intro i column h
  rw [getElem?_layout] at h
  obtain ⟨header, -, rfl⟩ := Option.map_eq_some_iff.1 h
  rcases hcell : row[i]? with _ | cell
  · simp
  · have hwidth : cell.length ∈ set.cellWidths i :=
      List.mem_filterMap.2 ⟨row, hrow, by rw [hcell]; rfl⟩
    exact le_foldl_max _ (.inr hwidth)

end

/-! ### Lines -/

section

variable {layout : List (Header × Nat)} {cells : Row}

/-- The cells of a line, each filled up to the width of its column. -/
def alignedCells (layout : List (Header × Nat)) (cells : Row) : Row :=
  layout.zipIdx.map fun (column, i) => align column (cells[i]?.getD [])

theorem getElem?_alignedCells (i : Nat) : (alignedCells layout cells)[i]? =
    layout[i]?.map fun column => align column (cells[i]?.getD []) := by
  simp [alignedCells, List.getElem?_zipIdx]
  cases layout[i]? <;> rfl

theorem length_align {column : Header × Nat} {cell : Text} (h : cell.length ≤ column.2) :
    (align column cell).length = column.2 := by
  unfold align
  split
  · exact Text.length_padStart h
  · exact Text.length_padEnd h

theorem trim_align (column : Header × Nat) (cell : Text) :
    Text.trim (align column cell) = Text.trim cell := by
  unfold align
  split
  · exact Text.trim_padStart _ _
  · exact Text.trim_padEnd _ _

theorem length_alignedCells (h : Fits layout cells) :
    (alignedCells layout cells).map List.length = layout.map Prod.snd := by
  refine List.ext_getElem? fun i => ?_
  rw [List.getElem?_map, getElem?_alignedCells, List.getElem?_map, Option.map_map]
  refine Option.map_congr fun column hcolumn => ?_
  exact length_align (h i column hcolumn)

theorem dashes_eq (layout : List (Header × Nat)) : dashes layout =
    Text.join " " ((layout.map Prod.snd).map fun width => List.replicate width '-') := by
  rw [dashes, List.map_map]
  rfl

/-- The line of dashes shows the widths of the columns. -/
theorem ruledPlaces_dashes (h : layout ≠ []) :
    ruledPlaces (dashes layout) = Text.places 0 (layout.map Prod.snd) := by
  have hsplit : (dashes layout).splitOn ' ' =
      (layout.map Prod.snd).map fun width => List.replicate width '-' := by
    rw [dashes_eq]
    refine List.splitOn_intercalate ' ' ?_ (by simpa using h)
    rintro run hrun hblank
    obtain ⟨width, -, rfl⟩ := List.mem_map.1 hrun
    cases List.eq_of_mem_replicate hblank
  rw [ruledPlaces, hsplit]
  simp [Function.comp_def]

theorem stretch_dashes {place : Nat × Nat} (h : layout ≠ [])
    (hplace : place ∈ ruledPlaces (dashes layout)) :
    (dashes layout).stretch place = List.replicate place.2 '-' := by
  have hruns : (Text.places 0 (layout.map Prod.snd)).map (dashes layout).stretch =
      (Text.places 0 (layout.map Prod.snd)).map fun place => List.replicate place.2 '-' := by
    have hstretch := Text.stretch_join [] ((layout.map Prod.snd).map fun w => List.replicate w '-')
    have hwidths := congrArg (List.map fun w => List.replicate w '-')
      (Text.snd_places 0 (layout.map Prod.snd))
    rw [← dashes_eq] at hstretch
    simpa [Function.comp_def] using hstretch.trans hwidths.symm
  rw [ruledPlaces_dashes h] at hplace
  exact List.map_inj_left.1 hruns place hplace

theorem aligned_line {set : ResultSet} (h : Fits set.layout cells) :
    Aligned set.headers (Text.places 0 (set.layout.map Prod.snd)) cells
      (line set.layout cells) := by
  -- The filled cells are as long as their columns are wide, so the places by width are theirs.
  have hplaces := Text.stretch_join [] (alignedCells set.layout cells)
  rw [length_alignedCells h] at hplaces
  refine ⟨Text.join " " (alignedCells set.layout cells), rfl, ?_⟩
  intro i header place hheader hplace
  have hlayout : set.layout[i]? = some (header, set.width header i) := by
    rw [getElem?_layout, hheader]
    rfl
  have hwidth : place.2 = set.width header i := by
    have := congrArg (·[i]?) (Text.snd_places 0 (set.layout.map Prod.snd))
    simpa [hplace, hlayout] using this
  have hwhole : (Text.join " " (alignedCells set.layout cells)).stretch place =
      align (header, set.width header i) (cells[i]?.getD []) := by
    have := congrArg (·[i]?) hplaces
    simpa [hplace, getElem?_alignedCells, hlayout] using this
  refine ⟨hwidth ▸ h i _ hlayout, ?_, ?_⟩
  · rw [hwhole, hwidth]
    rfl
  · rw [line, Text.trim_stretch_trimEnd]
    exact (congrArg Text.trim hwhole).trans (trim_align _ _)

theorem tabulates_render (set : ResultSet) : set.Tabulates set.render := by
  refine ⟨set.layout.map Prod.snd, line set.layout (set.headers.map (·.name)),
    set.rows.map (line set.layout), ?_⟩
  refine ⟨?_, ?_, aligned_line (fits_names set), ?_⟩
  · rw [layout, List.length_map, List.length_map, List.length_zipIdx]
  · rw [← dashes_eq, render]
    simp only [List.cons_append, List.nil_append]
  · rw [List.forall₂_map_right_iff, List.forall₂_same]
    exact fun row hrow => aligned_line (fits_row hrow)

theorem mem_align {column : Header × Nat} {cell : Text} {c : Char} (h : c ∈ align column cell) :
    c = ' ' ∨ c ∈ cell := by
  unfold align Text.padStart Text.padEnd List.leftpad List.rightpad at h
  split at h <;> rcases List.mem_append.1 h with h | h
  · exact .inl (List.eq_of_mem_replicate h)
  · exact .inr h
  · exact .inr h
  · exact .inl (List.eq_of_mem_replicate h)

theorem mem_line {c : Char} (h : c ∈ line layout cells) : c = ' ' ∨ ∃ cell ∈ cells, c ∈ cell := by
  rcases Text.mem_join ((Text.trimEnd_isPrefix _).subset h) with h | ⟨filled, hfilled, hc⟩
  · exact .inl (by simpa using h)
  · obtain ⟨⟨column, i⟩, -, rfl⟩ := List.mem_map.1 hfilled
    refine (mem_align hc).imp_right fun hc => ?_
    rcases hcell : cells[i]? with _ | cell
    · simp [hcell] at hc
    · exact ⟨cell, List.mem_of_getElem? hcell, by simpa [hcell] using hc⟩

theorem feed_not_mem_line (h : ∀ cell ∈ cells, '\n' ∉ cell) : '\n' ∉ line layout cells := by
  intro hmem
  rcases mem_line hmem with hc | ⟨cell, hcell, hc⟩
  · cases hc
  · exact h cell hcell hc

theorem mem_dashes {c : Char} (h : c ∈ dashes layout) : c = ' ' ∨ c = '-' := by
  rcases Text.mem_join h with h | ⟨run, hrun, hc⟩
  · exact .inl (by simpa using h)
  · obtain ⟨column, -, rfl⟩ := List.mem_map.1 hrun
    exact .inr (List.eq_of_mem_replicate hc)

end

/-- The footer, with the number in digits. -/
theorem rowsAffected_eq (count : Nat) : rowsAffected count =
    "(" ++ (Text.ofNat count ++
      (if count = 1 then " row affected)" else " rows affected)" : Text)) := by
  unfold rowsAffected
  split
  · subst count
    rfl
  · exact List.append_assoc _ _ _

theorem plain_of_mem_rowsAffected {count : Nat} {c : Char} (h : c ∈ rowsAffected count) :
    c ≠ '\n' ∧ c ≠ '\r' := by
  have hdigit : ∀ d ∈ Text.ofNat count, d ≠ '\n' ∧ d ≠ '\r' := by
    refine fun d hd => ⟨?_, ?_⟩ <;> rintro rfl <;> cases Text.isDigit_of_mem_ofNat hd
  have hword : (if count = 1 then " row affected)" else " rows affected)" : Text).all
      (fun d => d ≠ '\n' && d ≠ '\r') = true := by
    split <;> rfl
  rw [rowsAffected_eq, List.mem_append, List.mem_append] at h
  rcases h with h | h | h
  · rw [List.mem_singleton.1 h]
    decide
  · exact hdigit c h
  · simpa using List.all_eq_true.1 hword c h

/-- The lines of a table. -/
theorem lines_render {set : ResultSet} (hnames : ∀ header ∈ set.headers, '\n' ∉ header.name)
    (hcells : ∀ row ∈ set.rows, ∀ cell ∈ row, '\n' ∉ cell) : Text.lines set.render =
      line set.layout (set.headers.map (·.name)) :: dashes set.layout ::
        (set.rows.map (line set.layout) ++ [[], rowsAffected set.rows.length]) := by
  have hdashes : '\n' ∉ dashes set.layout ∧ '\r' ∉ dashes set.layout := by
    constructor <;> intro h <;> cases mem_dashes h <;> contradiction
  have hfooter : '\n' ∉ rowsAffected set.rows.length ∧ '\r' ∉ rowsAffected set.rows.length :=
    ⟨fun h => (plain_of_mem_rowsAffected h).1 rfl, fun h => (plain_of_mem_rowsAffected h).2 rfl⟩
  have hline : ∀ cells : Row, Text.dropReturn (line set.layout cells) = line set.layout cells :=
    fun cells => Text.dropReturn_trimEnd _
  rw [render, Text.lines_unlines]
  · simp [hline, Text.dropReturn_eq_self hdashes.2, Text.dropReturn_eq_self hfooter.2,
      show Text.dropReturn [] = [] from rfl, Function.comp_def]
  · have hheading : '\n' ∉ line set.layout (set.headers.map (·.name)) :=
      feed_not_mem_line (by simpa using hnames)
    have hbody : ∀ row ∈ set.rows, '\n' ∉ line set.layout row :=
      fun row hrow => feed_not_mem_line (hcells row hrow)
    simp only [List.mem_append, List.mem_cons, List.mem_map, List.not_mem_nil, or_false]
    rintro l (((rfl | rfl) | ⟨row, hrow, rfl⟩) | (rfl | rfl))
    · exact hheading
    · exact hdashes.1
    · exact hbody row hrow
    · simp
    · exact hfooter.1

/-- A table has a line for its headers, a line of dashes, a line for each row, an empty line and one
with the number of rows. The runs of dashes are the columns, none of them narrower than ten, and
what stands in a column is the cell that belongs there, up to the blanks around it. -/
theorem render_aligned {set : ResultSet} (hne : set.headers ≠ [])
    (hnames : ∀ header ∈ set.headers, '\n' ∉ header.name)
    (hcells : ∀ row ∈ set.rows, ∀ cell ∈ row, '\n' ∉ cell) :
    (Text.lines set.render).length = set.rows.length + 4 ∧
    ∃ (heading rule : Text) (body : List Text) (footer : Text),
      Text.lines set.render = heading :: rule :: (body ++ [[], footer]) ∧
      (ruledPlaces rule).length = set.headers.length ∧
      (∀ place ∈ ruledPlaces rule, 10 ≤ place.2 ∧
        rule.stretch place = List.replicate place.2 '-') ∧
      Aligned set.headers (ruledPlaces rule) (set.headers.map (·.name)) heading ∧
      List.Forall₂ (Aligned set.headers (ruledPlaces rule)) set.rows body ∧
      ∃ digits, Text.digits? digits = some set.rows.length ∧ footer =
        "(" ++ (digits ++
          (if set.rows.length = 1 then " row affected)" else " rows affected)" : Text)) := by
  have hlines := lines_render hnames hcells
  have hlayout : set.layout ≠ [] := by simpa [layout] using hne
  have hplaces := ruledPlaces_dashes hlayout
  refine ⟨by simp [hlines], _, _, _, _, hlines, ?_, ?_, ?_, ?_, ?_⟩
  · rw [hplaces, Text.length_places]
    simp [layout]
  · intro place hplace
    refine ⟨?_, stretch_dashes hlayout hplace⟩
    have hwidth := List.mem_map_of_mem (f := Prod.snd) hplace
    rw [hplaces, Text.snd_places] at hwidth
    obtain ⟨⟨header, width⟩, hcolumn, hw⟩ := List.mem_map.1 hwidth
    obtain ⟨⟨header', i⟩, -, heq⟩ := List.mem_map.1 hcolumn
    obtain ⟨rfl, rfl⟩ := Prod.mk.inj heq
    exact hw ▸ minWidth_le_width set header' i
  · rw [hplaces]
    exact aligned_line (fits_names set)
  · rw [hplaces, List.forall₂_map_right_iff, List.forall₂_same]
    exact fun row hrow => aligned_line (fits_row hrow)
  · exact ⟨_, Text.digits?_ofNat _, rowsAffected_eq _⟩

/-- A number that widens its column, a cell that ends in a tab, and rows that are too short. -/
def ragged : ResultSet :=
  { headers := [⟨"id", true⟩, ⟨"größe", false⟩, ⟨"note", false⟩],
    rows := [["7", " a–b\t", "x"], ["123456789012"], []] }

theorem render_aligned_ragged : ragged.headers ≠ [] ∧
    (∀ header ∈ ragged.headers, '\n' ∉ header.name) ∧
    (∀ row ∈ ragged.rows, ∀ cell ∈ row, '\n' ∉ cell) ∧
    (Text.lines ragged.render).length = 7 ∧
    ∃ rule ∈ Text.lines ragged.render, ∃ body ⊆ Text.lines ragged.render,
      (ruledPlaces rule).length = 3 ∧
      List.Forall₂ (Aligned ragged.headers (ruledPlaces rule)) ragged.rows body := by
  have hne : ragged.headers ≠ [] := by decide
  have hnames : ∀ header ∈ ragged.headers, '\n' ∉ header.name := by decide
  have hcells : ∀ row ∈ ragged.rows, ∀ cell ∈ row, '\n' ∉ cell := by decide
  obtain ⟨hcount, heading, rule, body, footer, hlines, hplaces, -, -, hbody, -⟩ :=
    render_aligned hne hnames hcells
  refine ⟨hne, hnames, hcells, hcount, rule, ?_, body, ?_, hplaces, hbody⟩
  · simp [hlines]
  · simp [hlines, List.subset_def]
    tauto

end ResultSet

end SqlBuild
