import Chip8.Display.Raster
import Chip8.Proofs.Display.Pixels
import Chip8.Proofs.Display.Scaling
import Mathlib.Data.List.Induction

namespace Chip8

/-! Displays that are given as nested data. They are read back bit by bit, their picture is
made at every scale at which there is room for it and refused at every other, and at two
different colors nothing of the display is lost in it. -/

variable {display other : Display} {palette : Palette} {room scale : Nat}

namespace Raster

variable {α : Type} {part : α → Raster} {shape : List Nat}

theorem sharedShape?_map (even : ∀ value, (part value).shape? = some shape) (first : α)
    (rest : List α) : sharedShape? ((first :: rest).map part) = some (some shape) := by
  induction rest generalizing first with
  | nil =>
      rw [List.map_cons, sharedShape?, even]
      rfl
  | cons next rest ih =>
      rw [List.map_cons, sharedShape?, even, ih next]
      simp only [if_true]

/-- Parts of one shape, put side by side. -/
theorem shape?_row_map (even : ∀ value, (part value).shape? = some shape) {values : List α}
    (filled : values ≠ []) : (row (values.map part)).shape? = some (values.length :: shape) := by
  obtain ⟨first, rest, rfl⟩ := List.exists_cons_of_ne_nil filled
  rw [shape?, sharedShape?_map even, List.length_map]
  rfl

theorem cells_row_map (part : α → Raster) (values : List α) :
    (row (values.map part)).cells = values.flatMap fun value => (part value).cells := by
  rw [cells]
  induction values with
  | nil => rfl
  | cons value values ih => rw [List.map_cons, allCells, ih, List.flatMap_cons]

end Raster

/-- A chunk of what was put together from chunks of one width. -/
theorem take_drop_flatMap {α β : Type} {part : α → List β} {width : Nat}
    (even : ∀ value, (part value).length = width) {values : List α} {index : Nat} {value : α}
    (found : values[index]? = some value) :
    ((values.flatMap part).drop (width * index)).take width = part value := by
  induction values generalizing index with
  | nil => contradiction
  | cons first rest ih =>
      rw [List.flatMap_cons]
      cases index with
      | zero =>
          cases found
          rw [Nat.mul_zero, List.drop_zero, ← even value, List.take_left]
      | succ index =>
          rw [Nat.mul_succ, Nat.add_comm, ← List.drop_drop, ← even first, List.drop_left, even first]
          exact ih found

namespace Display

/-- The display as nested data: a list of its rows, each a list of cells. -/
def raster (display : Display) : Raster :=
  .row ((List.finRange 32).map fun row =>
    .row ((List.finRange 64).map fun column => .cell (display.pixel row column)))

theorem shape?_raster (display : Display) : display.raster.shape? = some [32, 64] := by
  have columns : List.finRange 64 ≠ [] := List.ne_nil_of_length_eq_add_one List.length_finRange
  have rows : List.finRange 32 ≠ [] := List.ne_nil_of_length_eq_add_one List.length_finRange
  have line (row : Fin 32) :
      (Raster.row ((List.finRange 64).map fun column =>
        .cell (display.pixel row column))).shape? = some [64] := by
    rw [Raster.shape?_row_map (fun _ => by rw [Raster.shape?]) columns, List.length_finRange]
  rw [raster, Raster.shape?_row_map line rows, List.length_finRange]

theorem cells_raster (display : Display) :
    display.raster.cells = (List.finRange 32).flatMap fun row =>
      (List.finRange 64).map (display.pixel row) := by
  have line (row : Fin 32) :
      (Raster.row ((List.finRange 64).map fun column =>
        .cell (display.pixel row column))).cells = (List.finRange 64).map (display.pixel row) := by
    rw [Raster.cells_row_map, List.map_eq_flatMap]
    simp only [Raster.cells]
  rw [raster, Raster.cells_row_map]
  simp only [line]

theorem rowOf_concat (columns : List Bool) (lit : Bool) :
    rowOf (columns ++ [lit]) = rowOf columns <<< 1 ||| (if lit then 1 else 0) := by
  rw [rowOf, List.foldl_append]
  rfl

/-- The last column is the lowest bit. -/
theorem getLsbD_rowOf (columns : List Bool) {position : Nat} (inside : position < 64) :
    (rowOf columns).getLsbD position = columns.reverse.getD position false := by
  induction columns using List.reverseRecOn generalizing position with
  | nil => simp [rowOf]
  | append_singleton columns lit ih =>
      rw [rowOf_concat, List.reverse_concat, BitVec.getLsbD_or]
      cases position with
      | zero => cases lit <;> simp
      | succ position =>
          have last : (if lit then 1 else 0 : BitVec 64).getLsbD (position + 1) = false := by
            cases lit <;> simp
          rw [List.getD_cons_succ, ← ih (Nat.lt_of_succ_lt inside), BitVec.getLsbD_shiftLeft, last,
            decide_eq_true inside]
          simp

theorem getMsbD_rowOf {columns : List Bool} (full : columns.length = 64) {column : Nat}
    (inside : column < 64) : (rowOf columns).getMsbD column = columns.getD column false := by
  have mirrored : columns.length - 1 - (64 - 1 - column) = column := by omega
  rw [BitVec.getMsbD_eq_getLsbD, decide_eq_true inside, Bool.true_and,
    getLsbD_rowOf columns (by omega), List.getD_eq_getElem?_getD, List.getD_eq_getElem?_getD,
    List.getElem?_reverse (by omega), mirrored]

theorem ofCells_raster (display : Display) : ofCells display.raster.cells = display := by
  apply ext_pixel
  intro row column
  have line : (display.raster.cells.drop (64 * row.val)).take 64 =
      (List.finRange 64).map (display.pixel row) := by
    rw [cells_raster]
    have found : (List.finRange 32)[row.val]? = some row := by simp
    refine take_drop_flatMap (fun row => ?_) found
    rw [List.length_map, List.length_finRange]
  simp only [pixel, ofCells, Fin.getElem_fin, Vector.getElem_ofFn, line]
  rw [getMsbD_rowOf (by rw [List.length_map, List.length_finRange]) column.isLt]
  simp [pixel]

theorem ofRaster_raster (display : Display) : ofRaster display.raster = .ok display := by
  have shallow : ¬ Raster.depthLimit < [32, 64].length := by decide
  rw [ofRaster, shape?_raster]
  simp only [if_neg shallow, if_true, ofCells_raster]

end Display

namespace Picture

/-- The picture of a display at this scale can be made where there is this much room. -/
def Fits (room scale : Nat) : Prop := Capacity.Fits room (plainBytes * scale * scale)

instance (room scale : Nat) : Decidable (Fits room scale) :=
  inferInstanceAs (Decidable (Capacity.Fits room (plainBytes * scale * scale)))

theorem Fits.of_mul {times : Nat} (fits : Fits room (scale * times)) (repeats : 0 < times) :
    Fits room scale := by
  have smaller : scale ≤ scale * times := Nat.le_mul_of_pos_right scale repeats
  exact Capacity.Fits.of_le fits (Nat.mul_le_mul (Nat.mul_le_mul_left plainBytes smaller) smaller)

/-- The arrays that are made on the way to a picture are not larger than the picture. -/
theorem checkScale_of_fits (positive : 0 < scale) (fits : Fits room scale) :
    checkScale room scale = .ok () := by
  have taller : plainBytes * scale ≤ plainBytes * scale * scale :=
    Nat.le_mul_of_pos_right _ positive
  have plain : plainBytes ≤ plainBytes * scale := Nat.le_mul_of_pos_right _ positive
  rw [checkScale, Capacity.checkBytes_of_fits (fits.of_le (Nat.le_trans plain taller))]
  by_cases single : scale = 1
  · rw [if_pos single]
    rfl
  · have counted : Capacity.isCount scale = true := by
      have bound := (Capacity.Fits.of_le fits taller).1
      simp only [plainBytes, Display.width, Display.height, Capacity.countLimit] at bound
      simp only [Capacity.isCount, Capacity.countLimit, decide_eq_true_eq]
      omega
    rw [if_neg single, Capacity.checkCount, if_pos counted,
      Capacity.checkBytes_of_fits (fits.of_le taller), Capacity.checkBytes_of_fits fits]
    rfl

theorem checkScale_of_not_fits (exceeds : ¬ Fits room scale) :
    ∃ cause, checkScale room scale = .error cause := by
  obtain ⟨last, refused⟩ := Capacity.checkBytes_of_not_fits exceeds
  rw [checkScale]
  -- The first of the checks that fails names the cause.
  cases plain : Capacity.checkBytes room plainBytes with
  | error cause => exact ⟨cause, rfl⟩
  | ok =>
      by_cases single : scale = 1
      · subst scale
        rw [Nat.mul_one, Nat.mul_one, plain] at refused
        contradiction
      · rw [if_neg single, refused]
        cases Capacity.checkCount scale with
        | error cause => exact ⟨cause, rfl⟩
        | ok =>
            cases Capacity.checkBytes room (plainBytes * scale) with
            | error cause => exact ⟨cause, rfl⟩
            | ok => exact ⟨last, rfl⟩

theorem scaleOf_natCast (positive : 0 < scale) : scaleOf scale = .ok scale := by
  have large : ¬ (scale : Int) < 1 := by omega
  rw [scaleOf, if_neg large, Int.toNat_natCast]

end Picture

theorem Color.components_inside (color : Color) :
    ∀ component ∈ color.components, ¬ (component < 0 ∨ 255 < component) := by
  intro component member
  have red := color.red.toNat_lt
  have green := color.green.toNat_lt
  have blue := color.blue.toNat_lt
  simp only [components, List.mem_cons, List.not_mem_nil, or_false] at member
  omega

theorem Color.ofComponents_components (color : Color) :
    Color.ofComponents color.components = .ok color := by
  have inside :
      color.components.find? (fun component => component < 0 ∨ 255 < component) = none := by
    rw [List.find?_eq_none]
    intro component member
    rw [decide_eq_true_eq]
    exact color.components_inside component member
  simp only [ofComponents, inside]
  simp only [components, List.map_cons, List.map_nil, Int.toNat_natCast, UInt8.ofNat_toNat]

theorem Display.renderChecked_of_fits (display : Display) (palette : Palette)
    (positive : 0 < scale) (fits : Picture.Fits room scale) :
    display.renderChecked room scale palette = .ok (display.render scale palette) := by
  rw [renderChecked, Picture.checkScale_of_fits positive fits]

theorem Display.renderChecked_of_not_fits (display : Display) (palette : Palette)
    (exceeds : ¬ Picture.Fits room scale) :
    ∃ cause, display.renderChecked room scale palette = .error (.capacity cause) := by
  obtain ⟨cause, refused⟩ := Picture.checkScale_of_not_fits exceeds
  refine ⟨cause, ?_⟩
  rw [renderChecked, refused]

theorem Raster.render_raster (display : Display) (palette : Palette) (positive : 0 < scale) :
    display.raster.render room scale palette.on.components palette.off.components =
      display.renderChecked room scale palette := by
  rw [render, display.ofRaster_raster, Picture.scaleOf_natCast positive,
    Color.ofComponents_components, Color.ofComponents_components]
  rfl

/-- Different colors keep apart what is lit and what is not. -/
theorem Display.render_injective (positive : 0 < scale) (apart : palette.on ≠ palette.off)
    (same : display.render scale palette = other.render scale palette) : display = other := by
  apply ext_pixel
  intro row column
  have corner := display.pixel?_render_corner palette positive row column
  rw [same, other.pixel?_render_corner palette positive row column, Option.some.injEq] at corner
  cases here : display.pixel row column <;> cases there : other.pixel row column <;>
    simp only [here, there, if_true, Bool.false_eq_true, if_false] at corner ⊢
  · exact absurd corner apart
  · exact absurd corner.symm apart

/-- A display is rendered at a positive scale exactly if there is room for the picture. Then
every pixel of the picture has the color of the display's pixel that its row and column come to
when they are divided by the scale, and the picture belongs to no other display if the colors
differ. At a product of scales the picture is that of the first, magnified by the second. -/
theorem Display.rendering_repeats_pixels (display : Display) (on off : Color) (room scale : Nat)
    (positive : 0 < scale) :
    let rendered (scale : Nat) := display.raster.render room scale on.components off.components
    (Picture.Fits room scale → ∃ picture, rendered scale = .ok picture ∧
      picture.rows.length = 32 * scale ∧ (∀ line ∈ picture.rows, line.length = 64 * scale) ∧
      (∀ (row : Fin (32 * scale)) (column : Fin (64 * scale)),
        picture.pixel? row column =
          some (if display.pixel row.divNat column.divNat then on else off)) ∧
      (on ≠ off → ∀ other : Display,
        other.raster.render room scale on.components off.components = .ok picture →
          other = display)) ∧
    (¬ Picture.Fits room scale → ∃ cause, rendered scale = .error (.capacity cause)) ∧
    ∀ times, 0 < times → Picture.Fits room (scale * times) →
      ∃ picture, rendered scale = .ok picture ∧
        rendered (scale * times) = .ok (picture.magnify times) := by
  intro rendered
  let palette : Palette := ⟨on, off⟩
  have checked (display : Display) {scale : Nat} (positive : 0 < scale)
      (fits : Picture.Fits room scale) :
      display.raster.render room scale on.components off.components =
        .ok (display.render scale palette) :=
    (Raster.render_raster display palette positive).trans
      (display.renderChecked_of_fits palette positive fits)
  refine ⟨fun fits => ?_, fun exceeds => ?_, fun times repeats fits => ?_⟩
  · refine ⟨display.render scale palette, checked display positive fits,
      display.height_render palette positive, fun _ => length_of_mem_render positive,
      display.pixel?_render palette, fun apart other same => ?_⟩
    rw [checked other positive fits, Except.ok.injEq] at same
    exact render_injective positive apart same
  · obtain ⟨cause, refused⟩ := display.renderChecked_of_not_fits palette exceeds
    exact ⟨cause, (Raster.render_raster display palette positive).trans refused⟩
  · refine ⟨display.render scale palette, checked display positive (fits.of_mul repeats), ?_⟩
    rw [render_eq _ _ positive, Picture.magnify_magnify _ positive repeats,
      ← render_eq _ _ (Nat.mul_pos positive repeats)]
    exact checked display (Nat.mul_pos positive repeats) fits

/-- One lit pixel at scale 2, and at scale 6 as three times that, where there is just enough
room for it. -/
theorem Display.dot_is_magnified :
    let dot := blank.put 1 2 true
    let rendered (scale : Nat) :=
      dot.raster.render 221184 scale Color.white.components Color.black.components
    0 < 2 ∧ ∃ picture, rendered 2 = .ok picture ∧ picture.rows.length = 64 ∧
      picture.pixel? 3 4 = some .white ∧ picture.pixel? 4 3 = some .black ∧
      rendered 6 = .ok (picture.magnify 3) := by
  intro dot rendered
  have lit : dot.pixel 1 2 = true := pixel_put 1 2 true 1 2
  have dark : dot.pixel 2 1 = false := pixel_put 1 2 true 2 1
  obtain ⟨fitting, -, twice⟩ := rendering_repeats_pixels dot .white .black 221184 2 (by decide)
  obtain ⟨picture, first, height, -, pixels, -⟩ := fitting (by decide)
  obtain ⟨small, again, product⟩ := twice 3 (by decide) (by decide)
  cases first.symm.trans again
  refine ⟨by decide, picture, first, height, ?_, ?_, product⟩
  · refine (pixels ⟨3, by decide⟩ ⟨4, by decide⟩).trans ?_
    exact congrArg some (if_pos lit)
  · refine (pixels ⟨4, by decide⟩ ⟨3, by decide⟩).trans ?_
    exact congrArg some (if_neg (Bool.eq_false_iff.mp dark))

/-- No array has 2^63 bytes or more, whatever room there is. -/
theorem Display.hugeScale_is_refused :
    1 ≤ (9223372036854775807 : Int) ∧
      ¬ ∃ room picture, blank.raster.render room 9223372036854775807 Color.white.components
        Color.black.components = .ok picture := by
  have positive : 0 < 9223372036854775807 := by decide
  refine ⟨by decide, ?_⟩
  rintro ⟨room, picture, rendered⟩
  have exceeds : ¬ Picture.Fits room 9223372036854775807 := by
    have large : ¬ Picture.plainBytes * 9223372036854775807 * 9223372036854775807 <
        Capacity.countLimit := by decide
    exact fun fits => large fits.1
  obtain ⟨cause, refused⟩ := blank.renderChecked_of_not_fits ⟨.white, .black⟩ exceeds
  have checked := (Raster.render_raster blank ⟨.white, .black⟩ positive).symm.trans rendered
  rw [refused] at checked
  contradiction

end Chip8
