import Chip8.Display.Picture
import Mathlib.Data.Fin.Basic

namespace Chip8

/-! A magnified picture seen one pixel at a time: each of its pixels has the color of the
pixel that its row and column come to when they are divided by the scale. Both sides of the
picture grow by the scale, and to magnify twice is to magnify by the product. -/

variable {scale : Nat}

theorem getElem?_flatMap_replicate {α : Type} (values : List α) (positive : 0 < scale)
    (position : Nat) :
    (values.flatMap (List.replicate scale))[position]? = values[position / scale]? := by
  induction values generalizing position with
  | nil => rfl
  | cons value values ih =>
      rw [List.flatMap_cons]
      by_cases first : position < scale
      · rw [List.getElem?_append_left (by rwa [List.length_replicate]), List.getElem?_replicate,
          if_pos first, Nat.div_eq_of_lt first, List.getElem?_cons_zero]
      · have later : scale ≤ position := Nat.le_of_not_lt first
        rw [List.getElem?_append_right (by rwa [List.length_replicate]), List.length_replicate, ih,
          Nat.div_eq_sub_div positive later, List.getElem?_cons_succ]

theorem length_flatMap_replicate {α : Type} (values : List α) (scale : Nat) :
    (values.flatMap (List.replicate scale)).length = values.length * scale := by
  rw [List.length_flatMap]
  simp only [List.length_replicate, List.map_const', List.sum_replicate_nat]

theorem flatMap_replicate_twice {α : Type} (values : List α) {times : Nat} (positive : 0 < scale)
    (repeats : 0 < times) :
    (values.flatMap (List.replicate scale)).flatMap (List.replicate times) =
      values.flatMap (List.replicate (scale * times)) := by
  apply List.ext_getElem?
  intro position
  rw [getElem?_flatMap_replicate _ repeats, getElem?_flatMap_replicate _ positive,
    getElem?_flatMap_replicate _ (Nat.mul_pos positive repeats), Nat.div_div_eq_div_mul,
    Nat.mul_comm times scale]

namespace Picture

theorem rows_magnify (picture : Picture) (scale : Nat) :
    (picture.magnify scale).rows =
      (picture.rows.flatMap (List.replicate scale)).map fun line =>
        line.flatMap (List.replicate scale) := rfl

theorem getElem?_rows_magnify (picture : Picture) (positive : 0 < scale) (row : Nat) :
    (picture.magnify scale).rows[row]? =
      picture.rows[row / scale]?.map fun line => line.flatMap (List.replicate scale) := by
  rw [rows_magnify, List.getElem?_map, getElem?_flatMap_replicate _ positive]

theorem pixel?_magnify (picture : Picture) (positive : 0 < scale) (row column : Nat) :
    (picture.magnify scale).pixel? row column = picture.pixel? (row / scale) (column / scale) := by
  rw [pixel?, pixel?, getElem?_rows_magnify picture positive]
  cases picture.rows[row / scale]? with
  | none => rfl
  | some line => exact getElem?_flatMap_replicate line positive column

theorem magnify_magnify (picture : Picture) {times : Nat} (positive : 0 < scale)
    (repeats : 0 < times) :
    (picture.magnify scale).magnify times = picture.magnify (scale * times) := by
  have lines : (fun line : List Color => (line.flatMap (List.replicate scale)).flatMap
      (List.replicate times)) = fun line => line.flatMap (List.replicate (scale * times)) :=
    funext fun line => flatMap_replicate_twice line positive repeats
  have rows : ((picture.magnify scale).magnify times).rows =
      (picture.magnify (scale * times)).rows := by
    apply List.ext_getElem?
    intro row
    rw [getElem?_rows_magnify _ repeats, getElem?_rows_magnify _ positive,
      getElem?_rows_magnify _ (Nat.mul_pos positive repeats), Nat.div_div_eq_div_mul,
      Nat.mul_comm times scale, Option.map_map, ← lines]
    rfl
  exact congrArg Picture.mk rows

theorem magnify_one (picture : Picture) : picture.magnify 1 = picture := by
  have same {α : Type} (values : List α) : values.flatMap (List.replicate 1) = values :=
    List.flatMap_singleton' values
  have rows : (picture.magnify 1).rows = picture.rows := by
    rw [rows_magnify, same, funext same]
    exact List.map_id' picture.rows
  exact congrArg Picture.mk rows

theorem length_of_mem_magnify {picture : Picture} {width : Nat}
    (even : ∀ line ∈ picture.rows, line.length = width) {line : List Color}
    (among : line ∈ (picture.magnify scale).rows) : line.length = width * scale := by
  obtain ⟨copy, copied, rfl⟩ := List.mem_map.mp among
  obtain ⟨source, member, copies⟩ := List.mem_flatMap.mp copied
  rw [length_flatMap_replicate, List.eq_of_mem_replicate copies, even source member]

theorem height_magnify (picture : Picture) (scale : Nat) :
    (picture.magnify scale).height = picture.height * scale := by
  rw [height, rows_magnify, List.length_map, length_flatMap_replicate, height]

theorem width_magnify (picture : Picture) (positive : 0 < scale) :
    (picture.magnify scale).width = picture.width * scale := by
  rw [width, width, List.head?_eq_getElem?, List.head?_eq_getElem?,
    getElem?_rows_magnify picture positive, Nat.zero_div]
  cases picture.rows[0]? with
  | none => exact (Nat.zero_mul scale).symm
  | some line => exact length_flatMap_replicate line scale

theorem pixel?_ofDisplay (display : Display) (palette : Palette) (row : Fin 32)
    (column : Fin 64) :
    (ofDisplay display palette).pixel? row column =
      some (if display.pixel row column then palette.on else palette.off) := by
  simp [pixel?, ofDisplay]

theorem height_ofDisplay (display : Display) (palette : Palette) :
    (ofDisplay display palette).height = Display.height := by
  rw [height, ofDisplay, List.length_map, List.length_finRange]

theorem width_ofDisplay (display : Display) (palette : Palette) :
    (ofDisplay display palette).width = Display.width := by
  simp [width, ofDisplay, List.head?_eq_getElem?]

theorem length_of_mem_ofDisplay {display : Display} {palette : Palette} {line : List Color}
    (among : line ∈ (ofDisplay display palette).rows) : line.length = Display.width := by
  obtain ⟨row, -, rfl⟩ := List.mem_map.mp among
  rw [List.length_map, List.length_finRange]

end Picture

/-- At scale 1 there is nothing to magnify, and nothing is lost by doing it. -/
theorem Display.render_eq (display : Display) (palette : Palette) (positive : 0 < scale) :
    display.render scale palette = (Picture.ofDisplay display palette).magnify scale := by
  by_cases several : 1 < scale
  · rw [render, if_pos several]
  · have single : scale = 1 := by omega
    rw [render, if_neg several, single, Picture.magnify_one]

theorem Display.height_render (display : Display) (palette : Palette) (positive : 0 < scale) :
    (display.render scale palette).height = Display.height * scale := by
  rw [render_eq _ _ positive, Picture.height_magnify, Picture.height_ofDisplay]

theorem Display.length_of_mem_render {display : Display} {palette : Palette}
    (positive : 0 < scale) {line : List Color}
    (among : line ∈ (display.render scale palette).rows) : line.length = Display.width * scale := by
  rw [render_eq _ _ positive] at among
  exact Picture.length_of_mem_magnify (fun _ => Picture.length_of_mem_ofDisplay) among

theorem Display.width_render (display : Display) (palette : Palette) (positive : 0 < scale) :
    (display.render scale palette).width = Display.width * scale := by
  rw [render_eq _ _ positive, Picture.width_magnify _ positive, Picture.width_ofDisplay]

theorem Display.pixel?_render (display : Display) (palette : Palette) (row : Fin (32 * scale))
    (column : Fin (64 * scale)) :
    (display.render scale palette).pixel? row column =
      some (if display.pixel row.divNat column.divNat then palette.on else palette.off) := by
  have positive : 0 < scale := by
    apply Nat.pos_of_ne_zero
    rintro rfl
    exact absurd row.isLt (Nat.not_lt_zero _)
  rw [render_eq _ _ positive, Picture.pixel?_magnify _ positive]
  exact Picture.pixel?_ofDisplay display palette row.divNat column.divNat

/-- The upper left corner of the square that a pixel becomes. -/
theorem Display.pixel?_render_corner (display : Display) (palette : Palette) (positive : 0 < scale)
    (row : Fin 32) (column : Fin 64) :
    (display.render scale palette).pixel? (row * scale) (column * scale) =
      some (if display.pixel row column then palette.on else palette.off) := by
  rw [render_eq _ _ positive, Picture.pixel?_magnify _ positive, Nat.mul_div_cancel _ positive,
    Nat.mul_div_cancel _ positive]
  exact Picture.pixel?_ofDisplay display palette row column

end Chip8
