import Showcase.App.Overlays
import Showcase.App.View
import Showcase.Proofs.App.NoticeBox

/-!
# Where the boxes over the panels stand

The places of the three boxes are reckoned in 16 bits.  Some sums and differences there stop at the
greatest value and at zero; the others are to be small enough.  `Word.add?` and `Word.sub?` fail
where 16 bits do not hold a result, and the places are reckoned once more with them, step by step:
in any area that ends before the greatest value, none of the steps fails and the place is the same
(`boxes_stay_in_their_area`).
-/

namespace Showcase

open Screen

/-! ## Reckoning in 16 bits -/

namespace Word

/-- The sum of two numbers, if 16 bits hold it. -/
def add? (m n : Nat) : Option Nat := if m + n ≤ View.wordMax then some (m + n) else none

/-- The difference of two numbers, unless it is below zero. -/
def sub? (m n : Nat) : Option Nat := if n ≤ m then some (m - n) else none

theorem add?_eq {m n : Nat} (bounded : m + n ≤ View.wordMax) : add? m n = some (m + n) :=
  if_pos bounded

theorem sub?_eq {m n : Nat} (ordered : n ≤ m) : sub? m n = some (m - n) := if_pos ordered

end Word

/-- The place of a notice, reckoned in 16 bits.  It is at least 20 columns wide where there is room,
and the height of a very long message stops at the greatest value. -/
def Notice.areaInWords? (r : Rect) (message : String) : Option Rect := do
  let width := max (min r.width 60) (min 20 r.width)
  let rows := min (divUp message.utf8ByteSize (max (width - 2) 1)) View.wordMax
  let height := min (min (rows + 2) View.wordMax) r.height
  let columns ← Word.add? width 1
  let lines ← Word.add? height 1
  let x ← Word.add? r.x (r.width - columns)
  let y ← Word.add? r.y (r.height - lines)
  some ⟨x, y, width, height⟩

/-- A box in the middle of a rectangle, reckoned in 16 bits. -/
def Screen.Rect.middleInWords? (r : Rect) (width height : Nat) : Option Rect := do
  let w := min width r.width
  let h := min height r.height
  let freeX ← Word.sub? r.width w
  let x ← Word.add? r.x (freeX / 2)
  let freeY ← Word.sub? r.height h
  let y ← Word.add? r.y (freeY / 2)
  some ⟨x, y, w, h⟩

/-- A share of a rectangle in its middle, reckoned in 16 bits: where it starts and where it ends. -/
def Screen.Rect.centeredInWords? (r : Rect) (percentX percentY : Nat) : Option Rect := do
  let restY ← Word.sub? 100 percentY
  let top ← Word.add? r.y (share r.height (restY / 2))
  let bottom ← Word.add? r.y (share r.height (restY / 2 + percentY))
  let restX ← Word.sub? 100 percentX
  let left ← Word.add? r.x (share r.width (restX / 2))
  let right ← Word.add? r.x (share r.width (restX / 2 + percentX))
  let width ← Word.sub? right left
  let height ← Word.sub? bottom top
  some ⟨left, top, width, height⟩

namespace Screen.Rect

/-! ## Boxes of a size -/

section Middle

variable (r : Rect) (width height : Nat)

theorem middle_inside : (r.middle width height).Inside r := by
  simp only [middle, Inside, right, bottom]
  omega

theorem middleInWords?_eq (right : r.right ≤ View.wordMax) (bottom : r.bottom ≤ View.wordMax) :
    r.middleInWords? width height = some (r.middle width height) := by
  have columns : r.x + (r.width - min width r.width) / 2 ≤ View.wordMax := by
    have free := Nat.div_le_self (r.width - min width r.width) 2
    rw [Rect.right] at right
    omega
  have rows : r.y + (r.height - min height r.height) / 2 ≤ View.wordMax := by
    have free := Nat.div_le_self (r.height - min height r.height) 2
    rw [Rect.bottom] at bottom
    omega
  simp only [middleInWords?, Word.sub?_eq (Nat.min_le_right width r.width),
    Word.sub?_eq (Nat.min_le_right height r.height), Word.add?_eq columns, Word.add?_eq rows,
    Option.bind_eq_bind, Option.bind_some]
  rfl

/-- What a box leaves free is shared out evenly to both sides, up to one cell. -/
theorem margins_middle :
    let box := r.middle width height
    (box.x - r.x ≤ r.right - box.right ∧ r.right - box.right ≤ box.x - r.x + 1) ∧
      (box.y - r.y ≤ r.bottom - box.bottom ∧ r.bottom - box.bottom ≤ box.y - r.y + 1) := by
  simp only [middle, right, bottom]
  omega

end Middle

/-! ## Shares -/

theorem share_le_share (length : Nat) {percent more : Nat} (le : percent ≤ more) :
    share length percent ≤ share length more :=
  Nat.div_le_div_right (Nat.add_le_add_right (Nat.mul_le_mul_left length le) 50)

theorem share_le (length : Nat) {percent : Nat} (le : percent ≤ 100) :
    share length percent ≤ length := by
  calc share length percent ≤ share length 100 := share_le_share length le
    _ = length := by
      unfold share
      omega

section Centered

variable (r : Rect) {percentX percentY : Nat} (partX : percentX ≤ 100) (partY : percentY ≤ 100)

/-- A share in the middle of a length starts before it ends, and ends within the length. -/
theorem bounds_middleShare (length : Nat) {percent : Nat} (part : percent ≤ 100) :
    share length ((100 - percent) / 2) ≤ share length ((100 - percent) / 2 + percent) ∧
      share length ((100 - percent) / 2 + percent) ≤ length :=
  ⟨share_le_share length (by omega), share_le length (by omega)⟩

include partX partY

theorem centered_inside : (r.centered percentX percentY).Inside r := by
  obtain ⟨orderedX, withinX⟩ := bounds_middleShare r.width partX
  obtain ⟨orderedY, withinY⟩ := bounds_middleShare r.height partY
  simp only [centered, middleShare, Inside, right, bottom]
  omega

theorem centeredInWords?_eq (right : r.right ≤ View.wordMax) (bottom : r.bottom ≤ View.wordMax) :
    r.centeredInWords? percentX percentY = some (r.centered percentX percentY) := by
  obtain ⟨orderedX, withinX⟩ := bounds_middleShare r.width partX
  obtain ⟨orderedY, withinY⟩ := bounds_middleShare r.height partY
  rw [Rect.right] at right
  rw [Rect.bottom] at bottom
  simp only [centeredInWords?, Word.sub?_eq partX, Word.sub?_eq partY, Option.bind_eq_bind,
    Option.bind_some]
  rw [Word.add?_eq (by omega), Option.bind_some, Word.add?_eq (by omega), Option.bind_some,
    Word.add?_eq (by omega), Option.bind_some, Word.add?_eq (by omega), Option.bind_some,
    Word.sub?_eq (by omega), Option.bind_some, Word.sub?_eq (by omega), Option.bind_some]
  simp only [centered, middleShare, Nat.add_sub_add_left]

end Centered

end Screen.Rect

/-! ## Notices -/

namespace Notice

variable {r : Rect} (message : String)

/-- One more than the size of the box is to fit into 16 bits, so the area has to end before the
greatest value. -/
theorem areaInWords?_eq (right : r.right < View.wordMax) (bottom : r.bottom < View.wordMax) :
    areaInWords? r message = some (area r message) := by
  have width : max (min r.width 60) (min 20 r.width) = min r.width 60 := by omega
  rw [Rect.right] at right
  rw [Rect.bottom] at bottom
  simp only [areaInWords?, width, Option.bind_eq_bind]
  rw [Word.add?_eq (by omega), Option.bind_some, Word.add?_eq (by omega), Option.bind_some,
    Word.add?_eq (by omega), Option.bind_some, Word.add?_eq (by omega), Option.bind_some]
  rfl

theorem right_area (smaller : (area r message).width < r.width) :
    (area r message).right + 1 = r.right := by
  simp only [area, Rect.right] at smaller ⊢
  omega

theorem bottom_area (smaller : (area r message).height < r.height) :
    (area r message).bottom + 1 = r.bottom := by
  simp only [area, Rect.bottom] at smaller ⊢
  omega

end Notice

/-! ## All boxes -/

/-- In an area that ends before the greatest value of 16 bits the three boxes are reckoned without a
sum above it or a difference below zero, and stand inside the area.  A notice smaller than the area
ends one cell before its edge, and a box in the middle has the same margin on both sides, up to one
cell. -/
theorem boxes_stay_in_their_area (r : Rect) (right : r.right ≤ 65534) (bottom : r.bottom ≤ 65534) :
    (∀ message,
      Notice.areaInWords? r message = some (Notice.area r message) ∧
      (Notice.area r message).Inside r ∧
      ((Notice.area r message).width < r.width → (Notice.area r message).right + 1 = r.right) ∧
      ((Notice.area r message).height < r.height →
        (Notice.area r message).bottom + 1 = r.bottom)) ∧
    (∀ width height,
      let box := r.middle width height
      r.middleInWords? width height = some box ∧
      box.Inside r ∧
      (box.x - r.x ≤ r.right - box.right ∧ r.right - box.right ≤ box.x - r.x + 1) ∧
      (box.y - r.y ≤ r.bottom - box.bottom ∧ r.bottom - box.bottom ≤ box.y - r.y + 1)) ∧
    (∀ percentX ≤ 100, ∀ percentY ≤ 100,
      r.centeredInWords? percentX percentY = some (r.centered percentX percentY) ∧
      (r.centered percentX percentY).Inside r) := by
  have right' : r.right < View.wordMax := Nat.lt_succ_of_le right
  have bottom' : r.bottom < View.wordMax := Nat.lt_succ_of_le bottom
  refine ⟨fun message => ?_, fun width height => ?_, fun percentX partX percentY partY => ?_⟩
  · exact ⟨Notice.areaInWords?_eq message right' bottom', Notice.area_inside r message,
      Notice.right_area message, Notice.bottom_area message⟩
  · exact ⟨r.middleInWords?_eq width height right'.le bottom'.le, r.middle_inside width height,
      r.margins_middle width height⟩
  · exact ⟨r.centeredInWords?_eq partX partY right'.le bottom'.le, r.centered_inside partX partY⟩

theorem boxes_in_the_last_cells_of_16_bits :
    let r : Rect := ⟨65434, 65524, 100, 10⟩
    r.right = 65534 ∧ r.bottom = 65534 ∧
      Notice.areaInWords? r "gone" = some ⟨65473, 65530, 60, 3⟩ ∧
      (Notice.area r "gone").right + 1 = r.right ∧
      r.middleInWords? 48 5 = some ⟨65460, 65526, 48, 5⟩ ∧
      r.centeredInWords? 70 80 = some ⟨65449, 65525, 70, 8⟩ := by
  intro r
  obtain ⟨notice, middle, centered⟩ := boxes_stay_in_their_area r (by decide) (by decide)
  refine ⟨by decide, by decide, ?_, (notice "gone").2.2.1 (by decide +kernel), ?_, ?_⟩
  · exact (notice "gone").1.trans (by decide +kernel)
  · exact (middle 48 5).1.trans (by decide +kernel)
  · exact (centered 70 (by decide) 80 (by decide)).1.trans (by decide +kernel)

end Showcase
