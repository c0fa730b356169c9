import ProtoTime.GameGear.VdpSprites
import ProtoTime.Loops

/-!
One line of the sprite overlay and of the status evaluation, in terms of the list of sprites
that cover the line.
-/
namespace ProtoTime.GameGear
open GameBoy (Byte)
open Loops

namespace GameGearVDP

variable (v : GameGearVDP) (request : RenderRequest)

/-- The line lies between the first and the last line of the sprite. -/
def covers (line sprite : ℕ) : Bool :=
  decide (v.spriteY sprite ≤ line ∧ line < v.spriteY sprite + v.spriteHeight)

/-- The sprites that cover a line, in table order. -/
def covering (line : ℕ) : List ℕ := v.listedSprites.filter (v.covers line)

def rowColor (row : SpriteRow) (column : ℤ) : ℕ :=
  let offset := column - v.spriteX row.sprite
  if 0 ≤ offset ∧ offset < (8 * v.zoom : ℕ) then
    v.samplePatternColor v.spriteGeneratorBase row.tileIndex (offset.toNat / v.zoom) row.sampleY
  else 0

variable (sprites : List ℕ)

theorem scanTable_sublist : (v.scanTable sprites).Sublist sprites := by
  induction sprites with
  | nil => exact List.Sublist.refl _
  | cons sprite rest ih =>
    unfold scanTable
    split
    · exact List.nil_sublist _
    · split
      · exact List.nil_sublist _
      · split
        · exact ih.cons sprite
        · exact ih.cons_cons sprite

theorem listedSprites_nodup : v.listedSprites.Nodup :=
  List.nodup_range.sublist (v.scanTable_sublist _)

theorem probe_eq {count : ℕ} (h : count < kSpriteCount) :
    v.probe request sprites count =
      (sprites.take (kSpriteCount - count)).any (v.onFrame request) := by
  induction sprites generalizing count with
  | nil => simp [probe]
  | cons sprite rest ih =>
    obtain ⟨left, hleft⟩ := Nat.exists_eq_add_of_lt h
    have htake : kSpriteCount - count = left + 1 := by omega
    rw [htake, List.take_succ_cons, List.any_cons]
    unfold probe
    cases hframe : v.onFrame request sprite with
    | true => rfl
    | false =>
      by_cases hlast : count + 1 ≥ kSpriteCount
      · have hnone : left = 0 := by omega
        simp [hlast, hnone]
      · have hrest := ih (show count + 1 < kSpriteCount by omega)
        have hleft' : kSpriteCount - (count + 1) = left := by omega
        rw [if_neg Bool.false_ne_true, if_neg hlast, hrest, hleft', Bool.false_or]

theorem overlay_eq {count : ℕ} (h : count < kSpriteCount) (frame : ℕ → FrameLine) :
    v.overlay request sprites count frame =
      ((sprites.filter (v.inWindow request)).take (kSpriteCount - count)).foldl
        (v.drawSprite request) frame := by
  induction sprites generalizing count frame with
  | nil => simp [overlay]
  | cons sprite rest ih =>
    unfold overlay
    cases hwindow : v.inWindow request sprite with
    | false =>
      rw [if_neg Bool.false_ne_true, List.filter_cons_of_neg (by simp [hwindow])]
      exact ih h frame
    | true =>
      obtain ⟨left, hleft⟩ := Nat.exists_eq_add_of_lt h
      have htake : kSpriteCount - count = left + 1 := by omega
      rw [if_pos rfl, List.filter_cons_of_pos hwindow, htake, List.take_succ_cons,
        List.foldl_cons]
      by_cases hlast : count + 1 ≥ kSpriteCount
      · have hnone : left = 0 := by omega
        simp [hlast, hnone]
      · have hrest := ih (show count + 1 < kSpriteCount by omega)
          (v.drawSprite request frame sprite)
        have hleft' : kSpriteCount - (count + 1) = left := by omega
        rw [if_neg hlast, hrest, hleft']

/-- What one sprite does to a visible line. -/
theorem drawSprite_line (frame : ℕ → FrameLine) (sprite : ℕ) {y : ℕ} (hy : y < request.height)
    (hvisible : y < 240) :
    v.drawSprite request frame sprite y =
      if v.covers (y + request.viewportY) sprite ∧ (frame y).spritesOnLine.length < 8 then
        v.drawRow request (v.overlayRow sprite (y + request.viewportY - v.spriteY sprite)) (frame y)
      else frame y := by
  have hline (py : ℕ) (frame : ℕ → FrameLine)
      (hpy : v.spriteY sprite + py ≠ y + request.viewportY) :
      v.drawLine request sprite frame py y = frame y := by
    unfold drawLine
    split
    · rfl
    · split
      · rfl
      · next hin _ => exact if_neg (by omega)
  have hhit (py : ℕ) (frame : ℕ → FrameLine)
      (hpy : v.spriteY sprite + py = y + request.viewportY) :
      v.drawLine request sprite frame py y =
        if (frame y).spritesOnLine.length < 8 then
          v.drawRow request (v.overlayRow sprite py) (frame y) else frame y := by
    have hscreen : ((v.spriteY sprite + py : ℕ) : ℤ) - request.viewportY = y := by omega
    unfold drawLine
    rw [hscreen, if_neg (by omega), Int.toNat_natCast]
    by_cases hfull : (frame y).spritesOnLine.length < 8
    · rw [if_neg (by omega), if_pos hfull, if_pos rfl]
    · rw [if_pos (by omega), if_neg hfull]
  by_cases habove : v.spriteY sprite ≤ y + request.viewportY
  · have honce := foldl_range_once (w := fun frame : ℕ → FrameLine => frame y)
      (f := v.drawLine request sprite) (k := y + request.viewportY - v.spriteY sprite)
      (n := v.spriteHeight)
      (g := fun line => if line.spritesOnLine.length < 8 then
        v.drawRow request
          (v.overlayRow sprite (y + request.viewportY - v.spriteY sprite)) line else line)
      (fun frame i _ hi => hline i frame (by omega)) (fun _ frame => hhit _ frame (by omega)) frame
    refine honce.trans ?_
    unfold covers
    by_cases hbelow : y + request.viewportY - v.spriteY sprite < v.spriteHeight
    · have hcovers : y + request.viewportY < v.spriteY sprite + v.spriteHeight := by omega
      simp [hbelow, habove, hcovers]
    · have hcovers : ¬ y + request.viewportY < v.spriteY sprite + v.spriteHeight := by omega
      simp [hbelow, hcovers]
  · have hnever := foldl_range_once (w := fun frame : ℕ → FrameLine => frame y)
      (f := v.drawLine request sprite) (k := v.spriteHeight) (n := v.spriteHeight) (g := id)
      (fun frame i _ _ => hline i frame (by omega)) (fun hlt => absurd hlt (Nat.lt_irrefl _)) frame
    refine hnever.trans ?_
    simp [covers, habove]

/-- The rows a list of sprites adds to a visible line: those that cover it, up to eight. -/
theorem foldl_drawSprite_line (frame : ℕ → FrameLine) {y : ℕ}
    (hy : y < request.height) (hvisible : y < 240) :
    sprites.foldl (v.drawSprite request) frame y =
      (((sprites.filter (v.covers (y + request.viewportY))).map fun sprite =>
        v.overlayRow sprite (y + request.viewportY - v.spriteY sprite)).take
          (8 - (frame y).spritesOnLine.length)).foldl
        (fun line row => v.drawRow request row line) (frame y) := by
  induction sprites generalizing frame with
  | nil => simp
  | cons sprite rest ih =>
    rw [List.foldl_cons, ih, v.drawSprite_line request frame sprite hy hvisible]
    cases hcovers : v.covers (y + request.viewportY) sprite with
    | false =>
      rw [if_neg (by simp), List.filter_cons_of_neg (by simp [hcovers])]
    | true =>
      rw [List.filter_cons_of_pos hcovers, List.map_cons]
      by_cases hroom : (frame y).spritesOnLine.length < 8
      · obtain ⟨left, hleft⟩ := Nat.exists_eq_add_of_lt hroom
        have htake : 8 - (frame y).spritesOnLine.length = left + 1 := by omega
        have hafter : 8 - ((frame y).spritesOnLine.length + 1) = left := by omega
        rw [if_pos ⟨rfl, hroom⟩, htake, List.take_succ_cons, List.foldl_cons]
        simp only [drawRow, List.length_append, List.length_cons, List.length_nil, hafter]
      · have hfull : 8 - (frame y).spritesOnLine.length = 0 := by omega
        rw [if_neg (by simp [hroom]), hfull, List.take_zero, List.take_zero]

theorem Pixel.paint_zero (p : Pixel) : p.paint 0 = p := rfl

theorem zoom_cases : v.zoom = 1 ∨ v.zoom = 2 := by
  unfold zoom
  split
  · exact .inr rfl
  · exact .inl rfl

theorem drawRow_pixel (row : SpriteRow) (line : FrameLine) {x : ℕ} (hx : x < request.width) :
    (v.drawRow request row line).pixels x =
      (line.pixels x).paint (v.rowColor row (x + request.viewportX)) := by
  obtain ⟨offset, hoffset⟩ : ∃ offset : ℤ, offset = x - v.spriteScreenX request row.sprite :=
    ⟨_, rfl⟩
  have hrepeat (code sampleX rep : ℕ) (pixels : ℕ → Pixel) :
      v.drawRepeat request row.sprite code sampleX pixels rep x =
        if offset = (sampleX * v.zoom : ℕ) + rep then (pixels x).paint code else pixels x := by
    unfold drawRepeat
    split
    · rw [if_neg (by omega)]
    · by_cases hhit : offset = (sampleX * v.zoom : ℕ) + rep
      · rw [if_pos hhit]
        exact if_pos (by omega)
      · rw [if_neg hhit]
        exact if_neg (by omega)
  have hsample (pixels : ℕ → Pixel) (sampleX : ℕ) :
      v.drawSample request row pixels sampleX x =
        if (sampleX * v.zoom : ℕ) ≤ offset ∧ offset < (sampleX * v.zoom + v.zoom : ℕ) then
          (pixels x).paint
            (v.samplePatternColor v.spriteGeneratorBase row.tileIndex sampleX row.sampleY)
        else pixels x := by
    unfold drawSample
    generalize v.samplePatternColor v.spriteGeneratorBase row.tileIndex sampleX row.sampleY = code
    by_cases hzero : code = 0
    · rw [if_pos hzero, hzero, Pixel.paint_zero, ite_self]
    · rw [if_neg hzero]
      by_cases hbelow : (sampleX * v.zoom : ℕ) ≤ offset
      · have honce := foldl_range_once (w := fun pixels : ℕ → Pixel => pixels x)
          (f := v.drawRepeat request row.sprite code sampleX)
          (k := (offset - (sampleX * v.zoom : ℕ)).toNat) (n := v.zoom)
          (g := fun p => p.paint code)
          (fun pixels i _ hne => (hrepeat code sampleX i pixels).trans (if_neg (by omega)))
          (fun _ pixels => (hrepeat code sampleX _ pixels).trans (if_pos (by omega))) pixels
        refine honce.trans ?_
        by_cases habove : offset < (sampleX * v.zoom + v.zoom : ℕ)
        · rw [if_pos (by omega), if_pos ⟨hbelow, habove⟩]
        · rw [if_neg (by omega), if_neg (fun h => habove h.2)]
      · have hnever := foldl_range_once (w := fun pixels : ℕ → Pixel => pixels x)
          (f := v.drawRepeat request row.sprite code sampleX) (k := v.zoom) (n := v.zoom) (g := id)
          (fun pixels i _ _ => (hrepeat code sampleX i pixels).trans (if_neg (by omega)))
          (fun hlt => absurd hlt (Nat.lt_irrefl _)) pixels
        refine hnever.trans ?_
        rw [if_neg (Nat.lt_irrefl _), if_neg (fun h => hbelow h.1)]
  have hcolumn : (x : ℤ) + request.viewportX - v.spriteX row.sprite = offset := by
    rw [hoffset, spriteScreenX]
    omega
  obtain ⟨k, hk⟩ : ∃ k, k = if 0 ≤ offset then offset.toNat / v.zoom else 8 := ⟨_, rfl⟩
  have hinside : k < 8 ↔ 0 ≤ offset ∧ offset < (8 * v.zoom : ℕ) := by
    split_ifs at hk
    · rcases v.zoom_cases with hzoom | hzoom <;> rw [hzoom] at hk ⊢ <;> omega
    · omega
  have hsampleOf (i : ℕ) : i < 8 → (i = k ↔
      (i * v.zoom : ℕ) ≤ offset ∧ offset < (i * v.zoom + v.zoom : ℕ)) := by
    intro hi
    split_ifs at hk
    · rcases v.zoom_cases with hzoom | hzoom <;> rw [hzoom] at hk ⊢ <;> omega
    · rcases v.zoom_cases with hzoom | hzoom <;> rw [hzoom] <;> omega
  have houter := foldl_range_once (w := fun pixels : ℕ → Pixel => pixels x)
    (f := v.drawSample request row) (k := k) (n := 8)
    (g := fun p => p.paint (v.rowColor row (x + request.viewportX)))
    (fun pixels i hi hne =>
      (hsample pixels i).trans (if_neg fun h => hne ((hsampleOf i hi).mpr h)))
    (fun hlt pixels => by
      have hcolor : v.rowColor row (x + request.viewportX) =
          v.samplePatternColor v.spriteGeneratorBase row.tileIndex k row.sampleY := by
        unfold rowColor
        rw [if_pos (hinside.mp hlt).1] at hk
        rw [hcolumn, if_pos (hinside.mp hlt), ← hk]
      rw [hcolor]
      exact (hsample pixels k).trans (if_pos ((hsampleOf k hlt).mp rfl))) line.pixels
  refine houter.trans ?_
  by_cases hlt : k < 8
  · exact if_pos hlt
  · have hcolor : v.rowColor row (x + request.viewportX) = 0 := by
      unfold rowColor
      rw [hcolumn, if_neg (fun h => hlt (hinside.mpr h))]
    rw [if_neg hlt, hcolor, Pixel.paint_zero]

theorem Pixel.paint_paint {code : ℕ} (h : code ≠ 0) (code' : ℕ) (p : Pixel) :
    (p.paint code).paint code' = p.paint code := by
  have hfinal (p : Pixel) (hmask : p.spriteMask &&& 0x03#8 ≠ 0) (code : ℕ) :
      p.paint code = p := by
    unfold Pixel.paint
    rw [if_pos hmask, ite_self]
  by_cases hmask : p.spriteMask &&& 0x03#8 ≠ 0
  · rw [hfinal p hmask, hfinal p hmask]
  · apply hfinal
    unfold Pixel.paint
    rw [if_neg h, if_neg hmask]
    intro hzero
    have hbit := congrArg (fun mask : Byte => mask.getLsbD 1) hzero
    simp at hbit

/-- What a list of pattern rows makes of a column, the first opaque one winning. -/
def composite (rows : List SpriteRow) (column : ℤ) (p : Pixel) : Pixel :=
  rows.foldl (fun p row => p.paint (v.rowColor row column)) p

theorem foldl_drawRow (rows : List SpriteRow) (line : FrameLine) :
    (rows.foldl (fun line row => v.drawRow request row line) line).spritesOnLine =
      line.spritesOnLine ++ rows := by
  induction rows generalizing line with
  | nil => exact (List.append_nil _).symm
  | cons row rest ih =>
    rw [List.foldl_cons, ih]
    exact List.append_assoc _ _ _

theorem foldl_drawRow_pixel (rows : List SpriteRow) (line : FrameLine) {x : ℕ}
    (hx : x < request.width) :
    (rows.foldl (fun line row => v.drawRow request row line) line).pixels x =
      v.composite rows (x + request.viewportX) (line.pixels x) := by
  induction rows generalizing line with
  | nil => rfl
  | cons row rest ih =>
    rw [List.foldl_cons, ih, v.drawRow_pixel request row line hx]
    rfl

/-- The first opaque row shows unless the background has priority there. -/
def topPixel (rows : List SpriteRow) (column : ℤ) (p : Pixel) : Pixel :=
  match rows.find? (fun row => v.rowColor row column != 0) with
  | some row => p.paint (v.rowColor row column)
  | none => p

theorem composite_eq (rows : List SpriteRow) (column : ℤ) (p : Pixel) :
    v.composite rows column p = v.topPixel rows column p := by
  unfold topPixel
  have hsolid (rows : List SpriteRow) {code : ℕ} (hcode : code ≠ 0) (p : Pixel) :
      v.composite rows column (p.paint code) = p.paint code := by
    induction rows with
    | nil => rfl
    | cons row rest ih =>
      unfold composite at ih ⊢
      rw [List.foldl_cons, Pixel.paint_paint hcode]
      exact ih
  induction rows generalizing p with
  | nil => rfl
  | cons row rest ih =>
    by_cases hcode : v.rowColor row column = 0
    · rw [List.find?_cons_of_neg (by simp [hcode]), ← ih]
      unfold composite
      rw [List.foldl_cons, hcode, Pixel.paint_zero]
    · rw [List.find?_cons_of_pos (by simp [hcode])]
      exact hsolid rest hcode p

end GameGearVDP

end ProtoTime.GameGear
