import ProtoTime.GameGear.VdpSpriteLine

/-!
When the sprite picture and the sprite status of a line agree.
-/
namespace ProtoTime.GameGear
open GameBoy (Byte)
open Loops

namespace GameGearVDP

variable (v : GameGearVDP) (request : RenderRequest)

/-- The sprite has an opaque pixel in the column, in the pattern row of the evaluation. -/
def opaqueAt (line sprite : ℕ) (column : ℤ) : Bool :=
  decide (0 ≤ column ∧ column < 256) && v.rowColor (v.statusRow line sprite) column != 0

/-- Two sprites of the list have an opaque pixel in one column. -/
def Collides (line : ℕ) (sprites : List ℕ) : Prop :=
  ¬ sprites.Pairwise fun a b => ∀ column,
    ¬ (v.opaqueAt line a column = true ∧ v.opaqueAt line b column = true)

variable (line : ℕ)

theorem collides_append (sprites : List ℕ) (sprite : ℕ) :
    v.Collides line (sprites ++ [sprite]) ↔ v.Collides line sprites ∨
      ∃ a ∈ sprites, ∃ column, v.opaqueAt line a column = true ∧
        v.opaqueAt line sprite column = true := by
  unfold Collides
  rw [List.pairwise_append, not_and_or]
  simp

theorem statusRow_sprite (sprite : ℕ) : (v.statusRow line sprite).sprite = sprite := rfl

/-- One pixel of the evaluation. -/
theorem markPixel_eq (line sprite : ℕ) (s : LineStatus) {px : ℕ} (hpx : px < 8 * v.zoom) :
    v.markPixel (v.statusRow line sprite) s px =
      if v.opaqueAt line sprite (v.spriteX sprite + px) then
        if s.occupied (v.spriteX sprite + px) then { s with collision := true }
        else { s with occupied := fun x => x == v.spriteX sprite + px || s.occupied x }
      else s := by
  have hcolor : v.rowColor (v.statusRow line sprite) (v.spriteX sprite + px) =
      v.samplePatternColor v.spriteGeneratorBase (v.statusRow line sprite).tileIndex (px / v.zoom)
        (v.statusRow line sprite).sampleY := by
    have hoffset : v.spriteX sprite + px - v.spriteX (v.statusRow line sprite).sprite = px := by
      rw [statusRow_sprite]
      omega
    unfold rowColor
    rw [hoffset, if_pos (by omega), Int.toNat_natCast]
  unfold markPixel opaqueAt
  rw [hcolor]
  by_cases hout : v.spriteX sprite + px < 0 ∨ v.spriteX sprite + px ≥ 256
  · have hcolumn : ¬ (0 ≤ v.spriteX sprite + px ∧ v.spriteX sprite + px < 256) := by omega
    refine Eq.trans (if_pos hout) ?_
    rw [decide_eq_false hcolumn, Bool.false_and, if_neg Bool.false_ne_true]
  · have hcolumn : 0 ≤ v.spriteX sprite + px ∧ v.spriteX sprite + px < 256 := by omega
    refine Eq.trans (if_neg hout) ?_
    rw [decide_eq_true hcolumn, Bool.true_and]
    by_cases hzero : v.samplePatternColor v.spriteGeneratorBase
        (v.statusRow line sprite).tileIndex (px / v.zoom) (v.statusRow line sprite).sampleY = 0
    · rw [if_pos hzero, hzero]
      rfl
    · rw [if_neg hzero]
      exact (if_pos (bne_iff_ne.mpr hzero)).symm

/-- What the pixels of one sprite do to the line status. -/
theorem foldl_markPixel (sprite : ℕ) (s : LineStatus) {n : ℕ} (hn : n ≤ 8 * v.zoom) :
    let after := (List.range n).foldl (v.markPixel (v.statusRow line sprite)) s
    after.spritesOnLine = s.spritesOnLine ∧ after.overflow = s.overflow ∧
    (∀ x, after.occupied x = true ↔ s.occupied x = true ∨
      ∃ px < n, x = v.spriteX sprite + px ∧ v.opaqueAt line sprite x = true) ∧
    (after.collision = true ↔ s.collision = true ∨
      ∃ px < n, s.occupied (v.spriteX sprite + px) = true ∧
        v.opaqueAt line sprite (v.spriteX sprite + px) = true) := by
  induction n with
  | zero => simp
  | succ n ih =>
    obtain ⟨hcount, hover, hoccupied, hcollision⟩ := ih (by omega)
    dsimp only
    rw [List.range_succ, List.foldl_append, List.foldl_cons, List.foldl_nil]
    generalize (List.range n).foldl (v.markPixel (v.statusRow line sprite)) s = mid at *
    rw [v.markPixel_eq line sprite mid (by omega)]
    -- Earlier pixels of the sprite lie in other columns.
    have hfresh : mid.occupied (v.spriteX sprite + n) = s.occupied (v.spriteX sprite + n) := by
      rw [Bool.eq_iff_iff, hoccupied]
      constructor
      · rintro (h | ⟨px, hpx, heq, -⟩)
        · exact h
        · omega
      · exact .inl
    cases hsolid : v.opaqueAt line sprite (v.spriteX sprite + n) with
    | false =>
      rw [if_neg Bool.false_ne_true]
      refine ⟨hcount, hover, fun x => ?_, ?_⟩
      · have hclear : ¬ (x = v.spriteX sprite + n ∧ v.opaqueAt line sprite x = true) := by
          rintro ⟨rfl, h⟩
          rw [hsolid] at h
          cases h
        rw [hoccupied, Nat.exists_lt_succ_right, or_iff_left hclear]
      · have hclear : ¬ (s.occupied (v.spriteX sprite + n) = true ∧ false = true) :=
          fun h => Bool.false_ne_true h.2
        rw [hcollision, Nat.exists_lt_succ_right, hsolid, or_iff_left hclear]
    | true =>
      rw [if_pos rfl, hfresh]
      cases hold : s.occupied (v.spriteX sprite + n) with
      | true =>
        rw [if_pos rfl]
        refine ⟨hcount, hover, fun x => ?_, ?_⟩
        · rw [hoccupied, Nat.exists_lt_succ_right]
          constructor
          · rintro (h | h)
            · exact .inl h
            · exact .inr (.inl h)
          · rintro (h | h | ⟨rfl, -⟩)
            · exact .inl h
            · exact .inr h
            · exact .inl hold
        · rw [Nat.exists_lt_succ_right]
          exact iff_of_true rfl (.inr (.inr ⟨hold, hsolid⟩))
      | false =>
        rw [if_neg Bool.false_ne_true]
        refine ⟨hcount, hover, fun x => ?_, ?_⟩
        · rw [Bool.or_eq_true, beq_iff_eq, hoccupied, Nat.exists_lt_succ_right]
          constructor
          · rintro (rfl | h | h)
            · exact .inr (.inr ⟨rfl, hsolid⟩)
            · exact .inl h
            · exact .inr (.inl h)
          · rintro (h | h | ⟨rfl, -⟩)
            · exact .inr (.inl h)
            · exact .inr (.inr h)
            · exact .inl rfl
        · have hclear : ¬ (false = true ∧
              v.opaqueAt line sprite (v.spriteX sprite + n) = true) :=
            fun h => Bool.false_ne_true h.1
          rw [hcollision, Nat.exists_lt_succ_right, hold, or_iff_left hclear]

/-- The line status after the covering sprites of a list. -/
structure Marked (line : ℕ) (pending : Bool × Bool) (sprites : List ℕ) (s : LineStatus) : Prop where
  count : s.spritesOnLine = sprites.length
  overflow : s.overflow = true ↔ pending.1 = true ∨ 8 < sprites.length
  occupied : ∀ x, s.occupied x = true ↔ ∃ sprite ∈ sprites, v.opaqueAt line sprite x = true
  collision : s.collision = true ↔ pending.2 = true ∨ v.Collides line sprites

theorem opaqueAt_column {line sprite : ℕ} {column : ℤ} (h : v.opaqueAt line sprite column = true) :
    ∃ px < 8 * v.zoom, column = v.spriteX sprite + px := by
  simp only [opaqueAt, Bool.and_eq_true, decide_eq_true_eq, bne_iff_ne] at h
  obtain ⟨-, hcolor⟩ := h
  unfold rowColor at hcolor
  dsimp only at hcolor
  split at hcolor
  · next hinside =>
    refine ⟨(column - v.spriteX sprite).toNat, ?_, ?_⟩
    · simp only [statusRow] at hinside
      omega
    · simp only [statusRow] at hinside
      omega
  · exact absurd rfl hcolor

theorem Marked.evaluateSprite {line : ℕ} {pending : Bool × Bool} {sprites : List ℕ}
    {s : LineStatus} (hs : v.Marked line pending sprites s) (sprite : ℕ) :
    v.Marked line pending (sprites ++ [sprite].filter (v.covers line))
      (v.evaluateSprite line s sprite) := by
  cases hcovers : v.covers line sprite with
  | false =>
    have hout : line < v.spriteY sprite ∨ line ≥ v.spriteY sprite + v.spriteHeight := by
      simp only [covers, decide_eq_false_iff_not] at hcovers
      omega
    rw [List.filter_cons_of_neg (by simp [hcovers]), List.filter_nil, List.append_nil]
    unfold GameGearVDP.evaluateSprite
    rw [if_pos hout]
    exact hs
  | true =>
    have hin : ¬ (line < v.spriteY sprite ∨ line ≥ v.spriteY sprite + v.spriteHeight) := by
      simp only [covers, decide_eq_true_eq] at hcovers
      omega
    rw [List.filter_cons_of_pos hcovers, List.filter_nil]
    obtain ⟨hcount, hover, hoccupied, hcollision⟩ := v.foldl_markPixel line sprite
      { s with
        spritesOnLine := s.spritesOnLine + 1
        overflow := s.overflow || decide (s.spritesOnLine + 1 > 8) } (Nat.le_refl _)
    have hcolumns (p : ℤ → Prop) : (∃ px < 8 * v.zoom, p (v.spriteX sprite + px) ∧
        v.opaqueAt line sprite (v.spriteX sprite + px) = true) ↔
        ∃ column, p column ∧ v.opaqueAt line sprite column = true := by
      constructor
      · rintro ⟨px, -, h⟩
        exact ⟨_, h⟩
      · rintro ⟨column, hp, h⟩
        obtain ⟨px, hpx, rfl⟩ := v.opaqueAt_column h
        exact ⟨px, hpx, hp, h⟩
    unfold GameGearVDP.evaluateSprite
    rw [if_neg hin]
    constructor
    · rw [List.length_append, List.length_singleton, ← hs.count]
      exact hcount
    · rw [List.length_append, List.length_singleton]
      refine (Bool.eq_iff_iff.mp hover).trans ?_
      rw [Bool.or_eq_true, decide_eq_true_eq, hs.overflow, hs.count, or_assoc]
      refine or_congr_right ?_
      clear hin
      omega
    · intro x
      refine (hoccupied x).trans ?_
      simp only [hs.occupied, List.mem_append, List.mem_singleton, or_and_right, exists_or,
        exists_eq_left]
      apply or_congr_right
      constructor
      · rintro ⟨_, _, _, h⟩
        exact h
      · intro h
        obtain ⟨px, hpx, hx⟩ := v.opaqueAt_column h
        exact ⟨px, hpx, hx, h⟩
    · refine hcollision.trans ?_
      rw [hs.collision, collides_append, or_assoc,
        hcolumns (fun column => s.occupied column = true)]
      refine or_congr_right (or_congr_right ?_)
      simp only [hs.occupied]
      constructor
      · rintro ⟨column, ⟨a, ha, hsolid⟩, h⟩
        exact ⟨a, ha, column, hsolid, h⟩
      · rintro ⟨a, ha, column, hsolid, h⟩
        exact ⟨column, ⟨a, ha, hsolid⟩, h⟩

/-- The flags of a line in terms of the sprites that cover it. -/
theorem marked_lineStatus :
    v.Marked line (v.spriteOverflowPending, v.spriteCollisionPending) (v.covering line)
      (v.lineStatus line) := by
  have hfold (sprites before : List ℕ) (s : LineStatus)
      (hs : v.Marked line (v.spriteOverflowPending, v.spriteCollisionPending)
        (before.filter (v.covers line)) s) :
      v.Marked line (v.spriteOverflowPending, v.spriteCollisionPending)
        ((before ++ sprites).filter (v.covers line))
        (sprites.foldl (v.evaluateSprite line) s) := by
    induction sprites generalizing before s with
    | nil => simpa using hs
    | cons sprite rest ih =>
      have hnext := hs.evaluateSprite v sprite
      rw [← List.filter_append] at hnext
      have hrest := ih (before ++ [sprite]) _ hnext
      rwa [List.append_assoc, List.singleton_append] at hrest
  apply hfold v.listedSprites []
  refine ⟨rfl, ?_, ?_, ?_⟩
  · simp
  · simp
  · simp [Collides]

/-- The overlay gets as far as this sprite. -/
def reached (sprite : ℕ) : Bool :=
  v.displayEnabled && !v.tmsGraphics &&
    (v.listedSprites.take kSpriteCount).any (v.onFrame request) &&
    decide (sprite ∈ (v.listedSprites.filter (v.inWindow request)).take kSpriteCount)

theorem inWindow_of_reached {sprite : ℕ} (h : v.reached request sprite = true) :
    v.inWindow request sprite = true := by
  simp only [reached, Bool.and_eq_true, decide_eq_true_eq] at h
  exact (List.mem_filter.mp (List.mem_of_mem_take h.2)).2

def drawnRows (line : ℕ) : List SpriteRow :=
  (((v.covering line).filter (v.reached request)).take 8).map fun sprite =>
    v.overlayRow sprite (line - v.spriteY sprite)

theorem overlay_candidates (h : (v.displayEnabled && !v.tmsGraphics &&
      (v.listedSprites.take kSpriteCount).any (v.onFrame request)) = true) :
    ((v.listedSprites.filter (v.inWindow request)).take kSpriteCount).filter (v.covers line) =
      (v.covering line).filter (v.reached request) := by
  have hnodup : (v.listedSprites.filter (v.inWindow request)).Nodup :=
    v.listedSprites_nodup.filter _
  rw [take_eq_filter_mem hnodup, covering, List.filter_filter, List.filter_filter,
    List.filter_filter]
  apply List.filter_congr
  intro sprite _
  unfold reached
  rw [h, Bool.true_and]
  cases hmem : decide (sprite ∈ (v.listedSprites.filter (v.inWindow request)).take kSpriteCount) with
  | false => simp
  | true =>
    have hwindow := (List.mem_filter.mp (List.mem_of_mem_take (of_decide_eq_true hmem))).2
    simp [hwindow]

theorem renderSprites_line (background : ℕ → ℕ → Pixel) {y : ℕ} (hy : y < request.height)
    (hvisible : y < 240) :
    v.renderSprites request background y =
      (v.drawnRows request (y + request.viewportY)).foldl
        (fun line row => v.drawRow request row line) { pixels := background y } := by
  have hprobe := v.probe_eq request v.listedSprites (show 0 < kSpriteCount by decide)
  unfold renderSprites
  cases hon : v.displayEnabled && !v.tmsGraphics &&
      (v.listedSprites.take kSpriteCount).any (v.onFrame request) with
  | true =>
    have hrows := v.overlay_candidates request (y + request.viewportY) hon
    simp only [Bool.and_eq_true, Bool.not_eq_true'] at hon
    rw [if_neg (by simp [hon.1.1, hon.1.2]), hprobe, Nat.sub_zero, if_pos hon.2,
      v.overlay_eq request _ (by decide), Nat.sub_zero,
      v.foldl_drawSprite_line request _ _ hy hvisible, hrows, List.length_nil, Nat.sub_zero,
      ← List.map_take]
    rfl
  | false =>
    have hnone : v.drawnRows request (y + request.viewportY) = [] := by
      have hempty : (v.covering (y + request.viewportY)).filter (v.reached request) = [] := by
        rw [List.filter_eq_nil_iff]
        intro sprite _
        unfold reached
        simp [hon]
      rw [drawnRows, hempty]
      rfl
    rw [hnone, List.foldl_nil]
    split
    · rfl
    · next hdrawn =>
      have hmissed : (v.listedSprites.take kSpriteCount).any (v.onFrame request) = false := by
        simp only [not_or, Bool.not_eq_false, Bool.not_eq_true] at hdrawn
        rwa [hdrawn.1, hdrawn.2, Bool.not_false, Bool.true_and, Bool.true_and] at hon
      rw [hprobe, Nat.sub_zero, hmissed, if_neg Bool.false_ne_true]

/-- The rows of the first eight covering sprites, in the patterns of the evaluation. -/
def referenceRows (line : ℕ) : List SpriteRow :=
  (((v.covering line).take 8).filter (v.inWindow request)).map (v.statusRow line)

/-- The picture and the status of a line come from its first eight covering sprites. -/
structure SpritesAgree (background : ℕ → ℕ → Pixel) (y : ℕ) : Prop where
  rows : (v.renderSprites request background y).spritesOnLine =
    v.referenceRows request (y + request.viewportY)
  pixels : ∀ x < request.width, (v.renderSprites request background y).pixels x =
    v.topPixel (v.referenceRows request (y + request.viewportY)) (x + request.viewportX)
      (background y x)
  overflow : (v.evaluateScanlineStatus (y + request.viewportY)).spriteOverflowPending = true ↔
    v.spriteOverflowPending = true ∨ 8 < (v.covering (y + request.viewportY)).length
  collision : (v.evaluateScanlineStatus (y + request.viewportY)).spriteCollisionPending = true ↔
    v.spriteCollisionPending = true ∨
      v.Collides (y + request.viewportY) ((v.covering (y + request.viewportY)).take 8)

/-- The two scans come to the same: the overlay reaches the first eight covering sprites that
lie in the window, none of them was passed over for a later one, no zoomed tall sprite shows
its second quarter, and later covering sprites add no collision. -/
structure ScansAgree (line : ℕ) : Prop where
  reached : ∀ sprite ∈ (v.covering line).take 8, v.inWindow request sprite = true →
    v.reached request sprite = true
  limit : (∀ sprite ∈ (v.covering line).take 8, v.inWindow request sprite = true) ∨
    ∀ sprite ∈ (v.covering line).drop 8, v.reached request sprite = false
  quarter : v.spriteZoomMode = true → v.spriteTallMode = true →
    ∀ sprite ∈ (v.covering line).take 8, v.inWindow request sprite = true →
      ¬ (8 ≤ line - v.spriteY sprite ∧ line - v.spriteY sprite < 16)
  collisions : v.spriteCollisionPending = true ∨
    (v.Collides line (v.covering line) → v.Collides line ((v.covering line).take 8))

theorem overlayRow_eq_statusRow_iff (sprite : ℕ) :
    v.overlayRow sprite (line - v.spriteY sprite) = v.statusRow line sprite ↔
      (v.spriteZoomMode = true → v.spriteTallMode = true →
        ¬ (8 ≤ line - v.spriteY sprite ∧ line - v.spriteY sprite < 16)) := by
  rw [SpriteRow.ext_iff]
  generalize hpy : line - v.spriteY sprite = py
  simp only [overlayRow, statusRow, hpy, and_true, true_and]
  cases hzoom : v.spriteZoomMode with
  | false =>
    have hone : v.zoom = 1 := by simp [zoom, hzoom]
    simp [hone]
  | true =>
    have htwo : v.zoom = 2 := by simp [zoom, hzoom]
    rw [htwo]
    cases htall : v.spriteTallMode with
    | false => simp
    | true =>
      simp only [true_and, forall_const]
      split_ifs <;> omega

theorem map_rows_eq_iff (drawn reference : List ℕ) :
    drawn.map (fun sprite => v.overlayRow sprite (line - v.spriteY sprite)) =
        reference.map (v.statusRow line) ↔
      drawn = reference ∧ ∀ sprite ∈ reference,
        v.overlayRow sprite (line - v.spriteY sprite) = v.statusRow line sprite := by
  constructor
  · intro h
    have hsprites : drawn = reference := by
      have hfield := congrArg (List.map SpriteRow.sprite) h
      rwa [List.map_map, List.map_map, show SpriteRow.sprite ∘ (fun sprite =>
          v.overlayRow sprite (line - v.spriteY sprite)) = id from rfl,
        show SpriteRow.sprite ∘ v.statusRow line = id from rfl, List.map_id, List.map_id] at hfield
    subst hsprites
    exact ⟨rfl, List.map_inj_left.mp h⟩
  · rintro ⟨rfl, hrows⟩
    exact List.map_inj_left.mpr hrows

theorem activeDisplayLines_le : v.activeDisplayLines ≤ 240 := by
  unfold activeDisplayLines
  split
  · dsimp only
    split
    · omega
    · split <;> omega
  · omega

/-- On a visible line, picture and status agree just when the scans do. -/
theorem sprites_agree_iff (background : ℕ → ℕ → Pixel) {y : ℕ} (hy : y < request.height)
    (hvisible : y + request.viewportY < v.activeDisplayLines) :
    v.SpritesAgree request background y ↔ v.ScansAgree request (y + request.viewportY) := by
  have hlines := v.activeDisplayLines_le
  have hrendered := v.renderSprites_line request background hy (by omega)
  generalize hline : y + request.viewportY = line at *
  have hmarked := v.marked_lineStatus line
  have hdrawn : (v.renderSprites request background y).spritesOnLine = v.drawnRows request line := by
    rw [hrendered, foldl_drawRow]
    rfl
  have hrows : (v.renderSprites request background y).spritesOnLine =
      v.referenceRows request line ↔
        (∀ sprite ∈ (v.covering line).take 8, v.inWindow request sprite = true →
          v.reached request sprite = true) ∧
        ((∀ sprite ∈ (v.covering line).take 8, v.inWindow request sprite = true) ∨
          ∀ sprite ∈ (v.covering line).drop 8, v.reached request sprite = false) ∧
        ∀ sprite ∈ (v.covering line).take 8, v.inWindow request sprite = true →
          v.overlayRow sprite (line - v.spriteY sprite) = v.statusRow line sprite := by
    rw [hdrawn, drawnRows, referenceRows, map_rows_eq_iff,
      take_filter_eq_filter_take_iff _ _ fun _ => v.inWindow_of_reached request, and_assoc]
    simp only [List.mem_filter, and_imp]
  have hcollision : ((v.evaluateScanlineStatus line).spriteCollisionPending = true ↔
      v.spriteCollisionPending = true ∨ v.Collides line ((v.covering line).take 8)) ↔
        (v.spriteCollisionPending = true ∨
          (v.Collides line (v.covering line) → v.Collides line ((v.covering line).take 8))) := by
    have hfewer : v.Collides line ((v.covering line).take 8) →
        v.Collides line (v.covering line) :=
      fun h hall => h (hall.sublist (List.take_sublist _ _))
    rw [show (v.evaluateScanlineStatus line).spriteCollisionPending =
      (v.lineStatus line).collision from rfl, hmarked.collision]
    constructor
    · intro h
      by_cases hpending : v.spriteCollisionPending = true
      · exact .inl hpending
      · right
        intro hall
        exact (h.mp (.inr hall)).resolve_left hpending
    · intro h
      constructor
      · rintro (hpending | hall)
        · exact .inl hpending
        · exact h.imp id fun hmore => hmore hall
      · rintro (hpending | hfirst)
        · exact .inl hpending
        · exact .inr (hfewer hfirst)
  constructor
  · intro h
    obtain ⟨hreached, hlimit, hpatterns⟩ := hrows.mp (by simpa only [hline] using h.rows)
    refine ⟨hreached, hlimit, ?_, hcollision.mp (by simpa only [hline] using h.collision)⟩
    intro hzoom htall sprite hsprite hwindow
    exact (v.overlayRow_eq_statusRow_iff line sprite).mp (hpatterns sprite hsprite hwindow)
      hzoom htall
  · intro h
    have hequal := hrows.mpr ⟨h.reached, h.limit, fun sprite hsprite hwindow =>
      (v.overlayRow_eq_statusRow_iff line sprite).mpr fun hzoom htall =>
        h.quarter hzoom htall sprite hsprite hwindow⟩
    constructor
    · rw [hline]
      exact hequal
    · intro x hx
      rw [hline, ← hequal, hdrawn, hrendered, v.foldl_drawRow_pixel request _ _ hx, composite_eq]
    · rw [hline]
      exact hmarked.overflow
    · rw [hline]
      exact hcollision.mpr h.collisions

/-- One zoomed 8x16 sprite at the left edge of the Game Gear window, on its first line. -/
def zoomedTall : GameGearVDP where
  vram := fun i => if i = 0x3F00 then 23 else if i = 0x3F01 then 0xD0 else if i = 0x3F80 then 48
    else 0
  registers := fun i => if i = 0 then 0x04 else if i = 1 then 0x43 else 0
  smsMode := false

/-- On its ninth line the overlay already draws the lower pattern. -/
theorem zoomedTall_disagrees :
    ¬ zoomedTall.SpritesAgree ⟨160, 144⟩ (fun _ _ => ⟨0, 0⟩) 8 := by
  intro h
  have hrows := h.rows
  revert hrows
  decide +kernel

theorem zoomedTall_first_line_iff :
    zoomedTall.SpritesAgree ⟨160, 144⟩ (fun _ _ => ⟨0, 0⟩) 0 ↔
      zoomedTall.ScansAgree ⟨160, 144⟩ 24 :=
  zoomedTall.sprites_agree_iff ⟨160, 144⟩ (fun _ _ => ⟨0, 0⟩) (by decide +kernel)
    (by decide +kernel)

end GameGearVDP

end ProtoTime.GameGear
