import ProtoTime.GameBoy.Bytes
import Mathlib.Data.Int.Notation

/-!
The sprite parts of the Game Gear VDP: the attribute table, the status evaluation of a line and
the sprite overlay of the renderer, each with its own scan.
-/
namespace ProtoTime.GameGear
open GameBoy (Byte)

structure GameGearVDP where
  vram : Fin 0x4000 → Byte
  registers : Fin 0x0B → Byte
  smsMode : Bool
  spriteOverflowPending : Bool := false
  spriteCollisionPending : Bool := false
  lastStatusScanline : ℕ := 0xFF
  statusScanlineConsumed : Bool := true

structure RenderRequest where
  frameWidth : ℤ
  frameHeight : ℤ

namespace RenderRequest

def kGameGearViewportX : ℕ := 48
def kGameGearViewportY : ℕ := 24
def kGameGearViewportWidth : ℕ := 160
def kGameGearViewportHeight : ℕ := 144

def width (request : RenderRequest) : ℕ := (max request.frameWidth 1).toNat

def height (request : RenderRequest) : ℕ := (max request.frameHeight 1).toNat

def viewportX (request : RenderRequest) : ℕ :=
  if request.width = kGameGearViewportWidth then kGameGearViewportX else 0

def viewportY (request : RenderRequest) : ℕ :=
  if request.height = kGameGearViewportHeight then kGameGearViewportY else 0

end RenderRequest

namespace GameGearVDP

def kSpriteCount : ℕ := 40
def kVramSize : ℕ := 0x4000

/-- A byte of video memory; the address wraps. -/
def vramAt (v : GameGearVDP) (index : ℕ) : Byte := v.vram (Fin.ofNat 0x4000 index)

def displayEnabled (v : GameGearVDP) : Bool := v.registers 1 &&& 0x40#8 != 0

def mode4Enabled (v : GameGearVDP) : Bool := v.registers 0 &&& 0x04#8 != 0

/-- The text-mode path of the renderer, which has no sprites. -/
def tmsGraphics (v : GameGearVDP) : Bool := !v.mode4Enabled && v.registers 0 &&& 0x02#8 != 0

def activeDisplayLines (v : GameGearVDP) : ℕ :=
  if v.smsMode && v.mode4Enabled && v.registers 0 &&& 0x02#8 != 0 then
    let m1 := v.registers 1 &&& 0x10#8 != 0
    let m3 := v.registers 1 &&& 0x08#8 != 0
    if m1 && !m3 then 224 else if !m1 && m3 then 240 else 192
  else 192

def spriteTallMode (v : GameGearVDP) : Bool := v.registers 1 &&& 0x02#8 != 0

def spriteZoomMode (v : GameGearVDP) : Bool := v.registers 1 &&& 0x01#8 != 0

def zoom (v : GameGearVDP) : ℕ := if v.spriteZoomMode then 2 else 1

def spriteHeight (v : GameGearVDP) : ℕ := (if v.spriteTallMode then 16 else 8) * v.zoom

def spriteAttributeTableBase (v : GameGearVDP) : ℕ :=
  if v.registers 5 = 0 then 0x3F00 else (v.registers 5 &&& 0x7E#8).toNat <<< 7

def spriteGeneratorBase (v : GameGearVDP) : ℕ :=
  if v.registers 6 &&& 0x04#8 ≠ 0 then 0x2000 else 0x0000

def samplePatternColor (v : GameGearVDP) (patternBase tileIndex pixelX pixelY : ℕ) : ℕ :=
  let tileBase := (patternBase + tileIndex * 32) % kVramSize
  let rowBase := (tileBase + pixelY % 8 * 4) % kVramSize
  let bit := 7 - pixelX % 8
  ((v.vramAt (rowBase + 3) >>> bit) &&& 1#8).toNat * 8 +
    ((v.vramAt (rowBase + 2) >>> bit) &&& 1#8).toNat * 4 +
    ((v.vramAt (rowBase + 1) >>> bit) &&& 1#8).toNat * 2 +
    ((v.vramAt rowBase >>> bit) &&& 1#8).toNat

def rawY (v : GameGearVDP) (sprite : ℕ) : Byte := v.vramAt (v.spriteAttributeTableBase + sprite)

/-- The first line of a sprite. -/
def spriteY (v : GameGearVDP) (sprite : ℕ) : ℕ := (v.rawY sprite).toNat + 1

def spriteX (v : GameGearVDP) (sprite : ℕ) : ℤ :=
  (v.vramAt (v.spriteAttributeTableBase + 0x80 + sprite * 2)).toNat -
    if v.registers 0 &&& 0x08#8 ≠ 0 then 8 else 0

def spriteTile (v : GameGearVDP) (sprite : ℕ) : ℕ :=
  let tileIndex := v.vramAt (v.spriteAttributeTableBase + 0x80 + sprite * 2 + 1)
  (if v.spriteTallMode then tileIndex &&& 0xFE#8 else tileIndex).toNat

/-- The head of the three scans: the table ends at the terminator of a 192-line display, and
the sprites parked at E0 are passed over. -/
def scanTable (v : GameGearVDP) : List ℕ → List ℕ
  | [] => []
  | sprite :: rest =>
    if v.spriteAttributeTableBase + sprite ≥ kVramSize then []
    else if v.activeDisplayLines = 192 ∧ v.rawY sprite = 0xD0#8 then []
    else if v.rawY sprite = 0xE0#8 then v.scanTable rest
    else sprite :: v.scanTable rest

def listedSprites (v : GameGearVDP) : List ℕ := v.scanTable (List.range 64)

structure LineStatus where
  spritesOnLine : ℕ := 0
  occupied : ℤ → Bool := fun _ => false
  overflow : Bool
  collision : Bool

/-- A pattern row on a line, as the resource outputs of the renderer name it. -/
@[ext] structure SpriteRow where
  sprite : ℕ
  tileIndex : ℕ
  sampleY : ℕ
  deriving DecidableEq

def statusRow (v : GameGearVDP) (scanline sprite : ℕ) : SpriteRow :=
  let row := (scanline - v.spriteY sprite) / v.zoom
  { sprite := sprite
    tileIndex := v.spriteTile sprite + if v.spriteTallMode ∧ row ≥ 8 then 1 else 0
    sampleY := row % 8 }

/-- One pixel of a covering sprite in the status evaluation. -/
def markPixel (v : GameGearVDP) (row : SpriteRow) (s : LineStatus) (px : ℕ) : LineStatus :=
  let screenX := v.spriteX row.sprite + px
  if screenX < 0 ∨ screenX ≥ 256 then s
  else if v.samplePatternColor v.spriteGeneratorBase row.tileIndex (px / v.zoom) row.sampleY = 0
  then s
  else if s.occupied screenX then { s with collision := true }
  else { s with occupied := fun x => x == screenX || s.occupied x }

def evaluateSprite (v : GameGearVDP) (scanline : ℕ) (s : LineStatus) (sprite : ℕ) : LineStatus :=
  if scanline < v.spriteY sprite ∨ scanline ≥ v.spriteY sprite + v.spriteHeight then s
  else
    let s := { s with spritesOnLine := s.spritesOnLine + 1 }
    let s := { s with overflow := s.overflow || decide (s.spritesOnLine > 8) }
    (List.range (8 * v.zoom)).foldl (v.markPixel (v.statusRow scanline sprite)) s

def lineStatus (v : GameGearVDP) (scanline : ℕ) : LineStatus :=
  v.listedSprites.foldl (v.evaluateSprite scanline)
    { overflow := v.spriteOverflowPending, collision := v.spriteCollisionPending }

def evaluateScanlineStatus (v : GameGearVDP) (scanline : ℕ) : GameGearVDP :=
  { v with
    lastStatusScanline := scanline
    statusScanlineConsumed := false
    spriteOverflowPending := (v.lineStatus scanline).overflow
    spriteCollisionPending := (v.lineStatus scanline).collision }

/-- A pixel with its mask: bit 0 is set by background priority, bit 1 by a sprite. -/
structure Pixel where
  colorIndex : ℕ
  spriteMask : Byte

/-- One line of the frame. The source keeps the number of rows drawn on it. -/
structure FrameLine where
  pixels : ℕ → Pixel
  spritesOnLine : List SpriteRow := []

def Pixel.paint (colorCode : ℕ) (p : Pixel) : Pixel :=
  if colorCode = 0 then p
  else if p.spriteMask &&& 0x03#8 ≠ 0 then p
  else { colorIndex := 16 + colorCode, spriteMask := p.spriteMask ||| 0x02#8 }

variable (v : GameGearVDP) (request : RenderRequest)

def spriteScreenX (sprite : ℕ) : ℤ := v.spriteX sprite - request.viewportX

/-- One of the equal neighbours that a sample becomes on the screen. -/
def drawRepeat (sprite colorCode sampleX : ℕ) (pixels : ℕ → Pixel) (rep : ℕ) : ℕ → Pixel :=
  let screenX := v.spriteScreenX request sprite + (sampleX * v.zoom : ℕ) + rep
  if screenX < 0 ∨ screenX ≥ request.width then pixels
  else fun x => if x = screenX.toNat then (pixels x).paint colorCode else pixels x

def drawSample (row : SpriteRow) (pixels : ℕ → Pixel) (sampleX : ℕ) : ℕ → Pixel :=
  let colorCode := v.samplePatternColor v.spriteGeneratorBase row.tileIndex sampleX row.sampleY
  if colorCode = 0 then pixels
  else (List.range v.zoom).foldl (v.drawRepeat request row.sprite colorCode sampleX) pixels

def drawRow (row : SpriteRow) (line : FrameLine) : FrameLine where
  pixels := (List.range 8).foldl (v.drawSample request row) line.pixels
  spritesOnLine := line.spritesOnLine ++ [row]

def overlayRow (sprite py : ℕ) : SpriteRow where
  sprite := sprite
  tileIndex := v.spriteTile sprite + if v.spriteTallMode ∧ py ≥ 8 then 1 else 0
  sampleY := py / v.zoom % 8

def drawLine (sprite : ℕ) (frame : ℕ → FrameLine) (py : ℕ) : ℕ → FrameLine :=
  let screenY : ℤ := (v.spriteY sprite + py : ℕ) - request.viewportY
  if screenY < 0 ∨ screenY ≥ request.height then frame
  else if screenY < 240 ∧ (frame screenY.toNat).spritesOnLine.length ≥ 8 then frame
  else fun y => if y = screenY.toNat then v.drawRow request (v.overlayRow sprite py) (frame y)
    else frame y

def drawSprite (frame : ℕ → FrameLine) (sprite : ℕ) : ℕ → FrameLine :=
  (List.range v.spriteHeight).foldl (v.drawLine request sprite) frame

/-- Whether some pixels of the sprite lie in the columns of the frame. -/
def inWindow (sprite : ℕ) : Bool :=
  decide (0 < v.spriteScreenX request sprite + (8 * v.zoom : ℕ) ∧
    v.spriteScreenX request sprite < request.width)

/-- The overlay loop with the number of sprites drawn so far. -/
def overlay : List ℕ → ℕ → (ℕ → FrameLine) → ℕ → FrameLine
  | [], _, frame => frame
  | sprite :: rest, spriteCount, frame =>
    if v.inWindow request sprite then
      let frame := v.drawSprite request frame sprite
      if spriteCount + 1 ≥ kSpriteCount then frame else overlay rest (spriteCount + 1) frame
    else overlay rest spriteCount frame

/-- Whether some lines of the sprite lie in the lines of the frame. -/
def onFrame (sprite : ℕ) : Bool :=
  decide (v.spriteY sprite + v.spriteHeight > request.viewportY ∧
    v.spriteY sprite < request.viewportY + request.height)

/-- The sprite probe before the overlay. -/
def probe : List ℕ → ℕ → Bool
  | [], _ => false
  | sprite :: rest, visibleSpriteProbeCount =>
    if v.onFrame request sprite then true
    else if visibleSpriteProbeCount + 1 ≥ kSpriteCount then false
    else probe rest (visibleSpriteProbeCount + 1)

def renderSprites (background : ℕ → ℕ → Pixel) : ℕ → FrameLine :=
  let frame : ℕ → FrameLine := fun y => { pixels := background y }
  if v.displayEnabled = false ∨ v.tmsGraphics then frame
  else if v.probe request v.listedSprites 0 then v.overlay request v.listedSprites 0 frame
  else frame

end GameGearVDP

end ProtoTime.GameGear
