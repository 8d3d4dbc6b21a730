import Lcom.Proj.Objects

/-! The interrupt handlers and the packet decoder of `mouse.c` and `keyboard.c`. -/

namespace Lcom.Proj

def escBreak : UInt8 := 0x81

def parityBit : UInt8 := 0x80
def timeoutBit : UInt8 := 0x40
def obfBit : UInt8 := 0x01

def yOvfl : UInt8 := 0x80
def xOvfl : UInt8 := 0x40
def ySign : UInt8 := 0x20
def xSign : UInt8 := 0x10
def mouseMiddle : UInt8 := 0x04
def mouseRight : UInt8 := 0x02
def mouseLeft : UInt8 := 0x01

structure MouseBytes where
  first : UInt8
  second : UInt8
  third : UInt8
  deriving DecidableEq, Repr

structure Packet where
  bytes : MouseBytes
  rb : Bool
  mb : Bool
  lb : Bool
  deltaX : Int
  deltaY : Int
  xOv : Bool
  yOv : Bool
  deriving DecidableEq, Repr

/-- The conversion to `int16_t` of `byte`, or of `byte | FILLMSB` under a sign bit. -/
def displacement (sign byte : UInt8) : Int :=
  if sign ≠ 0 then (BitVec.setWidth 16 byte.toBitVec ||| 0xFF00#16).toInt
  else (BitVec.setWidth 16 byte.toBitVec).toInt

def getMousePacket (bytes : MouseBytes) : Packet :=
  { bytes := bytes
    lb := bytes.first &&& mouseLeft != 0
    rb := bytes.first &&& mouseRight != 0
    mb := bytes.first &&& mouseMiddle != 0
    deltaY := displacement (bytes.first &&& ySign) bytes.third
    deltaX := displacement (bytes.first &&& xSign) bytes.second
    xOv := (bytes.first &&& xOvfl) >>> 6 != 0
    yOv := (bytes.first &&& yOvfl) >>> 7 != 0 }

structure Mouse where
  x : Int
  y : Int
  img : XpmImage
  lbPressed : Bool
  deriving DecidableEq, Repr

def createMouse (loader : XpmLoader) (x y : Int) : Mouse :=
  { x := x, y := y, img := loader.load .mouseXpm, lbPressed := false }

def updateMouse (pp : Packet) (mouse : Mouse) : Mouse :=
  { mouse with
    x :=
      if pp.bytes.first &&& xSign ≠ 0 then
        if mouse.x + pp.deltaX < 0 then 0 else mouse.x + pp.deltaX
      else if mouse.x + pp.deltaX > xRes - mouse.img.width then xRes - mouse.img.width
      else mouse.x + pp.deltaX
    y :=
      if pp.bytes.first &&& ySign ≠ 0 then
        if mouse.y + mouse.img.height - pp.deltaY > yRes then yRes - mouse.img.height
        else mouse.y - pp.deltaY
      else if mouse.y - pp.deltaY < 0 then 0
      else mouse.y - pp.deltaY
    lbPressed := pp.lb }

/-- The replies of `sys_inb` while one interrupt is handled; `none` is a failed call. -/
structure PortReads where
  stat : Option UInt8
  out : Option UInt8
  deriving DecidableEq, Repr

structure MouseGlobals where
  scancode : UInt8
  statuscode : UInt8
  ihError : Bool
  deriving DecidableEq, Repr

def mouseIh (reads : PortReads) (globals : MouseGlobals) : MouseGlobals :=
  match reads.stat with
  | none => { globals with ihError := true }
  | some stat =>
      if ¬ (stat &&& (parityBit ||| timeoutBit) = 0 ∧ stat &&& obfBit ≠ 0) then
        { scancode := 0, statuscode := stat, ihError := true }
      else { globals with scancode := reads.out.getD globals.scancode, statuscode := stat }

/-- `kbc_ih`: the new `keyboard_scancode`. The status goes to an uninitialised local that
shadows the global; `statuscode` is its content before the read. -/
def kbcIh (reads : PortReads) (statuscode scancode : UInt8) : UInt8 :=
  if reads.stat.getD statuscode &&& (parityBit ||| timeoutBit) ≠ 0 then 0
  else reads.out.getD scancode

def twoBytes (scancode : UInt8) : Bool := scancode == 0xE0

def keyActivity (scancode : UInt8) : KeyActivity :=
  if scancode = 0x1E then .aPressed
  else if scancode = 0x9E then .aReleased
  else if scancode = 0x20 then .dPressed
  else if scancode = 0xAE then .dReleased
  else .invalidKey

end Lcom.Proj
