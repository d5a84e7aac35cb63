/-
The serial ports of the front panel and of the power unit, `hw_oledcomm.c` and
`hw_pducomm.c`.

An interrupt for each byte puts it in a buffer of 64 bytes and looks whether a frame has come
to its end; then it posts the receive semaphore, or, on the port of the power unit, deals
with an urgent frame itself.  A task pends on the semaphore and copies the buffer out, from
its front to the write index, which it then sets back; an interrupt may come between any two
bytes of the copy.

Every access to an array is checked here: `none` is one outside.
-/
import SwiftAcu.Acu.Basic
import SwiftAcu.Lib.Line
import SwiftAcu.Lib.Runs

namespace SwiftAcu.Serial

/-- `SWIFT_UART3`, the front panel, and `SWIFT_UART4`, the power unit. -/
inductive Port where
  | oled | pdu
  deriving DecidableEq, Repr

/-- `SWIFTUART3BuffSize` and `SWIFTUART4BuffSize`. -/
abbrev buffSize : Nat := 64

/-- The size of the local `rxbuff` of `SWIFT_UART4_UrgentDeal`. -/
abbrev urgentBuffSize : Nat := 32

/-- A receive buffer, its write index and its semaphore. -/
structure Rx where
  pbuff : Vector UInt8 64
  writeP : Nat
  /-- The count of `SWIFT_UART3_Rev_Sem` or `SWIFT_UART4_Rev_Sem`. -/
  sem : Nat
  /-- `PDUommStat.link_stat`. -/
  linkStat : UInt8
  deriving DecidableEq

/-- The buffers behind `…_Init`. -/
def Rx.init : Rx := ⟨Vector.replicate 64 0, 0, 0, 0⟩

/-- `pbuff[i] = b`. -/
def store (pbuff : Vector UInt8 64) (i : Nat) (b : UInt8) : Option (Vector UInt8 64) :=
  if h : i < 64 then some (pbuff.set i b h) else none

/-- `SWIFT_UART4_UrgentDeal`: the whole buffer is copied to `rxbuff`. -/
def urgentDeal (r : Rx) : Option Rx :=
  if r.writeP ≤ urgentBuffSize then some { r with writeP := 0, linkStat := 0 } else none

/-- The end-of-frame test of both interrupt handlers. -/
def frameTest (port : Port) (r : Rx) : Option Rx := do
  if (← r.pbuff[0]?) = 0xBC then
    if 2 ≤ r.writeP then
      let len ← r.pbuff[1]?
      if len.toNat + 4 ≤ r.writeP then
        if (← r.pbuff[len.toNat + 3]?) = 0xCB then
          if port = .pdu then
            if (← r.pbuff[2]?) &&& 0x0F = 0x0D then urgentDeal r
            else return { r with sem := r.sem + 1 }
          else return { r with sem := r.sem + 1 }
        else return { r with writeP := 0 }
      else return r
    else return r
  else return { r with writeP := 0 }

/-- `SWIFT_UART3_IntHandler` and `SWITFT_UART4_IntHandler`, for a byte received. -/
def intHandler (port : Port) (b : UInt8) (r : Rx) : Option Rx := do
  let pbuff ← store r.pbuff r.writeP b
  let writeP := if buffSize ≤ r.writeP + 1 then 0 else r.writeP + 1
  frameTest port { r with pbuff, writeP }

/-- `…_RecvBuff_Clear`, in front of a frame that is sent. -/
def recvBuffClear (r : Rx) : Rx := { r with pbuff := Vector.replicate 64 0, writeP := 0 }

/-! ### The consumer -/

/-- Where the consumer is: in front of its pend, or in `…_RecvBuff`. -/
inductive Pc where
  | pend
  /-- `*bufflen = write_p`. -/
  | len
  /-- `memcpy(buff,pbuff,*bufflen)`, with some bytes copied. -/
  | copy (bufflen : Nat) (buff : List UInt8)
  /-- `write_p = 0`. -/
  | reset (buff : List UInt8)
  deriving DecidableEq, Repr

/-- The port, its consumer, and what the consumer has obtained. -/
structure Sta where
  rx : Rx
  pc : Pc
  obtained : List (List UInt8)
  deriving DecidableEq

def Sta.init : Sta := ⟨Rx.init, .pend, []⟩

/-- One step of the consumer; in front of a semaphore that is down it waits. -/
def consume (s : Sta) : Option Sta :=
  match s.pc with
  | .pend =>
    if 0 < s.rx.sem then some { s with rx := { s.rx with sem := s.rx.sem - 1 }, pc := .len }
    else some s
  | .len => some { s with pc := .copy s.rx.writeP [] }
  | .copy bufflen buff =>
    if buff.length < bufflen then do
      let b ← s.rx.pbuff[buff.length]?
      return { s with pc := .copy bufflen (buff ++ [b]) }
    else some { s with pc := .reset buff }
  | .reset buff =>
    some { rx := { s.rx with writeP := 0 }, pc := .pend, obtained := s.obtained ++ [buff] }

/-- What happens at a port. -/
inductive Event where
  /-- A byte is received. -/
  | byte (b : UInt8)
  /-- The consumer goes on. -/
  | consume
  /-- A frame is sent. -/
  | clear
  deriving DecidableEq, Repr

/-- One event. -/
def step (port : Port) (s : Sta) : Event → Option Sta
  | .byte b => (intHandler port b s.rx).map fun rx => { s with rx }
  | .consume => consume s
  | .clear => some { s with rx := recvBuffClear s.rx }

/-- A run; an access outside an array ends it. -/
def stepRun (port : Port) (s : Option Sta) (e : Event) : Option Sta := s.bind fun s => step port s e

/-! ### Frames on the line -/

/-- A well-formed frame, short enough for the buffer. -/
structure Frame where
  data : List UInt8
  sum : UInt8
  small : data.length + 4 ≤ 64

/-- The bytes of a frame. -/
def Frame.bytes (f : Frame) : List UInt8 :=
  [0xBC, UInt8.ofNat f.data.length] ++ f.data ++ [f.sum, 0xCB]

/-- The frame is not one the interrupt of the power unit deals with. -/
def Frame.Plain (port : Port) (f : Frame) : Prop :=
  port = .pdu → f.bytes.getD 2 0 &&& 0x0F ≠ 0x0D

instance (port : Port) (f : Frame) : Decidable (f.Plain port) := inferInstanceAs (Decidable (_ → _))

/-- What happens at a port that is sent frames, and nothing else. -/
inductive Turn where
  /-- The next byte comes. -/
  | deliver
  /-- The consumer goes on. -/
  | consume
  deriving DecidableEq, Repr

/-- The port, and the line it hears. -/
structure Link where
  sta : Sta
  line : Line Frame

def Link.start (frames : List Frame) : Link := ⟨Sta.init, Line.start frames⟩

/-- One turn.  A turn that would access an array outside is not taken. -/
def Link.step (port : Port) (l : Link) : Turn → Link
  | .deliver =>
    match l.line.next Frame.bytes with
    | none => l
    | some (b, line) => ⟨(Serial.step port l.sta (.byte b)).getD l.sta, line⟩
  | .consume => { l with sta := (Serial.step port l.sta .consume).getD l.sta }

end SwiftAcu.Serial
