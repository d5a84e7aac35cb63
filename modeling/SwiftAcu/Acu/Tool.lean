/-
Numbers in a byte buffer, `app_tool.c`.

Nothing tells a routine where the field ends, so a buffer is all the memory behind its
pointer.  A routine that decodes is a loop over an index, and the cells it reads are the
values the index takes.
-/
import SwiftAcu.Acu.Basic
import SwiftAcu.Lib.Memory

namespace SwiftAcu.Tool

abbrev Bytebuff := Nat → UInt8

/-! ### Encoding -/

/-- `TOOL_INT32Data2Bytebuff`: a `save_mode` other than 0 stores the high byte first. -/
def int32Data2Bytebuff (data : UInt32) (buff : Bytebuff) (save_mode : UInt8) : Bytebuff :=
  if save_mode ≠ 0 then
    Memory.write buff 0 [((data &&& 0xFF000000) >>> 24).toUInt8,
      ((data &&& 0x00FF0000) >>> 16).toUInt8, ((data &&& 0x0000FF00) >>> 8).toUInt8,
      (data &&& 0x000000FF).toUInt8]
  else
    Memory.write buff 0 [(data &&& 0x000000FF).toUInt8, ((data &&& 0x0000FF00) >>> 8).toUInt8,
      ((data &&& 0x00FF0000) >>> 16).toUInt8, ((data &&& 0xFF000000) >>> 24).toUInt8]

/-- `TOOL_INT16Data2Bytebuff`. -/
def int16Data2Bytebuff (data : UInt16) (buff : Bytebuff) (save_mode : UInt8) : Bytebuff :=
  if save_mode ≠ 0 then
    Memory.write buff 0 [((data &&& 0xFF00) >>> 8).toUInt8, (data &&& 0x00FF).toUInt8]
  else
    Memory.write buff 0 [(data &&& 0x00FF).toUInt8, ((data &&& 0xFF00) >>> 8).toUInt8]

/-! ### Decoding -/

/-- The values of `i` in `for(i=0;i<n;i++)`. -/
def up (n : Nat) : List Nat := List.range n

/-- … and in `for(i=n;i!=0;i--)`. -/
def down : Nat → List Nat
  | 0 => []
  | i + 1 => (i + 1) :: down i

/-- `data = (data << 8) + buff[i]` for each `i` in turn. -/
def gather (buff : Bytebuff) (is : List Nat) : UInt32 :=
  is.foldl (fun data i => (data <<< 8) + (buff i).toUInt32) 0

/-- The cells `TOOL_Bytebuff2INT32Data` reads. -/
def bytebuff2Int32Cells (save_mode : UInt8) : List Nat := if save_mode ≠ 0 then up 4 else down 4

/-- `TOOL_Bytebuff2INT32Data`. -/
def bytebuff2Int32Data (buff : Bytebuff) (save_mode : UInt8) : UInt32 :=
  gather buff (bytebuff2Int32Cells save_mode)

/-- The cells `TOOL_Bytebuff2INT16Data` reads. -/
def bytebuff2Int16Cells (save_mode : UInt8) : List Nat := if save_mode ≠ 0 then up 4 else down 2

/-- `TOOL_Bytebuff2INT16Data`: a sum of 32 bits, of which 16 are returned. -/
def bytebuff2Int16Data (buff : Bytebuff) (save_mode : UInt8) : UInt16 :=
  (gather buff (bytebuff2Int16Cells save_mode)).toUInt16

end SwiftAcu.Tool
