/-
The highest beacon level seen so far, `history_max_mv`.

It is kept in RAM and in the EEPROM, raised by the tracking, `APP_Satellite_Track_Start`
of `app_satellite_track.c`, and cleared when another satellite is selected.
`APP_PARAM_HistoryMaxMv_Save` is given a pointer.  What it copies to the RAM is the
number the pointer leads to, and what it stores is the pointer.
-/
import SwiftAcu.Acu.Satellite

namespace SwiftAcu.HistoryMax

variable [SoftFloat]

/-- The device with `ACUCurrSta.history_max_mv` and `ACUCurrSta.AGC_max_mv`. -/
structure Tracker where
  dev : Device
  historyMaxMv : FP32
  agcMaxMv : FP32

/-- A call of `APP_PARAM_HistoryMaxMv_Save`: its argument, the number that stands there, and the
maximum the caller means. -/
structure Call where
  pointer : UInt32
  pointee : FP32
  value : FP32

/-- `APP_PARAM_HistoryMaxMv_Save`. -/
def save (c : Call) (t : Tracker) : Tracker :=
  { dev := { t.dev with eeprom := historyMaxMvSave c.pointer t.dev.eeprom }
    historyMaxMv := c.pointee
    agcMaxMv := c.pointee }

inductive Op where
  /-- `APP_Satellite_Track_Start` from where it has found `agc_max`; `p_save` is at this address. -/
  | trackStart (p_save : UInt32) (agc_max : FP32)
  /-- `APP_PCCOMM_SelSat`. -/
  | selSat (stack : SatParam) (beacon : Ret) (pbuff : List UInt8)

/-- `p_save = agc_max*1000` for `APP_PARAM_HistoryMaxMv_Save(&p_save)`. -/
def trackCall (p_save : UInt32) (agc_max : FP32) : Call := ⟨p_save, agc_max * 1000, agc_max * 1000⟩

/-- `APP_PARAM_HistoryMaxMv_Save(0)`, which is meant to clear the maximum; `nul` stands at
address 0. -/
def selCall (nul : FP32) : Call := ⟨0, nul, 0⟩

/-- The save an operation makes, if it makes one. -/
def call (nul : FP32) (t : Tracker) : Op → Option Call
  | .trackStart p_save agc_max =>
    if t.historyMaxMv / 1000 < agc_max then some (trackCall p_save agc_max) else none
  | .selSat stack beacon pbuff =>
    match (pcSelSat stack beacon pbuff t.dev).1 with
    | .SUCC => some (selCall nul)
    | .FAIL => none

/-- One operation.  `selSat` of the satellites has stored the pointer already. -/
def step (nul : FP32) (t : Tracker) : Op → Tracker
  | .trackStart p_save agc_max =>
    let t := if t.historyMaxMv / 1000 < agc_max then save (trackCall p_save agc_max) t else t
    { t with agcMaxMv := agc_max * 1000 }
  | .selSat stack beacon pbuff =>
    match pcSelSat stack beacon pbuff t.dev with
    | (.SUCC, dev) => { dev, historyMaxMv := nul, agcMaxMv := nul }
    | (.FAIL, dev) => { t with dev }

/-- Operations in turn, with the last save among them. -/
def run (nul : FP32) : Tracker → Option Call → List Op → Tracker × Option Call
  | t, last, [] => (t, last)
  | t, last, op :: ops => run nul (step nul t op) ((call nul t op).or last) ops

end SwiftAcu.HistoryMax
