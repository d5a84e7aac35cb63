import SwiftAcu.Lib.NorFlash
import SwiftAcu.Lib.Slots
import SwiftAcu.Lib.Runs
import SwiftAcu.Acu.LogRun
import SwiftAcu.Proofs.FlashWrite
import SwiftAcu.Proofs.Log.Chain
import SwiftAcu.Proofs.Log.Failure
import SwiftAcu.Proofs.Log.Recovery
import SwiftAcu.Proofs.Log.Agree
import SwiftAcu.Proofs.Admin.Authority
import SwiftAcu.Proofs.Admin.Timeout
import SwiftAcu.Proofs.Pc.NonInterference
import SwiftAcu.Proofs.Pc.Refused
import SwiftAcu.Proofs.Pc.Device
import SwiftAcu.Proofs.Record.Recall
import SwiftAcu.Proofs.Param.Layout
import SwiftAcu.Proofs.Param.Codec
import SwiftAcu.Proofs.Param.RoundTrip
import SwiftAcu.Proofs.Param.History
import SwiftAcu.Proofs.Tool
import SwiftAcu.Proofs.Sat.Select
import SwiftAcu.Proofs.Sat.Restart
import SwiftAcu.Proofs.Frame.Sent
import SwiftAcu.Proofs.Frame.Altered
import SwiftAcu.Proofs.Reply.Room
import SwiftAcu.Proofs.Reply.Chain
import SwiftAcu.Proofs.Pdu.Channel
import SwiftAcu.Proofs.NetWork
import SwiftAcu.Proofs.Position.Manual
import SwiftAcu.Proofs.Degree.Elevation
import SwiftAcu.Proofs.Degree.Limit
import SwiftAcu.Proofs.Degree.Untouched
import SwiftAcu.Proofs.Encoder
import SwiftAcu.Proofs.Monitor.Alarm
import SwiftAcu.Proofs.Monitor.Stop
import SwiftAcu.Proofs.Monitor.Beacon
import SwiftAcu.Proofs.Monitor.Level
import SwiftAcu.Proofs.Goto.Quiet
import SwiftAcu.Proofs.Mode.Fronts
import SwiftAcu.Proofs.Mode.Tasks
import SwiftAcu.Proofs.Mode.Alone
import SwiftAcu.Proofs.SetCmd.Cases
import SwiftAcu.Proofs.SetCmd.FaultFree
import SwiftAcu.Proofs.SetCmd.Index
import SwiftAcu.Proofs.SetCmd.Failed
import SwiftAcu.Proofs.Track.Searches
import SwiftAcu.Proofs.Track.Cross
import SwiftAcu.Proofs.Track.Gradient
import SwiftAcu.Proofs.Track.Target
import SwiftAcu.Proofs.Track.Rotate
import SwiftAcu.Proofs.Track.Strong
import SwiftAcu.Proofs.Serial.Delivery
import SwiftAcu.Proofs.Eeprom
import SwiftAcu.Proofs.ParamRead
import SwiftAcu.Proofs.Datetime.Rtc
import SwiftAcu.Proofs.Gps.Beijing
import SwiftAcu.Acu.Cli
import SwiftAcu.Lib.Terminal
import SwiftAcu.Proofs.Shell.Calls
import SwiftAcu.Proofs.Shell.Repeat
import SwiftAcu.Proofs.Shell.Store
import SwiftAcu.Acu.EncoderPort
import SwiftAcu.Proofs.EncoderPort
import SwiftAcu.Lib.DList
import SwiftAcu.Lib.PrioTable
import SwiftAcu.Acu.Kernel.Core
import SwiftAcu.Proofs.Kernel.Sys
import SwiftAcu.Proofs.Kernel.Run
import SwiftAcu.Proofs.Kernel.Waits
import SwiftAcu.Proofs.Kernel.Line
import SwiftAcu.Proofs.Kernel.Tokens
