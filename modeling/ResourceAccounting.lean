import ResourceAccounting.Accounting.Codec
import ResourceAccounting.Accounting.PowerOrder
import ResourceAccounting.Accounting.ProcessName
import ResourceAccounting.Android.Sensors
import ResourceAccounting.Cgps.Processes
import ResourceAccounting.Cgps.Responses
import ResourceAccounting.Cgps.Stream
import ResourceAccounting.Cgps.Updates
import ResourceAccounting.EventLog.Changes
import ResourceAccounting.EventLog.Device
import ResourceAccounting.Gpsd.Calendar
import ResourceAccounting.Gpsd.Reports
import ResourceAccounting.Gpsd.Sessions
import ResourceAccounting.Gpsd.Sockets
import ResourceAccounting.Gpsd.Watch
import ResourceAccounting.GraphScripts.EnergyBound
import ResourceAccounting.GraphScripts.Events
import ResourceAccounting.GraphScripts.FixDelay
import ResourceAccounting.GraphScripts.Power
import ResourceAccounting.GraphScripts.SchedAvg
import ResourceAccounting.GraphScripts.SchedFractions
import ResourceAccounting.GraphScripts.Slots
import ResourceAccounting.GraphScripts.Smoothing
import ResourceAccounting.Json.Frames
import ResourceAccounting.Json.Strings
import ResourceAccounting.Json.Truncation
import ResourceAccounting.SchedTrace.Malformed
