import MediatekCommon.Foundation.Runs
import MediatekCommon.Foundation.Sections
import MediatekCommon.Foundation.Slots
import MediatekCommon.Foundation.JavaLong
import MediatekCommon.Ril.Dial
import MediatekCommon.Ril.DialParcel
import MediatekCommon.Ril.DataCall
import MediatekCommon.Ril.EccRefresh
import MediatekCommon.Ril.RepeatedRefresh
import MediatekCommon.Ril.EccXml
import MediatekCommon.Ril.Solicited
import MediatekCommon.Ril.DataCallRuns
import MediatekCommon.Ril.CidTable
import MediatekCommon.Ril.AnnouncedSlot
import MediatekCommon.Ril.RadioPower
import MediatekCommon.Doze.Settings
import MediatekCommon.Doze.ProximitySensor
import MediatekCommon.Doze.TiltSensor
import MediatekCommon.Doze.DozeService
import MediatekCommon.Doze.Phone
import MediatekCommon.Foundation.Coalesce
import MediatekCommon.Lights.Device
import MediatekCommon.Lights.SpeakerLight
import MediatekCommon.Lights.Sysfs
import MediatekCommon.Lights.Threads
import MediatekCommon.Foundation.ChangeLog
import MediatekCommon.Lights.LedWrites
import MediatekCommon.Lights.Trackball
import MediatekCommon.Lights.Arbitration
import MediatekCommon.Ril.Unsolicited
import MediatekCommon.Foundation.Ledger
import MediatekCommon.Foundation.Timeouts
import MediatekCommon.Ril.Events
import MediatekCommon.Ril.Messages
import MediatekCommon.Ril.SimLists
import MediatekCommon.Foundation.CText
import MediatekCommon.Foundation.BoundedPrint
import MediatekCommon.Foundation.CachedSetter
import MediatekCommon.Foundation.HeldResources
import MediatekCommon.Foundation.Posix
import MediatekCommon.Wpa.Commands
import MediatekCommon.Wpa.P2p
import MediatekCommon.Wpa.DriverCmd
import MediatekCommon.Wpa.Branches
import MediatekCommon.Wpa.Asks
import MediatekCommon.Wpa.Requests
import MediatekCommon.Wpa.PrivateCommand
import MediatekCommon.Wpa.ApInterface
import MediatekCommon.Wpa.SwCmd
import MediatekCommon.Wpa.PacketFilter
import MediatekCommon.Wpa.StaStatistics
import MediatekCommon.Wpa.StaReport
import MediatekCommon.Wpa.StaCommand
import MediatekCommon.Wpa.Replies
import MediatekCommon.Wpa.SharedFreqs
import MediatekCommon.Wpa.Sink
import MediatekCommon.Wpa.HangCounter
import MediatekCommon.Wpa.ScanLoading
import MediatekCommon.Power.PowerHal
import MediatekCommon.Shims.Netutils
import MediatekCommon.Ril.Answers
