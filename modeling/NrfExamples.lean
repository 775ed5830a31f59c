import NrfExamples.Uart.TransmitTimeout
import NrfExamples.Uart.Receive
import NrfExamples.Uart.Quiet
import NrfExamples.Uart.Ownership
import NrfExamples.Uart.BridgeReceive
import NrfExamples.Uart.BridgeTransmit
import NrfExamples.Uart.Splitting
import NrfExamples.Uart.Aborts
import NrfExamples.SimpleService.Handles
import NrfExamples.SimpleService.Led
import NrfExamples.SimpleService.Button
import NrfExamples.SimpleService.Locks
import NrfExamples.DualUart.TextLines
import NrfExamples.Uart.Pairing
import NrfExamples.Uart.Dropping
import NrfExamples.Uart.Rejected
import NrfExamples.Uart.ErrorPath
import NrfExamples.HrCoded.Advertising
import NrfExamples.LteTracker.CleanUp
import NrfExamples.GnssCoap.Socket
import NrfExamples.GnssCoap.Messages
import NrfExamples.GnssCoap.Fixes
import NrfExamples.DualRole.Relay
import NrfExamples.DualUart.Printing
import NrfExamples.Uart.ThreadRuns
import NrfExamples.DualRole.Scanning
import NrfExamples.SimpleService.Scanning
import NrfExamples.Uart.FullDuplex
import NrfExamples.Uart.PreemptedBuffers
import NrfExamples.Uart.PreemptedTransfers
import NrfExamples.LteTracker.Reports
import NrfExamples.GnssCoap.Formatted
import NrfExamples.IntervalBeacon.DutyCycle
import NrfExamples.CtsClient.Subscription
import NrfExamples.SimpleService.Reconnecting
