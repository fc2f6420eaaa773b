import Revice.Asid.Chips
import Revice.Asid.Core
import Revice.Asid.Forms
import Revice.Asid.Message
import Revice.Asid.Port
import Revice.Asid.Receiver
import Revice.Asid.Schedule
import Revice.Asid.Session
import Revice.Asid.Snapshot
import Revice.Asid.Stream
import Revice.Asid.Wire
import Revice.Binmon.Client
import Revice.Binmon.Replies
import Revice.Binmon.Session
import Revice.Binmon.Smoke
import Revice.Bustrace.Burst
import Revice.Bustrace.Bus
import Revice.Bustrace.Core
import Revice.Bustrace.Ieee
import Revice.Bustrace.Lifecycle
import Revice.Bustrace.Provenance
import Revice.Bustrace.Reader
import Revice.Bustrace.Stray
import Revice.Bustrace.Strict
import Revice.Driveattach.Core
import Revice.Driveattach.Routed
import Revice.General.Bytes
import Revice.General.Cell
import Revice.General.Cursor
import Revice.General.Decimal
import Revice.General.Log
import Revice.General.Machine
import Revice.General.Mirror
import Revice.General.Numeral
import Revice.General.Print
import Revice.General.Remainder
import Revice.General.Runs
import Revice.General.Socket
import Revice.General.Splitter
import Revice.General.Text
import Revice.Keymatrix.Action
import Revice.Keymatrix.Adapter
import Revice.Keymatrix.Clock
import Revice.Keymatrix.Core
import Revice.Keymatrix.Effect
import Revice.Keymatrix.Grammar
import Revice.Keymatrix.Held
import Revice.Keymatrix.History
import Revice.Keymatrix.Invariant
import Revice.Keymatrix.Key
import Revice.Keymatrix.Lines
import Revice.Keymatrix.Matrix
import Revice.Keymatrix.Monitors
import Revice.Keymatrix.Named
import Revice.Keymatrix.Observe
import Revice.Keymatrix.Pair
import Revice.Keymatrix.Range
import Revice.Keymatrix.Reject
import Revice.Keymatrix.Report
import Revice.Keymatrix.Response
import Revice.Keymatrix.Show
import Revice.Keymatrix.Story
import Revice.Keymatrix.Subset
import Revice.Keymatrix.System
import Revice.Keymatrix.Timeout
import Revice.Keymatrix.Vice
import Revice.Keymatrix.Words
import Revice.Screen.Adapter
import Revice.Screen.Bitmap
import Revice.Screen.Bounds
import Revice.Screen.Cells
import Revice.Screen.Client
import Revice.Screen.Picture
import Revice.Screen.Render
import Revice.Video.Adapter
import Revice.Video.Bodies
import Revice.Video.Debt
import Revice.Video.Recorder
