import TufanAks.AksLoopSim.Equiv.Scheduler
import TufanAks.AppMain.Equiv.DegradedStart
import TufanAks.AppMain.Equiv.FaultDelivery
import TufanAks.AppMain.Equiv.Freshness
import TufanAks.AppMain.Equiv.Ground
import TufanAks.AppMain.Equiv.StopButton
import TufanAks.BmsAlgo.Equiv.Computed
import TufanAks.BmsNextionPacket.Equiv.Convergence
import TufanAks.CanManager.Equiv.BitRate
import TufanAks.CanManager.Equiv.CellArray
import TufanAks.CanManager.Equiv.FaultEvents
import TufanAks.CanManager.Equiv.Irrelevant
import TufanAks.CanReplay.Equiv.Session
import TufanAks.Cores.Equiv.Display
import TufanAks.Cores.Equiv.EmergencyStop
import TufanAks.DisplayHMI.Equiv.Screen
import TufanAks.DisplayHMI.Equiv.Soundness
import TufanAks.E22Diagnostic.Equiv.Verdict
import TufanAks.HmiTask.Equiv.StaleData
import TufanAks.LoraLink.Equiv.Boots
import TufanAks.LoraLink.Equiv.Configure
import TufanAks.LoraLink.Equiv.UartInit
import TufanAks.LoraTask.Equiv.Coverage
import TufanAks.LoraTask.Equiv.LinkBudget
import TufanAks.RelayActuatorAdapter.Equiv.BrownOut
import TufanAks.RelayManager.Equiv.Convergence
import TufanAks.RelayManager.Equiv.Energising
import TufanAks.Telemetry.Equiv.RoundTrip
import TufanAks.UplinkScheduler.Equiv.ShortOutage
import TufanAks.VcuLogic.Equiv.CellVerdict
import TufanAks.VcuLogic.Equiv.Contactors
import TufanAks.VcuLogic.Equiv.Requests
import TufanAks.VcuLogic.Equiv.ResetOrder
import TufanAks.VcuLogic.Equiv.Shutdown
