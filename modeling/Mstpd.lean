import Mstpd.Types
import Mstpd.Machine
import Mstpd.Best
import Mstpd.Priority
import Mstpd.Procedures
import Mstpd.Roles
import Mstpd.Machines
import Mstpd.Run
import Mstpd.Events
import Mstpd.Selection
import Mstpd.CtlSocket
import Mstpd.ParentTree
import Mstpd.Network
import Mstpd.Frames
import Mstpd.Pass
import Mstpd.OpFrames
import Mstpd.DryRun
import Mstpd.Handover
import Mstpd.Mesh
import Mstpd.PortStates
import Mstpd.Agreement
import Mstpd.RegionInfo
import Mstpd.TopologyFlag
import Mstpd.Propagation
import Mstpd.RoleTermination
import Mstpd.BridgeConfig
import Mstpd.ConfigId
import Mstpd.RapidAgeing
import Mstpd.Table
import Mstpd.BridgeTrack
import Mstpd.CtlCommands
import Mstpd.Wire
import Mstpd.Harness
import Mstpd.Cabling
import Mstpd.InFlight
import Mstpd.Classification
import Mstpd.BoundaryTc
import Mstpd.RootChoice
import Mstpd.TableSetters
import Mstpd.PathCosts
import Mstpd.HoldLimit
import Mstpd.FinalRoles
import Mstpd.MessageAge
import Mstpd.TcsmTermination
import Mstpd.HelloTimes
import Mstpd.Assurance
import Mstpd.Intervals
import Mstpd.CText
import Mstpd.AllocationTables
import Mstpd.ParseList
import Mstpd.Json
import Mstpd.JsonTables
import Mstpd.TextLines
import Mstpd.Batch
import Mstpd.Ring
import Mstpd.Capture
import Mstpd.Waves
import Mstpd.Delivery
import Mstpd.LinkSpeed
import Mstpd.Deletion
import Mstpd.BlockHash
import Mstpd.Md5
import Mstpd.DesignatedInfo
import Mstpd.RegionalRoots
import Mstpd.Exchange
import Mstpd.PacketFilter
import Mstpd.Ethernet
import Mstpd.Service
import Mstpd.EventLoop
import Mstpd.Readiness
import Mstpd.Ageing
import Mstpd.Hellos
import Mstpd.Netlink
import Mstpd.CtlClient
import Mstpd.SetCommands
