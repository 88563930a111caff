import Svmx.ColorTree
import Svmx.RbTree
import Svmx.RbRep
import Svmx.RbInsert
import Svmx.RbErase
import Svmx.RbWalk
import Svmx.Hpage
import Svmx.Hlist
import Svmx.MemSlot
import Svmx.GfnTree
import Svmx.MemslotSet
import Svmx.MemPrepare
import Svmx.MemRegion
import Svmx.MemRun
import Svmx.MemLookup
import Svmx.MemFailure
import Svmx.MemGeneration
import Svmx.Spte
import Svmx.TdpIter
import Svmx.Radix
import Svmx.TdpWalk
import Svmx.FastPf
import Svmx.WinWalk
import Svmx.MmuLoad
import Svmx.TdpRoot
import Svmx.RootCount
import Svmx.MpHash
import Svmx.MpRehash
import Svmx.MpRemove
import Svmx.MpIter
import Svmx.MpSize
import Svmx.MpString
import Svmx.ShadowPage
import Svmx.FreeRoots
import Svmx.Transition
import Svmx.BitFind
import Svmx.BitFields
import Svmx.Vpid
import Svmx.HwDisable
import Svmx.HwEnable
import Svmx.CreateVcpu
import Svmx.SpteMake
import Svmx.Cr0
import Svmx.Blend
import Svmx.Cr4
import Svmx.CrLegal
import Svmx.SegCache
import Svmx.VmxSegment
import Svmx.SvmSegment
import Svmx.HostState
import Svmx.VmcsControls
import Svmx.InitVmcs
import Svmx.ControlPairs
import Svmx.VmcsLoad
import Svmx.ControlsShadow
import Svmx.RadixTotal
import Svmx.TdpChange
import Svmx.RadixLink
import Svmx.TdpMap
import Svmx.TdpLink
import Svmx.TdpFixed
import Svmx.WinRound
import Svmx.MemLpage
import Svmx.MemMetadata
import Svmx.MemBitmap
import Svmx.MmioSpte
import Svmx.FaultPfn
import Svmx.FastFault
import Svmx.SpteVolatile
import Svmx.HugepageAdjust
import Svmx.MemoryCache
import Svmx.FaultPages
import Svmx.MapRace
import Svmx.LinkRace
import Svmx.DirectMap
import Svmx.ZapOldest
import Svmx.UnsyncWalk
import Svmx.PteList
import Svmx.StackMemory
import Svmx.AsmBlock
import Svmx.X64
import Svmx.VmxEnter
import Svmx.VmSaveState
import Svmx.LaunchState
import Svmx.MpStore
import Svmx.ExitHandler
import Svmx.RadixDepth
import Svmx.FaultTables
import Svmx.FaultRun
import Svmx.WriteLog
import Svmx.VcpuSetup
import Svmx.SegDesc
import Svmx.GuestImage
import Svmx.GuestRegs
import Svmx.DriverRun
