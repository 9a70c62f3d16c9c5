import AndroidArt.Lib.Word
import AndroidArt.Lib.LinearProbe
import AndroidArt.Lib.Simulation
import AndroidArt.Lib.ReentrantLock
import AndroidArt.Lib.StateExcept
import AndroidArt.Dex.Instruction
import AndroidArt.Dex.Leb128
import AndroidArt.Dex.FileVerifier
import AndroidArt.Verifier.StaticChecks
import AndroidArt.Verifier.StaticChecksSpec
import AndroidArt.Verifier.RegisterLine
import AndroidArt.Verifier.CodeFlow
import AndroidArt.Verifier.CodeFlowSpec
import AndroidArt.Verifier.CodeFlowCoverage
import AndroidArt.ClassLinker.LinkVirtual
import AndroidArt.ClassLinker.LinkVirtualSpec
import AndroidArt.Monitor.LockWord
import AndroidArt.Monitor.Protocol
import AndroidArt.Monitor.ProtocolSpec
import AndroidArt.Lib.RwLock
import AndroidArt.Thread.Suspension
import AndroidArt.Thread.SuspensionSpec
import AndroidArt.Thread.SuspensionProgress
import AndroidArt.Lib.Digraph
import AndroidArt.Optimizing.Graph
import AndroidArt.Optimizing.Dominator
import AndroidArt.Optimizing.Builder
import AndroidArt.Optimizing.DominatorSpec
import AndroidArt.Lib.UndoLog
import AndroidArt.Lib.IeeeFloat
import AndroidArt.Runtime.Transaction
import AndroidArt.Runtime.TransactionSpec
import AndroidArt.Runtime.IndirectReferenceTable
import AndroidArt.Runtime.IndirectReferenceTableSpec
import AndroidArt.Optimizing.ParallelMove
import AndroidArt.Optimizing.ParallelMoveSpec
import AndroidArt.Lib.BinarySearch
import AndroidArt.Dex.Lookup
import AndroidArt.Dex.LookupSpec
import AndroidArt.Lib.SortedSet
import AndroidArt.Lib.SortedMap
import AndroidArt.Lib.RunSet
import AndroidArt.Gc.RosAlloc
import AndroidArt.Gc.RosAllocInv
import AndroidArt.Gc.RosAllocAlloc
import AndroidArt.Gc.RosAllocFree
import AndroidArt.Gc.RosAllocSpec
import AndroidArt.Gc.RosAllocRun
import AndroidArt.Lib.Align
import AndroidArt.Lib.WordBits
import AndroidArt.Gc.CardTable
import AndroidArt.Optimizing.PhiElimination
import AndroidArt.Optimizing.Linearize
import AndroidArt.Lib.Leb128
import AndroidArt.Dex.Leb128Spec
import AndroidArt.Lib.ModifiedUtf8
import AndroidArt.Dex.Utf
import AndroidArt.Dex.UtfSpec
import AndroidArt.Dex.IntraSection
import AndroidArt.Dex.Descriptor
import AndroidArt.Dex.InterSection
import AndroidArt.Dex.SectionSpec
import AndroidArt.Verifier.RegType
import AndroidArt.Verifier.RegTypeSpec
import AndroidArt.Lib.DivisionByConstant
import AndroidArt.Quick.Lir
import AndroidArt.Quick.EasyMultiply
import AndroidArt.Quick.DivRem
import AndroidArt.Quick.LogicalImmediate
import AndroidArt.Quick.Arm64
import AndroidArt.Dex.CompareSpec
import AndroidArt.Gc.SpaceBitmap
import AndroidArt.Optimizing.Locations
import AndroidArt.Gc.FreeListSpace
import AndroidArt.Gc.FreeListSpaceInv
import AndroidArt.Gc.FreeListSpaceAlloc
import AndroidArt.Gc.FreeListSpaceFree
import AndroidArt.Gc.LargeObjectSpace
import AndroidArt.Gc.FreeListSpaceSpec
import AndroidArt.Gc.LargeObjectSpaceSpec
import AndroidArt.Optimizing.LiveInterval
import AndroidArt.Runtime.BitVector
import AndroidArt.Lib.BitLength
import AndroidArt.Quick.ThumbImmediate
import AndroidArt.Lib.SetBits
