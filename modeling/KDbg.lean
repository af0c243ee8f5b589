import KDbg.PageSessionEvidence
import KDbg.WriteGateFailClosed
import KDbg.ProcessSessionRecovery
import KDbg.BackendDriver
import KDbg.FreezeBatch
import KDbg.TranslationAgreement
import KDbg.ReverseMapComplete
import KDbg.DriverReads
import KDbg.MemoryScannerHistory
import KDbg.DriverPhysicalRanges
import KDbg.ProbeOwnership
import KDbg.ProcessSessionConsistent
import KDbg.SessionDiffs
import KDbg.EditHistory
import KDbg.SnapshotDiff
import KDbg.CompareWriteAgreement
import KDbg.DriverWriteCounts
import KDbg.Win32WriteArm
import KDbg.AddressListReload
import KDbg.ListLoads
import KDbg.MemProcFsExchange
import KDbg.SourceSnapshotVerify
import KDbg.AddressClassifiers
import KDbg.AobPatterns
import KDbg.KernelImage
import KDbg.PointerPaths
import KDbg.Crc32Bursts
import KDbg.Utf8Decoders
