import KDbg.DriverWriteRequests
import KDbg.MemoryBackend
import KDbg.X64PageTable
set_option autoImplicit false
/-! The device of the driver as the user-mode client sees it: one call per
control code, answered by a Win32 error or by a byte count and the contents of
the buffer. A buffer longer than a header is a function on its offsets. -/
namespace KDbg
open Interaction

namespace Device

def kPhysicalRangesResponseSize : UInt32 := 65560
def kMaxPhysicalRanges : UInt32 := 4096
def kTranslateRequestSize : UInt32 := 32
def kTranslateResponseSize : UInt32 := 192
def kMaxTranslationSteps : UInt32 := 5
def kTranslateFlagLa57Active : UInt32 := 0x1
def kTranslateFlagLargePage : UInt32 := 0x2
def kTranslateFlagPresent : UInt32 := 0x4
def kTranslateFlagProcessCr3 : UInt32 := 0x8

structure VersionResponse where
 size : UInt32
 abiVersion : UInt32
 driverMajor : UInt32
 driverMinor : UInt32
 maxTransferSize : UInt32
 flags : UInt32

structure SessionStatusResponse where
 size : UInt32
 flags : UInt32
 ownerPid : UInt32
 currentPid : UInt32
 openHandleCount : UInt32
 reserved : UInt32
 successfulReads : UInt64
 successfulWrites : UInt64
 rejectedWrites : UInt64
 lastPhysicalWriteStatus : UInt32
 lastPhysicalWriteStage : UInt32
 lastPhysicalWriteTransferred : UInt32
 reserved2 : UInt32

structure WirePhysicalRange where
 baseAddress : UInt64
 byteCount : UInt64

structure PhysicalRangesResponse where
 size : UInt32
 flags : UInt32
 rangeCount : UInt32
 reserved : UInt32
 totalBytes : UInt64
 ranges : ℕ→WirePhysicalRange

structure PhysicalReadRequest where
 size : UInt32
 flags : UInt32
 physicalAddress : UInt64
 length : UInt32
 transferred : UInt32
 data : ℕ→UInt8

structure ProcessContextRequest where
 size : UInt32
 processId : UInt32

structure ProcessContextResponse where
 size : UInt32
 flags : UInt32
 processId : UInt32
 reserved : UInt32
 eprocess : UInt64
 directoryTableBase : UInt64

structure ProcessReadRequest where
 size : UInt32
 flags : UInt32
 processId : UInt32
 length : UInt32
 virtualAddress : UInt64
 acknowledge : UInt64
 transferred : UInt32
 reserved : UInt32
 data : ℕ→UInt8

structure KernelVirtualReadRequest where
 size : UInt32
 flags : UInt32
 virtualAddress : UInt64
 length : UInt32
 transferred : UInt32
 data : ℕ→UInt8

structure TranslateRequest where
 size : UInt32
 flags : UInt32
 processId : UInt32
 length : UInt32
 directoryTableBase : UInt64
 virtualAddress : UInt64

structure WireTranslationStep where
 level : UInt32
 index : UInt32
 entryPhysicalAddress : UInt64
 entryValue : UInt64
deriving DecidableEq,Repr

structure TranslateResponse where
 size : UInt32
 flags : UInt32
 pagingLevels : UInt32
 stepCount : UInt32
 requestedLength : UInt32
 translatedLength : UInt32
 directoryTableBase : UInt64
 virtualAddress : UInt64
 physicalAddress : UInt64
 pageSize : UInt64
 pageOffset : UInt64
 pageBytes : UInt64
 steps : ℕ→WireTranslationStep

structure WireCompareWriteResponse where
 size : UInt32
 result : UInt32
 physicalAddress : UInt64
 length : UInt32
 transferred : UInt32
 firstMismatchOffset : UInt32
 status : UInt32
 transactionId : UInt64
 readback : Page

/-- How `DeviceIoControl` ends: the last error, or the bytes returned and the buffer. -/
abbrev Reply (ρ : Type) := Except UInt32 (UInt32×ρ)

end Device

open Driver (WriteModeRequest PhysicalWriteRequest ProcessMemoryRequest CompareWriteRequest)

inductive DeviceCall where
 | createFile
 | closeHandle
 | getVersion
 | getSessionStatus
 | setWriteMode (request : WriteModeRequest)
 | getPhysicalRanges
 | readPhysical (request : Device.PhysicalReadRequest)
 | writePhysical (request : PhysicalWriteRequest)
 | compareWritePhysicalPage (request : CompareWriteRequest)
 | getProcessContext (request : Device.ProcessContextRequest)
 | translateVirtual (request : Device.TranslateRequest)
 | readProcessMemory (request : Device.ProcessReadRequest)
 | writeProcessMemory (request : ProcessMemoryRequest)
 | readKernelVirtual (request : Device.KernelVirtualReadRequest)

def DeviceCall.isWrite : DeviceCall→Bool
 | .writePhysical _ | .compareWritePhysicalPage _ | .writeProcessMemory _ => true
 | _ => false

def DeviceAnswer : DeviceCall→Type
 | .createFile => Except UInt32 Unit
 | .closeHandle => Unit
 | .getVersion => Device.Reply Device.VersionResponse
 | .getSessionStatus => Device.Reply Device.SessionStatusResponse
 | .setWriteMode _ => Device.Reply Unit
 | .getPhysicalRanges => Device.Reply Device.PhysicalRangesResponse
 | .readPhysical _ => Device.Reply Device.PhysicalReadRequest
 | .writePhysical _ => Device.Reply PhysicalWriteRequest
 | .compareWritePhysicalPage _ => Device.Reply Device.WireCompareWriteResponse
 | .getProcessContext _ => Device.Reply Device.ProcessContextResponse
 | .translateVirtual _ => Device.Reply Device.TranslateResponse
 | .readProcessMemory _ => Device.Reply Device.ProcessReadRequest
 | .writeProcessMemory _ => Device.Reply ProcessMemoryRequest
 | .readKernelVirtual _ => Device.Reply Device.KernelVirtualReadRequest

abbrev DeviceEvent := Event DeviceCall DeviceAnswer
abbrev DeviceM := Prog DeviceCall DeviceAnswer

namespace Device

def createFile : DeviceM (Except UInt32 Unit) := Prog.ask DeviceCall.createFile

def closeHandle : DeviceM Unit := Prog.ask DeviceCall.closeHandle

def getVersion : DeviceM (Reply VersionResponse) := Prog.ask DeviceCall.getVersion

def getSessionStatus : DeviceM (Reply SessionStatusResponse) :=
 Prog.ask DeviceCall.getSessionStatus

def setWriteMode (request : WriteModeRequest) : DeviceM (Reply Unit) :=
 Prog.ask (DeviceCall.setWriteMode request)

def getPhysicalRanges : DeviceM (Reply PhysicalRangesResponse) :=
 Prog.ask DeviceCall.getPhysicalRanges

def readPhysical (request : PhysicalReadRequest) : DeviceM (Reply PhysicalReadRequest) :=
 Prog.ask (DeviceCall.readPhysical request)

def writePhysical (request : PhysicalWriteRequest) : DeviceM (Reply PhysicalWriteRequest) :=
 Prog.ask (DeviceCall.writePhysical request)

def compareWritePhysicalPage (request : CompareWriteRequest) :
 DeviceM (Reply WireCompareWriteResponse) :=
 Prog.ask (DeviceCall.compareWritePhysicalPage request)

def getProcessContext (request : ProcessContextRequest) :
 DeviceM (Reply ProcessContextResponse) :=
 Prog.ask (DeviceCall.getProcessContext request)

def translateVirtual (request : TranslateRequest) : DeviceM (Reply TranslateResponse) :=
 Prog.ask (DeviceCall.translateVirtual request)

def readProcessMemory (request : ProcessReadRequest) : DeviceM (Reply ProcessReadRequest) :=
 Prog.ask (DeviceCall.readProcessMemory request)

def writeProcessMemory (request : ProcessMemoryRequest) : DeviceM (Reply ProcessMemoryRequest) :=
 Prog.ask (DeviceCall.writeProcessMemory request)

def readKernelVirtual (request : KernelVirtualReadRequest) :
 DeviceM (Reply KernelVirtualReadRequest) :=
 Prog.ask (DeviceCall.readKernelVirtual request)

end Device
end KDbg
