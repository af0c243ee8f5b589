import KDbg.Error
set_option autoImplicit false
/-! Page-table entries and virtual addresses of x64 paging, with four or five
levels. -/
namespace KDbg

def kX64PageEntryAddressMask : UInt64 := 0x000FFFFFFFFFF000
def kX64MaxPageFrameNumber : UInt64 := kX64PageEntryAddressMask >>> 12

inductive PagingLevel where
 | pml5
 | pml4
 | pdpt
 | pd
 | pt
deriving DecidableEq,Repr

structure PageEntryFlags where
 present : Bool := false
 writable : Bool := false
 user : Bool := false
 writeThrough : Bool := false
 cacheDisable : Bool := false
 accessed : Bool := false
 dirty : Bool := false
 pageSize : Bool := false
 global : Bool := false
 noExecute : Bool := false
 protectionKey : UInt8 := 0
 pfn : UInt64 := 0
deriving DecidableEq,Repr

structure VirtualAddressIndices where
 pml5 : UInt16 := 0
 pml4 : UInt16 := 0
 pdpt : UInt16 := 0
 pd : UInt16 := 0
 pt : UInt16 := 0
 offset : UInt16 := 0
 la57 : Bool := false
deriving DecidableEq,Repr

def isCanonical48 (address : UInt64) : Bool :=
 let bit47 := (address >>> 47) &&& 1
 let upper := address >>> 48
 if bit47=0 then upper == 0 else upper == 0xFFFF

def isCanonical57 (address : UInt64) : Bool :=
 let bit56 := (address >>> 56) &&& 1
 let upper := address >>> 57
 if bit56=0 then upper == 0 else upper == 0x7F

def VirtualAddressIndices.decode (virtualAddress : UInt64) (la57Enabled : Bool) :
 Result VirtualAddressIndices :=
 let canonical :=
  if la57Enabled then isCanonical57 virtualAddress else isCanonical48 virtualAddress
 if !canonical then
  .error (makeError .invalidArgument
   "Virtual address is not canonical for the selected paging mode"
   "VirtualAddressIndices::Decode")
 else
  .ok
   { offset := (virtualAddress &&& 0xFFF).toUInt16
     pt := ((virtualAddress >>> 12) &&& 0x1FF).toUInt16
     pd := ((virtualAddress >>> 21) &&& 0x1FF).toUInt16
     pdpt := ((virtualAddress >>> 30) &&& 0x1FF).toUInt16
     pml4 := ((virtualAddress >>> 39) &&& 0x1FF).toUInt16
     pml5 := ((virtualAddress >>> 48) &&& 0x1FF).toUInt16
     la57 := la57Enabled }

structure TranslationStep where
 level : PagingLevel := .pml4
 index : UInt16 := 0
 entryPhysicalAddress : UInt64 := 0
 entryValue : UInt64 := 0
 nextPfn : UInt64 := 0
 flags : PageEntryFlags := {}
deriving DecidableEq,Repr

structure TranslationWalk where
 directoryTableBase : UInt64 := 0
 virtualAddress : UInt64 := 0
 physicalAddress : UInt64 := 0
 pageSize : UInt64 := 0
 pageOffset : UInt64 := 0
 la57 : Bool := false
 translated : Bool := false
 steps : List TranslationStep := []
deriving DecidableEq,Repr

def decodePageEntry (entry : UInt64) : PageEntryFlags where
 present := entry &&& 0x1 != 0
 writable := entry &&& 0x2 != 0
 user := entry &&& 0x4 != 0
 writeThrough := entry &&& 0x8 != 0
 cacheDisable := entry &&& 0x10 != 0
 accessed := entry &&& 0x20 != 0
 dirty := entry &&& 0x40 != 0
 pageSize := entry &&& 0x80 != 0
 global := entry &&& 0x100 != 0
 protectionKey := ((entry >>> 59) &&& 0xF).toUInt8
 noExecute := entry &&& 0x8000000000000000 != 0
 pfn := (entry &&& kX64PageEntryAddressMask) >>> 12

def canonicalizeVirtualAddress (rawAddress : UInt64) (la57 : Bool) : UInt64 :=
 if la57 then
  let kAddressBits : UInt64 := 0x01FFFFFFFFFFFFFF
  let rawAddress := rawAddress &&& kAddressBits
  if rawAddress &&& 0x0100000000000000≠0 then rawAddress ||| ~~~kAddressBits else rawAddress
 else
  let kAddressBits : UInt64 := 0x0000FFFFFFFFFFFF
  let rawAddress := rawAddress &&& kAddressBits
  if rawAddress &&& 0x0000800000000000≠0 then rawAddress ||| ~~~kAddressBits else rawAddress

def leafPhysicalAddress (level : PagingLevel) (entry virtualAddress : UInt64) : Result UInt64 :=
 let flags := decodePageEntry entry
 if !flags.present then
  .error (makeError .invalidArgument "Page-table entry is not present" "LeafPhysicalAddress")
 else match level with
  | .pt => .ok ((entry &&& kX64PageEntryAddressMask) ||| (virtualAddress &&& 0xFFF))
  | .pd =>
   if !flags.pageSize then
    .error (makeError .invalidArgument "PD entry is not a 2 MiB leaf" "LeafPhysicalAddress")
   else if entry &&& 0x00000000001FE000≠0 then
    .error (makeError .invalidArgument "2 MiB leaf has reserved address bits set"
     "LeafPhysicalAddress")
   else .ok ((entry &&& 0x000FFFFFFFE00000) ||| (virtualAddress &&& 0x1FFFFF))
  | .pdpt =>
   if !flags.pageSize then
    .error (makeError .invalidArgument "PDPT entry is not a 1 GiB leaf" "LeafPhysicalAddress")
   else if entry &&& 0x000000003FFFE000≠0 then
    .error (makeError .invalidArgument "1 GiB leaf has reserved address bits set"
     "LeafPhysicalAddress")
   else .ok ((entry &&& 0x000FFFFFC0000000) ||| (virtualAddress &&& 0x3FFFFFFF))
  | .pml4 | .pml5 =>
   .error (makeError .invalidArgument "PML entry cannot be treated as a leaf"
    "LeafPhysicalAddress")

end KDbg
