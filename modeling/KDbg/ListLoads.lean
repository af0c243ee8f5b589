import KDbg.AddressListInvariant
import KDbg.WatchListReload
set_option autoImplicit false
/-! Loading either list is atomic, and it writes to nothing. -/
namespace KDbg
open Interaction

namespace AddressList

structure LoadedList (list : AddressList) : Prop where
 count : list.entries.length ≤ kMaxEntries
 distinct : (list.entries.map (·.id)).Nodup
 nonzero : ∀ entry∈list.entries,entry.id≠0
 below : ∀ entry∈list.entries,entry.id < list.nextId
 checked : ∀ entry∈list.entries,validateEntry entry "AddressList::Add" = .ok ()
 unfrozen : ∀ entry∈list.entries,entry.frozen=false ∧ entry.freezeValue=[]

/-- On every file, `Load` calls nothing; it fails and leaves the list as it was, or leaves a list of
 entries that pass the checks and are not frozen. -/
def LoadOutcome (list : AddressList) (t : List BackendEvent) (r : Result Unit×AddressList) :
 Prop :=
 t=[] ∧ (∀ error,r.1=.error error → r.2=list) ∧ (r.1=.ok ()→LoadedList r.2)

lemma load_outcome (list:AddressList) (file:InputFile) (allocation:Allocation) :
 (list.load file allocation).Ensures (LoadOutcome list) := by
 unfold load
 split
 · exact Prog.ensures_pure ⟨rfl,fun _ _=>rfl,fun same=>(by cases same)⟩
 · rename_i entries ok
   have loaded:=loadEntries_loaded ok
   refine Prog.ensures_pure ⟨rfl,fun _ same=>(by cases same),fun _ => ?_⟩
   exact { count := loaded.count
           distinct := loaded.distinct
           nonzero := loaded.nonzero
           below := loaded.invariant.below
           checked := fun entry member=>validateEntry_eq_ok.2 (loaded.valid entry member)
           unfrozen := loaded.thawed }

end AddressList

/-- Whatever a file holds and however the process answers: loading either list fails and changes
 nothing, or succeeds with entries that the list itself would take, numbered below the next id
 and not frozen. A watch list is loaded only from a file of the same process. No call arms the
 process or writes to it. -/
theorem lists_load_atomically (watches : WatchList) (identity : UInt64) (list : AddressList)
 (file : InputFile) (allocation : Allocation) :
 (watches.load identity file).Ensures (WatchList.LoadOutcome watches identity file) ∧
  (list.load file allocation).Ensures (AddressList.LoadOutcome list) :=
 ⟨WatchList.load_outcome watches identity file,AddressList.load_outcome list file allocation⟩

end KDbg
