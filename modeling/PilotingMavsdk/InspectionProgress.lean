import PilotingMavsdk.Library.Machine

/-! How the inspection plugin of the ground station follows the vehicle's progress. The handler of
a message stores the new item and decides whether to report; `report_progress` locks the data anew,
and the functions that reset it may come in between. -/

namespace PilotingMavsdk
open Library

structure InspectionProgress where
  current : Int
  reached : Int
deriving DecidableEq, Repr

/-- The members of `_inspection_data` that concern progress. The callback is only tested for
emptiness and called. -/
structure InspectionData where
  lastCurrentMavlinkInspectionItem : Int := -1
  lastReachedMavlinkInspectionItem : Int := -1
  lastCurrentReportedInspectionItem : Int := -1
  lastReachedReportedInspectionItem : Int := -1
  progressCallback : Bool := false
deriving DecidableEq, Repr

namespace InspectionData

def resetInspectionProgress (data : InspectionData) : InspectionData :=
  { data with
    lastCurrentMavlinkInspectionItem := -1
    lastReachedMavlinkInspectionItem := -1
    lastCurrentReportedInspectionItem := -1
    lastReachedReportedInspectionItem := -1 }

def processInspectionCurrent (seq : UInt16) (data : InspectionData) : InspectionData × Bool :=
  let stored := { data with lastCurrentMavlinkInspectionItem := seq.toNat }
  (stored, stored.lastCurrentReportedInspectionItem ≠ stored.lastCurrentMavlinkInspectionItem)

def processInspectionItemReached (seq : UInt16) (data : InspectionData) : InspectionData × Bool :=
  let stored := { data with lastReachedMavlinkInspectionItem := seq.toNat }
  (stored, stored.lastReachedReportedInspectionItem ≠ stored.lastReachedMavlinkInspectionItem)

def inspectionProgress (data : InspectionData) : InspectionProgress where
  current := data.lastCurrentMavlinkInspectionItem
  reached := data.lastReachedMavlinkInspectionItem

def reportProgress (data : InspectionData) : InspectionData × List InspectionProgress :=
  ({ data with
    lastCurrentReportedInspectionItem := data.lastCurrentMavlinkInspectionItem
    lastReachedReportedInspectionItem := data.lastReachedMavlinkInspectionItem },
    if data.progressCallback then [data.inspectionProgress] else [])

end InspectionData

inductive ProgressMessage where
  | waypointListCurrentItem (seq : UInt16)
  | waypointListItemReached (seq : UInt16)
deriving DecidableEq, Repr

/-- `reporting` is the message for which the receive thread is about to call `report_progress`. -/
structure ProgressReporter where
  inspectionData : InspectionData := {}
  reporting : Option ProgressMessage := none
deriving DecidableEq, Repr

/-- `busy` says whether `upload_inspection_async` finds an upload under way. `disable` is called
when the connection is lost. -/
inductive ProgressAction where
  | processMessage (message : ProgressMessage)
  | reportProgress
  | uploadInspectionAsync (busy : Bool)
  | disable
  | inspectionProgressAsync (callback : Bool)
deriving DecidableEq, Repr

namespace ProgressReporter

def process : ProgressMessage → InspectionData → InspectionData × Bool
  | .waypointListCurrentItem seq, data => data.processInspectionCurrent seq
  | .waypointListItemReached seq, data => data.processInspectionItemReached seq

/-- The outputs are the reports that are put into the queue of user callbacks. -/
def machine : Machine ProgressReporter ProgressAction InspectionProgress where
  step reporter
    | .processMessage message =>
      match reporter.reporting with
      | some _ => none
      | none =>
        let processed := process message reporter.inspectionData
        some (⟨processed.1, if processed.2 then some message else none⟩, [])
    | .reportProgress =>
      match reporter.reporting with
      | none => none
      | some _ =>
        let reported := reporter.inspectionData.reportProgress
        some (⟨reported.1, none⟩, reported.2)
    | .uploadInspectionAsync busy =>
      if busy then some (reporter, [])
      else some ({ reporter with
        inspectionData := reporter.inspectionData.resetInspectionProgress }, [])
    | .disable =>
      some ({ reporter with
        inspectionData := reporter.inspectionData.resetInspectionProgress }, [])
    | .inspectionProgressAsync callback =>
      some ({ reporter with
        inspectionData := { reporter.inspectionData with progressCallback := callback } }, [])

end ProgressReporter
end PilotingMavsdk
