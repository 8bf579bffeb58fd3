import DeviceSettings.Std.CString

/-!
# The standby settings of the video ports

`_standbyVideoPortSetting` has room for five names. A name finds its entry without regard
to case, and the empty name finds the first entry that is still unused.
-/

namespace DeviceSettings.Power

open DeviceSettings.Std

def maxNumVideoPorts : Nat := 5

/-- `DSMGR_MAX_VIDEO_PORT_NAME_LENGTH`. -/
def maxVideoPortNameLength : Nat := 16

/-- `DSMgr_Standby_Video_State_t`. -/
structure StandbyVideoState where
  port : String
  isEnabled : Bool
  deriving DecidableEq, Repr

/-- `_standbyVideoPortSetting`. -/
structure StandbyTable where
  entries : List StandbyVideoState
  size : entries.length = maxNumVideoPorts

namespace StandbyTable

/-- The table as the constructor's `memset` leaves it. -/
def zeroed : StandbyTable := ⟨List.replicate maxNumVideoPorts ⟨"", false⟩, List.length_replicate⟩

/-- The comparison of both loops over the table. -/
def names (entry : StandbyVideoState) (port : String) : Bool :=
  strncasecmpEq port entry.port maxVideoPortNameLength

/-- `GetVideoPortStandbySetting(port)`. -/
def getVideoPortStandbySetting (table : StandbyTable) (port : String) : Bool :=
  match table.entries.find? (names · port) with
  | some entry => entry.isEnabled
  | none => false

/-- Replace the entry at an index; one behind the table is ignored. -/
def modify (table : StandbyTable) (index : Nat) (change : StandbyVideoState → StandbyVideoState) :
    StandbyTable :=
  ⟨table.entries.modify index change, by rw [List.length_modify, table.size]⟩

/-- The two loops of `SetStandbyVideoState`: an entry of that name is changed, otherwise the
first unused one takes the name, otherwise there is no room. -/
def set (table : StandbyTable) (port : String) (isEnabled : Bool) : StandbyTable :=
  match table.entries.findIdx? (names · port) with
  | some index => table.modify index fun entry => { entry with isEnabled := isEnabled }
  | none =>
    match table.entries.findIdx? fun entry => (cString entry.port.toList).isEmpty with
    | some index =>
      table.modify index fun _ => ⟨strncpy port (maxVideoPortNameLength - 1), isEnabled⟩
    | none => table

end StandbyTable
end DeviceSettings.Power
