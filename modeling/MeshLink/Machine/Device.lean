import MeshLink.Controller.Basic
import MeshLink.Machine.Basic
set_option autoImplicit false

/-! # Interfaces and the tunnel device

The calls that create a tunnel device and that change an interface's MTU and link state. A name
that cannot be an interface name is refused before the system is asked. -/

namespace MeshLink.Machine

/-- The mode of a tunnel device: packets without a header of their own. -/
def tunnelMode : UInt16 := 0x1001

/-- The flags of an interface that was created for a tunnel. -/
def newFlags : UInt16 := 0x1090

/-- The MTU of an interface that was created for a tunnel. -/
def newMtu : Int32 := 1500

/-- The flag of an interface that is up. -/
def upFlag : UInt16 := 0x1

/-- The largest MTU that the system takes. -/
def largestMtu : UInt32 := 0x7fffffff

/-- Refuses what cannot be the name of an interface. -/
def checkName (name : String) : SystemM Unit :=
  if isInterfaceName name then pure ()
  else throw (.rejected ("invalid interface name '" ++ name ++ "'"))

/-- The index of an interface. A name with a NUL cannot be passed to the system. A lookup tells its
    failure by name, so an error number without one comes out as zero. -/
def interfaceIndex (name : String) : SystemM UInt32 := do
  if name.toList.contains '\x00' then refuse Errno.invalidArgument
  (invoke .lookup).adapt CallError.byName
  return (← require name).index

/-- Sets the MTU of an interface. -/
def setMtu (name : String) (mtu : UInt32) : SystemM Unit := do
  checkName name
  if largestMtu < mtu then throw (.rejected "MTU out of range")
  invoke .controlSocket
  invoke .setMtu
  let i ← require name
  emit (.setMtu name mtu.toInt32)
  update { i with mtu := mtu.toInt32 }

/-- Switches an interface on or off and leaves its other flags alone. -/
def setLink (name : String) (up : Bool) : SystemM Unit := do
  checkName name
  invoke .controlSocket
  invoke .getFlags
  let i ← require name
  let flags := if up then i.flags ||| upFlag else i.flags &&& ~~~upFlag
  invoke .setFlags
  emit (.setFlags name flags)
  update { i with flags := flags }

/-- The index of the next interface to be created. -/
def nextIndex (m : Machine) : UInt32 :=
  (m.interfaces.map (·.index)).foldl max 0 + 1

/-- Attaches a tunnel to the interface of a name, which is created if there is none. -/
def attach (name : String) : SystemM Unit := do
  invoke .attachTunnel
  emit (.attach name tunnelMode)
  modify fun m =>
    if (m.find? name).isSome then m
    else { m with interfaces := m.interfaces ++ [⟨name, m.nextIndex, newFlags, newMtu⟩] }

/-- Creates a tunnel device under a name and sets its MTU; what was opened is closed again on
    failure. -/
def createDevice (name : String) (mtu : UInt32) :
    StateM Machine (Except ControllerError Device) := do
  if !isInterfaceName name then
    return .error (.invalidInterfaceName name)
  else
    match ← (invoke .openTunnel).run with
    | .error e => return .error (.device name e)
    | .ok () =>
      match ← (do attach name; setMtu name mtu).run with
      | .error e =>
        close .device
        return .error (.device name e)
      | .ok () => return .ok ⟨name⟩

end MeshLink.Machine
