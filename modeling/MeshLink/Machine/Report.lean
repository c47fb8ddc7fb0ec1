import MeshLink.Machine.Basic
import MeshLink.Ipv6.Text
import MeshLink.Text.Hex
set_option autoImplicit false

/-! # Reports of a machine

The events and the contents of a machine in words, a line each. -/

namespace MeshLink

/-- What a handle is called in reports. -/
def Handle.name : Handle → String
  | .device => "tun"
  | .routes => "route"
  | .groups => "group"

/-- The event on one line. -/
def MachineEvent.text : MachineEvent → String
  | .attach name mode => "attach " ++ name ++ " " ++ toString mode.toNat
  | .setFlags name flags => "flags " ++ name ++ " " ++ toString flags.toNat
  | .setMtu name mtu => "mtu " ++ name ++ " " ++ toString mtu.toInt
  | .send message => "send " ++ Hex.encode message
  | .multicastInterface index => "multicast " ++ toString index.toInt
  | .join group ifIndex => "join " ++ group.text ++ " " ++ toString ifIndex.toNat
  | .leave group ifIndex => "leave " ++ group.text ++ " " ++ toString ifIndex.toNat
  | .close handle => "close " ++ handle.name

/-- The index of the interface, the address and its length. -/
def AssignedAddress.text (a : AssignedAddress) : String :=
  toString a.ifIndex.toNat ++ " " ++ a.address.text ++ "/" ++ toString a.length.toNat

/-- The index of the interface and the group. -/
def JoinedGroup.text (g : JoinedGroup) : String :=
  toString g.ifIndex.toNat ++ " " ++ g.group.text

end MeshLink
