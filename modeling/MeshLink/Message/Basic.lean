import MeshLink.Snapshot
set_option autoImplicit false

/-! # Messages of the mesh daemon

The daemon sends complete snapshots, and one last word when it is gone. -/

namespace MeshLink

/-- What the mesh daemon says. -/
inductive DaemonMessage
  | addresses (snapshot : List AddressReport)
  | prefixes (snapshot : List PrefixReport)
  | died
deriving DecidableEq

end MeshLink
