import LoginReport.Fault
import LoginReport.Host.Address
import LoginReport.Host.Field
import LoginReport.Session.Basic
import LoginReport.Text.Utf8

set_option autoImplicit false

/-!
# The origin column

Where a session comes from. The registry names the remote host. The record file has a host field
and an address field, and the address is shown on request, with the display or interface that the
host field names.
-/

namespace LoginReport.Origin

/-- The address where it is wanted and known, as far as the column shows it. -/
def shownAddress (session : LoginSession) (addresses : Bool) (width : Int) : Text :=
  if addresses then RemoteAddress.column width (RemoteAddress.ofField session.address) else []

/-- The column of a session, with the bytes of the remote host that the registry names. -/
def ofHost (session : LoginSession) (host : Bytes) (addresses : Bool) (width : Int) :
    Except WidthFault Text :=
  if session.fromRegistry then HostField.name host host.length width
  else
    let address := shownAddress session addresses width
    if address.isEmpty then HostField.name session.host hostFieldSize width
    else do
      let suffix ← HostField.suffix session.host hostFieldSize (width - address.length)
      Column.joined address suffix

def column (session : LoginSession) (addresses : Bool) (width : Int) :
    Except WidthFault Text :=
  ofHost session (Utf8.encode (session.remoteHost.getD [])) addresses width

/-- The bytes of a remote host that is named by any string. They are asked for in sessions of the
registry only. -/
def hostBytes (session : LoginSession) (remoteHost : Option LooseText) : Except EncodeFault Bytes :=
  if session.fromRegistry then Utf8.encodeLoose (remoteHost.getD []) else .ok []

/-- The column of a session whose remote host is named by any string. -/
def columnFor (session : LoginSession) (remoteHost : Option LooseText) (addresses : Bool)
    (width : Int) : Except Fault Text := do
  let host ← (hostBytes session remoteHost).mapError Fault.encoding
  (ofHost session host addresses width).mapError Fault.width

end LoginReport.Origin
