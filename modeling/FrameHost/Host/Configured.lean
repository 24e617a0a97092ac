import FrameHost.Config.Reading
import FrameHost.Host

/-! A host as a document asks for it. -/

set_option autoImplicit false

namespace FrameHost.Host

def configured? (document : Option Document) (startInterval : Option Duration) :
    Except Config.Fault Host := do
  let lifecycle ← match document with
    | some d => Config.lifecycleShape.read .json d
    | none => .ok {}
  let host := ofConfig lifecycle
  return { host with startInterval := startInterval.getD host.startInterval }

end FrameHost.Host
