import Resumption.Host.Work

/-!
The file with the ticket key, 32 bytes and nothing else. A host that finds no such file draws a key
and keeps it. The new key is written beside the file and moved into its place, so that the file
holds a whole key from the moment it exists.
-/

namespace Resumption.KeyFile

/-- The name of the file in the data directory. -/
def name : String := "ticket.key"

/-- The file in which a new key is written first. -/
def temporary (path : Path) : Path :=
  path.withExtension "key.tmp"

/-- Keeps a key under a path. A file that an earlier attempt left behind is removed. -/
def save (path : Path) (key : TicketKey) : Work Unit := do
  let temporary := temporary path
  if ← Script.request (.isPresent temporary) then
    Work.step (.removeStaleKey temporary) (Script.request (.remove temporary))
  Work.step (.createKey temporary) (Script.request (.create temporary))
  Work.step (.writeKey temporary) (Script.request (.write temporary key.octets.toList))
  Work.step (.moveKey temporary path) (Script.request (.move temporary path))

/-- The key under a path, or a new one that is kept there. -/
def load (path : Path) : Work TicketKey := do
  if ← Script.request (.isPresent path) then
    let content ← Work.step (.readKey path) (Script.request (.read path))
    match Octets.ofList? keySize content with
    | some octets => return ⟨octets⟩
    | none => throw (.keyLength content.length)
  else
    let key ← Script.request .drawKey
    if let some directory := path.parent? then
      Work.step (.makeKeyDirectory directory) (Script.makeDirectories directory)
    save path key
    return key

end Resumption.KeyFile
