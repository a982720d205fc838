import Resumption.Host.Work
import Resumption.Text.Utf8

/-!
The watermark of a host: the first index that it has not reserved. Every index below may have been
issued, so a host that starts again must not issue below it. The watermark is written beside its
file and moved into its place, so that the file always holds a whole watermark.
-/

namespace Resumption.Watermark

/-- The name of the file in the data directory. -/
def name : String := "ticket_index.json"

/-- The version of the file that is written, and the only one that is read. -/
def version : Nat := 1

/-- The fields of the file, as far as they are given. -/
structure Draft where
  version : Option Nat := none
  next : Option Index := none

/-- How the file gives its fields. -/
def fields : List (Json.Field Draft) :=
  [⟨"version", fun tree draft => do
      let n ← tree.integer? 0 4294967295
      return { draft with version := some n.toNat }⟩,
    ⟨"next_index", fun tree draft => do
      let n ← tree.integer? minInteger maxInteger
      return { draft with next := some (Int64.ofInt n) }⟩]

/-- The version and the watermark that a text gives. Both have to be there. -/
def ofText? (text : String) : Option (Nat × Index) := do
  let draft ← Json.decodeRecord fields {} (← Json.parse text)
  return (← draft.version, ← draft.next)

/-- The text of a watermark. -/
def text (next : Index) : String :=
  "\x7b\n" ++ s!"  \"version\": {version},\n  \"next_index\": {next.text}\n" ++ "\x7d"

/-- The file in which a watermark is written first. -/
def temporary (path : Path) : Path :=
  path.withExtension "json.tmp"

/-- The watermark under a path, if one was ever written there. -/
def load (path : Path) : Work (Option Index) := do
  if ← Script.request (.isPresent path) then
    let content ← Work.step (.readWatermark path) (Script.request (.read path))
    let some text := content.text? | throw (.during (.readWatermark path) (.storage .noText))
    let some (found, next) := ofText? text | throw (.unreadableWatermark path)
    if found = version then return some next else throw (.watermarkVersion found path)
  else return none

/-- Keeps a watermark under a path. -/
def save (path : Path) (next : Index) : Work Unit := do
  if let some directory := path.parent? then
    Work.step (.makeWatermarkDirectory directory) (Script.makeDirectories directory)
  let temporary := temporary path
  Work.step (.writeWatermark temporary)
    (Script.request (.write temporary (Bytes.ofText (text next))))
  Work.step (.moveWatermark temporary path) (Script.request (.move temporary path))

end Resumption.Watermark
