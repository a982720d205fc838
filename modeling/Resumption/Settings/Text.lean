import Resumption.Json
import Resumption.Settings
import Resumption.Toml.Decoding
import Resumption.Toml.Document
import Resumption.Toml.Quoted

/-!
Settings as text. A document gives any of the settings, under the sections `host`, `resume` and
`persistence`; the others keep the values they have when nothing is set. A setting out of its range
is an error, a name that is no setting is passed over. Every text that is written reads back to the
settings it was written for; what does not fit a signed word cannot be written.
-/

namespace Resumption

/-- The settings of a ticket office, by the names that documents give them. -/
def TicketSettings.fields : List (Toml.Field TicketSettings) :=
  [⟨"first_ticket_index", fun tree settings => do
      let n ← Toml.decodeInteger minInteger maxInteger "i64" tree
      return { settings with first := Int64.ofInt n }⟩,
    ⟨"capacity", fun tree settings => do
      let n ← Toml.decodeInteger 0 maxWord "usize" tree
      return { settings with capacity := UInt64.ofNat n.toNat }⟩,
    ⟨"ticket_header", fun tree settings => do
      let n ← Toml.decodeInteger 0 255 "u8" tree
      return { settings with header := UInt8.ofNat n.toNat }⟩]

namespace Settings

/-- The settings of a document's first section. -/
def hostFields : List (Toml.Field Settings) :=
  [⟨"data_dir", fun tree settings => do
      return { settings with dataDir := ← Toml.decodeText "path string" tree }⟩,
    ⟨"log_level", fun tree settings => do
      return { settings with logLevel := ← Toml.decodeText "a string" tree }⟩]

/-- The settings of a document's last section. -/
def persistenceFields : List (Toml.Field Settings) :=
  [⟨"reserve_block", fun tree settings => do
      let n ← Toml.decodeInteger 0 maxWord "u64" tree
      return { settings with reserveBlock := UInt64.ofNat n.toNat }⟩]

/-- The sections of a document. -/
def sections : List (Toml.Field Settings) :=
  [⟨"host", fun tree settings => Toml.decodeRecord "struct HostConfig" hostFields settings tree⟩,
    ⟨"resume", fun tree settings => do
      let tickets ← Toml.decodeRecord "struct ResumeConfig" TicketSettings.fields {} tree
      return { settings with tickets }⟩,
    ⟨"persistence", fun tree settings =>
      Toml.decodeRecord "struct PersistenceConfig" persistenceFields settings tree⟩]

/-- Why a text gives no settings. -/
inductive TextError
  /-- The text is no document. -/
  | noDocument
  /-- A setting is not of its type or not in its range. -/
  | mismatch (found : Toml.Mismatch) (documentSize : Nat)
deriving DecidableEq, Repr

/-- The error in words. -/
def TextError.message : TextError → String
  | noDocument => "Invalid TOML configuration"
  | mismatch found size => "Invalid TOML configuration: " ++ found.message size

/-- The settings that a text gives, beginning with those of a host for which nothing is set. -/
def ofText (initial : Settings) (text : String) : Except TextError Settings :=
  match Toml.parse text with
  | none => .error .noDocument
  | some entries =>
    (Toml.decodeEntries sections initial entries).mapError (.mismatch · text.utf8ByteSize)

end Settings

namespace TicketSettings

/-- The lines that give the settings, if every number can be written. -/
def lines? (settings : TicketSettings) : Option String :=
  if settings.capacity.toNat ≤ maxInteger then
    some (s!"first_ticket_index = {settings.first.text}\n" ++
      s!"capacity = {settings.capacity.toNat}\n" ++
      s!"ticket_header = {settings.header.toNat}\n")
  else none

/-- The settings that a document with no sections gives. -/
def ofLines? (text : String) : Option TicketSettings := do
  (Toml.decodeEntries fields {} (← Toml.parse text)).toOption

/-- The settings as an object of numbers. -/
def object (settings : TicketSettings) : String :=
  "\x7b\"first_ticket_index\":" ++ settings.first.text ++
    s!",\"capacity\":{settings.capacity.toNat},\"ticket_header\":{settings.header.toNat}" ++ "\x7d"

/-- The settings of a ticket office, by the names that objects give them. -/
def objectFields : List (Json.Field TicketSettings) :=
  [⟨"first_ticket_index", fun tree settings => do
      let n ← tree.integer? minInteger maxInteger
      return { settings with first := Int64.ofInt n }⟩,
    ⟨"capacity", fun tree settings => do
      let n ← tree.integer? 0 maxWord
      return { settings with capacity := UInt64.ofNat n.toNat }⟩,
    ⟨"ticket_header", fun tree settings => do
      let n ← tree.integer? 0 255
      return { settings with header := UInt8.ofNat n.toNat }⟩]

/-- The settings that an object of numbers gives. -/
def ofObject? (text : String) : Option TicketSettings := do
  Json.decodeRecord objectFields {} (← Json.parse text)

end TicketSettings

namespace Settings

/-- The settings as a document, if every number can be written. -/
def text? (settings : Settings) : Option String := do
  let tickets ← settings.tickets.lines?
  if settings.reserveBlock.toNat ≤ maxInteger then
    return s!"[host]\ndata_dir = {Toml.quote settings.dataDir}\n" ++
      s!"log_level = {Toml.quote settings.logLevel}\n\n" ++
      s!"[resume]\n{tickets}\n" ++
      s!"[persistence]\nreserve_block = {settings.reserveBlock.toNat}\n"
  else none

end Settings
end Resumption
