import FlagHost.Flag.Format
import FlagHost.Table

/-!
# Configurations

A configuration holds the flags and the segments of an environment by their keys. It is read from
two documents that list them. Entries that are no flags or segments are passed over, so that one
broken entry does not cost the others; of several entries with one key the last counts.
-/

namespace FlagHost

structure Configuration where
  flags : Table Flag := []
  segments : Table Segment := []
deriving DecidableEq

namespace Configuration

open Json (Format)

/-- The values of those documents that have one. -/
def decodable {α : Type} (format : Format α) (entries : List Json) : List α :=
  entries.filterMap format.decode

def ofEntries (flags segments : List Json) : Configuration where
  flags := Table.ofList ((decodable Flag.format flags).map fun f => (f.key, f))
  segments := Table.ofList ((decodable Segment.format segments).map fun s => (s.identifier, s))

def entries : Format (List Json) := Format.document.list

/-- The configuration of two documents. The flags are read first. -/
def ofBytes (flags segments : Bytes) : Except Json.Defect Configuration := do
  let flags ← entries.ofBytes flags
  let segments ← entries.ofBytes segments
  return ofEntries flags segments

end Configuration

end FlagHost
