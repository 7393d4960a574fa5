import ArchiveSearch.Cache.Basic
import ArchiveSearch.Json.Printer

namespace ArchiveSearch.Cache

set_option autoImplicit false

variable {α : Type}

def Entry.encode (encode : α → Json) (e : Entry α) : Json :=
  .object [("key", .string e.key), ("value", encode e.value), ("timestamp", .integer e.timestamp),
    ("ttl", .integer e.ttl)]

def Entry.decode (decode : Json → Decoded α) (j : Json) : Decoded (Entry α) := do
  let r ← Record.ofValue .inOpen "struct CacheEntry" ["key", "value", "timestamp", "ttl"] j
  let key := r.field "key" Decode.string
  let value := r.field "value" decode
  let timestamp := r.field "timestamp" Decode.word64
  let ttl := r.field "ttl" Decode.word64
  r.settle [key.fault, value.fault, timestamp.fault, ttl.fault]
  return { key := ← key.required r
           value := ← value.required r
           timestamp := ← timestamp.required r
           ttl := ← ttl.required r
           sequence := 0 }

def snapshot (c : Cache α) (encode : α → Json) (now : Nat) : Json :=
  .array ((c.live now).map (Entry.encode encode))

def exportText (c : Cache α) (encode : α → Json) (now : Nat) : String :=
  (c.snapshot encode now).compact

def restore (now : Nat) (state : Nat × Cache α) (e : Entry α) : Nat × Cache α :=
  if e.isExpired now then state
  else (state.1 + 1, state.2.store e.key e.value e.timestamp e.ttl)

def importText (c : Cache α) (decode : Json → Decoded α) (now : Nat) (text : String) :
    Nat × Cache α :=
  match Json.read? text with
  | some (.array items) =>
      (items.filterMap fun item => (Entry.decode decode item).toOption).foldl (restore now) (0, c)
  | _ => (0, c)

end ArchiveSearch.Cache
