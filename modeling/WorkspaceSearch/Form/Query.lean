import WorkspaceSearch.Json.Form
import WorkspaceSearch.Query.Operators

/-!
# Documents of queries

The written form of a query that has been read.  A tag is written by its name, and a tag that is not known as an object
whose one member `other` holds the text.
-/

namespace WorkspaceSearch.Form

/-- The name of a tag that is known. -/
def tagName : HasTag → String
  | .file => "file"
  | .link => "link"
  | .attachment => "attachment"
  | .reaction => "reaction"
  | .other _ => "other"

/-- The tags that are known. -/
def knownTags : List HasTag := [.file, .link, .attachment, .reaction]

/-- A tag: its name, or any text under the name `other`. -/
def hasTag : Form HasTag where
  write
    | .other text => .object [("other", .string text)]
    | tag => .string (tagName tag)
  read
    | .object [("other", .string text)] => some (.other text)
    | j => (choice knownTags tagName).read j

/-- The fields of the operators of a query. -/
def operatorFields : List String := ["from", "in_channels", "has", "before", "after", "exact", "exclude", "match_any"]

/-- The operators of a query. -/
def operators : Form Operators where
  write o := .object [
    ("from", text.list.write o.senders),
    ("in_channels", text.list.write o.channels),
    ("has", hasTag.list.write o.has),
    ("before", instant.option.write o.before),
    ("after", instant.option.write o.after),
    ("exact", bool.write o.exact),
    ("exclude", text.list.write o.exclude),
    ("match_any", bool.write o.matchAny)]
  read j := do
    let r ← Record.ofJson? operatorFields j
    let senders ← r.required "from" text.list
    let channels ← r.required "in_channels" text.list
    let has ← r.required "has" hasTag.list
    let before ← r.optional "before" instant
    let after ← r.optional "after" instant
    let exact ← r.required "exact" bool
    let exclude ← r.required "exclude" text.list
    let matchAny ← r.required "match_any" bool
    some { senders, channels, has, before, after, exact, exclude, matchAny }

/-- A query that has been read. -/
def parsedQuery : Form ParsedQuery where
  write q := .object [("base_query", text.write q.base), ("operators", operators.write q.operators)]
  read j := do
    let r ← Record.ofJson? ["base_query", "operators"] j
    let base ← r.required "base_query" text
    let operators ← r.required "operators" operators
    some { base, operators }

end WorkspaceSearch.Form
