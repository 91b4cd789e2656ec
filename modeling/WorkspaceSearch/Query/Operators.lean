import WorkspaceSearch.Text.Blank
import WorkspaceSearch.Text.LowerCase
import WorkspaceSearch.Time.Instant

/-!
# Operators of a query

A query mixes free text with operators that narrow the search: senders, channels, things a message must have, bounds
on the date and excluded terms.  This module holds what a query says once it has been read.
-/

namespace WorkspaceSearch

/-- Something a result must have. -/
inductive HasTag where
  | file
  | link
  | attachment
  | reaction
  /-- Any other tag, in lower case; it asks for nothing. -/
  | other (name : String)
  deriving DecidableEq, Repr

/-- Reads a tag; singular and plural, in any case, mean the same. -/
def HasTag.ofName (name : String) : HasTag :=
  let name := Text.lower name
  if name = "file" ∨ name = "files" then .file
  else if name = "link" ∨ name = "links" then .link
  else if name = "attachment" ∨ name = "attachments" then .attachment
  else if name = "reaction" ∨ name = "reactions" then .reaction
  else .other name

/-- What the operators of a query say. -/
structure Operators where
  /-- Senders, by name. -/
  senders : List String := []
  /-- Channels, by name. -/
  channels : List String := []
  has : List HasTag := []
  /-- The last instant allowed. -/
  before : Option Instant := none
  /-- The first instant allowed. -/
  after : Option Instant := none
  /-- The query quoted a phrase. -/
  exact : Bool := false
  /-- Terms no result may contain. -/
  exclude : List String := []
  /-- Any one word of the text is enough. -/
  matchAny : Bool := false
  deriving DecidableEq, Repr, Inhabited

namespace Operators

/-- No operator narrows the search by sender, channel, tag or date. -/
def isUnrestricted (ops : Operators) : Bool :=
  ops.senders.isEmpty && ops.channels.isEmpty && ops.has.isEmpty && ops.before.isNone && ops.after.isNone

/-- A file or an attachment is asked for. -/
def wantsAttachment (ops : Operators) : Bool := ops.has.any fun tag => tag = .file ∨ tag = .attachment

/-- A link is asked for. -/
def wantsLink (ops : Operators) : Bool := ops.has.contains .link

/-- A reaction is asked for. -/
def wantsReaction (ops : Operators) : Bool := ops.has.contains .reaction

end Operators

/-- A query that has been read: its free text and its operators. -/
structure ParsedQuery where
  /-- The free text, its words separated by single spaces. -/
  base : String := ""
  operators : Operators := {}
  deriving DecidableEq, Repr, Inhabited

/-- The words of the free text. -/
def ParsedQuery.terms (q : ParsedQuery) : List String := Text.words q.base

end WorkspaceSearch
